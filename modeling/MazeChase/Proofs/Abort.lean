import MazeChase.Proofs.Tick

/-!
# When a tick is called off

A tick is called off by the first agent that cannot decide, or that wants to move and stands
nowhere. Nobody has moved by then: all decisions are looked at before the first move is made. And
once they have been looked at nothing can go wrong any more, as long as the board has no more tiles
than the population was made for, so there is no tick of which only a part is done.

The lengths of the parts of a game need not fit together here. An agent is asked if there is a
memory for it and a place in the queue, whether or not there is such an agent.

## Main definitions

* `Game.CallsOff` — which agent calls the tick off, and why
* `Game.CarriedOut` — a tick that makes its moves
* `Game.Attempts` — what a tick does in the turn of an agent, and what it tells of it

## Main results

* `Game.exists_carriedOut`, `Game.exists_carriedOut_of_ok` — what was approved is carried out, and
  what is reported was
* `Game.CarriedOut.report_eq` — what is reported of a tick
* `Game.CarriedOut.exists_attempts` — every wish is attempted in the turn of its agent
* `Game.step_atomic` — a tick fails exactly for the first agent that calls it off, and then nothing
  but memories has changed
-/

namespace MazeChase.Game

variable {g : Game} {i : Nat} {e : GameError} {wishes : List (Option Direction)}

/-- Why agent number `i` calls the tick off. -/
inductive CallsOff (g : Game) (i : Nat) : GameError → Prop
  /-- It cannot decide. -/
  | undecided {m : Memory} {queued : Option Direction} {cause : DecisionError}
      (hm : g.memories[i]? = some m) (hq : g.steering[i]? = some queued)
      (hd : (g.decide ⟨i⟩ m queued).1 = .error cause) : CallsOff g i (.decision cause)
  /-- It wants to move, but there is no tile on which it stands. -/
  | unplaced {m : Memory} {queued : Option Direction} {d : Direction}
      (hm : g.memories[i]? = some m) (hq : g.steering[i]? = some queued)
      (hd : (g.decide ⟨i⟩ m queued).1 = .ok (some d)) (hout : g.population.tile? ⟨i⟩ = none) :
      CallsOff g i (.placement (.unplaced ⟨i⟩))

/-- An agent calls the tick off exactly if its decision is not approved. -/
theorem callsOff_iff :
    g.CallsOff i e ↔ ∃ d, g.proposals[i]? = some d ∧ approve g.population ⟨i⟩ d = .error e := by
  simp only [getElem?_proposals, approve_eq_error_iff]
  constructor
  · rintro (⟨hm, hq, hd⟩ | ⟨hm, hq, hd, hout⟩)
    · exact ⟨_, ⟨_, _, hm, hq, rfl⟩, .inl ⟨_, hd, rfl⟩⟩
    · exact ⟨_, ⟨_, _, hm, hq, rfl⟩, .inr ⟨_, hd, hout, rfl⟩⟩
  · rintro ⟨_, ⟨m, queued, hm, hq, rfl⟩, ⟨cause, hd, rfl⟩ | ⟨d, hd, hout, rfl⟩⟩
    · exact .undecided hm hq hd
    · exact .unplaced hm hq hd hout

/-- The first agent that calls the tick off is the one whose reason is reported. -/
theorem approveAll_proposals_eq_error_iff :
    approveAll g.population 0 g.proposals = .error e ↔
      ∃ i, g.CallsOff i e ∧ ∀ j < i, ∀ e', ¬ g.CallsOff j e' := by
  -- To be approved is the same as not to call the tick off.
  have happroved {j : Nat} (h : ∀ e', ¬ g.CallsOff j e') {d : Decision}
      (hd : g.proposals[j]? = some d) : ∃ wish, approve g.population ⟨j⟩ d = .ok wish := by
    cases hj : approve g.population ⟨j⟩ d with
    | error e' => exact absurd (callsOff_iff.2 ⟨d, hd, hj⟩) (h e')
    | ok wish => exact ⟨wish, rfl⟩
  simp only [approveAll_eq_error_iff, Nat.zero_add]
  constructor
  · rintro ⟨i, d, hd, he, hbefore⟩
    refine ⟨i, callsOff_iff.2 ⟨d, hd, he⟩, fun j hj e' hcalls => ?_⟩
    obtain ⟨d', hd', he'⟩ := callsOff_iff.1 hcalls
    obtain ⟨wish, hwish⟩ := hbefore j hj d' hd'
    rw [he'] at hwish
    cases hwish
  · rintro ⟨i, hcalls, hbefore⟩
    obtain ⟨d, hd, he⟩ := callsOff_iff.1 hcalls
    exact ⟨i, d, hd, he, fun j hj d' hd' => happroved (hbefore j hj) hd'⟩

/-- No agent calls a tick off for a fault. -/
theorem ne_fault_of_approveAll (h : approveAll g.population 0 g.proposals = .error e)
    (f : Fault) : e ≠ .fault f := by
  obtain ⟨i, hcalls, -⟩ := approveAll_proposals_eq_error_iff.1 h
  cases hcalls <;> exact nofun

/-- The moves of approved wishes are all made. -/
theorem exists_settleAll_of_approved (hroom : g.board.tileCount ≤ g.population.tileCount)
    (h : approveAll g.population 0 g.proposals = .ok wishes) :
    ∃ outcomes, (settleAll g.board g.rules 0 wishes g.population).2 = .ok outcomes :=
  exists_settleAll_eq_ok hroom (approveAll_eq_ok_iff.1 h).2

/-- A tick carries the approved wishes out, with some outcomes. It is over even if the clock cannot
go on after it. -/
structure CarriedOut (g : Game) (wishes : List (Option Direction)) (outcomes : List Outcome) :
    Prop where
  approved : approveAll g.population 0 g.proposals = .ok wishes
  settled : settleAll g.board g.rules 0 wishes g.population =
    (g.step.game.population, .ok outcomes)
  memories_eq : g.step.game.memories = g.memoriesAfter
  steering_eq : g.step.game.steering = List.replicate g.population.count none
  tick_eq : g.step.game.tick = g.tick.next.toOption.getD g.tick
  result_eq : g.step.result = (g.tick.next.mapError .fault).map fun _ =>
    ⟨outcomes, encountersAt g.tick g.step.game.population⟩

/-- Approved wishes are carried out if none of their moves fails. -/
theorem carriedOut_of_settled {outcomes : List Outcome}
    (happroved : approveAll g.population 0 g.proposals = .ok wishes)
    (houtcomes : (settleAll g.board g.rules 0 wishes g.population).2 = .ok outcomes) :
    g.CarriedOut wishes outcomes := by
  -- Whether the clock can go on decides over nothing but the next tick and the result.
  have hturn : ∃ events, g.step = {
      game := { g with
        tick := g.tick.next.toOption.getD g.tick
        population := (settleAll g.board g.rules 0 wishes g.population).1
        memories := g.memoriesAfter
        steering := List.replicate g.population.count none }
      events
      result := (g.tick.next.mapError .fault).map fun _ =>
        ⟨outcomes, encountersAt g.tick (settleAll g.board g.rules 0 wishes g.population).1⟩ } := by
    simp only [step_of_ok happroved, carryOut, houtcomes]
    cases g.tick.next <;> exact ⟨_, rfl⟩
  obtain ⟨events, hturn⟩ := hturn
  exact {
    approved := happroved
    settled := by rw [hturn, ← houtcomes]
    memories_eq := by rw [hturn]
    steering_eq := by rw [hturn]
    tick_eq := by rw [hturn]
    result_eq := by rw [hturn] }

/-- On a board that the population covers approved wishes are carried out. -/
theorem exists_carriedOut (hroom : g.board.tileCount ≤ g.population.tileCount)
    (happroved : approveAll g.population 0 g.proposals = .ok wishes) :
    ∃ outcomes, g.CarriedOut wishes outcomes := by
  obtain ⟨outcomes, houtcomes⟩ := exists_settleAll_of_approved hroom happroved
  exact ⟨outcomes, carriedOut_of_settled happroved houtcomes⟩

/-- What a tick reports are its outcomes and the encounters of the places that it leaves. -/
theorem CarriedOut.report_eq {outcomes : List Outcome} {report : Report}
    (h : g.CarriedOut wishes outcomes) (hok : g.step.result = .ok report) :
    report = ⟨outcomes, encountersAt g.tick g.step.game.population⟩ := by
  rw [h.result_eq] at hok
  cases hnext : g.tick.next with
  | error f =>
    rw [hnext] at hok
    cases hok
  | ok tick =>
    rw [hnext] at hok
    exact (Except.ok.inj hok).symm

/-- In the turn of agent `a` a tick settles a wish of it, which leads from `before` to `after`. What
comes of the wish is what the tick reports of the agent, and where it puts the agent is where the
agent stands after the tick. -/
structure Attempts (g : Game) (a : AgentId) (wish : Option Direction) (before after : Population)
    (o : Outcome) : Prop where
  midway : Midway g.population g.step.game.population a before
  settled : Settled g.board g.rules before a wish after o
  tile?_eq : g.step.game.population.tile? a = after.tile? a
  reported : ∀ report, g.step.result = .ok report → report.outcomes[a.index]? = some o

/-- Every wish that is carried out is attempted in the turn of its agent. -/
theorem CarriedOut.exists_attempts {outcomes : List Outcome} {a : AgentId}
    {wish : Option Direction} (h : g.CarriedOut wishes outcomes)
    (hwish : wishes[a.index]? = some wish) :
    ∃ before after o, g.Attempts a wish before after o := by
  obtain ⟨before, after, o, ho, hsettled, hmidway, htile⟩ :=
    exists_turn h.settled (Nat.zero_add _).symm hwish
  refine ⟨before, after, o, hmidway, hsettled, htile, fun report hok => ?_⟩
  rw [h.report_eq hok]
  exact ho

/-- A tick that reports was carried out, whatever the sizes of the parts are. -/
theorem exists_carriedOut_of_ok {report : Report} (h : g.step.result = .ok report) :
    ∃ wishes, g.CarriedOut wishes report.outcomes := by
  cases happrove : approveAll g.population 0 g.proposals with
  | error e =>
    rw [step_of_error happrove] at h
    cases h
  | ok wishes =>
    cases hsettle : (settleAll g.board g.rules 0 wishes g.population).2 with
    | error cause =>
      simp only [step_of_ok happrove, carryOut, hsettle] at h
      cases h
    | ok outcomes =>
      have hcarried := carriedOut_of_settled happrove hsettle
      rw [hcarried.report_eq h]
      exact ⟨wishes, hcarried⟩

theorem encounters_of_ok {report : Report} (h : g.step.result = .ok report) :
    report.encounters = encountersAt g.tick g.step.game.population := by
  obtain ⟨wishes, hcarried⟩ := exists_carriedOut_of_ok h
  exact congrArg Report.encounters (hcarried.report_eq h)

/-- On a board that the population covers a tick that is approved succeeds, unless the clock has
come to its end. -/
theorem step_of_approved (hroom : g.board.tileCount ≤ g.population.tileCount)
    (htick : g.tick.count.toNat + 1 < UInt64.size)
    (happroved : approveAll g.population 0 g.proposals = .ok wishes) :
    ∃ r, g.step.result = .ok r := by
  obtain ⟨outcomes, hcarried⟩ := exists_carriedOut hroom happroved
  rw [hcarried.result_eq, Tick.next_of_lt htick]
  exact ⟨_, rfl⟩

/-- **A failing tick is atomic.** It fails exactly if some agent calls it off, with the reason of
the first who does; the moves themselves cannot fail; and after a failure nothing but memories has
changed, and nothing but the beginning of the tick was told. -/
theorem step_atomic (g : Game) (hroom : g.board.tileCount ≤ g.population.tileCount)
    (htick : g.tick.count.toNat + 1 < UInt64.size) :
    (∀ e, g.step.result = .error e ↔
      ∃ i, g.CallsOff i e ∧ ∀ j < i, ∀ e', ¬ g.CallsOff j e') ∧
    (∀ wishes, approveAll g.population 0 g.proposals = .ok wishes →
      ∃ outcomes, (settleAll g.board g.rules 0 wishes g.population).2 = .ok outcomes) ∧
    (∀ e, g.step.result = .error e →
      g.step.game = { g with memories := g.memoriesAfter } ∧
        g.step.events = [.tickStart g.tick]) := by
  have hresult (e : GameError) :
      g.step.result = .error e ↔ approveAll g.population 0 g.proposals = .error e := by
    cases h : approveAll g.population 0 g.proposals with
    | error e' => simp only [step_of_error h, Except.error.injEq]
    | ok wishes =>
      obtain ⟨r, hr⟩ := step_of_approved hroom htick h
      simp [hr]
  refine ⟨fun e => (hresult e).trans approveAll_proposals_eq_error_iff,
    fun wishes h => exists_settleAll_of_approved hroom h, fun e he => ?_⟩
  rw [step_of_error ((hresult e).1 he)]
  exact ⟨rfl, rfl⟩

/-- A player on the only tile, who stays, and a ghost that was never placed and is steered east. -/
def stray : Game where
  config := {}
  board := {
    tiles := [⟨.origin, .floor, .ofFn fun _ => none⟩]
    playerSpawns := []
    ghostSpawns := [] }
  population := {
    agents := [{ kind := .player, tile := some ⟨0⟩ }, { kind := .blinky }]
    crowds := #[[⟨0⟩]] }
  memories := Memory.ofCount 2 0
  strategy := .unassigned
  steering := [none, some .east]

/-- The ghost calls the tick off: the player in front of it has no objection. -/
theorem step_atomic_stray :
    stray.board.tileCount ≤ stray.population.tileCount ∧
      stray.tick.count.toNat + 1 < UInt64.size ∧
      stray.step.result = .error (.placement (.unplaced ⟨1⟩)) ∧
      stray.step.game = { stray with memories := stray.memoriesAfter } := by
  have hroom : stray.board.tileCount ≤ stray.population.tileCount := by decide
  have htick : stray.tick.count.toNat + 1 < UInt64.size := by decide
  obtain ⟨hresult, -, hsame⟩ := step_atomic stray hroom htick
  -- Nothing has to be evaluated but the two decisions: the rest is what the theorem says.
  have hghost : stray.CallsOff 1 (.placement (.unplaced ⟨1⟩)) := .unplaced rfl rfl rfl rfl
  have hplayer (e : GameError) : ¬ stray.CallsOff 0 e := by
    rw [callsOff_iff]
    rintro ⟨d, hd, he⟩
    obtain rfl : Except.ok none = d := Option.some.inj hd
    cases he
  have hfails := (hresult _).2 ⟨1, hghost, fun j hj => by
    obtain rfl : j = 0 := by omega
    exact hplayer⟩
  exact ⟨hroom, htick, hfails, (hsame _ hfails).1⟩

end MazeChase.Game
