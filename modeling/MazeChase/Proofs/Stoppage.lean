import MazeChase.Proofs.Decisions
import MazeChase.Proofs.Lineup
import MazeChase.Proofs.Telling

/-!
# What can stop a game

With standard behaviours a game is stopped by agents that stand nowhere and by nothing else. Such an
agent stops the tick whatever else it does: if a move is queued for it the move cannot be made, and
if not its strategy cannot decide. Of several the first is reported. Everybody else decides, and
once all have decided every move is made or dropped.

Nobody stands nowhere when a game was set up, and no tick takes anybody off the board. So a game
that is only played and steered is never stopped.

## Main definitions

* `Population.FirstUnplaced` — the first agent that stands nowhere
* `Game.refusal` — how it is reported
* `Game.StoppedByUnplaced` — a tick fails for such an agent or not at all
* `Game.Unstopped` — nothing that is played fails

## Main results

* `Game.callsOff_iff_unplaced` — who calls a tick off, and why
* `Game.step_eq_error_iff` — what a tick reports that fails
* `Game.Ready.unbroken` — the ticks of a game that is ready do not fail
* `Game.only_unplaced_stop` — a game is stopped by agents that stand nowhere and by nothing else
-/

namespace MazeChase

/-! ### The first agent that stands nowhere -/

/-- Agent `a` stands nowhere, and everybody before it stands somewhere. -/
structure Population.FirstUnplaced (p : Population) (a : AgentId) : Prop where
  known : a.index < p.count
  unplaced : p.tile? a = none
  before : ∀ i < a.index, (p.tile? ⟨i⟩).isSome

/-- If there are agents that stand nowhere there is a first one. -/
theorem Population.exists_firstUnplaced_iff {p : Population} :
    (∃ a, p.FirstUnplaced a) ↔ ∃ a : AgentId, a.index < p.count ∧ p.tile? a = none := by
  constructor
  · rintro ⟨a, ha⟩
    exact ⟨a, ha.known, ha.unplaced⟩
  · rintro ⟨a, ha⟩
    obtain ⟨b, hb⟩ :=
      AgentId.exists_isFirst (P := fun b => b.index < p.count ∧ p.tile? b = none) ha
    obtain ⟨hknown, hout⟩ := hb.holds
    refine ⟨b, hknown, hout, fun i hi => ?_⟩
    rw [Option.isSome_iff_ne_none]
    exact fun h => hb.before ⟨i⟩ hi ⟨Nat.lt_trans hi hknown, h⟩

namespace Game

variable {g h : Game} {a : AgentId} {e : GameError} {i n : Nat}

/-- What is reported of agent `a` if it stands nowhere: its order cannot be carried out, or without
one it cannot decide. -/
def refusal (g : Game) (a : AgentId) : GameError :=
  match g.steering[a.index]? with
  | some (some _) => .placement (.unplaced a)
  | _ => .decision (.unplaced a)

/-! ### Who calls a tick off -/

/-- An agent of the game cannot decide exactly if it stands nowhere. -/
theorem decide_view_eq_error_iff (hs : g.strategy.isStandard = true)
    (ha : a.index < g.population.count) {m : Memory} {cause : DecisionError} :
    (g.strategy.decide a g.view m).1 = .error cause ↔
      g.population.tile? a = none ∧ cause = .unplaced a := by
  obtain ⟨k, hk⟩ := Population.exists_kind? ha
  rw [Strategy.decide_eq_error_iff hs, View.tileOf_eq_error_iff]
  simp [view, hk]

/-- In a game with standard behaviours those who stand nowhere call a tick off, and nobody else. -/
theorem callsOff_iff_unplaced (hg : g.Coherent) (hs : g.strategy.isStandard = true) :
    g.CallsOff i e ↔
      i < g.population.count ∧ g.population.tile? ⟨i⟩ = none ∧ e = g.refusal ⟨i⟩ := by
  constructor
  · intro hcalls
    have hknown := hcalls.lt_count hg
    cases hcalls with
    | @undecided m queued cause hm hq hd =>
      cases queued with
      | some d => cases hd
      | none =>
        obtain ⟨hout, rfl⟩ := (decide_view_eq_error_iff (a := ⟨i⟩) hs hknown).1 hd
        exact ⟨hknown, hout, by simp only [refusal, hq]⟩
    | @unplaced m queued d hm hq hd hout =>
      cases queued with
      | some ordered => exact ⟨hknown, hout, by simp only [refusal, hq]⟩
      | none =>
        -- Without an order, whoever stands nowhere does not get as far as to name a direction.
        have hfails := (decide_view_eq_error_iff (a := ⟨i⟩) (m := m) hs hknown).2 ⟨hout, rfl⟩
        exact absurd (hd.symm.trans hfails) nofun
  · rintro ⟨hknown, hout, rfl⟩
    obtain ⟨m, queued, hm, hq⟩ := hg.exists_state hknown
    simp only [refusal, hq]
    cases queued with
    | some d => exact .unplaced hm hq rfl hout
    | none => exact .undecided hm hq ((decide_view_eq_error_iff hs hknown).2 ⟨hout, rfl⟩)

/-- The first agent that stands nowhere is the first that calls a tick off. -/
theorem approveAll_eq_error_iff_unplaced (hg : g.Coherent) (hs : g.strategy.isStandard = true) :
    approveAll g.population 0 g.proposals = .error e ↔
      ∃ a, g.population.FirstUnplaced a ∧ e = g.refusal a := by
  simp only [approveAll_proposals_eq_error_iff, callsOff_iff_unplaced hg hs]
  constructor
  · -- Whoever is before the first that calls the tick off stands somewhere, or would call it off.
    rintro ⟨i, ⟨hknown, hout, rfl⟩, hbefore⟩
    refine ⟨⟨i⟩, ⟨hknown, hout, fun j hj => ?_⟩, rfl⟩
    rw [Option.isSome_iff_ne_none]
    exact fun h => hbefore j hj _ ⟨Nat.lt_trans hj hknown, h, rfl⟩
  · rintro ⟨a, ha, rfl⟩
    refine ⟨a.index, ⟨ha.known, ha.unplaced, rfl⟩, fun j hj e' hcalls => ?_⟩
    have hplaced := ha.before j hj
    rw [hcalls.2.1] at hplaced
    cases hplaced

/-- A tick that fails reports the first agent that stands nowhere. -/
theorem step_eq_error_iff (hg : g.Coherent) (hs : g.strategy.isStandard = true)
    (htick : g.tick.count.toNat + 1 < UInt64.size) :
    g.step.result = .error e ↔ ∃ a, g.population.FirstUnplaced a ∧ e = g.refusal a := by
  rw [← approveAll_eq_error_iff_unplaced hg hs]
  cases happroved : approveAll g.population 0 g.proposals with
  | error e' => simp only [step_of_error happroved, Except.error.injEq]
  | ok wishes =>
    have hroom : g.board.tileCount ≤ g.population.tileCount := Nat.le_of_eq hg.tileCount_eq.symm
    obtain ⟨report, hreport⟩ := step_of_approved hroom htick happroved
    rw [hreport]
    exact ⟨nofun, nofun⟩

/-- The next tick fails for agents that stand nowhere or not at all. -/
structure StoppedByUnplaced (g : Game) : Prop where
  /-- What is reported is the first of them. -/
  reported : ∀ e, g.step.result = .error e ↔ ∃ a, g.population.FirstUnplaced a ∧ e = g.refusal a
  /-- The tick fails if there are any, -/
  fails_iff : (∃ e, g.step.result = .error e) ↔
    ∃ a : AgentId, a.index < g.population.count ∧ g.population.tile? a = none
  /-- and succeeds if there are none. -/
  succeeds : (∀ a : AgentId, a.index < g.population.count → (g.population.tile? a).isSome) →
    ∃ report, g.step.result = .ok report

theorem stoppedByUnplaced_of_coherent (hg : g.Coherent) (hs : g.strategy.isStandard = true)
    (htick : g.tick.count.toNat + 1 < UInt64.size) : g.StoppedByUnplaced := by
  have hreported (e : GameError) := step_eq_error_iff (e := e) hg hs htick
  refine ⟨hreported, ?_, ?_⟩
  · rw [← Population.exists_firstUnplaced_iff]
    simp only [hreported]
    constructor
    · rintro ⟨e, a, ha, -⟩
      exact ⟨a, ha⟩
    · rintro ⟨a, ha⟩
      exact ⟨g.refusal a, a, ha, rfl⟩
  · intro hplaced
    cases hresult : g.step.result with
    | ok report => exact ⟨report, rfl⟩
    | error e =>
      obtain ⟨a, ha, -⟩ := (hreported e).1 hresult
      have hsome := hplaced a ha.known
      rw [ha.unplaced] at hsome
      cases hsome

/-! ### Games that are never stopped -/

namespace Ready

theorem not_fails (hg : g.Ready) (e : GameError) : ¬ g.Fails e := by
  rintro ⟨he, hclock⟩
  -- The moves are made, and after that only the clock can be at fault.
  obtain ⟨wishes, outcomes, hcarried⟩ := hg.exists_carriedOut
  rw [hcarried.result_eq] at he
  cases hnext : g.tick.next with
  | error f =>
    rw [hnext] at he
    exact hclock f (Except.error.inj he).symm
  | ok tick =>
    rw [hnext] at he
    cases he

theorem stepped (hg : g.Ready) (n : Nat) : (g.stepped n).Ready := by
  induction n generalizing g with
  | zero => exact hg
  | succ n ih => exact ih hg.step

/-- The ticks of a game that is ready do not fail. -/
theorem unbroken (hg : g.Ready) (n : Nat) : g.Unbroken n :=
  fun k _ e => (hg.stepped k).not_fails e

theorem after (hg : g.Ready) {cs : List Command} (hcs : ∀ c ∈ cs, c.isPlay = true) :
    (g.after cs).Ready :=
  after_induction (R := fun g h => g.Ready → h.Ready) (fun _ => id) (fun h h' => h' ∘ h)
    (fun _ => Ready.step) (fun h' hg => hg.steer h') hcs g hg

end Ready

/-- Nothing that is played next fails. -/
structure Unstopped (g : Game) : Prop where
  /-- One tick and any number of ticks succeed as far as the clock reaches, -/
  step : g.tick.count.toNat + 1 < UInt64.size → ∃ report, g.step.result = .ok report
  play : ∀ n, g.tick.count.toNat + n < UInt64.size → (g.play n).result = .ok ()
  /-- which a full run never exceeds. -/
  playOut : g.playOut.result = .ok ()
  /-- Beyond that there is no other error than that of the clock. -/
  play_error : ∀ n e, (g.play n).result = .error e → ∃ f, e = .fault f

theorem Ready.unstopped (hg : g.Ready) : g.Unstopped where
  step htick := (stoppedByUnplaced_of_coherent hg.coherent hg.standard htick).succeeds hg.placed
  play n hclock := by rw [play_of_unbroken hclock (hg.unbroken n)]
  playOut := by rw [playOut_of_unbroken (hg.unbroken _)]
  play_error n e he := by
    obtain ⟨k, -, hk⟩ := exists_step_of_play_eq_error he
    by_contra hclock
    exact (hg.stepped k).not_fails e ⟨hk, fun f hf => hclock ⟨f, hf⟩⟩

@[simp] theorem strategy_obey (g : Game) (c : Command) : (g.obey c).strategy = g.strategy := by
  by_cases hc : c.isPlay = true
  · refine obey_induction (R := fun g h => h.strategy = g.strategy) (fun _ => rfl)
      (fun h h' => h'.trans h) (fun _ => step_strategy) (fun h => ?_) hc g
    obtain ⟨-, rfl⟩ := steer_eq_ok_iff.1 h
    rfl
  · cases c with
    | change c => rfl
    | _ => exact absurd rfl hc

@[simp] theorem strategy_after (g : Game) (cs : List Command) :
    (g.after cs).strategy = g.strategy := by
  induction cs generalizing g with
  | nil => rfl
  | cons c cs ih => rw [after_cons, ih, strategy_obey]

/-- **Nothing but an agent that stands nowhere stops a game.** In every game that was set up with
standard behaviours, whatever was done to it since, a tick fails exactly if some agent stands
nowhere; it reports the first one, as an agent that cannot be moved if it has an order and as one
that cannot decide if it has none. If the game was only played and steered nothing that is played
next fails. -/
theorem only_unplaced_stop {s : Setup} (hs : s.population.Reachable) (hg : s.build = .ok g)
    (hstandard : s.strategy.isStandard = true) (cs : List Command) :
    ((g.after cs).tick.count.toNat + 1 < UInt64.size → (g.after cs).StoppedByUnplaced) ∧
      ((∀ c ∈ cs, c.isPlay = true) → (g.after cs).Unstopped) := by
  have hready : g.Ready := ready_of_build hs.consistent hg hstandard
  constructor
  · intro htick
    have hcoherent := ((Reachable.build hs hg).after cs).coherent
    exact stoppedByUnplaced_of_coherent hcoherent (by rw [strategy_after, hready.standard]) htick
  · intro hcs
    exact (hready.after hcs).unstopped

/-- Both ghosts are taken off the board, and Blinky gets an order. -/
def evacuation : List Command :=
  [.change (.vacate ⟨2⟩), .change (.vacate ⟨1⟩), .steer ⟨1⟩ .east]

/-- The tick reports Blinky, who cannot be moved. Put back on the board Blinky would go, but Pinky
could still not decide. -/
theorem only_unplaced_stop_ambush :
    Setup.ambush.population.Reachable ∧ Setup.ambush.build = .ok ambush ∧
      Setup.ambush.strategy.isStandard = true ∧
      (ambush.after evacuation).step.result = .error (.placement (.unplaced ⟨1⟩)) ∧
      (ambush.after (evacuation ++ [.change (.occupy ⟨1⟩ ⟨0⟩)])).step.result =
        .error (.decision (.unplaced ⟨2⟩)) ∧
      (ambush.after [.step, .steer ⟨0⟩ .east, .play 3]).Unstopped := by
  have hs : Setup.ambush.population.Reachable := .ofKinds _ _
  have hstops (cs : List Command) := only_unplaced_stop hs Setup.build_ambush rfl cs
  have hblinky : (ambush.after evacuation).population.FirstUnplaced ⟨1⟩ :=
    ⟨by decide, rfl, by decide⟩
  have hpinky : (ambush.after (evacuation ++ [.change (.occupy ⟨1⟩ ⟨0⟩)])).population.FirstUnplaced
      ⟨2⟩ := ⟨by decide, rfl, by decide⟩
  exact ⟨hs, Setup.build_ambush, rfl,
    (((hstops _).1 (by decide)).reported _).2 ⟨_, hblinky, rfl⟩,
    (((hstops _).1 (by decide)).reported _).2 ⟨_, hpinky, rfl⟩,
    (hstops _).2 (by decide)⟩

end Game

end MazeChase
