import MazeChase.Proofs.Abort

/-!
# What an onlooker is told

A tick that succeeds tells a block of events: that it begins, who meets whom, that it ends and with
which report, and at the multiples of the snapshot interval where everybody stands by then. A tick
that fails tells that it begins and nothing more, and leaves the clock where it was.

A run tells the blocks of its ticks one after the other. It is over with the first tick that fails.
A full run that gets to the end of the schedule tells at last that the game is over. How a run is
cut into shorter runs makes no difference.

That the clock has only 64 bits is no error of a tick, and a full run never notices: the ticks that
it plays come before the end of the schedule, and that is itself a tick of the clock.

## Main definitions

* `Run.andThen` — a run that goes on with another one
* `Game.Ends` — the ways in which a tick ends
* `Game.stepped` — the game some ticks later
* `Game.Fails`, `Game.Unbroken` — ticks that fail, and ticks of which none does
* `Game.block`, `Game.blocks` — what ticks tell that do not fail
* `Game.TellsRuns` — what the runs of a game tell and where they stop

## Main results

* `Game.ends_step` — the three ways in which a tick ends
* `Game.stepped_induction` — what every tick respects any number of them respects
* `Game.play_add` — a run is cut into shorter runs
* `Game.play_of_unbroken`, `Game.play_of_fails` — runs that go well, and runs that do not
* `Game.playOut_loop` — a full run is a loop that stops at the end of the schedule
* `Game.tells_runs` — every game tells its runs
-/

namespace MazeChase

/-! ### Runs put together -/

namespace Run

variable {r : Run} {e : GameError} {next later : Game → Run}

/-- A run that goes on with another one, unless something went wrong. -/
def andThen (r : Run) (next : Game → Run) : Run :=
  match r.result with
  | .error _ => r
  | .ok _ => { next r.game with events := r.events ++ (next r.game).events }

theorem andThen_of_error (h : r.result = .error e) : r.andThen next = r := by
  simp only [andThen, h]

theorem andThen_of_ok (h : r.result = .ok ()) :
    r.andThen next = { next r.game with events := r.events ++ (next r.game).events } := by
  simp only [andThen, h]

theorem andThen_congr (h : r.result = .ok () → next r.game = later r.game) :
    r.andThen next = r.andThen later := by
  cases hr : r.result with
  | error e => rw [andThen_of_error hr, andThen_of_error hr]
  | ok done => rw [andThen_of_ok hr, andThen_of_ok hr, h hr]

theorem andThen_assoc :
    (r.andThen next).andThen later = r.andThen fun g => (next g).andThen later := by
  cases h : r.result with
  | error e => simp only [andThen, h]
  | ok done => cases hnext : (next r.game).result <;> simp [andThen, h, hnext]

end Run

/-- A tick as a run of its own. -/
def Turn.run (turn : Turn) : Run :=
  ⟨turn.game, turn.events, turn.result.map fun _ => ()⟩

namespace Game

variable {g : Game} {e : GameError} {report : Report} {k n : Nat}

theorem play_succ (n : Nat) (g : Game) : g.play (n + 1) = g.step.run.andThen (play n) := by
  simp only [play, Turn.run, Run.andThen]
  cases g.step.result <;> rfl

/-- A run is cut into shorter runs. -/
theorem play_add (m n : Nat) (g : Game) : g.play (m + n) = (g.play m).andThen (play n) := by
  induction m generalizing g with
  | zero => simp [play, Run.andThen]
  | succ m ih =>
    -- The first tick is split off on both sides, and what follows it is put together otherwise.
    have hfirst : play (m + n) = fun h => (play m h).andThen (play n) := funext ih
    rw [Nat.add_right_comm, play_succ, play_succ, Run.andThen_assoc, hfirst]

/-- A full run plays the ticks that are left and then tells the end. -/
theorem playOut_eq_andThen (g : Game) :
    g.playOut = (g.play g.ticksLeft).andThen fun h => ⟨h, [.gameEnd h.tick], .ok ()⟩ := by
  simp only [playOut, Run.andThen]
  cases (g.play g.ticksLeft).result <;> rfl

/-! ### One tick -/

/-- The ways in which a tick of `g` ends. -/
inductive Ends (g : Game) : Turn → Prop
  /-- It fails. Nothing but its beginning was told, and the clock stands still. -/
  | failed {h : Game} {e : GameError} (hclock : ∀ f, e ≠ .fault f) (htick : h.tick = g.tick) :
      Ends g ⟨h, [.tickStart g.tick], .error e⟩
  /-- It is done, but it was the last tick of the clock. -/
  | stuck {h : Game} {events : List Event} {f : Fault} (hnext : g.tick.next = .error f) :
      Ends g ⟨h, events, .error (.fault f)⟩
  /-- It succeeds, and the clock goes on. -/
  | done {h : Game} {report : Report} (hnext : g.tick.next = .ok h.tick) :
      Ends g ⟨h, .tickStart g.tick :: closingEvents g.config g.tick g.board h.population report,
        .ok report⟩

theorem ends_step (g : Game) : g.Ends g.step := by
  refine step_cases ?_ ?_
  · intro e he
    exact .failed (ne_fault_of_approveAll he) rfl
  · intro wishes _
    rcases hsettled : settleAll g.board g.rules 0 wishes g.population with ⟨p, cause | outcomes⟩
    · -- A move failed, which is told no more than a decision that is not approved.
      simp only [carryOut, hsettled]
      refine .failed (fun f h => ?_) rfl
      cases h
    · simp only [carryOut, hsettled]
      cases hnext : g.tick.next with
      | error f => exact .stuck hnext
      | ok tick => exact .done hnext

/-- What a tick of `g` tells that succeeds with a report and leaves a population behind. -/
def block (g : Game) (p : Population) (report : Report) : List Event :=
  [.tickStart g.tick] ++ report.encounters.map .encounter ++ [.tickEnd g.tick report] ++
    if 0 < g.config.snapshotInterval.toNat ∧
        g.config.snapshotInterval.toNat ∣ g.tick.count.toNat then
      [.snapshot g.tick g.board p]
    else []

namespace Ends

variable {turn : Turn}

theorem of_ok (h : g.Ends turn) (hok : turn.result = .ok report) :
    turn.events = g.block turn.game.population report ∧
      turn.game.tick.count.toNat = g.tick.count.toNat + 1 := by
  cases h with
  | failed => cases hok
  | stuck => cases hok
  | done hnext =>
    obtain rfl := Except.ok.inj hok
    refine ⟨?_, Tick.next_eq_ok_iff.1 hnext⟩
    simp [block, closingEvents, Schedule.isSnapshotTick_iff]

theorem of_error (h : g.Ends turn) (he : turn.result = .error e) (hclock : ∀ f, e ≠ .fault f) :
    turn.events = [.tickStart g.tick] ∧ turn.game.tick = g.tick := by
  cases h with
  | failed _ htick => exact ⟨rfl, htick⟩
  | stuck => exact absurd (Except.error.inj he).symm (hclock _)
  | done => cases he

theorem of_fault {f : Fault} (h : g.Ends turn) (hf : turn.result = .error (.fault f)) :
    g.tick.count.toNat + 1 = UInt64.size := by
  cases h with
  | failed hclock => exact absurd (Except.error.inj hf) (hclock f)
  | stuck hnext =>
    rcases Nat.lt_or_ge (g.tick.count.toNat + 1) UInt64.size with hlt | hge
    · rw [Tick.next_of_lt hlt] at hnext
      cases hnext
    · exact Nat.le_antisymm g.tick.count.toNat_lt_size hge
  | done => cases hf

end Ends

/-! ### Ticks of which none fails -/

/-- The next tick fails. That there may be no tick after it is no failure. -/
def Fails (g : Game) (e : GameError) : Prop := g.step.result = .error e ∧ ∀ f, e ≠ .fault f

/-- The game `n` ticks later, whatever becomes of them. -/
def stepped : Nat → Game → Game
  | 0, g => g
  | n + 1, g => stepped n g.step.game

/-- None of the next `n` ticks fails. -/
def Unbroken (n : Nat) (g : Game) : Prop := ∀ k < n, ∀ e, ¬ (g.stepped k).Fails e

/-- What the next tick tells if it succeeds. -/
def told (g : Game) : List Event :=
  match g.step.result with
  | .error _ => []
  | .ok report => g.block g.step.game.population report

/-- What the next `n` ticks tell if they succeed. -/
def blocks (n : Nat) (g : Game) : List Event :=
  (List.range n).flatMap fun k => (g.stepped k).told

theorem stepped_succ (n : Nat) (g : Game) : g.stepped (n + 1) = (g.stepped n).step.game := by
  induction n generalizing g with
  | zero => rfl
  | succ n ih => exact ih g.step.game

/-- What every tick respects any number of them respects. -/
theorem stepped_induction {R : Game → Game → Prop} (refl : ∀ g, R g g)
    (trans : ∀ {g h k}, R g h → R h k → R g k) (step : ∀ g, R g g.step.game) (n : Nat) (g : Game) :
    R g (g.stepped n) := by
  induction n generalizing g with
  | zero => exact refl g
  | succ n ih => exact trans (step g) (ih g.step.game)

@[simp] theorem kind?_stepped (n : Nat) (g : Game) (a : AgentId) :
    (g.stepped n).population.kind? a = g.population.kind? a :=
  stepped_induction (R := fun g h => h.population.kind? a = g.population.kind? a) (fun _ => rfl)
    (fun h h' => h'.trans h) (fun _ => kind?_step a) n g

theorem unbroken_succ_iff :
    g.Unbroken (n + 1) ↔ (∀ e, ¬ g.Fails e) ∧ g.step.game.Unbroken n :=
  Nat.forall_lt_succ_left

theorem blocks_succ (n : Nat) (g : Game) : g.blocks (n + 1) = g.told ++ g.step.game.blocks n := by
  rw [blocks, blocks, List.range_succ_eq_map, List.flatMap_cons, List.flatMap_map]
  rfl

/-- Either no tick fails or there is a first one. -/
theorem unbroken_or_fails (n : Nat) (g : Game) :
    g.Unbroken n ∨ ∃ k < n, ∃ e, g.Unbroken k ∧ (g.stepped k).Fails e := by
  induction n with
  | zero => exact .inl nofun
  | succ n ih =>
    -- If the ticks before do not fail the last one may still do so, and is the first then.
    rcases ih with hn | ⟨k, hk, e, hbefore, hfails⟩
    · by_cases hlast : ∃ e, (g.stepped n).Fails e
      · obtain ⟨e, hfails⟩ := hlast
        exact .inr ⟨n, Nat.lt_succ_self n, e, hn, hfails⟩
      · refine .inl fun k hk e hfails => ?_
        rcases Nat.lt_succ_iff_lt_or_eq.1 hk with hk | rfl
        · exact hn k hk e hfails
        · exact hlast ⟨e, hfails⟩
    · exact .inr ⟨k, Nat.lt_succ_of_lt hk, e, hbefore, hfails⟩

/-- A tick that does not fail tells its block and is counted, unless the clock has come to its
end. -/
theorem run_step_of_not_fails (hclock : g.tick.count.toNat + 1 < UInt64.size)
    (h : ∀ e, ¬ g.Fails e) :
    g.step.run = ⟨g.step.game, g.told, .ok ()⟩ ∧
      g.step.game.tick.count.toNat = g.tick.count.toNat + 1 := by
  cases hresult : g.step.result with
  | error e =>
    -- All that is left is a fault, and for that the clock would have to be at its end.
    refine absurd ⟨hresult, ?_⟩ (h e)
    rintro f rfl
    have hend := (ends_step g).of_fault hresult
    omega
  | ok report =>
    obtain ⟨hevents, htick⟩ := (ends_step g).of_ok hresult
    refine ⟨?_, htick⟩
    rw [Turn.run, told, hresult, hevents]
    rfl

/-- A tick that fails tells that it begins and nothing more. -/
theorem Fails.run_step (h : g.Fails e) :
    g.step.run = ⟨g.step.game, [.tickStart g.tick], .error e⟩ := by
  rw [Turn.run, h.1, ((ends_step g).of_error h.1 h.2).1]
  rfl

theorem Fails.tick_eq (h : g.Fails e) : g.step.game.tick = g.tick :=
  ((ends_step g).of_error h.1 h.2).2

/-! ### Runs -/

theorem tick_stepped (hclock : g.tick.count.toNat + n < UInt64.size) (hn : g.Unbroken n) :
    (g.stepped n).tick.count.toNat = g.tick.count.toNat + n := by
  induction n generalizing g with
  | zero => rfl
  | succ n ih =>
    obtain ⟨hfirst, hrest⟩ := unbroken_succ_iff.1 hn
    obtain ⟨-, htick⟩ := run_step_of_not_fails (by omega) hfirst
    rw [stepped, ih (by omega) hrest, htick]
    omega

/-- Ticks of which none fails are played as a run that tells their blocks. -/
theorem play_of_unbroken (hclock : g.tick.count.toNat + n < UInt64.size) (hn : g.Unbroken n) :
    g.play n = ⟨g.stepped n, g.blocks n, .ok ()⟩ := by
  induction n generalizing g with
  | zero => rfl
  | succ n ih =>
    obtain ⟨hfirst, hrest⟩ := unbroken_succ_iff.1 hn
    obtain ⟨hrun, htick⟩ := run_step_of_not_fails (by omega) hfirst
    rw [play_succ, hrun, Run.andThen_of_ok rfl, ih (by omega) hrest, blocks_succ]
    rfl

/-- A run is over with the first tick that fails. -/
theorem play_of_fails (hk : k < n) (hclock : g.tick.count.toNat + k < UInt64.size)
    (hbefore : g.Unbroken k) (hfails : (g.stepped k).Fails e) :
    g.play n = ⟨(g.stepped k).step.game,
      g.blocks k ++ [.tickStart (g.stepped k).tick], .error e⟩ := by
  -- The run is cut before the tick that fails, and nothing comes of what would follow it.
  obtain ⟨m, rfl⟩ : ∃ m, n = k + (m + 1) := ⟨n - k - 1, by omega⟩
  rw [play_add, play_of_unbroken hclock hbefore, Run.andThen_of_ok rfl, play_succ, hfails.run_step,
    Run.andThen_of_error rfl]

/-- What goes wrong in a run goes wrong in one of its ticks. -/
theorem exists_step_of_play_eq_error (h : (g.play n).result = .error e) :
    ∃ k < n, (g.stepped k).step.result = .error e := by
  induction n generalizing g with
  | zero => cases h
  | succ n ih =>
    rw [play] at h
    cases hresult : g.step.result with
    | error e' =>
      rw [hresult] at h
      exact ⟨0, Nat.succ_pos n, hresult.trans (congrArg Except.error (Except.error.inj h))⟩
    | ok report =>
      rw [hresult] at h
      obtain ⟨k, hk, hfails⟩ := ih h
      exact ⟨k + 1, Nat.succ_lt_succ hk, hfails⟩

/-! ### Full runs -/

theorem ticksLeft_eq (g : Game) :
    g.ticksLeft = g.config.totalTicks.toNat - g.tick.count.toNat := rfl

theorem add_ticksLeft (g : Game) :
    g.tick.count.toNat + g.ticksLeft = max g.tick.count.toNat g.config.totalTicks.toNat := by
  rw [ticksLeft_eq]
  omega

/-- A full run never comes to the end of the clock. -/
theorem add_ticksLeft_lt (g : Game) : g.tick.count.toNat + g.ticksLeft < UInt64.size := by
  rw [add_ticksLeft]
  exact Nat.max_lt.2 ⟨g.tick.count.toNat_lt_size, g.config.totalTicks.toNat_lt_size⟩

/-- A full run is a loop: while the clock is short of the end of the schedule a tick is played, and
then the end is told. -/
theorem playOut_loop (g : Game) :
    g.playOut =
      if g.tick.count < g.config.totalTicks then g.step.run.andThen playOut
      else ⟨g, [.gameEnd g.tick], .ok ()⟩ := by
  have hleft := ticksLeft_eq g
  rw [playOut_eq_andThen]
  split
  · next hlt =>
    rw [UInt64.lt_iff_toNat_lt] at hlt
    obtain ⟨m, hm⟩ : ∃ m, g.ticksLeft = m + 1 := ⟨g.ticksLeft - 1, by omega⟩
    rw [hm, play_succ, Run.andThen_assoc]
    refine Run.andThen_congr fun hok => ?_
    -- One tick is played, so one tick less is left.
    obtain ⟨report, hreport⟩ : ∃ report, g.step.result = .ok report := by
      cases hresult : g.step.result with
      | error e => simp [Turn.run, hresult, Except.map] at hok
      | ok report => exact ⟨report, rfl⟩
    have hrest : g.step.game.ticksLeft = m := by
      rw [ticksLeft_eq, step_config, ((ends_step g).of_ok hreport).2]
      omega
    rw [playOut_eq_andThen, Turn.run, hrest]
  · next hge =>
    rw [UInt64.lt_iff_toNat_lt] at hge
    have hzero : g.ticksLeft = 0 := by omega
    rw [hzero, play, Run.andThen_of_ok rfl]
    rfl

/-- What the runs of a game tell and where they stop, at whatever tick the game stands. -/
structure TellsRuns (g : Game) : Prop where
  /-- Ticks that do not fail are counted. -/
  counted : ∀ n, g.tick.count.toNat + n < UInt64.size → g.Unbroken n →
    (g.stepped n).tick.count.toNat = g.tick.count.toNat + n
  /-- A run of ticks of which none fails tells their blocks and nothing else. -/
  played : ∀ n, g.tick.count.toNat + n < UInt64.size → g.Unbroken n →
    g.play n = ⟨g.stepped n, g.blocks n, .ok ()⟩
  /-- A run is over with the first tick that fails. It tells that this tick begins and nothing more
  of it, and the clock stands still at it. -/
  stopped : ∀ n k e, k < n → g.tick.count.toNat + k < UInt64.size → g.Unbroken k →
    (g.stepped k).Fails e →
    g.play n = ⟨(g.stepped k).step.game, g.blocks k ++ [.tickStart (g.stepped k).tick], .error e⟩ ∧
      (g.stepped k).step.game.tick = (g.stepped k).tick
  /-- A full run of which no tick fails tells the blocks of the ticks that are left and then the
  end. The clock is at the end of the schedule then, unless it was past it. -/
  playedOut : g.Unbroken g.ticksLeft →
    g.playOut = ⟨g.stepped g.ticksLeft,
      g.blocks g.ticksLeft ++ [.gameEnd (g.stepped g.ticksLeft).tick], .ok ()⟩ ∧
    (g.stepped g.ticksLeft).tick.count.toNat =
      max g.tick.count.toNat g.config.totalTicks.toNat
  /-- A full run is over with the first tick that fails, and does not tell the end. -/
  stoppedOut : ∀ k e, k < g.ticksLeft → g.Unbroken k → (g.stepped k).Fails e →
    g.playOut = ⟨(g.stepped k).step.game, g.blocks k ++ [.tickStart (g.stepped k).tick],
      .error e⟩ ∧
    (g.stepped k).step.game.tick = (g.stepped k).tick
  /-- A full run does not push the clock past its end. -/
  clocked : ∀ f, g.playOut.result ≠ .error (.fault f)
  /-- Among any number of ticks none fails or there is a first that does. -/
  covered : ∀ n, g.Unbroken n ∨ ∃ k < n, ∃ e, g.Unbroken k ∧ (g.stepped k).Fails e
  /-- While the clock is short of the end of the schedule a full run plays a tick and goes on. -/
  looped : g.playOut =
    if g.tick.count < g.config.totalTicks then g.step.run.andThen playOut
    else ⟨g, [.gameEnd g.tick], .ok ()⟩
  /-- A run is cut into shorter runs, of which the second is played if nothing went wrong in the
  first. -/
  joined : ∀ m n, g.play (m + n) = (g.play m).andThen (play n)

theorem playOut_of_unbroken (h : g.Unbroken g.ticksLeft) :
    g.playOut = ⟨g.stepped g.ticksLeft,
      g.blocks g.ticksLeft ++ [.gameEnd (g.stepped g.ticksLeft).tick], .ok ()⟩ := by
  rw [playOut_eq_andThen, play_of_unbroken g.add_ticksLeft_lt h, Run.andThen_of_ok rfl]

theorem playOut_of_fails (hk : k < g.ticksLeft) (hbefore : g.Unbroken k)
    (hfails : (g.stepped k).Fails e) :
    g.playOut = ⟨(g.stepped k).step.game,
      g.blocks k ++ [.tickStart (g.stepped k).tick], .error e⟩ := by
  have hclock : g.tick.count.toNat + k < UInt64.size :=
    Nat.lt_trans (Nat.add_lt_add_left hk _) g.add_ticksLeft_lt
  rw [playOut_eq_andThen, play_of_fails hk hclock hbefore hfails, Run.andThen_of_error rfl]

theorem playOut_result_ne_fault (g : Game) (f : Fault) : g.playOut.result ≠ .error (.fault f) := by
  rcases unbroken_or_fails g.ticksLeft g with hall | ⟨k, hk, e, hbefore, hfails⟩
  · rw [playOut_of_unbroken hall]
    exact nofun
  · rw [playOut_of_fails hk hbefore hfails]
    exact fun h => hfails.2 f (Except.error.inj h)

/-- **Every run tells what its ticks tell.** A run tells the blocks of its ticks up to the first
that fails, and of that one only that it begins; a full run stops at the end of the schedule and
tells it; and how a run is cut into shorter runs makes no difference. -/
theorem tells_runs (g : Game) : g.TellsRuns where
  counted _ := tick_stepped
  played _ := play_of_unbroken
  stopped _ _ _ hk hclock hbefore hfails :=
    ⟨play_of_fails hk hclock hbefore hfails, hfails.tick_eq⟩
  playedOut hall := by
    refine ⟨playOut_of_unbroken hall, ?_⟩
    rw [tick_stepped g.add_ticksLeft_lt hall, add_ticksLeft]
  stoppedOut _ _ hk hbefore hfails := ⟨playOut_of_fails hk hbefore hfails, hfails.tick_eq⟩
  clocked := playOut_result_ne_fault g
  covered n := unbroken_or_fails n g
  looped := playOut_loop g
  joined m n := play_add m n g

/-- A player alone on a tile who stays for one tick and then gives up deciding. Every tick is
recorded. -/
def quitter : Game where
  config := { snapshotInterval := 1 }
  board := {
    tiles := [⟨.origin, .floor, .ofFn fun _ => none⟩]
    playerSpawns := []
    ghostSpawns := [] }
  population := {
    agents := [⟨.player, some ⟨0⟩⟩]
    crowds := #[[⟨0⟩]] }
  memories := Memory.ofCount 1 0
  strategy := .uniform (.custom fun a v m =>
    (if v.tick = .zero then .ok none else .error (.unplaced a), m))
  steering := [none]

/-- The run is over with the second tick, of which only the beginning is told. -/
theorem tells_runs_quitter :
    quitter.TellsRuns ∧ quitter.Unbroken 1 ∧
      (quitter.stepped 1).Fails (.decision (.unplaced ⟨0⟩)) ∧
      quitter.playOut.events = [.tickStart ⟨0⟩, .tickEnd ⟨0⟩ ⟨[.idle], []⟩,
        .snapshot ⟨0⟩ quitter.board quitter.population, .tickStart ⟨1⟩] := by
  have htells := tells_runs quitter
  have hfirst : quitter.Unbroken 1 := by
    intro k hk e hfails
    obtain rfl : k = 0 := by omega
    cases hfails.1
  have hsecond : (quitter.stepped 1).Fails (.decision (.unplaced ⟨0⟩)) := ⟨rfl, nofun⟩
  obtain ⟨hrun, -⟩ := htells.stoppedOut 1 _ (by decide) hfirst hsecond
  refine ⟨htells, hfirst, hsecond, ?_⟩
  rw [hrun]
  decide +kernel

end Game

end MazeChase
