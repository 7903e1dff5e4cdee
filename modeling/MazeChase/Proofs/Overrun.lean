import MazeChase.Proofs.Abort
import MazeChase.Proofs.History

/-!
# When a tick stops halfway

A tick that fails is meant to leave everybody on their tile, the clock where it was and the queue as
it was. A tick that is called off does: all decisions are looked at before the first move is made.
But board and population are parts of their own, and nothing keeps the board from being replaced by
a larger one. Then an agent may have an open way to a tile that the population was not made for. Its
move is refused, and by that time the agents before it have made theirs and the queue is gone.

There is no third way to fail, and the error tells the two apart.

## Main definitions

* `Game.Undisturbed` — what a tick that fails is meant to keep
* `Game.Overrun` — the move of an agent that leads beyond the population

## Main results

* `settleAll_eq_error_iff` — the moves fail at the first that fails, with all before it made
* `Game.failing_step` — what a tick that fails leaves behind
-/

namespace MazeChase

variable {board : Board} {rules : Rules} {p q : Population} {a : AgentId}
  {wishes : List (Option Direction)} {cause : PlacementError}

/-! ### The move that fails -/

/-- A wish fails if it is to move from nowhere, or to an open tile that is out of range. -/
theorem settle_eq_error_iff {wish : Option Direction} :
    settle board rules p a wish = .error cause ↔
      ∃ d, wish = some d ∧
        (p.tile? a = none ∧ cause = .unplaced a ∨
          ∃ here there, p.tile? a = some here ∧
            (movingView board rules p).graph.step? here d a = some there ∧
            p.tileCount ≤ there.index ∧ cause = .tileOutOfRange there p.tileCount) := by
  cases wish with
  | none => simp [settle]
  | some d =>
    cases hhere : p.tile? a with
    | none =>
      simp [settle, attempt, Population.requireTile, hhere, bind, Except.bind, eq_comm]
    | some here =>
      have ha := Population.lt_count_of_tile? hhere
      cases hstep : (movingView board rules p).graph.step? here d a with
      | none =>
        simp [settle, attempt, Population.requireTile, hhere, hstep, bind, Except.bind, pure,
          Except.pure]
      | some there =>
        -- The step is open, so nothing is left to fail but to come to stand on the tile.
        have hsettle : settle board rules p a (some d) = .error cause ↔
            p.occupy a there = .error cause := by
          simp only [settle, attempt, Population.requireTile, hhere, hstep, bind, Except.bind]
          cases p.occupy a there <;> simp [pure, Except.pure]
        rw [hsettle, Population.occupy_eq_error_iff]
        simp [ha, Nat.not_le.2 ha, hstep]

/-- The moves fail at the first that fails, and then all moves before it are made. -/
theorem settleAll_eq_error_iff {i : Nat} :
    settleAll board rules i wishes p = (q, .error cause) ↔
      ∃ j wish outcomes, wishes[j]? = some wish ∧
        settleAll board rules i (wishes.take j) p = (q, .ok outcomes) ∧
        settle board rules q ⟨i + j⟩ wish = .error cause := by
  induction wishes generalizing i p with
  | nil => simp [settleAll]
  | cons wish rest ih =>
    cases hfirst : settle board rules p ⟨i⟩ wish with
    | error first =>
      constructor
      · intro h
        simp only [settleAll, hfirst, Prod.mk.injEq, Except.error.injEq] at h
        obtain ⟨rfl, rfl⟩ := h
        exact ⟨0, wish, [], rfl, rfl, hfirst⟩
      · rintro ⟨_ | j, wish', outcomes, hwish, hbefore, hfails⟩
        · obtain rfl : wish = wish' := Option.some.inj hwish
          obtain ⟨rfl, -⟩ : p = q ∧ [] = outcomes := by simpa [settleAll] using hbefore
          rw [Nat.add_zero, hfirst] at hfails
          simp only [settleAll, hfirst, Except.error.inj hfails]
        · -- The first move is among those that are made, although it fails.
          obtain ⟨p', o, -, hsettled, -⟩ := settleAll_cons_eq_ok_iff.1 hbefore
          rw [← settle_eq_ok_iff, hfirst] at hsettled
          cases hsettled
    | ok first =>
      obtain ⟨p', o⟩ := first
      have hrest : settleAll board rules i (wish :: rest) p = (q, .error cause) ↔
          settleAll board rules (i + 1) rest p' = (q, .error cause) := by
        simp only [settleAll, hfirst]
        rcases settleAll board rules (i + 1) rest p' with ⟨q', _ | os⟩ <;> simp [Except.map]
      rw [hrest, ih]
      constructor
      · rintro ⟨j, wish', os, hwish, hbefore, hfails⟩
        refine ⟨j + 1, wish', o :: os, hwish, ?_, ?_⟩
        · exact settleAll_cons_eq_ok_iff.2 ⟨p', o, os, settle_eq_ok_iff.1 hfirst, hbefore, rfl⟩
        · rwa [Nat.add_right_comm, Nat.add_assoc] at hfails
      · rintro ⟨_ | j, wish', outcomes, hwish, hbefore, hfails⟩
        · obtain rfl : wish = wish' := Option.some.inj hwish
          obtain ⟨rfl, -⟩ : p = q ∧ [] = outcomes := by simpa [settleAll] using hbefore
          rw [Nat.add_zero, hfirst] at hfails
          cases hfails
        · obtain ⟨p'', o', os, hsettled, hbefore', -⟩ := settleAll_cons_eq_ok_iff.1 hbefore
          obtain ⟨rfl, rfl⟩ : p' = p'' ∧ o = o' := by
            simpa [← settle_eq_ok_iff, hfirst] using hsettled
          exact ⟨j, wish', os, hwish, hbefore', by rwa [Nat.add_right_comm, Nat.add_assoc]⟩

/-! ### The tick that fails -/

namespace Game

variable {g h : Game} {e : GameError} {i : Nat} {t : TileId}

/-- What a tick that fails is meant to keep: nobody has moved, the clock stands still and the queue
is as it was. -/
structure Undisturbed (g h : Game) : Prop where
  tile?_eq : ∀ a, h.population.tile? a = g.population.tile? a
  tick_eq : h.tick = g.tick
  steering_eq : h.steering = g.steering

/-- The approved wish of agent `i` takes it to a tile of the board beyond those that the population
was made for, once the agents before it have made their moves, which leads to `p`. -/
structure Overrun (g : Game) (i : Nat) (t : TileId) (p : Population) : Prop where
  /-- The agents before `i` have made their moves, and then the way of `i` to `t` is open. -/
  way : ∃ wishes outcomes d here, approveAll g.population 0 g.proposals = .ok wishes ∧
    settleAll g.board g.rules 0 (wishes.take i) g.population = (p, .ok outcomes) ∧
    wishes[i]? = some (some d) ∧ p.tile? ⟨i⟩ = some here ∧
    (movingView g.board g.rules p).graph.step? here d ⟨i⟩ = some t
  /-- There is such a tile, but not for the population. -/
  range : g.population.tileCount ≤ t.index ∧ t.index < g.board.tileCount

/-- The agents from `i` on have not moved when agent `i` overruns. -/
theorem Overrun.tile?_eq (ho : g.Overrun i t p) (ha : i ≤ a.index) :
    p.tile? a = g.population.tile? a := by
  obtain ⟨wishes, outcomes, d, here, -, hbefore, -⟩ := ho.way
  have hle : 0 + (wishes.take i).length ≤ a.index := by
    rw [Nat.zero_add]
    exact Nat.le_trans (List.length_take_le i wishes) ha
  have hsame : (settleAll g.board g.rules 0 (wishes.take i) g.population).1.tile? a =
      g.population.tile? a := tile?_settleAll_of_outside (.inr hle)
  rwa [hbefore] at hsame

/-- If the approved moves fail, then because an agent overruns. -/
theorem overrun_of_settleAll (happroved : approveAll g.population 0 g.proposals = .ok wishes)
    (hfails : settleAll g.board g.rules 0 wishes g.population = (p, .error cause)) :
    ∃ i t, g.Overrun i t p ∧ cause = .tileOutOfRange t g.population.tileCount := by
  obtain ⟨i, wish, outcomes, hwish, hbefore, hi⟩ := settleAll_eq_error_iff.1 hfails
  rw [Nat.zero_add] at hi
  have htiles : p.tileCount = g.population.tileCount := by
    have h : (settleAll g.board g.rules 0 (wishes.take i) g.population).1.tileCount =
        g.population.tileCount := tileCount_settleAll 0 (wishes.take i)
    rwa [hbefore] at h
  obtain ⟨d, rfl, hcause⟩ := settle_eq_error_iff.1 hi
  rcases hcause with ⟨hnowhere, -⟩ | ⟨here, there, hhere, hstep, hbeyond, rfl⟩
  · -- Whoever moves was placed when its wish was approved, and nobody is taken off the board.
    have hplaced : (g.population.tile? ⟨i⟩).isSome := by
      simpa using (approveAll_eq_ok_iff.1 happroved).2 i d hwish
    have hstill : ((settleAll g.board g.rules 0 (wishes.take i) g.population).1.tile? ⟨i⟩).isSome :=
      isSome_tile?_settleAll hplaced 0 (wishes.take i)
    rw [hbefore, hnowhere] at hstill
    cases hstill
  · have hopen := (MoveGraph.step?_eq_some_iff.1 hstep).2
    obtain ⟨k, -, hadmits, -⟩ := View.accessible_iff.1 hopen
    refine ⟨i, there, ⟨?_, htiles ▸ hbeyond, Board.admits_lt hadmits⟩, by rw [htiles]⟩
    exact ⟨wishes, outcomes, d, here, happroved, hbefore, hwish, hhere, hstep⟩

/-- **What a tick that fails leaves behind.** The clock stands still. Unless a tile was out of range
the rest of what is promised holds as well. If one was, then because some agent overran: the agents
before it have made their moves, it and the agents after it have not, and the queue is empty. A tick
that runs past the last tick of the clock is left out, for it fails after it is done. -/
theorem failing_step (hfails : g.step.result = .error e) (hclock : ∀ f, e ≠ .fault f) :
    g.step.game.tick = g.tick ∧
    ((∀ t n, e ≠ .placement (.tileOutOfRange t n)) → g.Undisturbed g.step.game) ∧
    ∀ t n, e = .placement (.tileOutOfRange t n) →
      n = g.population.tileCount ∧
        g.step.game.steering = List.replicate g.population.count none ∧
        ∃ i, g.Overrun i t g.step.game.population ∧
          ∀ a : AgentId, i ≤ a.index →
            g.step.game.population.tile? a = g.population.tile? a := by
  cases happrove : approveAll g.population 0 g.proposals with
  | error e' =>
    have hstep := step_of_error happrove
    obtain rfl : e' = e := by simpa [hstep] using hfails
    obtain ⟨i, hcalls, -⟩ := approveAll_proposals_eq_error_iff.1 happrove
    refine ⟨by rw [hstep], fun _ => ⟨?_, ?_, ?_⟩, ?_⟩
    · intro a
      rw [hstep]
    · rw [hstep]
    · rw [hstep]
    · -- Whoever calls the tick off does so for another reason.
      rintro t n rfl
      cases hcalls
  | ok wishes =>
    rw [step_of_ok happrove] at hfails ⊢
    rcases hsettle : settleAll g.board g.rules 0 wishes g.population with ⟨p, cause | outcomes⟩
    · obtain ⟨i, t, hover, rfl⟩ := overrun_of_settleAll happrove hsettle
      have hout : g.carryOut wishes = ⟨{ g with
          memories := g.memoriesAfter
          steering := List.replicate g.population.count none
          population := p }, [.tickStart g.tick],
          .error (.placement (.tileOutOfRange t g.population.tileCount))⟩ := by
        simp only [carryOut, hsettle]
      rw [hout] at hfails ⊢
      obtain rfl := Except.error.inj hfails
      refine ⟨rfl, fun h => absurd rfl (h _ _), ?_⟩
      intro t' n h
      obtain ⟨rfl, rfl⟩ : t = t' ∧ g.population.tileCount = n := by simpa using h
      exact ⟨rfl, rfl, i, hover, fun a ha => hover.tile?_eq ha⟩
    · -- All moves are made, so nothing but the clock can be at fault.
      simp only [carryOut, hsettle] at hfails
      cases hnext : g.tick.next with
      | error f =>
        rw [hnext] at hfails
        exact absurd (Except.error.inj hfails).symm (hclock f)
      | ok tick =>
        rw [hnext] at hfails
        cases hfails

/-- A player and a ghost side by side on two tiles, whose board was then replaced by the corridor of
three. Both are steered east. -/
def outgrown : Game where
  config := {}
  board := .corridor
  population := {
    agents := [⟨.player, some ⟨0⟩⟩, ⟨.blinky, some ⟨1⟩⟩]
    crowds := #[[⟨0⟩], [⟨1⟩]] }
  memories := Memory.ofCount 2 0
  strategy := .unassigned
  steering := [some .east, some .east]

/-- The ghost overruns, and the player has moved by then. -/
theorem failing_step_outgrown :
    outgrown.step.result = .error (.placement (.tileOutOfRange ⟨2⟩ 2)) ∧
      outgrown.step.game.tick = outgrown.tick ∧
      outgrown.step.game.steering = [none, none] ∧
      ∃ i, outgrown.Overrun i ⟨2⟩ outgrown.step.game.population := by
  have hfails : outgrown.step.result = .error (.placement (.tileOutOfRange ⟨2⟩ 2)) := rfl
  obtain ⟨htick, -, hover⟩ := failing_step hfails nofun
  obtain ⟨-, hqueue, i, hi, -⟩ := hover ⟨2⟩ 2 rfl
  exact ⟨hfails, htick, hqueue, i, hi⟩

/-- A tick that fails does not always keep what is promised: this one moves the player and loses its
own move and that of the ghost. -/
theorem not_undisturbed_outgrown :
    outgrown.step.result = .error (.placement (.tileOutOfRange ⟨2⟩ 2)) ∧
      outgrown.step.game.population.tile? ⟨0⟩ ≠ outgrown.population.tile? ⟨0⟩ ∧
      outgrown.step.game.steering ≠ outgrown.steering ∧
      ¬ ∀ (g : Game) (e : GameError), g.step.result = .error e → g.Undisturbed g.step.game := by
  have hfails : outgrown.step.result = .error (.placement (.tileOutOfRange ⟨2⟩ 2)) := rfl
  have hmoved : outgrown.step.game.population.tile? ⟨0⟩ ≠ outgrown.population.tile? ⟨0⟩ := by
    decide
  have hlost : outgrown.step.game.steering ≠ outgrown.steering := by decide
  refine ⟨hfails, hmoved, hlost, fun hpromise => ?_⟩
  exact hmoved ((hpromise outgrown _ hfails).tile?_eq ⟨0⟩)

end Game

end MazeChase
