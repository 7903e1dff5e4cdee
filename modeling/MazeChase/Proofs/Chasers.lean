import MazeChase.Proofs.Decisions

/-!
# Chasers

Two behaviours chase. Whoever follows one of them knows of a target what it sees, or else what it
has seen last. The one heads for the target. The other heads for its home, but only while the target
is known to be near.

Toward a goal a chaser makes a greedy step, and then it draws nothing. Whenever it has no goal or no
greedy step leads there it is a wanderer in every respect: it goes where a wanderer would go in its
place, and its generator is left as the wanderer's would be. So it does not matter why there is no
step. No target was ever seen, the target is far away, walls are around, or the target or the home
are not even tiles of the board; no distance to such a tile is known, and that is all there is to
it.

## Main definitions

* `View.known` — where an agent takes the target to be
* `Behavior.Chases`, `Behavior.Goal` — who chases, and what it heads for
* `Behavior.ActsAs` — two behaviours decide alike and draw alike
* `Behavior.StepsOrWanders` — what a chaser does

## Main results

* `Behavior.decide_of_goal`, `Behavior.decide_of_no_step` — the two ways in which a chaser decides
* `Behavior.chasers_step_or_wander` — a chaser makes a greedy step or is a wanderer
-/

namespace MazeChase

variable {a : AgentId} {t u goal : TileId} {d : Direction} {v : View} {m : Memory}

/-- No distance to a tile that is not on the board is known. -/
theorem View.distance_eq_none (t : TileId) (h : v.board.tileCount ≤ u.index) :
    v.distance t u = none :=
  Board.distance_eq_none_iff.2 (.inr h)

/-- Toward a tile that is not on the board there is no greedy step. -/
theorem View.stepToward_eq_none (t : TileId) (a : AgentId) (h : v.board.tileCount ≤ goal.index) :
    v.graph.stepToward v.distance t goal a = none := by
  rw [MoveGraph.stepToward_eq, View.distance_eq_none t h, Option.bind_none]

/-- Where an agent takes the target to be: where it sees it, or else where it has seen it last. -/
def View.known (v : View) (m : Memory) : Option TileId := v.target.or m.lastTarget

namespace Behavior

variable {b : Behavior}

/-- The behaviours that chase. -/
inductive Chases : Behavior → Prop
  | pursue : Chases .pursue
  | shy (rule : ShyRule) : Chases (.shy rule)

/-- What a chaser on tile `t` heads for: the target that it knows of, or its home while that target
is near. -/
inductive Goal (v : View) (m : Memory) (t : TileId) : Behavior → TileId → Prop
  | target {u : TileId} (hknown : v.known m = some u) : Goal v m t .pursue u
  | home {rule : ShyRule} {u : TileId} {w : UInt32} (hknown : v.known m = some u)
      (hdistance : v.distance t u = some w) (hnear : w ≤ rule.threshold) :
      Goal v m t (.shy rule) rule.retreat

/-- An agent decides alike under two behaviours, and its generator is the same afterwards. -/
def ActsAs (b c : Behavior) (a : AgentId) (v : View) (m : Memory) : Prop :=
  (b.decide a v m).1 = (c.decide a v m).1 ∧
    (b.decide a v m).2.generator = (c.decide a v m).2.generator

/-- The goal of a chaser as it is computed. -/
def goal? (b : Behavior) (v : View) (known : Option TileId) (t : TileId) : Option TileId :=
  match b with
  | pursue => known
  | shy rule => rule.goal? v known t
  | _ => none

theorem goal?_eq_some_iff (hb : b.Chases) :
    b.goal? v (v.known m) t = some goal ↔ b.Goal v m t goal := by
  cases hb with
  | pursue =>
    constructor
    · exact .target
    · intro h
      cases h with
      | target hknown => exact hknown
  | shy rule =>
    simp only [goal?, ShyRule.goal?, Option.ite_none_right_eq_some, Option.some.injEq,
      Option.any_eq_true, Option.bind_eq_some_iff, decide_eq_true_eq]
    constructor
    · rintro ⟨⟨w, ⟨u, hknown, hdistance⟩, hnear⟩, rfl⟩
      exact .home hknown hdistance hnear
    · intro h
      cases h with
      | home hknown hdistance hnear => exact ⟨⟨_, ⟨_, hknown, hdistance⟩, hnear⟩, rfl⟩

theorem Goal.chases (h : b.Goal v m t goal) : b.Chases := by
  cases h with
  | target => exact .pursue
  | home => exact .shy _

/-- A chaser notes where the target is and heads for its goal. -/
theorem decide_of_chases (hb : b.Chases) (ht : v.tileOf a = .ok t) (m : Memory) :
    b.decide a v m =
      (.ok (headFor (b.goal? v (v.known m) t) a v (m.remember v.target) t).1,
        (headFor (b.goal? v (v.known m) t) a v (m.remember v.target) t).2) := by
  cases hb with
  | pursue =>
    rw [decide, DecisionRule.fromTile_of_ok ht]
    rfl
  | shy rule =>
    rw [decide, DecisionRule.fromTile_of_ok ht]
    rfl

/-- Toward its goal a chaser makes the greedy step, and it draws nothing. -/
theorem decide_of_goal (hgoal : b.Goal v m t goal) (ht : v.tileOf a = .ok t)
    (hstep : v.graph.stepToward v.distance t goal a = some d) :
    b.decide a v m = (.ok (some d), m.remember v.target) := by
  rw [decide_of_chases hgoal.chases ht, (goal?_eq_some_iff hgoal.chases).2 hgoal]
  simp only [headFor, Option.bind_some, hstep]

/-- Without a greedy step toward its goal, or without a goal, a chaser does what a wanderer does. -/
theorem decide_of_no_step (hb : b.Chases) (ht : v.tileOf a = .ok t)
    (hstuck : ∀ goal, b.Goal v m t goal → v.graph.stepToward v.distance t goal a = none) :
    b.decide a v m = ((wander.decide a v m).1, (wander.decide a v m).2.remember v.target) := by
  have hnone : ((b.goal? v (v.known m) t).bind fun u => v.graph.stepToward v.distance t u a) =
      none := by
    cases hgoal : b.goal? v (v.known m) t with
    | none => rfl
    | some goal => exact hstuck goal ((goal?_eq_some_iff hb).1 hgoal)
  -- The sighting is noted before the draw, which does not look at it.
  rw [decide_of_chases hb ht, decide, DecisionRule.fromTile_of_ok ht]
  simp only [headFor, hnone]
  rfl

theorem actsAs_wander_of_no_step (hb : b.Chases) (ht : v.tileOf a = .ok t)
    (hstuck : ∀ goal, b.Goal v m t goal → v.graph.stepToward v.distance t goal a = none) :
    b.ActsAs .wander a v m := by
  rw [ActsAs, decide_of_no_step hb ht hstuck]
  exact ⟨rfl, rfl⟩

/-- What an agent on tile `t` does that chases. -/
structure StepsOrWanders (b : Behavior) (a : AgentId) (v : View) (m : Memory) (t : TileId) :
    Prop where
  /-- It comes to a decision in any case. -/
  decides : ∃ wish, (b.decide a v m).1 = .ok wish
  /-- If a greedy step leads toward its goal it makes that step, and it draws nothing. -/
  steps : ∀ goal d, b.Goal v m t goal → v.graph.stepToward v.distance t goal a = some d →
    (b.decide a v m).1 = .ok (some d) ∧ (b.decide a v m).2.generator = m.generator
  /-- In all other cases it is a wanderer. -/
  wanders : (∀ goal, b.Goal v m t goal → v.graph.stepToward v.distance t goal a = none) →
    b.ActsAs .wander a v m
  /-- What it knew of the target it knows afterwards. -/
  remembers : (b.decide a v m).2.lastTarget = v.known m
  /-- A target that is not on the board is at no known distance, and it is a wanderer then, -/
  target_off : ∀ u, v.known m = some u → v.board.tileCount ≤ u.index →
    v.distance t u = none ∧ b.ActsAs .wander a v m
  /-- as it is with a home that is not on the board. -/
  home_off : ∀ rule, b = .shy rule → v.board.tileCount ≤ rule.retreat.index →
    v.distance t rule.retreat = none ∧ b.ActsAs .wander a v m

theorem lastTarget_headFor (goal : Option TileId) (a : AgentId) (v : View) (m : Memory)
    (t : TileId) : (headFor goal a v m t).2.lastTarget = m.lastTarget := by
  simp only [headFor]
  split <;> rfl

/-- **A chaser makes a greedy step or is a wanderer.** On a tile it always comes to a decision. If
it has a goal and some greedy step leads there it makes that step and draws nothing, and otherwise
it decides and draws as a wanderer does, also if the target or its home is not on the board. What it
knows of the target it has noted in any case. -/
theorem chasers_step_or_wander (hb : b.Chases) (ht : v.population.tile? a = some t) (m : Memory) :
    b.StepsOrWanders a v m t := by
  have htile : v.tileOf a = .ok t := View.tileOf_of_tile? ht
  have hwanders (hstuck : ∀ goal, b.Goal v m t goal →
      v.graph.stepToward v.distance t goal a = none) : b.ActsAs .wander a v m :=
    actsAs_wander_of_no_step hb htile hstuck
  refine ⟨⟨_, by rw [decide_of_chases hb htile]⟩, ?_, hwanders, ?_, ?_, ?_⟩
  · intro goal d hgoal hstep
    rw [decide_of_goal hgoal htile hstep]
    exact ⟨rfl, rfl⟩
  · rw [decide_of_chases hb htile, lastTarget_headFor]
    rfl
  · intro u hknown hoff
    have hdistance := View.distance_eq_none t hoff
    refine ⟨hdistance, hwanders fun goal hgoal => ?_⟩
    cases hgoal with
    | target hknown' =>
      obtain rfl : u = goal := Option.some.inj (hknown.symm.trans hknown')
      exact View.stepToward_eq_none t a hoff
    | home hknown' hnear _ =>
      -- A target at no known distance is not near, so there is no goal to begin with.
      obtain rfl := Option.some.inj (hknown.symm.trans hknown')
      rw [hdistance] at hnear
      cases hnear
  · rintro rule rfl hoff
    refine ⟨View.distance_eq_none t hoff, hwanders fun goal hgoal => ?_⟩
    cases hgoal with
    | home => exact View.stepToward_eq_none t a hoff

/-- In the ambush Blinky pursues the player to the east. As a shy ghost whose home is not on the
board it would go where a wanderer goes, though the player is near. -/
theorem chasers_step_or_wander_ambush :
    Game.ambush.view.known (.forAgent 0 ⟨1⟩) = some ⟨1⟩ ∧
      (pursue.decide ⟨1⟩ Game.ambush.view (.forAgent 0 ⟨1⟩)).1 = .ok (some .east) ∧
      (pursue.decide ⟨1⟩ Game.ambush.view (.forAgent 0 ⟨1⟩)).2.lastTarget = some ⟨1⟩ ∧
      (shy { retreat := ⟨9⟩ }).ActsAs .wander ⟨1⟩ Game.ambush.view (.forAgent 0 ⟨1⟩) := by
  have ht : Game.ambush.view.population.tile? ⟨1⟩ = some ⟨0⟩ := rfl
  have hpursues := chasers_step_or_wander .pursue ht (.forAgent 0 ⟨1⟩)
  have hshy := chasers_step_or_wander (.shy { retreat := ⟨9⟩ }) ht (.forAgent 0 ⟨1⟩)
  have hknown : Game.ambush.view.known (.forAgent 0 ⟨1⟩) = some ⟨1⟩ := rfl
  exact ⟨hknown, (hpursues.steps ⟨1⟩ .east (.target hknown) rfl).1, hpursues.remembers,
    (hshy.home_off _ rfl (by decide)).2⟩

end Behavior

end MazeChase
