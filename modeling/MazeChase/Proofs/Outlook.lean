import MazeChase.Strategy

/-!
# What a decision depends on

The behaviours that come with the game look at little of the world: where the agent stands, which
steps are open to it, how far apart tiles are and where the target is. Two worlds that agree on this
for an agent are the same to it, however much they differ otherwise. A rule of its own may look at
anything, so nothing of the kind holds of `Behavior.custom`.

## Main definitions

* `Behavior.isStandard`, `Strategy.isStandard` — nothing but the behaviours that come with the game
* `View.Alike` — two worlds are the same to an agent

## Main results

* `Behavior.decide_congr`, `Strategy.decide_congr` — in worlds that are the same to it an agent
  decides the same
-/

namespace MazeChase

/-- Whether a behaviour is one of those that come with the game. -/
def Behavior.isStandard : Behavior → Bool
  | custom _ => false
  | _ => true

/-- Whether all behaviours of a strategy are standard, through all strategies inside one another. -/
def Strategy.isStandard : Strategy → Bool
  | uniform behavior => behavior.isStandard
  | unassigned => true
  | assign rest _ chosen => rest.isStandard && chosen.isStandard

/-- Two worlds are the same to agent `a`. -/
structure View.Alike (a : AgentId) (v w : View) : Prop where
  tileOf_eq : v.tileOf a = w.tileOf a
  step?_eq : ∀ t d, v.graph.step? t d a = w.graph.step? t d a
  distance_eq : v.distance = w.distance
  target_eq : v.target = w.target

variable {a : AgentId} {v w : View}

namespace MoveGraph

variable {g h : MoveGraph}

theorem directions_congr (hstep : ∀ t d, g.step? t d a = h.step? t d a) (t : TileId) :
    g.directions t a = h.directions t a := by
  simp only [directions, hstep]

theorem randomMove_congr {σ : Type} [WordSource σ] (hstep : ∀ t d, g.step? t d a = h.step? t d a)
    (t : TileId) (s : σ) : g.randomMove t a s = h.randomMove t a s := by
  simp only [randomMove, randomMoveWithin, directions_congr hstep]

theorem stepToward_congr (hstep : ∀ t d, g.step? t d a = h.step? t d a)
    (distance : TileId → TileId → Option UInt32) (t goal : TileId) :
    g.stepToward distance t goal a = h.stepToward distance t goal a := by
  simp only [stepToward, hstep]

end MoveGraph

theorem DecisionRule.fromTile_congr
    {rule : AgentId → View → Memory → TileId → Option Direction × Memory}
    (htile : v.tileOf a = w.tileOf a) (hrule : ∀ m t, rule a v m t = rule a w m t) (m : Memory) :
    DecisionRule.fromTile rule a v m = DecisionRule.fromTile rule a w m := by
  simp only [fromTile, htile, hrule]

namespace Behavior

theorem wanderFrom_congr (h : v.Alike a w) (m : Memory) (t : TileId) :
    wanderFrom a v m t = wanderFrom a w m t := by
  simp only [wanderFrom, MoveGraph.randomMove_congr h.step?_eq]

theorem headFor_congr (h : v.Alike a w) (goal : Option TileId) (m : Memory) (t : TileId) :
    headFor goal a v m t = headFor goal a w m t := by
  simp only [headFor, h.distance_eq, MoveGraph.stepToward_congr h.step?_eq, wanderFrom_congr h]

theorem goal?_congr (h : v.distance = w.distance) (rule : ShyRule) (target : Option TileId)
    (t : TileId) : rule.goal? v target t = rule.goal? w target t := by
  simp only [ShyRule.goal?, h]

/-- A standard behaviour makes the same of two worlds that are the same to the agent. -/
theorem decide_congr {b : Behavior} (hb : b.isStandard = true) (h : v.Alike a w) (m : Memory) :
    b.decide a v m = b.decide a w m := by
  cases b with
  | idle =>
    simp only [decide]
    apply DecisionRule.fromTile_congr h.tileOf_eq
    intro m t
    rfl
  | wander =>
    simp only [decide]
    apply DecisionRule.fromTile_congr h.tileOf_eq
    exact wanderFrom_congr h
  | pursue =>
    simp only [decide]
    apply DecisionRule.fromTile_congr h.tileOf_eq
    intro m t
    simp only [h.target_eq]
    exact headFor_congr h _ _ t
  | shy rule =>
    simp only [decide]
    apply DecisionRule.fromTile_congr h.tileOf_eq
    intro m t
    simp only [h.target_eq, goal?_congr h.distance_eq]
    exact headFor_congr h _ _ t
  | custom rule => cases hb

end Behavior

/-- So does a strategy that is made of standard behaviours, if the agent is of the same kind. -/
theorem Strategy.decide_congr {s : Strategy} (hs : s.isStandard = true)
    (hkind : v.population.kind? a = w.population.kind? a) (h : v.Alike a w) (m : Memory) :
    s.decide a v m = s.decide a w m := by
  induction s with
  | uniform behavior => exact Behavior.decide_congr hs h m
  | unassigned => exact Behavior.decide_congr (b := .idle) rfl h m
  | assign rest kind chosen ihr ihc =>
    simp only [isStandard, Bool.and_eq_true] at hs
    simp only [decide, hkind, ihr hs.1, ihc hs.2]

end MazeChase
