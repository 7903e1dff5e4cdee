import MazeChase.Memory
import MazeChase.View

/-!
# Strategies

A decision rule looks at the world and at the memory of an agent and names the direction in which
the agent wants to go, if any. A behaviour is a rule for one agent; a strategy assigns behaviours
to kinds and may be nested, so that the behaviour of a kind is again chosen by a strategy.

## Main definitions

* `DecisionRule` — any way to decide
* `Behavior`, `Behavior.decide` — idle, wander, pursue, keep away, or any rule
* `Strategy`, `Strategy.decide` — behaviours by kind
* `Strategy.behavior?` — the behaviour on which a kind ends up
* `Strategy.classic` — the four ghosts with their usual characters

## Main results

* `Strategy.decide_of_kind?` — a strategy decides as the behaviour on which the kind ends up
-/

namespace MazeChase

/-- What an agent wants: a direction, or to stay; or why it cannot decide. -/
abbrev Decision := Except DecisionError (Option Direction)

/-- A way to decide: the decision, and the memory that the agent has after it. -/
abbrev DecisionRule := AgentId → View → Memory → Decision × Memory

/-- When a shy agent runs home, and where that is. -/
structure ShyRule where
  /-- The distance to the target up to which the agent runs. -/
  threshold : UInt32 := 8
  /-- The tile to which it runs. -/
  retreat : TileId
deriving DecidableEq, Repr

/-- Where a shy agent on tile `t` runs: home, if the target is known to be near. -/
def ShyRule.goal? (rule : ShyRule) (v : View) (target : Option TileId) (t : TileId) :
    Option TileId :=
  if (target.bind (v.distance t)).any (· ≤ rule.threshold) then some rule.retreat else none

/-- How one agent behaves. -/
inductive Behavior where
  /-- It never moves. -/
  | idle
  /-- It goes in a random open direction. -/
  | wander
  /-- It goes toward the target whenever it can come closer, and else wanders. -/
  | pursue
  /-- It wanders, but runs home when the target is near. -/
  | shy (rule : ShyRule)
  /-- It follows a rule of its own. -/
  | custom (rule : DecisionRule)

/-- An assignment of behaviours to kinds. -/
inductive Strategy where
  /-- Agents of every kind behave alike. -/
  | uniform (behavior : Behavior)
  /-- No kind has a behaviour, so nobody moves. -/
  | unassigned
  /-- Agents of kind `kind` follow `chosen`, all others follow `rest`. -/
  | assign (rest : Strategy) (kind : AgentKind) (chosen : Strategy)

/-- A rule that needs a tile to decide from; without one the memory stays as it is. -/
def DecisionRule.fromTile (rule : AgentId → View → Memory → TileId → Option Direction × Memory) :
    DecisionRule := fun a v m =>
  match v.tileOf a with
  | .error e => (.error e, m)
  | .ok t =>
    let (d, m') := rule a v m t
    (.ok d, m')

namespace Behavior

/-- A random open direction, drawn from the agent's own generator. -/
def wanderFrom (a : AgentId) (v : View) (m : Memory) (t : TileId) : Option Direction × Memory :=
  let (d, generator) := v.graph.randomMove t a m.generator
  (d, { m with generator })

/-- A step toward a goal if one brings the agent closer, and else a random step. -/
def headFor (goal : Option TileId) (a : AgentId) (v : View) (m : Memory) (t : TileId) :
    Option Direction × Memory :=
  match goal.bind fun u => v.graph.stepToward v.distance t u a with
  | some d => (some d, m)
  | none => wanderFrom a v m t

/-- The decision of an agent with a behaviour. Whoever chases first notes where the target is. -/
def decide : Behavior → DecisionRule
  | idle => .fromTile fun _ _ m _ => (none, m)
  | wander => .fromTile wanderFrom
  | pursue => .fromTile fun a v m t =>
    let m' := m.remember v.target
    headFor m'.lastTarget a v m' t
  | shy rule => .fromTile fun a v m t =>
    let m' := m.remember v.target
    headFor (rule.goal? v m'.lastTarget t) a v m' t
  | custom rule => rule

end Behavior

namespace Strategy

/-- The decision of an agent under a strategy. Without a behaviour for its kind it stays. -/
def decide : Strategy → DecisionRule
  | uniform behavior => behavior.decide
  | unassigned => Behavior.idle.decide
  | assign rest kind chosen => fun a v m =>
    match v.population.kind? a with
    | none => (.error (.agentNotFound a), m)
    | some k => if k = kind then chosen.decide a v m else rest.decide a v m

/-- The behaviour on which a kind ends up, through all strategies inside one another. -/
def behavior? : Strategy → AgentKind → Option Behavior
  | uniform behavior, _ => some behavior
  | unassigned, _ => none
  | assign rest kind chosen, k => if k = kind then chosen.behavior? k else rest.behavior? k

/-- A strategy that assigns strategies to kinds in order; of two for one kind the later one
counts. -/
def assignAll (entries : List (AgentKind × Strategy)) (s : Strategy) : Strategy :=
  entries.foldl (fun rest entry => rest.assign entry.1 entry.2) s

/-- The four ghosts with their usual characters, and a player who stays: Blinky and Inky wander,
Pinky pursues, and Clyde is shy with a home. -/
def classic (clydeHome : TileId) : Strategy :=
  assignAll
    [(.player, .uniform .idle), (.blinky, .uniform .wander), (.pinky, .uniform .pursue),
      (.inky, .uniform .wander), (.clyde, .uniform (.shy { retreat := clydeHome }))]
    unassigned

/-- An agent of a known kind decides as the behaviour on which its kind ends up, or stays. -/
theorem decide_of_kind? {s : Strategy} {a : AgentId} {v : View} {k : AgentKind}
    (h : v.population.kind? a = some k) (m : Memory) :
    s.decide a v m = ((s.behavior? k).getD .idle).decide a v m := by
  induction s with
  | uniform behavior => rfl
  | unassigned => rfl
  | assign rest kind chosen ihr ihc =>
    simp only [decide, h, behavior?]
    split
    · exact ihc
    · exact ihr

end Strategy

end MazeChase
