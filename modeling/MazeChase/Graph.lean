import MazeChase.Direction
import MazeChase.Ident
import MazeChase.Random.Uniform

/-!
# Moves in a graph of tiles

All that a decision needs to know of the world is which tile lies in a direction and whether the
agent may enter it now. Over any such graph there are two ways to choose a move: at random among
the open directions, or greedily toward a goal.

## Main definitions

* `MoveGraph` — neighbours and accessibility
* `MoveGraph.step?`, `MoveGraph.directions` — where an agent may go
* `MoveGraph.randomMove` — each open direction with the same chance
* `MoveGraph.stepToward` — the open direction that comes closest to a goal, if it comes closer

## Main results

* `MoveGraph.mem_directions` — which directions are open
* `MoveGraph.mem_of_randomMove` — a random move goes in an open direction
-/

namespace MazeChase

/-- Neighbours of tiles, and who may enter which tile. The two need not fit together, and a link
need not lead back. -/
structure MoveGraph where
  /-- The tile one step away. -/
  neighbor : TileId → Direction → Option TileId
  /-- Whether an agent may enter a tile right now. -/
  accessible : TileId → AgentId → Bool

namespace MoveGraph

variable {g : MoveGraph} {t : TileId} {a : AgentId} {d : Direction}

/-- The tile to which a step leads, if the agent may make it. -/
def step? (g : MoveGraph) (t : TileId) (d : Direction) (a : AgentId) : Option TileId :=
  (g.neighbor t d).filter fun u => g.accessible u a

/-- The directions in which an agent may leave a tile, in canonical order. -/
def directions (g : MoveGraph) (t : TileId) (a : AgentId) : List Direction :=
  Direction.all.filter fun d => (g.step? t d a).isSome

theorem step?_eq_some_iff {u : TileId} :
    g.step? t d a = some u ↔ g.neighbor t d = some u ∧ g.accessible u a = true := by
  simp [step?, Option.filter_eq_some_iff]

theorem mem_directions : d ∈ g.directions t a ↔ ∃ u, g.step? t d a = some u := by
  simp [directions, Option.isSome_iff_exists]

/-- A random open direction, and the source after the draw. Nothing is drawn when there is no
choice. Among two or more directions at most `limit` words are looked at. -/
def randomMoveWithin {σ : Type} [WordSource σ] (limit : Nat) (g : MoveGraph) (t : TileId)
    (a : AgentId) (s : σ) : Option Direction × σ :=
  match g.directions t a with
  | [] => (none, s)
  | [d] => (some d, s)
  | ds =>
    let (i, s') := Uniform.belowWithin limit ds.length s
    (ds[i]?, s')

/-- A random open direction, each with the same chance, and the source after the draw. -/
def randomMove {σ : Type} [WordSource σ] (g : MoveGraph) (t : TileId) (a : AgentId) (s : σ) :
    Option Direction × σ :=
  g.randomMoveWithin Uniform.drawLimit t a s

theorem mem_of_randomMove {σ : Type} [WordSource σ] {limit : Nat} {s : σ}
    (h : (g.randomMoveWithin limit t a s).1 = some d) : d ∈ g.directions t a := by
  simp only [randomMoveWithin] at h
  split at h
  · simp at h
  · next heq => simp only [Option.some.injEq] at h; simp [heq, h]
  · exact List.mem_of_getElem? h

/-- The first of the closest: of some directions with their distances, one with the least distance,
and of those the first. -/
def closest : List (UInt32 × Direction) → Option (UInt32 × Direction)
  | [] => none
  | e :: rest =>
    match closest rest with
    | none => some e
    | some best => if best.1 < e.1 then some best else some e

/-- The open direction that brings the agent closest to the goal, if that is closer than it is now.
Where the distance is not known a tile does not count. -/
def stepToward (g : MoveGraph) (distance : TileId → TileId → Option UInt32) (t goal : TileId)
    (a : AgentId) : Option Direction := do
  let here ← distance t goal
  let closer := Direction.all.filterMap fun d => do
    let u ← g.step? t d a
    let there ← distance u goal
    if there < here then some (there, d) else none
  let best ← closest closer
  return best.2

end MoveGraph

end MazeChase
