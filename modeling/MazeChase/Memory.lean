import MazeChase.Random.Generator

/-!
# The memory of an agent

While it decides, an agent may change nothing but its own memory: its generator and the last tile
on which it saw its target.

## Main definitions

* `Memory`, `Memory.forAgent`, `Memory.ofCount` — the memory of an agent and of a whole game
* `Memory.remember` — a sighting of the target
* `Memory.fetch` — the memory of an agent, which has to be there

## Main results

* `Memory.getElem?_ofCount` — the memory of an agent does not depend on how many agents there are
-/

namespace MazeChase

/-- What one agent may read and change while it decides. -/
structure Memory where
  /-- The agent's own source of chance. -/
  generator : Generator
  /-- The last tile on which the agent saw its target. -/
  lastTarget : Option TileId := none
deriving DecidableEq, Repr

namespace Memory

/-- The memory with which agent `a` starts a game with seed `seed`. -/
def forAgent (seed : UInt64) (a : AgentId) : Memory := { generator := .forAgent seed a }

/-- The memories of the first `n` agents of a game with seed `seed`. -/
def ofCount (n : Nat) (seed : UInt64) : List Memory :=
  (List.range n).map fun i => forAgent seed ⟨i⟩

theorem getElem?_ofCount {n i : Nat} (seed : UInt64) (h : i < n) :
    (ofCount n seed)[i]? = some (forAgent seed ⟨i⟩) := by
  simp [ofCount, h]

/-- The memory after the target was seen on a tile, or not seen at all; what was seen last is kept
in `lastTarget`. -/
def remember (m : Memory) (seen : Option TileId) : Memory :=
  { m with lastTarget := seen.or m.lastTarget }

/-- The memory of agent `a`; to ask for one that is not there is a fault. -/
def fetch (ms : List Memory) (a : AgentId) : Except Fault Memory :=
  match ms[a.index]? with
  | some m => .ok m
  | none => .error (.outOfBounds ms.length a.index)

/-- A text that shows the memory; the state of the generator is not shown. -/
def describe (m : Memory) : String :=
  let last := match m.lastTarget with
    | some t => s!"Some({t})"
    | none => "None"
  "AgentMemory \x7b rng: AgentRng(..), last_target: " ++ last ++ " \x7d"

end Memory

end MazeChase
