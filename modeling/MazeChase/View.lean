import MazeChase.Board.Basic
import MazeChase.Clock
import MazeChase.Graph
import MazeChase.Population

/-!
# What an agent sees

All decisions of one tick look at the same world: the board, the agents where they stood before
the tick, the tile of the target and the rules of access. The world is a graph of tiles, in which
the terrain and the agents on a tile decide who may enter it.

## Main definitions

* `Rules` — rules of access beyond the terrain
* `View`, `View.graph` — the world of a decision, and the graph that it is
* `View.tileOf` — the tile of the agent that decides
* `DecisionError`, `DecisionError.message` — why an agent cannot decide

## Main results

* `View.heldByGhost_iff`, `View.accessible_iff` — who may enter a tile
* `View.heldByGhost_eq_false` — what is known of a tile that a ghost may enter
-/

namespace MazeChase

/-- Rules of access beyond the terrain. -/
structure Rules where
  /-- A ghost may not enter a tile on which another ghost stands. -/
  ghostsBlockGhosts : Bool := false
deriving DecidableEq, Repr

/-- Why an agent cannot decide. -/
inductive DecisionError where
  /-- There is no such agent. -/
  | agentNotFound (agent : AgentId)
  /-- The agent stands nowhere. -/
  | unplaced (agent : AgentId)
deriving DecidableEq, Repr

namespace DecisionError

/-- The text that reports the cause. -/
def message : DecisionError → String
  | agentNotFound agent => s!"agent {agent} not found"
  | unplaced agent => s!"agent {agent} has no current tile; place it with `occupy` first"

instance : ToString DecisionError := ⟨message⟩

end DecisionError

/-- The world as all agents see it while they decide. -/
structure View where
  /-- The tick that is decided. -/
  tick : Tick := .zero
  /-- The tiles. -/
  board : Board
  /-- The agents and where they stand. -/
  population : Population
  /-- The tile that is chased, if it is in sight. -/
  target : Option TileId := none
  /-- The rules of access. -/
  rules : Rules := {}

namespace View

/-- The tile of an agent. An unknown agent is told from one that stands nowhere. -/
def tileOf (v : View) (a : AgentId) : Except DecisionError TileId :=
  match v.population.kind? a with
  | none => .error (.agentNotFound a)
  | some _ =>
    match v.population.tile? a with
    | none => .error (.unplaced a)
    | some t => .ok t

/-- The grid distance of two tiles of the board. -/
def distance (v : View) (t u : TileId) : Option UInt32 := v.board.distance t u

/-- Whether another ghost than `a` stands on a tile. -/
def heldByGhost (v : View) (t : TileId) (a : AgentId) : Bool :=
  (v.population.occupants t).any fun b => b ≠ a && v.population.isGhost b

/-- Whether an agent may enter a tile: the terrain has to admit its kind, and a ghost has to respect
the other ghosts if the rules say so. Unknown agents may enter nothing. -/
def accessible (v : View) (t : TileId) (a : AgentId) : Bool :=
  (v.population.kind? a).any fun k =>
    v.board.admits t k && !(v.rules.ghostsBlockGhosts && k.isGhost && v.heldByGhost t a)

theorem heldByGhost_iff {v : View} {t : TileId} {a : AgentId} (h : v.population.Consistent) :
    v.heldByGhost t a = true ↔
      ∃ b, b ≠ a ∧ v.population.isGhost b = true ∧ v.population.tile? b = some t := by
  simp only [heldByGhost, List.any_eq_true, Bool.and_eq_true, decide_eq_true_eq, h.mem_occupants]
  exact exists_congr fun b => And.comm.trans and_assoc

theorem accessible_iff {v : View} {t : TileId} {a : AgentId} :
    v.accessible t a = true ↔
      ∃ k, v.population.kind? a = some k ∧ v.board.admits t k = true ∧
        ¬ (v.rules.ghostsBlockGhosts = true ∧ k.isGhost = true ∧ v.heldByGhost t a = true) := by
  simp only [accessible, Option.any_eq_true, Bool.and_eq_true, Bool.not_eq_true',
    Bool.and_eq_false_imp, not_and, Bool.not_eq_true, and_imp]

/-- If ghosts block ghosts, a tile that a ghost may enter is held by no other ghost. -/
theorem heldByGhost_eq_false {v : View} {t : TileId} {a : AgentId}
    (hopen : v.accessible t a = true) (hrule : v.rules.ghostsBlockGhosts = true)
    (hghost : v.population.isGhost a = true) : v.heldByGhost t a = false := by
  obtain ⟨k, hk, -, hfree⟩ := accessible_iff.1 hopen
  rw [Population.isGhost_of_kind? hk] at hghost
  exact Bool.eq_false_iff.2 fun hheld => hfree ⟨hrule, hghost, hheld⟩

/-- No other ghost stands on a tile that no other ghost holds. -/
theorem ne_tile?_of_heldByGhost_eq_false {v : View} {t : TileId} {a b : AgentId}
    (hv : v.population.Consistent) (hfree : v.heldByGhost t a = false) (hab : b ≠ a)
    (hghost : v.population.isGhost b = true) : v.population.tile? b ≠ some t := by
  intro hb
  have hheld : v.heldByGhost t a = true := (heldByGhost_iff hv).2 ⟨b, hab, hghost, hb⟩
  rw [hfree] at hheld
  cases hheld

/-- The graph in which agents move. -/
def graph (v : View) : MoveGraph := ⟨v.board.neighbor, v.accessible⟩

@[simp] theorem graph_neighbor (v : View) : v.graph.neighbor = v.board.neighbor := rfl

@[simp] theorem graph_accessible (v : View) : v.graph.accessible = v.accessible := rfl

/-- A random open direction from the tile of an agent, and the source after the draw. -/
def randomMove {σ : Type} [WordSource σ] (v : View) (a : AgentId) (s : σ) :
    Except DecisionError (Option Direction) × σ :=
  match v.tileOf a with
  | .error e => (.error e, s)
  | .ok t =>
    let (d, s') := v.graph.randomMove t a s
    (.ok d, s')

end View

end MazeChase
