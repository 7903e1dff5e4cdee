import MazeChase.AgentKind

/-!
# Terrain

What a tile is made of decides who may stand on it; it never changes.

## Main definitions

* `Terrain`, `Terrain.admits` — the kinds of terrain and whom they admit
* `Terrain.symbol` — the map symbol of a terrain
-/

namespace MazeChase

/-- What a tile is made of. -/
inductive Terrain where
  /-- Open floor, for everyone. -/
  | floor
  /-- A wall, for nobody. -/
  | wall
  /-- A gate that only the player may pass. -/
  | playerOnly
deriving DecidableEq, Repr

namespace Terrain

/-- A terrain that is not given is open floor. -/
instance : Inhabited Terrain := ⟨floor⟩

/-- Whether an agent of a kind may stand on the terrain, whoever else is there. -/
def admits : Terrain → AgentKind → Bool
  | floor, _ => true
  | wall, _ => false
  | playerOnly, k => k.isPlayer

/-- The map symbol of a terrain. -/
def symbol : Terrain → Char
  | floor => ' '
  | wall => '#'
  | playerOnly => '='

/-- The name of a terrain as a constant of the data format. -/
def title : Terrain → String
  | floor => "Floor"
  | wall => "Wall"
  | playerOnly => "PlayerOnly"

/-- All kinds of terrain. -/
def all : List Terrain := [floor, wall, playerOnly]

@[simp] theorem mem_all (t : Terrain) : t ∈ all := by
  cases t <;> simp [all]

end Terrain

end MazeChase
