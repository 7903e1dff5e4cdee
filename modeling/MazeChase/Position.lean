import MazeChase.Coordinate
import MazeChase.Direction

/-!
# Positions on the grid

A position is a column and a row; row 0 is the top row. The only metric of the game is the grid
distance `|dx| + |dy|`: nothing here searches for paths.

## Main definitions

* `Position` — a column `x` and a row `y`
* `Position.step?` — the position one step away, inside the range of coordinates
* `Position.distance` — the grid distance, at most the largest 32-bit word

## Main results

* `Position.toNat_distance` — the grid distance in exact numbers
-/

namespace MazeChase

/-- A column and a row. -/
structure Position where
  /-- The column, growing eastwards. -/
  x : Int32
  /-- The row, growing southwards. -/
  y : Int32
deriving DecidableEq, Repr

namespace Position

/-- The corner of the coordinate system. -/
def origin : Position := ⟨0, 0⟩

/-- The position one step away in direction `d`, or none past the end of the coordinates. -/
def step? (p : Position) (d : Direction) : Option Position := do
  let x ← Coordinate.add? p.x d.delta.1
  let y ← Coordinate.add? p.y d.delta.2
  return ⟨x, y⟩

/-- The grid distance `|dx| + |dy|`; the largest word stands for every larger distance. -/
def distance (p q : Position) : UInt32 :=
  Coordinate.satAdd (Coordinate.gap p.x q.x) (Coordinate.gap p.y q.y)

theorem toNat_distance (p q : Position) :
    (p.distance q).toNat =
      min (UInt32.size - 1) ((p.x.toInt - q.x.toInt).natAbs + (p.y.toInt - q.y.toInt).natAbs) := by
  rw [distance, Coordinate.toNat_satAdd, Coordinate.toNat_gap, Coordinate.toNat_gap]

instance : ToString Position := ⟨fun p => s!"({p.x.toInt}, {p.y.toInt})"⟩

end Position

end MazeChase
