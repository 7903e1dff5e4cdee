import MazeChase.Position

/-!
# The extent of a board

The tiles of a board lie in a smallest box. A step that leaves the box either leads nowhere or
comes back in on the far side, through a tunnel.

## Main definitions

* `Extent`, `Extent.ofPositions` — the smallest box around some positions
* `Border` — whether the edge of the box is solid or has tunnels
* `Extent.next?` — the position one step away inside the box
-/

namespace MazeChase

/-- What becomes of a step off the edge of the box around a board. -/
inductive Border where
  /-- There is nothing beyond the edge. -/
  | solid
  /-- The step comes in on the far side. -/
  | tunnels
deriving DecidableEq, Repr

/-- A box of positions, both corners included. -/
structure Extent where
  /-- The corner with the least column and row. -/
  low : Position
  /-- The corner with the greatest column and row. -/
  high : Position
deriving DecidableEq, Repr

namespace Extent

/-- The box that holds no position, around which every box grows. -/
def empty : Extent :=
  ⟨⟨Int32.maxValue, Int32.maxValue⟩, ⟨Int32.minValue, Int32.minValue⟩⟩

/-- The box grown by one position. -/
def insert (e : Extent) (p : Position) : Extent :=
  ⟨⟨min e.low.x p.x, min e.low.y p.y⟩, ⟨max e.high.x p.x, max e.high.y p.y⟩⟩

/-- The smallest box around some positions. -/
def ofPositions (ps : List Position) : Extent := ps.foldl insert empty

/-- Whether a position lies in the box. -/
def contains (e : Extent) (p : Position) : Bool :=
  e.low.x ≤ p.x && p.x ≤ e.high.x && e.low.y ≤ p.y && p.y ≤ e.high.y

/-- The position one step away on the torus that the box becomes when its opposite edges meet. -/
def wrap (e : Extent) (p : Position) (d : Direction) : Position :=
  ⟨Coordinate.wrap e.low.x e.high.x p.x d.delta.1, Coordinate.wrap e.low.y e.high.y p.y d.delta.2⟩

/-- The position one step away inside the box; off the edge, what the border makes of it. -/
def next? (e : Extent) (border : Border) (p : Position) (d : Direction) : Option Position :=
  match (p.step? d).filter e.contains, border with
  | some q, _ => some q
  | none, .solid => none
  | none, .tunnels => some (e.wrap p d)

end Extent

end MazeChase
