import MazeChase.Board.Basic
import MazeChase.Fault
import MazeChase.Population

/-!
# Drawings

A drawing shows the part of a board with columns and rows from 0 on: a tile shows the first agent
that arrived there, or else its terrain; where there is no tile there is a blank.

## Main definitions

* `Board.extentOf` — how many columns or rows a drawing has
* `Board.figureAt` — the character at a position
* `Board.drawRows`, `Board.draw` — the drawing as rows and as a text
-/

namespace MazeChase.Board

/-- How many columns (or rows) hold all those given, counted from 0. The last coordinate of all has
none after it. -/
def extentOf (cs : List Int32) : Except Fault Nat :=
  match cs.max? with
  | none => .ok 0
  | some c => if c = Int32.maxValue then .error .additionOverflow else .ok (c.toInt + 1).toNat

/-- The number of columns of a drawing. -/
def drawnWidth (b : Board) : Except Fault Nat := extentOf (b.positions.map Position.x)

/-- The number of rows of a drawing. -/
def drawnHeight (b : Board) : Except Fault Nat := extentOf (b.positions.map Position.y)

/-- The character of a tile. -/
def figureOf (b : Board) (p : Population) (t : TileId) : Char :=
  match (p.occupants t).head?.bind p.kind? with
  | some k => k.figure
  | none => (b.terrain? t).elim ' ' Terrain.symbol

/-- The character at a position. -/
def figureAt (b : Board) (p : Population) (position : Position) : Char :=
  (b.tileAt position).elim ' ' (b.figureOf p)

/-- The rows of a drawing, from the top. -/
def drawRows (b : Board) (p : Population) : Except Fault (List (List Char)) := do
  let width ← b.drawnWidth
  let height ← b.drawnHeight
  return (List.range height).map fun y =>
    (List.range width).map fun x => b.figureAt p ⟨Int32.ofNat x, Int32.ofNat y⟩

/-- The text of a drawing: every row ends with a line feed. -/
def draw (b : Board) (p : Population) : Except Fault String :=
  (b.drawRows p).map fun rows => String.ofList (rows.flatMap (· ++ ['\n']))

end MazeChase.Board
