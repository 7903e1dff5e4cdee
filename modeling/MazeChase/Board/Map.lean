import MazeChase.Board.Blueprint
import MazeChase.Text.Lines

/-!
# Maps

A map is a drawing of a board with one character for each tile: the character in row `y` and
column `x` is the tile at `(x, y)`. Rows may have different lengths; where a row is too short
there is no tile. The tiles are joined as a grid.

## Main definitions

* `Cell`, `Cell.ofSymbol?` — what a map symbol stands for
* `Board.ofRows` — the board of a list of rows
* `Board.ofText` — the board of a text, without the blank lines around the map

## Main results

* `Cell.ofSymbol?_symbol` — the symbol of a terrain stands for that terrain
-/

namespace MazeChase

/-- What one character of a map stands for. -/
structure Cell where
  /-- What the tile is made of. -/
  terrain : Terrain
  /-- Whether a player begins here. -/
  player : Bool := false
  /-- Whether a ghost begins here. -/
  ghost : Bool := false
deriving DecidableEq, Repr

namespace Cell

/-- The cell for which a map symbol stands. -/
def ofSymbol? : Char → Option Cell
  | '#' => some { terrain := .wall }
  | ' ' => some { terrain := .floor }
  | '.' => some { terrain := .floor }
  | '=' => some { terrain := .playerOnly }
  | 'P' => some { terrain := .floor, player := true }
  | 'G' => some { terrain := .floor, ghost := true }
  | _ => none

@[simp] theorem ofSymbol?_symbol (t : Terrain) :
    ofSymbol? t.symbol = some { terrain := t } := by
  cases t <;> rfl

end Cell

namespace Board

/-- A character of a map with its row and its column. -/
structure Mark where
  /-- The row, from 0. -/
  row : Nat
  /-- The column, from 0. -/
  column : Nat
  /-- The character. -/
  symbol : Char
deriving DecidableEq, Repr

/-- The position at which a character lies. -/
def Mark.position (m : Mark) : Position := ⟨Int32.ofNat m.column, Int32.ofNat m.row⟩

/-- The characters of some rows, row by row, when the first row is number `row`. -/
def marksFrom (row : Nat) : List (List Char) → List Mark
  | [] => []
  | line :: rest => line.mapIdx (fun column c => ⟨row, column, c⟩) ++ marksFrom (row + 1) rest

/-- What the characters stand for, or the first one that stands for nothing. -/
def readMarks : List Mark → Except BoardError (List (Position × Cell))
  | [] => .ok []
  | m :: rest =>
    match Cell.ofSymbol? m.symbol with
    | none => .error (.unknownSymbol m.row m.column m.symbol)
    | some cell => (readMarks rest).map ((m.position, cell) :: ·)

/-- The places in a list of the entries that satisfy a test. -/
def placesOf (cells : List (Position × Cell)) (test : Cell → Bool) : List TileId :=
  ((cells.zipIdx).filter fun entry => test entry.1.2).map fun entry => ⟨entry.2⟩

/-- The blueprint of the cells of a map: a tile for each cell, joined as a grid. -/
def blueprintOf (border : Border) (cells : List (Position × Cell)) : Blueprint where
  plots := cells.map fun entry => ⟨entry.1, entry.2.terrain⟩
  grid := some border
  playerSpawns := placesOf cells Cell.player
  ghostSpawns := placesOf cells Cell.ghost

/-- The board of a list of rows. -/
def ofRows (rows : List (List Char)) (border : Border) : Except BoardError Board := do
  let cells ← readMarks (marksFrom 0 rows)
  (blueprintOf border cells).build

/-- The board of a text with one row on each line. Blank lines before and after the map are left
out, and rows are counted from the first line that is not blank. -/
def ofText (text : String) (border : Border) : Except BoardError Board :=
  ofRows (Text.trimBlank (Text.lines text.toList)) border

end Board

end MazeChase
