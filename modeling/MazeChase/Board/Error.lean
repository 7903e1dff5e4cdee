import MazeChase.Ident
import MazeChase.Position
import MazeChase.Text.Quoted

/-!
# Why a board cannot be made

## Main definitions

* `BoardError`, `BoardError.message` — the causes and their texts
-/

namespace MazeChase

/-- Why a board cannot be made. -/
inductive BoardError where
  /-- Two tiles lie at one position. -/
  | duplicatePosition (position : Position)
  /-- A link leads to a tile that was never added. -/
  | danglingLink (source target : TileId)
  /-- A link begins at, or a spawn mark names, a tile that was never added. -/
  | tileNotFound (tile : TileId)
  /-- A map has a character that stands for nothing; rows and columns count from 0. -/
  | unknownSymbol (row column : Nat) (symbol : Char)
deriving DecidableEq, Repr

namespace BoardError

/-- The text that reports the cause. -/
def message : BoardError → String
  | duplicatePosition position => s!"two tiles share grid position {position}"
  | danglingLink source target => s!"link from {source} references unknown tile {target}"
  | tileNotFound tile => s!"tile {tile} not found on board"
  | unknownSymbol row column symbol =>
    let quoted := Text.quote symbol
    s!"unknown map character {quoted} at row {row}, column {column}"

instance : ToString BoardError := ⟨message⟩

end BoardError

end MazeChase
