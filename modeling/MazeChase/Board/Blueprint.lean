import MazeChase.Board.Basic
import MazeChase.Board.Error
import MazeChase.Board.Extent

/-!
# Blueprints of boards

A blueprint lists what a board is to be made of: plots with their terrain, links written by hand,
whether the plots are joined as a grid, and marks where players and ghosts begin. A board is made
of it only if the list is consistent; the first fault in a fixed order of checks is reported.

## Main definitions

* `Blueprint` — the list, with `addTile`, `link`, `linkBoth`, `connectGrid`, `markPlayer`,
  `markGhost`
* `Blueprint.fault?` — the first inconsistency
* `Blueprint.exit?` — where a side of a tile leads: the last link written for it, else the grid
* `Blueprint.build` — the board

## Main results

* `Blueprint.build_eq_ok_iff` — a board is made exactly of a consistent blueprint
-/

namespace MazeChase

/-- A tile to be laid: its position and its terrain. -/
structure Plot where
  /-- Where the tile is to lie. -/
  position : Position
  /-- What it is to be made of. -/
  terrain : Terrain
deriving DecidableEq, Repr

/-- A one-way link written by hand. -/
structure Link where
  /-- The tile that the link leaves. -/
  source : TileId
  /-- The side on which it leaves. -/
  direction : Direction
  /-- The tile to which it leads. -/
  target : TileId
deriving DecidableEq, Repr

/-- What a board is to be made of. -/
structure Blueprint where
  /-- The tiles; an identifier is a place in this list. -/
  plots : List Plot := []
  /-- The links written by hand, in the order of writing. -/
  links : List Link := []
  /-- Whether neighbouring plots are joined, and what lies beyond the edge if they are. -/
  grid : Option Border := none
  /-- Where players begin. -/
  playerSpawns : List TileId := []
  /-- Where ghosts begin. -/
  ghostSpawns : List TileId := []
deriving DecidableEq, Repr

/-- The first entry of a list that equals an earlier one, or one of `seen`. -/
def firstRepeated {α : Type} [DecidableEq α] (seen : List α) : List α → Option α
  | [] => none
  | a :: rest => if a ∈ seen then some a else firstRepeated (a :: seen) rest

namespace Blueprint

/-- The blueprint without tiles. -/
def empty : Blueprint := {}

/-- How many tiles the blueprint has. -/
def tileCount (b : Blueprint) : Nat := b.plots.length

/-- One more tile, and its identifier. -/
def addTile (b : Blueprint) (p : Position) (t : Terrain) : Blueprint × TileId :=
  ({ b with plots := b.plots ++ [⟨p, t⟩] }, ⟨b.tileCount⟩)

/-- A one-way link. -/
def link (b : Blueprint) (source : TileId) (d : Direction) (target : TileId) : Blueprint :=
  { b with links := b.links ++ [⟨source, d, target⟩] }

/-- A link and the link that leads back. -/
def linkBoth (b : Blueprint) (t : TileId) (d : Direction) (u : TileId) : Blueprint :=
  (b.link t d u).link u d.opposite t

/-- Neighbouring plots are joined; the last border given counts. -/
def connectGrid (b : Blueprint) (border : Border) : Blueprint := { b with grid := some border }

/-- A tile on which players begin. -/
def markPlayer (b : Blueprint) (t : TileId) : Blueprint :=
  { b with playerSpawns := b.playerSpawns ++ [t] }

/-- A tile on which ghosts begin. -/
def markGhost (b : Blueprint) (t : TileId) : Blueprint :=
  { b with ghostSpawns := b.ghostSpawns ++ [t] }

/-- The positions of the plots. -/
def positions (b : Blueprint) : List Position := b.plots.map Plot.position

/-! ### Consistency -/

/-- Why a link cannot be kept: the tile it leads to comes first, the tile it leaves second. -/
def linkFault? (b : Blueprint) (l : Link) : Option BoardError :=
  if b.tileCount ≤ l.target.index then some (.danglingLink l.source l.target)
  else if b.tileCount ≤ l.source.index then some (.tileNotFound l.source)
  else none

/-- Why a spawn mark cannot be kept. -/
def spawnFault? (b : Blueprint) (t : TileId) : Option BoardError :=
  if b.tileCount ≤ t.index then some (.tileNotFound t) else none

/-- The first inconsistency: positions, then links, then the marks of players and of ghosts. -/
def fault? (b : Blueprint) : Option BoardError :=
  ((firstRepeated [] b.positions).map .duplicatePosition)
    |>.or (b.links.findSome? b.linkFault?)
    |>.or ((b.playerSpawns ++ b.ghostSpawns).findSome? b.spawnFault?)

/-! ### Joining -/

/-- The target of the last link written for a side of a tile. -/
def linked? (b : Blueprint) (t : TileId) (d : Direction) : Option TileId :=
  (b.links.reverse.find? fun l => l.source = t && l.direction = d).map Link.target

/-- The tile at a position. -/
def tileAt (b : Blueprint) (p : Position) : Option TileId :=
  (b.positions.idxOf? p).map TileId.mk

/-- The tile beside position `p` in the grid, when the plots lie in the box `extent`. -/
def gridded? (b : Blueprint) (extent : Extent) (p : Position) (d : Direction) : Option TileId :=
  b.grid.bind fun border => (extent.next? border p d).bind b.tileAt

/-- Where a side of tile `t` at position `p` leads: a link written by hand wins over the grid. -/
def exit? (b : Blueprint) (extent : Extent) (t : TileId) (p : Position) (d : Direction) :
    Option TileId :=
  (b.linked? t d).or (b.gridded? extent p d)

/-- The tiles with their exits. -/
def tiles (b : Blueprint) : List Tile :=
  let extent := Extent.ofPositions b.positions
  b.plots.mapIdx fun i plot =>
    ⟨plot.position, plot.terrain, .ofFn fun d => b.exit? extent ⟨i⟩ plot.position d⟩

/-- The board of a consistent blueprint, or the first inconsistency. -/
def build (b : Blueprint) : Except BoardError Board :=
  match b.fault? with
  | some fault => .error fault
  | none => .ok ⟨b.tiles, b.playerSpawns, b.ghostSpawns⟩

theorem build_eq_ok_iff {b : Blueprint} {board : Board} :
    b.build = .ok board ↔
      b.fault? = none ∧ board = ⟨b.tiles, b.playerSpawns, b.ghostSpawns⟩ := by
  simp only [build]
  cases b.fault? <;> simp [eq_comm]

theorem build_eq_error_iff {b : Blueprint} {e : BoardError} :
    b.build = .error e ↔ b.fault? = some e := by
  simp only [build]
  cases b.fault? <;> simp

end Blueprint

end MazeChase
