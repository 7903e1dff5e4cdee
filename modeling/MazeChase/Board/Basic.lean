import MazeChase.Ident
import MazeChase.Position
import MazeChase.Terrain

/-!
# Boards

A board is a list of tiles, each with its position, its terrain and its exits: for every direction
the tile one step away, if there is one. Exits need not lead back and need not follow the grid.
Some tiles are marked as the places where players and ghosts begin.

## Main definitions

* `Tile`, `Board` — a board and its parts
* `Board.neighbor`, `Board.terrain?`, `Board.position?`, `Board.tileAt` — what is known of a tile
* `Board.admits` — whether a kind may stand on a tile
* `Board.distance` — the grid distance of two tiles
* `Board.oneWayLinks` — the exits that do not lead back

## Main results

* `Board.admits_lt` — only tiles of the board admit anyone
* `Board.distance_eq_some_iff`, `Board.distance_eq_none_iff` — which distances are known
-/

namespace MazeChase

/-- One tile of a board. -/
structure Tile where
  /-- Where the tile lies on the grid. -/
  position : Position
  /-- What the tile is made of. -/
  terrain : Terrain
  /-- The tile one step away in each direction. -/
  exits : Compass (Option TileId)
deriving DecidableEq, Repr

/-- A graph of tiles with terrain. -/
structure Board where
  /-- The tiles; an identifier is a place in this list. -/
  tiles : List Tile
  /-- The tiles on which players begin, in the order in which they are filled. -/
  playerSpawns : List TileId
  /-- The tiles on which ghosts begin, in the order in which they are filled. -/
  ghostSpawns : List TileId
deriving DecidableEq, Repr

namespace Board

/-- The number of tiles. -/
def tileCount (b : Board) : Nat := b.tiles.length

/-- Whether the board has no tiles. -/
def isEmpty (b : Board) : Bool := b.tiles.isEmpty

/-- The identifiers of all tiles, ascending. -/
def tileIds (b : Board) : List TileId := (List.range b.tileCount).map TileId.mk

/-- The tile that an identifier names. -/
def tile? (b : Board) (t : TileId) : Option Tile := b.tiles[t.index]?

/-- Whether an identifier names a tile of the board. -/
def contains (b : Board) (t : TileId) : Bool := t.index < b.tileCount

/-- The tile one step away. -/
def neighbor (b : Board) (t : TileId) (d : Direction) : Option TileId :=
  (b.tile? t).bind fun tile => tile.exits.get d

/-- The four sides of a tile in canonical order, each with the tile there. -/
def neighbors (b : Board) (t : TileId) : List (Direction × Option TileId) :=
  Direction.all.map fun d => (d, b.neighbor t d)

/-- What a tile is made of. -/
def terrain? (b : Board) (t : TileId) : Option Terrain := (b.tile? t).map Tile.terrain

/-- Where a tile lies. -/
def position? (b : Board) (t : TileId) : Option Position := (b.tile? t).map Tile.position

/-- The positions of all tiles, in the order of the tiles. -/
def positions (b : Board) : List Position := b.tiles.map Tile.position

/-- The tile at a position. -/
def tileAt (b : Board) (p : Position) : Option TileId := (b.positions.idxOf? p).map TileId.mk

/-- Whether the terrain of a tile admits a kind; a tile that is not there admits nobody. -/
def admits (b : Board) (t : TileId) (k : AgentKind) : Bool :=
  (b.terrain? t).any fun terrain => terrain.admits k

/-- The grid distance of two tiles of the board. -/
def distance (b : Board) (t u : TileId) : Option UInt32 := do
  let p ← b.position? t
  let q ← b.position? u
  return p.distance q

/-- The exits, by tile and direction, whose tile does not lead back. -/
def oneWayLinks (b : Board) : List (TileId × Direction) :=
  b.tileIds.flatMap fun t =>
    (Direction.all.filter fun d =>
      (b.neighbor t d).any fun u => b.neighbor u d.opposite != some t).map (t, ·)

@[simp] theorem mem_tileIds {b : Board} {t : TileId} : t ∈ b.tileIds ↔ t.index < b.tileCount := by
  rcases t with ⟨i⟩
  simp [tileIds]

theorem tile?_eq_none_iff {b : Board} {t : TileId} :
    b.tile? t = none ↔ b.tileCount ≤ t.index := by
  simp [tile?, tileCount]

theorem lt_of_tile? {b : Board} {t : TileId} {tile : Tile} (h : b.tile? t = some tile) :
    t.index < b.tileCount :=
  (List.getElem?_eq_some_iff.1 h).1

theorem position?_eq_none_iff {b : Board} {t : TileId} :
    b.position? t = none ↔ b.tileCount ≤ t.index := by
  rw [position?, Option.map_eq_none_iff, tile?_eq_none_iff]

theorem exists_position? {b : Board} {t : TileId} (h : t.index < b.tileCount) :
    ∃ p, b.position? t = some p := by
  rw [← Option.ne_none_iff_exists', ne_eq, position?_eq_none_iff]
  exact Nat.not_le_of_lt h

theorem distance_of_position? {b : Board} {t u : TileId} {p q : Position}
    (hp : b.position? t = some p) (hq : b.position? u = some q) :
    b.distance t u = some (p.distance q) := by
  simp [distance, hp, hq]

theorem distance_eq_some_iff {b : Board} {t u : TileId} {w : UInt32} :
    b.distance t u = some w ↔
      ∃ p q, b.position? t = some p ∧ b.position? u = some q ∧ p.distance q = w := by
  simp only [distance, Option.bind_eq_bind, Option.bind_eq_some_iff, Option.pure_def,
    Option.some.injEq]
  constructor
  · rintro ⟨p, hp, q, hq, rfl⟩
    exact ⟨p, q, hp, hq, rfl⟩
  · rintro ⟨p, q, hp, hq, rfl⟩
    exact ⟨p, hp, q, hq, rfl⟩

theorem distance_eq_none_iff {b : Board} {t u : TileId} :
    b.distance t u = none ↔ b.tileCount ≤ t.index ∨ b.tileCount ≤ u.index := by
  rw [← position?_eq_none_iff, ← position?_eq_none_iff, distance]
  cases b.position? t <;> cases b.position? u <;> simp

theorem admits_lt {b : Board} {t : TileId} {k : AgentKind} (h : b.admits t k = true) :
    t.index < b.tileCount := by
  simp only [admits, terrain?, Option.any_map, Option.any_eq_true] at h
  obtain ⟨tile, htile, -⟩ := h
  exact lt_of_tile? htile

end Board

end MazeChase
