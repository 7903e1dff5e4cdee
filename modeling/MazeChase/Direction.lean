/-!
# Directions

An agent moves one tile at a time in one of four cardinal directions. Every scan over the
neighbours of a tile uses one canonical order: north, south, east, west.

## Main definitions

* `Direction`, `Direction.all` — the four directions in canonical order
* `Direction.opposite`, `Direction.delta` — the way back and the unit step; `y` grows southwards
* `Compass` — one value for each direction

## Main results

* `Direction.opposite_opposite` — the way back of the way back is the way itself
* `Compass.get_ofFn`, `Compass.ext_get` — how a table is read after it is made, and that its values
  make it
-/

namespace MazeChase

/-- One of the four cardinal directions of a move. -/
inductive Direction where
  | north
  | south
  | east
  | west
deriving DecidableEq, Repr, Inhabited

namespace Direction

/-- All directions in canonical order. -/
def all : List Direction := [north, south, east, west]

@[simp] theorem mem_all (d : Direction) : d ∈ all := by
  cases d <;> simp [all]

theorem nodup_all : all.Nodup := by decide

/-- The direction that leads back. -/
def opposite : Direction → Direction
  | north => south
  | south => north
  | east => west
  | west => east

@[simp] theorem opposite_opposite (d : Direction) : d.opposite.opposite = d := by
  cases d <;> rfl

/-- The unit step `(dx, dy)` of a direction; `y` grows southwards, so row 0 of a map is its top. -/
def delta : Direction → Int32 × Int32
  | north => (0, -1)
  | south => (0, 1)
  | east => (1, 0)
  | west => (-1, 0)

/-- The place of a direction in the canonical order, from 0. -/
def ordinal : Direction → Nat
  | north => 0
  | south => 1
  | east => 2
  | west => 3

@[simp] theorem getElem?_all_ordinal (d : Direction) : all[d.ordinal]? = some d := by
  cases d <;> rfl

theorem pairwise_all : all.Pairwise fun d e => d.ordinal < e.ordinal := by decide

theorem ordinal_injective {d e : Direction} (h : d.ordinal = e.ordinal) : d = e := by
  have hd := getElem?_all_ordinal d
  rw [h, getElem?_all_ordinal] at hd
  exact (Option.some.inj hd).symm

instance : Ord Direction := ⟨fun d e => compare d.ordinal e.ordinal⟩

/-- The name of a direction in running text. -/
def name : Direction → String
  | north => "north"
  | south => "south"
  | east => "east"
  | west => "west"

/-- The name of a direction as a constant of the data format. -/
def title : Direction → String
  | north => "North"
  | south => "South"
  | east => "East"
  | west => "West"

instance : ToString Direction := ⟨name⟩

end Direction

/-- A table with one value for each direction. -/
structure Compass (α : Type) where
  /-- The value to the north. -/
  north : α
  /-- The value to the south. -/
  south : α
  /-- The value to the east. -/
  east : α
  /-- The value to the west. -/
  west : α
deriving DecidableEq, Repr

namespace Compass

variable {α : Type}

/-- The table of a function. -/
def ofFn (f : Direction → α) : Compass α := ⟨f .north, f .south, f .east, f .west⟩

/-- The value in direction `d`. -/
def get (c : Compass α) : Direction → α
  | .north => c.north
  | .south => c.south
  | .east => c.east
  | .west => c.west

@[simp] theorem get_ofFn (f : Direction → α) (d : Direction) : (ofFn f).get d = f d := by
  cases d <;> rfl

@[ext] theorem ext_get {c c' : Compass α} (h : ∀ d, c.get d = c'.get d) : c = c' := by
  cases c
  cases c'
  simp only [mk.injEq]
  exact ⟨h .north, h .south, h .east, h .west⟩

end Compass

end MazeChase
