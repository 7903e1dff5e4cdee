import MazeChase.Clock
import MazeChase.Strategy

/-!
# Data forms

Values of the game are kept in files as plain data: numbers, texts, lists and records. This file
says how each type is written and which data it is read from. A constant is its name. An identifier
or a tick is its number. A structure is a record with all its fields, or the list of its fields in
order; a field that it does not have is passed over.

## Main definitions

* `Datum` — plain data
* `DataForm` — how the values of a type are read and written
* `NamedConstants` — types whose values are kept by their names

## Main results

* `DataForm.read?_write_constant` — the name of a constant is read back
-/

namespace MazeChase

/-- Plain data. -/
inductive Datum where
  /-- No value. -/
  | null
  /-- A truth value. -/
  | bool (value : Bool)
  /-- A number that is written as an integer. -/
  | integer (value : Int)
  /-- A number that is written in any other way. -/
  | fraction
  /-- A text. -/
  | text (value : String)
  /-- A list. -/
  | list (items : List Datum)
  /-- A record of named fields. -/
  | record (fields : List (String × Datum))

namespace Datum

/-- An integer of a range, both ends included. -/
def integerIn? (low high : Int) : Datum → Option Int
  | integer n => if low ≤ n ∧ n ≤ high then some n else none
  | _ => none

/-- A natural number below `size`. -/
def word? (size : Nat) (d : Datum) : Option Nat := (d.integerIn? 0 (size - 1)).map Int.toNat

/-- A truth value. -/
def bool? : Datum → Option Bool
  | bool b => some b
  | _ => none

/-- The name of a constant: a text, or the only field of a record, whose value is null. -/
def name? : Datum → Option String
  | text s => some s
  | record [(s, null)] => some s
  | _ => none

/-- One of some named constants. -/
def constant? {α : Type} (title : α → String) (all : List α) (d : Datum) : Option α :=
  d.name?.bind fun s => all.find? fun a => title a = s

/-- A constant is read from its name, if no two of them have the same name. -/
theorem constant?_text {α : Type} {title : α → String} {all : List α} {x : α} (hx : x ∈ all)
    (hdistinct : all.Pairwise fun y z => title y ≠ title z) :
    constant? title all (.text (title x)) = some x := by
  obtain ⟨before, after, rfl⟩ := List.append_of_mem hx
  obtain ⟨-, -, hcross⟩ := List.pairwise_append.1 hdistinct
  have hbefore (y) (hy : y ∈ before) : title y ≠ title x := hcross y hy x List.mem_cons_self
  rw [constant?, name?, Option.bind_some, List.find?_eq_some_iff_append]
  exact ⟨decide_eq_true rfl, before, after, rfl, fun y hy => by simp [hbefore y hy]⟩

/-- The fields of a structure with the given field names, in their order. -/
def fields? (names : List String) : Datum → Option (List Datum)
  | record fields => names.mapM fun name => List.lookup name fields
  | list items => if items.length = names.length then some items else none
  | _ => none

end Datum

/-- How the values of a type are kept as plain data. -/
class DataForm (α : Type) where
  /-- The value that some data stand for. -/
  read? : Datum → Option α
  /-- The data of a value. -/
  write : α → Datum

/-- A type whose values are all listed, under names that are all different. -/
class NamedConstants (α : Type) where
  /-- The name of a constant. -/
  title : α → String
  /-- All constants. -/
  all : List α
  mem_all : ∀ x, x ∈ all
  distinct : all.Pairwise fun x y => title x ≠ title y

instance : NamedConstants Direction where
  title := Direction.title
  all := Direction.all
  mem_all := Direction.mem_all
  distinct := by decide

instance : NamedConstants AgentKind where
  title := AgentKind.title
  all := .player :: AgentKind.ghosts
  mem_all k := by cases k <;> decide
  distinct := by decide

instance : NamedConstants Terrain where
  title := Terrain.title
  all := Terrain.all
  mem_all := Terrain.mem_all
  distinct := by decide

namespace DataForm

/-- A constant is kept as its name. -/
instance {α : Type} [NamedConstants α] : DataForm α where
  read? := Datum.constant? NamedConstants.title NamedConstants.all
  write x := .text (NamedConstants.title x)

@[simp] theorem read?_write_constant {α : Type} [NamedConstants α] (x : α) :
    read? (write x) = some x :=
  Datum.constant?_text (NamedConstants.mem_all x) NamedConstants.distinct

instance : DataForm AgentId where
  read? d := (d.word? UInt32.size).map AgentId.mk
  write a := .integer a.index

instance : DataForm TileId where
  read? d := (d.word? UInt32.size).map TileId.mk
  write t := .integer t.index

instance : DataForm UInt32 where
  read? d := (d.word? UInt32.size).map UInt32.ofNat
  write n := .integer n.toNat

instance : DataForm UInt64 where
  read? d := (d.word? UInt64.size).map UInt64.ofNat
  write n := .integer n.toNat

instance : DataForm Int32 where
  read? d := (d.integerIn? Int32.minValue.toInt Int32.maxValue.toInt).map Int32.ofInt
  write n := .integer n.toInt

instance : DataForm Bool where
  read? := Datum.bool?
  write := .bool

instance : DataForm Tick where
  read? d := (read? d).map Tick.mk
  write t := write t.count

instance : DataForm Position where
  read? d := do
    let [x, y] ← d.fields? ["x", "y"] | none
    return { x := ← read? x, y := ← read? y }
  write p := .record [("x", write p.x), ("y", write p.y)]

instance : DataForm Schedule where
  read? d := do
    let names := ["seed", "total_ticks", "snapshot_interval_ticks"]
    let [seed, total, interval] ← d.fields? names | none
    return {
      seed := ← read? seed
      totalTicks := ← read? total
      snapshotInterval := ← read? interval }
  write c := .record [("seed", write c.seed), ("total_ticks", write c.totalTicks),
    ("snapshot_interval_ticks", write c.snapshotInterval)]

instance : DataForm Rules where
  read? d := do
    let [block] ← d.fields? ["ghosts_block_ghosts"] | none
    return { ghostsBlockGhosts := ← read? block }
  write r := .record [("ghosts_block_ghosts", write r.ghostsBlockGhosts)]

instance : DataForm ShyRule where
  read? d := do
    let [threshold, retreat] ← d.fields? ["threshold", "retreat"] | none
    return { threshold := ← read? threshold, retreat := ← read? retreat }
  write r := .record [("threshold", write r.threshold), ("retreat", write r.retreat)]

end DataForm

end MazeChase
