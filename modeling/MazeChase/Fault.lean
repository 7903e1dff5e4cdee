/-!
# Faults

A fault is a call that its caller had no right to make: the clock pushed past its last tick, a
memory asked for that is not there, a draw from an empty range. Errors of the game are values of
their own and leave the game usable; after a fault there is nothing to go on with.

## Main definitions

* `Fault`, `Fault.message` — the faults and their texts
-/

namespace MazeChase

/-- A broken precondition of a call. -/
inductive Fault where
  /-- A sum does not fit in its word. -/
  | additionOverflow
  /-- A difference would be negative. -/
  | subtractionOverflow
  /-- Place `index` was asked of a list of `length` entries. -/
  | outOfBounds (length index : Nat)
  /-- A number below 0 was asked for. -/
  | emptyRange
deriving DecidableEq, Repr

namespace Fault

/-- The text that reports a fault. -/
def message : Fault → String
  | additionOverflow => "attempt to add with overflow"
  | subtractionOverflow => "attempt to subtract with overflow"
  | outOfBounds length index =>
    s!"index out of bounds: the len is {length} but the index is {index}"
  | emptyRange => "cannot sample empty range"

instance : ToString Fault := ⟨message⟩

end Fault

end MazeChase
