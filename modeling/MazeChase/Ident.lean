/-!
# Identifiers

Agents and tiles are named by the place they take in their list, counted from 0. There is no
identifier that means "nobody" or "nowhere": absence is always an `Option`.

## Main definitions

* `AgentId`, `TileId` — the place of an agent and of a tile
* `AgentId.ofNat?`, `TileId.ofNat?` — a number from outside as an identifier, which has 32 bits
-/

namespace MazeChase

/-- An identifier that comes from outside is below this bound. -/
def identLimit : Nat := UInt32.size

/-- The place of an agent in the list of agents. -/
structure AgentId where
  /-- The place, from 0. -/
  index : Nat
deriving DecidableEq, Repr

/-- The place of a tile in the list of tiles. -/
structure TileId where
  /-- The place, from 0. -/
  index : Nat
deriving DecidableEq, Repr

namespace AgentId

/-- The identifier with number `n`, or none if `n` needs more than 32 bits. -/
def ofNat? (n : Nat) : Option AgentId := if n < identLimit then some ⟨n⟩ else none

@[simp] theorem ofNat?_eq_some_iff {n : Nat} {a : AgentId} :
    ofNat? n = some a ↔ n < identLimit ∧ a.index = n := by
  rcases a with ⟨i⟩
  simp [ofNat?, eq_comm]

instance : Ord AgentId := ⟨fun a b => compare a.index b.index⟩

instance : ToString AgentId := ⟨fun a => s!"AgentId({a.index})"⟩

end AgentId

namespace TileId

/-- The identifier with number `n`, or none if `n` needs more than 32 bits. -/
def ofNat? (n : Nat) : Option TileId := if n < identLimit then some ⟨n⟩ else none

@[simp] theorem ofNat?_eq_some_iff {n : Nat} {t : TileId} :
    ofNat? n = some t ↔ n < identLimit ∧ t.index = n := by
  rcases t with ⟨i⟩
  simp [ofNat?, eq_comm]

instance : Ord TileId := ⟨fun t u => compare t.index u.index⟩

instance : ToString TileId := ⟨fun t => s!"TileId({t.index})"⟩

end TileId

/-- The message for a number that is too large for an identifier. -/
def identRangeMessage : String := "number too large to fit in target type"

end MazeChase
