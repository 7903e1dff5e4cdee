import Mathlib.Data.LawfulXor.Basic
import Mathlib.Data.List.Nodup
import Mathlib.Data.List.Range
import Mathlib.Data.Nat.ModEq
import Mathlib.Data.Nat.Prime.Basic
import Mathlib.Logic.Function.Basic
import MazeChase.Memory

/-!
# The seeds of the agents

The generator of an agent is spread from a word of its own: the seed of the game, xor the number of
the agent times the mixer. The product is taken on 64 bits and drops what does not fit, so it is not
plain that two agents never get the same word. They do not, because the mixer is odd. It shares no
factor with `2 ^ 64`, so the product can be divided by it again, and the xor with the seed of the
game can be undone as well.

The number of agents does not enter. Whoever joins the game gets a seed behind the seeds of the
others, which stay as they are. And no seed of a game is better than another: the seed of an agent
runs through all words as the seed of the game does.

## Main definitions

* `Memory.ofSeed`, `Memory.seeds` — a fresh memory, and the seeds of all agents of a game
* `Memory.SeededApart` — what the seeds of some number of agents promise

## Main results

* `Word.mul_right_injective_of_odd` — odd words are factors that can be cancelled
* `Generator.agentSeed_inj` — agents with different numbers have different seeds
* `Generator.involutive_agentSeed` — the seed of an agent gives back the seed of the game
* `Memory.seeded_apart` — no two agents of a game are seeded alike
-/

namespace MazeChase

/-! ### The seed of one agent -/

/-- A product with an odd word can be divided by that word again. -/
theorem Word.mul_right_injective_of_odd {m : UInt64} (hm : Odd m.toNat) :
    Function.Injective (· * m) := by
  intro v w h
  have hmod : v.toNat * m.toNat ≡ w.toNat * m.toNat [MOD 2 ^ 64] := by
    have htoNat : (v * m).toNat = (w * m).toNat := congrArg UInt64.toNat h
    rwa [UInt64.toNat_mul, UInt64.toNat_mul] at htoNat
  -- An odd factor can be cancelled modulo `2 ^ 64`, and words are below that.
  have hcoprime : (2 ^ 64).Coprime m.toNat := (Nat.coprime_two_left.2 hm).pow_left 64
  have hvw : v.toNat ≡ w.toNat [MOD 2 ^ 64] := hmod.cancel_right_of_coprime hcoprime
  exact UInt64.toNat_inj.1 (hvw.eq_of_lt_of_lt v.toNat_lt w.toNat_lt)

namespace Generator

variable {g : UInt64} {a b : AgentId}

theorem odd_mixer : Odd mixer.toNat := by decide

/-- Agents with different numbers have different seeds, as long as the numbers are words. -/
theorem agentSeed_inj (ha : a.index < UInt64.size) (hb : b.index < UInt64.size) :
    agentSeed g a = agentSeed g b ↔ a = b := by
  constructor
  · intro h
    -- The mixing is undone from the outside: first the xor, then the product, then the word.
    have hproduct : UInt64.ofNat a.index * mixer = UInt64.ofNat b.index * mixer :=
      (UInt64.xor_right_inj g).1 h
    have hword : UInt64.ofNat a.index = UInt64.ofNat b.index :=
      Word.mul_right_injective_of_odd odd_mixer hproduct
    have hindex : a.index = b.index := by
      rw [← UInt64.toNat_ofNat_of_lt' ha, ← UInt64.toNat_ofNat_of_lt' hb, hword]
    exact congrArg AgentId.mk hindex
  · rintro rfl
    rfl

/-- A game whose seed is the seed of an agent gives that agent the seed of the first game. -/
theorem involutive_agentSeed (a : AgentId) : Function.Involutive (agentSeed · a) :=
  xor_left_involutive _

end Generator

/-! ### The seeds of all agents -/

namespace Memory

variable {n m : Nat}

/-- The memory of an agent that has seen nothing, with a generator spread from `s`. -/
def ofSeed (s : UInt64) : Memory := { generator := .ofSeed s }

/-- The seeds of the first `n` agents of a game with seed `g`, by identifier. -/
def seeds (n : Nat) (g : UInt64) : List UInt64 :=
  (List.range n).map fun i => Generator.agentSeed g ⟨i⟩

theorem ofCount_eq_map_seeds (n : Nat) (g : UInt64) : ofCount n g = (seeds n g).map ofSeed := by
  rw [seeds, List.map_map]
  rfl

theorem getElem?_seeds {i : Nat} (hi : i < n) (g : UInt64) :
    (seeds n g)[i]? = some (Generator.agentSeed g ⟨i⟩) := by
  rw [seeds, List.getElem?_map, List.getElem?_range hi, Option.map_some]

theorem nodup_seeds (hn : n ≤ UInt64.size) (g : UInt64) : (seeds n g).Nodup := by
  refine List.Nodup.map_on ?_ List.nodup_range
  intro i hi j hj h
  rw [List.mem_range] at hi hj
  have hij := (Generator.agentSeed_inj (Nat.lt_of_lt_of_le hi hn) (Nat.lt_of_lt_of_le hj hn)).1 h
  exact congrArg AgentId.index hij

/-- Newcomers leave the seeds of the others as they are. -/
theorem seeds_prefix (h : n ≤ m) (g : UInt64) : seeds n g <+: seeds m g := by
  obtain ⟨k, rfl⟩ := Nat.exists_eq_add_of_le h
  rw [seeds, seeds, List.range_add, List.map_append]
  exact List.prefix_append _ _

/-- How `n` agents are seeded, whatever the seed of the game. -/
structure SeededApart (n : Nat) : Prop where
  /-- The memories of the agents are made from their seeds, and from nothing else. -/
  made : ∀ g, ofCount n g = (seeds n g).map ofSeed
  /-- No two of the agents have the same seed. -/
  nodup : ∀ g, (seeds n g).Nodup
  /-- Among more agents they have the same seeds. -/
  joined : ∀ m, n ≤ m → m < identLimit → ∀ g, seeds n g <+: seeds m g
  /-- The seed of an agent is told by the game and by its identifier, -/
  told : ∀ i, i < n → ∀ g, (seeds n g)[i]? = some (Generator.agentSeed g ⟨i⟩)
  /-- and whoever it is, it runs through all words as the seed of the game does. -/
  bijective : ∀ a, Function.Bijective (Generator.agentSeed · a)

/-- **No two agents of a game are seeded alike.** However many agents there are that have an
identifier, and whatever the seed of the game, their seeds are all different. -/
theorem seeded_apart (hn : n < identLimit) : SeededApart n where
  made := ofCount_eq_map_seeds n
  nodup := nodup_seeds (Nat.le_trans (Nat.le_of_lt hn) (by decide))
  joined _ hm _ := seeds_prefix hm
  told _ hi := getElem?_seeds hi
  bijective a := (Generator.involutive_agentSeed a).bijective

/-- As many agents as there can be. In the game whose seed is the mixer agent 1 has seed 0, and no
other agent has. -/
theorem seeded_apart_crowd :
    4294967295 < identLimit ∧ SeededApart 4294967295 ∧
      seeds 2 Generator.mixer = [Generator.mixer, 0] :=
  ⟨by decide, seeded_apart (by decide), by decide⟩

end Memory

end MazeChase
