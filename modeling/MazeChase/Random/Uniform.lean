import MazeChase.Random.Source

/-!
# Uniform draws below a bound

A word `v` is turned into a number below `n` by the product `v * n`: its upper 64 bits are the
answer, and its lower 64 bits decide whether the word counts. Only words whose lower half lies in
the *zone* count, and the zone is chosen so that each answer has equally many of them. A word that
does not count is thrown away and the next one is tried.

## Main definitions

* `Uniform.zone`, `Uniform.index?` — which words count, and for which answer
* `Uniform.belowWithin`, `Uniform.below` — the draw

## Main results

* `Uniform.index?_lt` — an answer is below the bound
* `Uniform.belowWithin_of_some`, `Uniform.belowWithin_of_none` — one word, used or thrown away
* `Uniform.belowWithin_lt` — a draw is below its bound
-/

namespace MazeChase.Uniform

/-- The largest lower half with which a word counts: the bound is shifted to the left as far as
64 bits allow, less one. -/
def zone (n : Nat) : Nat := n <<< (63 - n.log2) - 1

/-- The number below `n` for which the word `v` stands, or none if `v` does not count. -/
def index? (n : Nat) (v : UInt64) : Option Nat :=
  let product := v.toNat * n
  if product % UInt64.size ≤ zone n then some (product / UInt64.size) else none

theorem index?_lt {n k : Nat} {v : UInt64} (h : index? n v = some k) (hn : 0 < n) : k < n := by
  simp only [index?, Option.ite_none_right_eq_some, Option.some.injEq] at h
  obtain ⟨-, rfl⟩ := h
  exact Nat.div_lt_of_lt_mul (Nat.mul_lt_mul_of_pos_right v.toNat_lt hn)

variable {σ : Type} [WordSource σ]

/-- A number below `n` from the first word that counts among the next `limit` words. If none of
them counts the answer is 0. -/
def belowWithin : (limit n : Nat) → σ → Nat × σ
  | 0, _, s => (0, s)
  | limit + 1, n, s =>
    match index? n (WordSource.next s).1 with
    | some k => (k, (WordSource.next s).2)
    | none => belowWithin limit n (WordSource.next s).2

theorem belowWithin_of_some {limit n k : Nat} {s : σ}
    (h : index? n (WordSource.next s).1 = some k) :
    belowWithin (limit + 1) n s = (k, (WordSource.next s).2) := by
  simp [belowWithin, h]

theorem belowWithin_of_none {limit n : Nat} {s : σ}
    (h : index? n (WordSource.next s).1 = none) :
    belowWithin (limit + 1) n s = belowWithin limit n (WordSource.next s).2 := by
  simp [belowWithin, h]

theorem belowWithin_lt {limit n : Nat} (s : σ) (hn : 0 < n) :
    (belowWithin limit n s).1 < n := by
  induction limit generalizing s with
  | zero => exact hn
  | succ limit ih =>
    cases h : index? n (WordSource.next s).1 with
    | some k => rw [belowWithin_of_some h]; exact index?_lt h hn
    | none => rw [belowWithin_of_none h]; exact ih _

/-- How many words a draw looks at: a generator with 256 bits of state has come back to a state
it was in before, so words beyond these bring nothing new. -/
def drawLimit : Nat := 1 <<< 256

/-- A number below `n`, each with the same chance. -/
def below (n : Nat) (s : σ) : Nat × σ := belowWithin drawLimit n s

end MazeChase.Uniform
