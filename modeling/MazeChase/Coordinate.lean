/-!
# Coordinates

Columns and rows of a board are 32-bit signed integers, so a board may reach to the very ends of
that range. This file fixes the arithmetic on them: a checked sum, the distance between two
coordinates as an unsigned word, the sum of two distances that stops at the largest word, and the
cyclic shift of an interval that tunnels use.

## Main definitions

* `Coordinate.add?` — the sum, if it is a coordinate
* `Coordinate.gap` — the distance of two coordinates
* `Coordinate.satAdd` — the sum of two distances, at most the largest word
* `Coordinate.wrap` — the cyclic shift of `lo, …, hi`

## Main results

* `Coordinate.add?_eq_some_iff` — a sum is given if it is a coordinate, and it is the exact sum
* `Coordinate.toNat_gap` — the distance is the absolute difference
* `Coordinate.toNat_satAdd` — the saturating sum in exact numbers
* `Coordinate.toInt_wrap` — the cyclic shift in exact numbers
-/

namespace MazeChase.Coordinate

/-- The sum of two coordinates, or none if it leaves the range of a coordinate. -/
def add? (v d : Int32) : Option Int32 :=
  let sum := v.toInt + d.toInt
  if Int32.minValue.toInt ≤ sum ∧ sum ≤ Int32.maxValue.toInt then some (Int32.ofInt sum) else none

/-- The distance between two coordinates; it always fits in an unsigned word. -/
def gap (v w : Int32) : UInt32 :=
  if v ≤ w then (w - v).toUInt32 else (v - w).toUInt32

/-- The sum of two distances, or the largest word if the sum is larger still. -/
def satAdd (a b : UInt32) : UInt32 :=
  if a + b < a then 0xffffffff else a + b

/-- The remainder of `a` by a positive `b` that lies in `0, …, b - 1`. -/
def residue (a b : Int64) : Int64 :=
  let r := a % b
  if r < 0 then r + b else r

/-- The coordinate `d` after `v` on the circle `lo, …, hi`, on which `lo` follows `hi`. The
arithmetic is done on 64 bits, so an interval as wide as all coordinates has room. -/
def wrap (lo hi v d : Int32) : Int32 :=
  let span := hi.toInt64 - lo.toInt64 + 1
  let offset := v.toInt64 + d.toInt64 - lo.toInt64
  (lo.toInt64 + residue offset span).toInt32

theorem toInt_of_add? {v d s : Int32} (h : add? v d = some s) : s.toInt = v.toInt + d.toInt := by
  simp only [add?, Option.ite_none_right_eq_some, Option.some.injEq] at h
  obtain ⟨⟨hlo, hhi⟩, rfl⟩ := h
  exact Int32.toInt_ofInt_of_le hlo (Int.lt_of_le_sub_one hhi)

theorem add?_eq_some_iff {v d s : Int32} : add? v d = some s ↔ s.toInt = v.toInt + d.toInt := by
  refine ⟨toInt_of_add?, fun h => ?_⟩
  have hlo : Int32.minValue.toInt ≤ s.toInt := s.minValue_le_toInt
  have hhi : s.toInt ≤ Int32.maxValue.toInt := s.toInt_le
  rw [add?, ← h, if_pos ⟨hlo, hhi⟩, Int32.ofInt_toInt]

theorem toInt_eq_bmod_toUInt32 (v : Int32) :
    v.toInt = (v.toUInt32.toNat : Int).bmod UInt32.size := by
  rw [← UInt32.toNat_toBitVec, Int32.toBitVec_toUInt32]
  exact BitVec.toInt_eq_toNat_bmod v.toBitVec

/-- Read as an unsigned word, a wrapped difference that is not negative is the exact one. -/
theorem toNat_toUInt32_sub {v w : Int32} (h : v.toInt ≤ w.toInt) :
    ((w - v).toUInt32.toNat : Int) = w.toInt - v.toInt := by
  have hsub : ((w - v).toUInt32.toNat : Int).bmod UInt32.size =
      (w.toInt - v.toInt).bmod UInt32.size := by
    rw [← toInt_eq_bmod_toUInt32, Int32.toInt_sub]
  have hlt := (w - v).toUInt32.toNat_lt
  have hv := v.le_toInt
  have hw := w.toInt_lt
  have hmod := congrArg (· % (UInt32.size : Int)) hsub
  have hemod (n : Int) : n.bmod UInt32.size % (UInt32.size : Int) = n % (UInt32.size : Int) :=
    Int.bmod_emod
  simp only [hemod, UInt32.size] at hmod
  omega

theorem toNat_gap (v w : Int32) : (gap v w).toNat = (v.toInt - w.toInt).natAbs := by
  simp only [gap, Int32.le_iff_toInt_le]
  split
  · next h => have := toNat_toUInt32_sub h; omega
  · next h => have := toNat_toUInt32_sub (v := w) (w := v) (by omega); omega

theorem toNat_satAdd (a b : UInt32) :
    (satAdd a b).toNat = min (UInt32.size - 1) (a.toNat + b.toNat) := by
  have ha := a.toNat_lt
  have hb := b.toNat_lt
  simp only [satAdd, UInt32.lt_iff_toNat_lt, UInt32.toNat_add]
  split <;> simp <;> omega

/-! ### The cyclic shift -/

theorem toInt_add_of_fits {a b : Int64} (hlo : -0x8000000000000000 ≤ a.toInt + b.toInt)
    (hhi : a.toInt + b.toInt < 0x8000000000000000) : (a + b).toInt = a.toInt + b.toInt := by
  rw [Int64.toInt_add]
  exact Int.bmod_eq_of_le (by omega) (by omega)

theorem toInt_sub_of_fits {a b : Int64} (hlo : -0x8000000000000000 ≤ a.toInt - b.toInt)
    (hhi : a.toInt - b.toInt < 0x8000000000000000) : (a - b).toInt = a.toInt - b.toInt := by
  rw [Int64.toInt_sub]
  exact Int.bmod_eq_of_le (by omega) (by omega)

/-- The division of words leaves a remainder with the sign of the dividend, and `residue` makes the
remainder of integers of it. -/
theorem toInt_residue {a b : Int64} (hb : 0 < b.toInt) :
    (residue a b).toInt = a.toInt % b.toInt := by
  have hmod : (a % b).toInt = a.toInt.tmod b.toInt := Int64.toInt_mod a b
  have hlt := b.toInt_lt
  have hpos := Int.emod_nonneg a.toInt (Int.ne_of_gt hb)
  have hbound := Int.emod_lt_of_pos a.toInt hb
  have hzero : (0 : Int64).toInt = 0 := rfl
  rw [Int.tmod_eq_emod] at hmod
  simp only [residue, Int64.lt_iff_toInt_lt, hzero]
  split at hmod
  · rw [if_neg (by omega)]
    omega
  · split
    · rw [toInt_add_of_fits (by omega) (by omega)]
      omega
    · omega

theorem toInt_add_toInt64 (v w : Int32) : (v.toInt64 + w.toInt64).toInt = v.toInt + w.toInt := by
  have hv := v.le_toInt
  have hv' := v.toInt_lt
  have hw := w.le_toInt
  have hw' := w.toInt_lt
  rw [toInt_add_of_fits] <;> simp only [Int32.toInt_toInt64] <;> omega

theorem toInt_sub_toInt64 (v w : Int32) : (v.toInt64 - w.toInt64).toInt = v.toInt - w.toInt := by
  have hv := v.le_toInt
  have hv' := v.toInt_lt
  have hw := w.le_toInt
  have hw' := w.toInt_lt
  rw [toInt_sub_of_fits] <;> simp only [Int32.toInt_toInt64] <;> omega

/-- The number of coordinates in an interval fits into a word, even if that is all coordinates. -/
theorem toInt_span (lo hi : Int32) :
    (hi.toInt64 - lo.toInt64 + 1).toInt = hi.toInt - lo.toInt + 1 := by
  have hl := lo.le_toInt
  have hl' := lo.toInt_lt
  have hh := hi.le_toInt
  have hh' := hi.toInt_lt
  rw [toInt_add_of_fits] <;> simp only [toInt_sub_toInt64, Int64.toInt_one] <;> omega

theorem toInt_offset (lo v d : Int32) :
    (v.toInt64 + d.toInt64 - lo.toInt64).toInt = v.toInt + d.toInt - lo.toInt := by
  have hl := lo.le_toInt
  have hl' := lo.toInt_lt
  have hv := v.le_toInt
  have hv' := v.toInt_lt
  have hd := d.le_toInt
  have hd' := d.toInt_lt
  rw [toInt_sub_of_fits] <;> simp only [toInt_add_toInt64, Int32.toInt_toInt64] <;> omega

/-- Every number falls into an interval when it is taken around it. -/
theorem emod_mem {lo hi : Int} (h : lo ≤ hi) (n : Int) :
    lo ≤ lo + n % (hi - lo + 1) ∧ lo + n % (hi - lo + 1) ≤ hi := by
  have hnonneg := Int.emod_nonneg n (show hi - lo + 1 ≠ 0 by omega)
  have hbelow := Int.emod_lt_of_pos n (show 0 < hi - lo + 1 by omega)
  omega

/-- The last sum of the cyclic shift is a coordinate before it is narrowed to one. -/
theorem toInt_shifted {lo hi : Int32} (h : lo.toInt ≤ hi.toInt) (v d : Int32) :
    (lo.toInt64 + residue (v.toInt64 + d.toInt64 - lo.toInt64)
        (hi.toInt64 - lo.toInt64 + 1)).toInt =
      lo.toInt + (v.toInt + d.toInt - lo.toInt) % (hi.toInt - lo.toInt + 1) := by
  have hl := lo.le_toInt
  have hh := hi.toInt_lt
  have hmem := emod_mem h (v.toInt + d.toInt - lo.toInt)
  have hresidue : (residue (v.toInt64 + d.toInt64 - lo.toInt64)
      (hi.toInt64 - lo.toInt64 + 1)).toInt =
        (v.toInt + d.toInt - lo.toInt) % (hi.toInt - lo.toInt + 1) := by
    rw [toInt_residue] <;> simp only [toInt_span, toInt_offset]
    omega
  rw [toInt_add_of_fits] <;> simp only [hresidue, Int32.toInt_toInt64] <;> omega

/-- No sum of the cyclic shift leaves 64 bits, and the result is a coordinate. -/
theorem toInt_wrap {lo hi v : Int32} (hlo : lo ≤ v) (hhi : v ≤ hi) (d : Int32) :
    (wrap lo hi v d).toInt =
      lo.toInt + (v.toInt + d.toInt - lo.toInt) % (hi.toInt - lo.toInt + 1) := by
  have hl := lo.le_toInt
  have hh := hi.toInt_lt
  rw [Int32.le_iff_toInt_le] at hlo hhi
  have hle := Int.le_trans hlo hhi
  have hmem := emod_mem hle (v.toInt + d.toInt - lo.toInt)
  rw [wrap, Int64.toInt_toInt32, toInt_shifted hle]
  exact Int.bmod_eq_of_le (by omega) (by omega)

end MazeChase.Coordinate
