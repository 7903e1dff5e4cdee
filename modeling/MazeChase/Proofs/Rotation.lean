import Mathlib.Data.Int.ModEq
import Mathlib.Data.Set.Function
import MazeChase.Proofs.Torus

/-!
# The cyclic shift of an interval

A tunnel leads from one end of an interval of coordinates to the other, and the coordinate that it
leads to is computed on 64 bits. The coordinates `lo, …, hi` may be a single one and may be all of
them, and a shift may go around many times, so it is not plain that 64 bits are enough. Below the
same steps are taken once more with a test after each of them: `Coordinate.wrap?` stops at the first
number that does not fit into its word, at a division that the machine refuses, and at a last number
that is not a coordinate. It never stops.

What comes out is arithmetic on a circle. The result is the one coordinate of the interval that
differs from the exact sum by whole turns, so shifts add up, a shift is undone by the opposite
one, and every shift is a permutation of the interval.

## Main definitions

* `Word.ofInt?` — the word of a number, if there is one
* `Coordinate.wrap?` — the cyclic shift that stops where a number does not fit
* `Coordinate.arc`, `Coordinate.turn` — the coordinates on the circle, and how many they are
* `Coordinate.IsRotation` — the cyclic shift as arithmetic on a circle

## Main results

* `Coordinate.wrap?_eq_some` — the cyclic shift never stops
* `Coordinate.wrap_eq_iff` — the cyclic shift is told by its interval and by whole turns
* `Coordinate.isRotation` — every interval of coordinates is turned like a circle
-/

namespace MazeChase

/-! ### Checked words -/

namespace Word

variable {n : Int} {a b w : Int64}

/-- The word of a number, or none if the number does not fit into 64 bits. -/
def ofInt? (n : Int) : Option Int64 :=
  if Int64.minValue.toInt ≤ n ∧ n ≤ Int64.maxValue.toInt then some (Int64.ofInt n) else none

theorem ofInt?_eq_some_iff : ofInt? n = some w ↔ w.toInt = n := by
  constructor
  · intro h
    simp only [ofInt?, Option.ite_none_right_eq_some, Option.some.injEq] at h
    obtain ⟨⟨hlo, hhi⟩, rfl⟩ := h
    exact Int64.toInt_ofInt_of_le hlo (Int.lt_of_le_sub_one hhi)
  · intro h
    have hlo : Int64.minValue.toInt ≤ w.toInt := w.minValue_le_toInt
    have hhi : w.toInt ≤ Int64.maxValue.toInt := w.toInt_le
    rw [ofInt?, ← h, if_pos ⟨hlo, hhi⟩, Int64.ofInt_toInt]

/-- The exact sum. -/
def add? (a b : Int64) : Option Int64 := ofInt? (a.toInt + b.toInt)

/-- The exact difference. -/
def sub? (a b : Int64) : Option Int64 := ofInt? (a.toInt - b.toInt)

/-- The remainder of a division, or none where the machine does not divide: by zero, and where the
quotient does not fit. -/
def rem? (a b : Int64) : Option Int64 :=
  if b = 0 ∨ a = Int64.minValue ∧ b = -1 then none else some (a % b)

/-- The steps of `Coordinate.residue`, with a test after each of them. -/
def residue? (a b : Int64) : Option Int64 := do
  let r ← rem? a b
  if r < 0 then add? r b else some r

/-- The coordinate of a word, or none if narrowing the word changes the number. -/
def toCoordinate? (a : Int64) : Option Int32 :=
  if a.toInt32.toInt = a.toInt then some a.toInt32 else none

theorem add?_eq_some_iff : add? a b = some w ↔ w.toInt = a.toInt + b.toInt :=
  ofInt?_eq_some_iff

theorem sub?_eq_some_iff : sub? a b = some w ↔ w.toInt = a.toInt - b.toInt :=
  ofInt?_eq_some_iff

theorem rem?_eq_some (hb : 0 < b.toInt) (a : Int64) : rem? a b = some (a % b) := by
  have hpos : ¬(b = 0 ∨ a = Int64.minValue ∧ b = -1) := by
    rintro (rfl | ⟨-, rfl⟩) <;> exact absurd hb (by decide)
  rw [rem?, if_neg hpos]

theorem residue?_eq_some (hb : 0 < b.toInt) (a : Int64) :
    residue? a b = some (Coordinate.residue a b) := by
  rw [residue?, rem?_eq_some hb, Option.bind_eq_bind, Option.bind_some, Coordinate.residue]
  split
  · next h =>
    have hrem := (a % b).le_toInt
    have hlt := b.toInt_lt
    have hzero : (0 : Int64).toInt = 0 := rfl
    rw [Int64.lt_iff_toInt_lt, hzero] at h
    exact add?_eq_some_iff.2 (Coordinate.toInt_add_of_fits (by omega) (by omega))
  · rfl

end Word

namespace Coordinate

variable {lo hi v w d e f : Int32}

/-- The steps of the cyclic shift, with a test after each of them. -/
def wrap? (lo hi v d : Int32) : Option Int32 := do
  let width ← Word.sub? hi.toInt64 lo.toInt64
  let span ← Word.add? width 1
  let sum ← Word.add? v.toInt64 d.toInt64
  let offset ← Word.sub? sum lo.toInt64
  let ahead ← Word.residue? offset span
  let shifted ← Word.add? lo.toInt64 ahead
  Word.toCoordinate? shifted

/-! ### The circle -/

/-- The coordinates `lo, …, hi`. -/
def arc (lo hi : Int32) : Set Int32 := {v | lo ≤ v ∧ v ≤ hi}

/-- The length of a whole turn. -/
def turn (lo hi : Int32) : Int := hi.toInt - lo.toInt + 1

theorem mem_arc_iff : v ∈ arc lo hi ↔ lo.toInt ≤ v.toInt ∧ v.toInt ≤ hi.toInt :=
  and_congr Int32.le_iff_toInt_le Int32.le_iff_toInt_le

theorem toInt_le_of_mem_arc (hv : v ∈ arc lo hi) : lo.toInt ≤ hi.toInt :=
  Int.le_trans (mem_arc_iff.1 hv).1 (mem_arc_iff.1 hv).2

theorem wrap_mem_arc (hv : v ∈ arc lo hi) (d : Int32) : wrap lo hi v d ∈ arc lo hi :=
  wrap_mem hv.1 hv.2 d

theorem wrap_modEq (hv : v ∈ arc lo hi) (d : Int32) :
    (wrap lo hi v d).toInt ≡ v.toInt + d.toInt [ZMOD turn lo hi] :=
  (Int.modEq_iff_dvd.2 (dvd_wrap_sub hv.1 hv.2 d)).symm

/-- The circle has no two coordinates for one number. -/
theorem eq_of_modEq (hv : v ∈ arc lo hi) (hw : w ∈ arc lo hi)
    (h : v.toInt ≡ w.toInt [ZMOD turn lo hi]) : v = w := by
  rw [mem_arc_iff] at hv hw
  have hturns := Int.modEq_iff_dvd.1 h.symm
  exact Int32.toInt_inj.1 (Extent.IsBeside.eq_of_dvd hv hw hturns (by simp))

/-- The circle has a coordinate for every number. -/
theorem exists_mem_arc_modEq (hv : v ∈ arc lo hi) (n : Int) :
    ∃ u ∈ arc lo hi, u.toInt ≡ n [ZMOD turn lo hi] := by
  have hl := lo.le_toInt
  have hh := hi.toInt_lt
  obtain ⟨hfirst, hlast⟩ : lo.toInt ≤ lo.toInt + (n - lo.toInt) % turn lo hi ∧
      lo.toInt + (n - lo.toInt) % turn lo hi ≤ hi.toInt := emod_mem (toInt_le_of_mem_arc hv) _
  let u := Int32.ofInt (lo.toInt + (n - lo.toInt) % turn lo hi)
  have hu : u.toInt = lo.toInt + (n - lo.toInt) % turn lo hi :=
    Int32.toInt_ofInt_of_le (by omega) (by omega)
  refine ⟨u, mem_arc_iff.2 (by omega), ?_⟩
  calc u.toInt
      = lo.toInt + (n - lo.toInt) % turn lo hi := hu
    _ ≡ lo.toInt + (n - lo.toInt) [ZMOD turn lo hi] := (Int.mod_modEq _ _).add_left _
    _ = n := by omega

/-- The cyclic shift is told by its interval and by whole turns. -/
theorem wrap_eq_iff (hv : v ∈ arc lo hi) :
    wrap lo hi v d = w ↔ w ∈ arc lo hi ∧ w.toInt ≡ v.toInt + d.toInt [ZMOD turn lo hi] := by
  constructor
  · rintro rfl
    exact ⟨wrap_mem_arc hv d, wrap_modEq hv d⟩
  · rintro ⟨hw, hmod⟩
    exact eq_of_modEq (wrap_mem_arc hv d) hw ((wrap_modEq hv d).trans hmod.symm)

/-! ### Shifts -/

/-- The cyclic shift never stops. -/
theorem wrap?_eq_some (hv : v ∈ arc lo hi) (d : Int32) :
    wrap? lo hi v d = some (wrap lo hi v d) := by
  have hle := toInt_le_of_mem_arc hv
  let span := hi.toInt64 - lo.toInt64 + 1
  let offset := v.toInt64 + d.toInt64 - lo.toInt64
  let shifted := lo.toInt64 + residue offset span
  have hspan : 0 < span.toInt := by
    rw [toInt_span]
    omega
  have hshifted : shifted.toInt =
      lo.toInt + (v.toInt + d.toInt - lo.toInt) % (hi.toInt - lo.toInt + 1) :=
    toInt_shifted hle v d
  simp only [wrap?, Option.bind_eq_bind, Option.bind_eq_some_iff, Word.add?_eq_some_iff,
    Word.sub?_eq_some_iff]
  -- The words that the shift goes through. Each of them has to stand for the exact number.
  refine ⟨hi.toInt64 - lo.toInt64, ?width, span, ?span, v.toInt64 + d.toInt64, ?sum, offset,
    ?offset, residue offset span, Word.residue?_eq_some hspan offset, shifted, ?shifted,
    if_pos ?narrow⟩
  case width => rw [toInt_sub_toInt64, Int32.toInt_toInt64, Int32.toInt_toInt64]
  case span => rw [toInt_span, toInt_sub_toInt64, Int64.toInt_one]
  case sum => rw [toInt_add_toInt64, Int32.toInt_toInt64, Int32.toInt_toInt64]
  case offset => rw [toInt_offset, toInt_add_toInt64, Int32.toInt_toInt64]
  case shifted =>
    rw [hshifted, toInt_residue hspan, toInt_offset, toInt_span, Int32.toInt_toInt64]
  case narrow => exact (toInt_wrap hv.1 hv.2 d).trans hshifted.symm

/-- Shifts add up. -/
theorem wrap_wrap (hv : v ∈ arc lo hi) (h : f.toInt = d.toInt + e.toInt) :
    wrap lo hi (wrap lo hi v d) e = wrap lo hi v f := by
  refine (wrap_eq_iff (wrap_mem_arc hv d)).2 ⟨wrap_mem_arc hv f, ?_⟩
  calc (wrap lo hi v f).toInt
      ≡ v.toInt + f.toInt [ZMOD turn lo hi] := wrap_modEq hv f
    _ = v.toInt + d.toInt + e.toInt := by omega
    _ ≡ (wrap lo hi v d).toInt + e.toInt [ZMOD turn lo hi] := (wrap_modEq hv d).symm.add_right _

theorem wrap_zero (hv : v ∈ arc lo hi) : wrap lo hi v 0 = v :=
  (wrap_eq_iff hv).2 ⟨hv, by simp⟩

theorem toInt_neg (h : d ≠ Int32.minValue) : (-d).toInt = -d.toInt := by
  have hd := d.le_toInt
  have hd' := d.toInt_lt
  have hmin : d.toInt ≠ -2 ^ 31 := fun h' => h (Int32.toInt_inj.1 h')
  rw [Int32.toInt_neg]
  exact Int.bmod_eq_of_le (by omega) (by omega)

/-- A shift is undone by the opposite one. -/
theorem wrap_neg (hv : v ∈ arc lo hi) (h : d ≠ Int32.minValue) :
    wrap lo hi (wrap lo hi v d) (-d) = v := by
  have hsum : (0 : Int32).toInt = d.toInt + (-d).toInt := by
    rw [toInt_neg h, Int32.toInt_zero]
    omega
  rw [wrap_wrap hv hsum, wrap_zero hv]

theorem injOn_wrap (lo hi d : Int32) : Set.InjOn (wrap lo hi · d) (arc lo hi) := by
  intro v hv w hw h
  have hmod : v.toInt + d.toInt ≡ w.toInt + d.toInt [ZMOD turn lo hi] := by
    refine (wrap_modEq hv d).symm.trans ?_
    rw [show wrap lo hi v d = wrap lo hi w d from h]
    exact wrap_modEq hw d
  exact eq_of_modEq hv hw (Int.ModEq.add_right_cancel' _ hmod)

theorem surjOn_wrap (lo hi d : Int32) : Set.SurjOn (wrap lo hi · d) (arc lo hi) (arc lo hi) := by
  intro w hw
  obtain ⟨v, hv, hmod⟩ := exists_mem_arc_modEq hw (w.toInt - d.toInt)
  refine ⟨v, hv, (wrap_eq_iff hv).2 ⟨hw, ?_⟩⟩
  calc w.toInt
      = w.toInt - d.toInt + d.toInt := by omega
    _ ≡ v.toInt + d.toInt [ZMOD turn lo hi] := hmod.symm.add_right _

/-- Every shift is a permutation of the interval. The least coordinate, which has no opposite one,
is no exception. -/
theorem bijOn_wrap (lo hi d : Int32) : Set.BijOn (wrap lo hi · d) (arc lo hi) (arc lo hi) :=
  ⟨fun _ hv => wrap_mem_arc hv d, injOn_wrap lo hi d, surjOn_wrap lo hi d⟩

/-! ### Rotations -/

/-- The cyclic shift of `lo, …, hi` is arithmetic on a circle. -/
structure IsRotation (lo hi : Int32) : Prop where
  /-- Every number on the way fits into its word, and narrowing the last one does not change it. -/
  fits : ∀ v ∈ arc lo hi, ∀ d, wrap? lo hi v d = some (wrap lo hi v d)
  mem : ∀ v ∈ arc lo hi, ∀ d, wrap lo hi v d ∈ arc lo hi
  modEq : ∀ v ∈ arc lo hi, ∀ d, (wrap lo hi v d).toInt ≡ v.toInt + d.toInt [ZMOD turn lo hi]
  /-- Two shifts whose exact sum is a coordinate are a single one. -/
  add : ∀ v ∈ arc lo hi, ∀ d e f : Int32, f.toInt = d.toInt + e.toInt →
    wrap lo hi (wrap lo hi v d) e = wrap lo hi v f
  neg : ∀ v ∈ arc lo hi, ∀ d, d ≠ Int32.minValue → wrap lo hi (wrap lo hi v d) (-d) = v
  bijOn : ∀ d, Set.BijOn (wrap lo hi · d) (arc lo hi) (arc lo hi)

/-- Every interval of coordinates is turned like a circle. -/
theorem isRotation (lo hi : Int32) : IsRotation lo hi where
  fits _ hv := wrap?_eq_some hv
  mem _ hv := wrap_mem_arc hv
  modEq _ hv := wrap_modEq hv
  add _ hv _ _ _ := wrap_wrap hv
  neg _ hv _ := wrap_neg hv
  bijOn := bijOn_wrap lo hi

-- The circle of all coordinates, and the circle of a single one.
example : wrap? Int32.minValue Int32.maxValue Int32.maxValue 1 = some Int32.minValue := by decide
example : wrap? 7 7 7 Int32.minValue = some 7 := by decide

end Coordinate

end MazeChase
