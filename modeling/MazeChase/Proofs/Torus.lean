import Mathlib.Data.List.Induction
import MazeChase.Board.Extent

/-!
# Steps on the plane and on the torus

What a grid links is described here in exact integers. On the plane the position beside `p` is the
one whose coordinates differ from those of `p` by the unit step. When the opposite edges of a box of
positions meet, the box becomes a torus, and there two positions are beside each other if their
coordinates differ by the unit step up to a multiple of the width and of the height of the box.

The words with which positions are stored have ends, and so does the box. The steps that a board
takes stop or turn at these ends, by tests that are all about words; the results below say that what
comes out are the exact steps, in boxes of every size, from one cell to all coordinates.

Both relations are undirected: the way back leads back. On the torus that is so even where the box
is one or two cells wide, and the ways in opposite directions lead to the same cell.

## Main definitions

* `Position.IsBeside` — one cell away on the plane
* `Extent.IsBeside` — one cell away on the torus
* `Extent.Joins` — one cell away in a grid with a border
* `Extent.IsHull` — the smallest box around some positions

## Main results

* `Extent.next?_solid_eq_some_iff`, `Extent.next?_tunnels_eq_some_iff` — steps are the exact steps
* `Position.IsBeside.symm`, `Extent.IsBeside.symm` — the way back leads back
* `Extent.isHull_ofPositions` — the box that is grown around some positions is the smallest one
-/

namespace MazeChase

variable {p q r : Position} {d : Direction} {e : Extent} {ps : List Position}

/-! ### The plane -/

@[simp] theorem Direction.toInt_delta_opposite_fst (d : Direction) :
    d.opposite.delta.1.toInt = -d.delta.1.toInt := by
  cases d <;> rfl

@[simp] theorem Direction.toInt_delta_opposite_snd (d : Direction) :
    d.opposite.delta.2.toInt = -d.delta.2.toInt := by
  cases d <;> rfl

namespace Position

theorem ext_toInt (hx : p.x.toInt = q.x.toInt) (hy : p.y.toInt = q.y.toInt) : p = q := by
  cases p
  cases q
  simp_all [Int32.toInt_inj]

/-- Position `q` is one cell away from `p` in direction `d`. -/
structure IsBeside (p : Position) (d : Direction) (q : Position) : Prop where
  x_eq : q.x.toInt = p.x.toInt + d.delta.1.toInt
  y_eq : q.y.toInt = p.y.toInt + d.delta.2.toInt

theorem IsBeside.symm (h : p.IsBeside d q) : q.IsBeside d.opposite p where
  x_eq := by
    rw [h.x_eq, Direction.toInt_delta_opposite_fst]
    omega
  y_eq := by
    rw [h.y_eq, Direction.toInt_delta_opposite_snd]
    omega

theorem step?_eq_some_iff : p.step? d = some q ↔ p.IsBeside d q := by
  simp only [step?, Option.bind_eq_bind, Option.bind_eq_some_iff, Coordinate.add?_eq_some_iff]
  constructor
  · rintro ⟨x, hx, y, hy, h⟩
    obtain rfl : ⟨x, y⟩ = q := Option.some.inj h
    exact ⟨hx, hy⟩
  · rintro ⟨hx, hy⟩
    exact ⟨q.x, hx, q.y, hy, rfl⟩

end Position

/-! ### The torus -/

namespace Coordinate

theorem toInt_min (v w : Int32) : (min v w).toInt = min v.toInt w.toInt := by
  change (if v ≤ w then v else w).toInt = _
  split
  · next h =>
    rw [Int32.le_iff_toInt_le] at h
    omega
  · next h =>
    rw [Int32.le_iff_toInt_le] at h
    omega

theorem toInt_max (v w : Int32) : (max v w).toInt = max v.toInt w.toInt := by
  change (if v ≤ w then w else v).toInt = _
  split
  · next h =>
    rw [Int32.le_iff_toInt_le] at h
    omega
  · next h =>
    rw [Int32.le_iff_toInt_le] at h
    omega

theorem min_eq_or (v w : Int32) : min v w = v ∨ min v w = w := by
  simp only [← Int32.toInt_inj, toInt_min]
  omega

theorem max_eq_or (v w : Int32) : max v w = v ∨ max v w = w := by
  simp only [← Int32.toInt_inj, toInt_max]
  omega

variable {lo hi v : Int32}

/-- The cyclic shift stays in the interval. -/
theorem wrap_mem (hlo : lo ≤ v) (hhi : v ≤ hi) (d : Int32) :
    lo ≤ wrap lo hi v d ∧ wrap lo hi v d ≤ hi := by
  have hwrap := toInt_wrap hlo hhi d
  rw [Int32.le_iff_toInt_le] at hlo hhi
  rw [Int32.le_iff_toInt_le, Int32.le_iff_toInt_le, hwrap]
  exact emod_mem (Int.le_trans hlo hhi) _

/-- The cyclic shift differs from the exact sum by whole turns. -/
theorem dvd_wrap_sub (hlo : lo ≤ v) (hhi : v ≤ hi) (d : Int32) :
    hi.toInt - lo.toInt + 1 ∣ (wrap lo hi v d).toInt - (v.toInt + d.toInt) := by
  have hturns := Int.dvd_sub_self_of_emod_eq
    (rfl : (v.toInt + d.toInt - lo.toInt) % (hi.toInt - lo.toInt + 1) = _)
  rw [toInt_wrap hlo hhi d]
  have hshift (r : Int) : lo.toInt + r - (v.toInt + d.toInt) =
      r - (v.toInt + d.toInt - lo.toInt) := by omega
  rwa [hshift]

end Coordinate

namespace Extent

theorem contains_iff :
    e.contains p = true ↔
      (e.low.x ≤ p.x ∧ p.x ≤ e.high.x) ∧ e.low.y ≤ p.y ∧ p.y ≤ e.high.y := by
  simp [contains, and_assoc]

/-- The number of columns. -/
def width (e : Extent) : Int := e.high.x.toInt - e.low.x.toInt + 1

/-- The number of rows. -/
def height (e : Extent) : Int := e.high.y.toInt - e.low.y.toInt + 1

/-- Position `q` is one cell away from `p` in direction `d` on the torus that the box becomes when
its opposite edges meet. -/
structure IsBeside (e : Extent) (p : Position) (d : Direction) (q : Position) : Prop where
  contains : e.contains q = true
  width_dvd : e.width ∣ q.x.toInt - (p.x.toInt + d.delta.1.toInt)
  height_dvd : e.height ∣ q.y.toInt - (p.y.toInt + d.delta.2.toInt)

theorem isBeside_of_plane (h : p.IsBeside d q) (hq : e.contains q = true) : e.IsBeside p d q where
  contains := hq
  width_dvd := by simp [h.x_eq]
  height_dvd := by simp [h.y_eq]

/-- The cell that the board computes for a step over the edge is the one beside. -/
theorem isBeside_wrap (hp : e.contains p = true) (d : Direction) :
    e.IsBeside p d (e.wrap p d) := by
  obtain ⟨⟨hleft, hright⟩, htop, hbottom⟩ := contains_iff.1 hp
  exact {
    contains := contains_iff.2
      ⟨Coordinate.wrap_mem hleft hright _, Coordinate.wrap_mem htop hbottom _⟩
    width_dvd := Coordinate.dvd_wrap_sub hleft hright _
    height_dvd := Coordinate.dvd_wrap_sub htop hbottom _ }

namespace IsBeside

theorem symm (h : e.IsBeside p d q) (hp : e.contains p = true) : e.IsBeside q d.opposite p where
  contains := hp
  width_dvd := by
    have hback := Int.dvd_neg.2 h.width_dvd
    rw [Direction.toInt_delta_opposite_fst]
    convert hback using 1
    omega
  height_dvd := by
    have hback := Int.dvd_neg.2 h.height_dvd
    rw [Direction.toInt_delta_opposite_snd]
    convert hback using 1
    omega

/-- Two numbers of an interval that differ by whole turns are the same. -/
theorem eq_of_dvd {lo hi x y s : Int} (hx : lo ≤ x ∧ x ≤ hi) (hy : lo ≤ y ∧ y ≤ hi)
    (hdx : hi - lo + 1 ∣ x - s) (hdy : hi - lo + 1 ∣ y - s) : x = y := by
  have hdiff : hi - lo + 1 ∣ x - y := by
    have hcancel : x - s - (y - s) = x - y := by omega
    exact hcancel ▸ Int.dvd_sub hdx hdy
  -- The interval is too short for a whole turn.
  have hzero : x - y = 0 := Int.eq_zero_of_dvd_of_natAbs_lt_natAbs hdiff (by omega)
  omega

/-- In every direction there is but one cell beside a cell. -/
theorem unique (h : e.IsBeside p d q) (h' : e.IsBeside p d r) : q = r := by
  have hq := contains_iff.1 h.contains
  have hr := contains_iff.1 h'.contains
  simp only [Int32.le_iff_toInt_le] at hq hr
  exact Position.ext_toInt (eq_of_dvd hq.1 hr.1 h.width_dvd h'.width_dvd)
    (eq_of_dvd hq.2 hr.2 h.height_dvd h'.height_dvd)

end IsBeside

/-! ### Steps inside a box -/

theorem next?_solid_eq_some_iff :
    e.next? .solid p d = some q ↔ p.IsBeside d q ∧ e.contains q = true := by
  rw [← Position.step?_eq_some_iff, ← Option.filter_eq_some_iff]
  simp only [next?]
  cases (p.step? d).filter e.contains <;> rfl

/-- Through tunnels there is a way on at every edge. -/
theorem exists_next?_tunnels (hp : e.contains p = true) (d : Direction) :
    ∃ q, e.next? .tunnels p d = some q ∧ e.IsBeside p d q := by
  simp only [next?]
  cases h : (p.step? d).filter e.contains with
  | some q =>
    -- A step that stays inside is the same on the plane and on the torus.
    obtain ⟨hstep, hq⟩ := Option.filter_eq_some_iff.1 h
    exact ⟨q, rfl, isBeside_of_plane (Position.step?_eq_some_iff.1 hstep) hq⟩
  | none => exact ⟨e.wrap p d, rfl, isBeside_wrap hp d⟩

theorem next?_tunnels_eq_some_iff (hp : e.contains p = true) :
    e.next? .tunnels p d = some q ↔ e.IsBeside p d q := by
  obtain ⟨r, hr, hbeside⟩ := exists_next?_tunnels hp d
  rw [hr, Option.some.injEq]
  constructor
  · rintro rfl
    exact hbeside
  · exact hbeside.unique

/-- Position `q` comes after `p` in direction `d` in the grid with a border. -/
def Joins (e : Extent) : Border → Position → Direction → Position → Prop
  | .solid, p, d, q => p.IsBeside d q
  | .tunnels, p, d, q => e.IsBeside p d q

/-- Inside the box a step leads to what comes after, if that lies in the box too. -/
theorem next?_eq_some_iff {border : Border} (hp : e.contains p = true) :
    e.next? border p d = some q ↔ e.Joins border p d q ∧ e.contains q = true := by
  cases border with
  | solid => exact next?_solid_eq_some_iff
  | tunnels =>
    rw [next?_tunnels_eq_some_iff hp]
    exact ⟨fun h => ⟨h, h.contains⟩, And.left⟩

theorem Joins.symm {border : Border} (hp : e.contains p = true) (h : e.Joins border p d q) :
    e.Joins border q d.opposite p := by
  cases border with
  | solid => exact Position.IsBeside.symm h
  | tunnels => exact IsBeside.symm h hp

/-! ### The box around some positions -/

/-- The box is the smallest one around some positions: all of them lie in it, and each of its four
edges touches one of them. -/
structure IsHull (e : Extent) (ps : List Position) : Prop where
  contains : ∀ p ∈ ps, e.contains p = true
  left : ∃ p ∈ ps, p.x = e.low.x
  right : ∃ p ∈ ps, p.x = e.high.x
  top : ∃ p ∈ ps, p.y = e.low.y
  bottom : ∃ p ∈ ps, p.y = e.high.y

theorem contains_insert_self (e : Extent) (p : Position) : (e.insert p).contains p = true := by
  simp only [contains_iff, insert, Int32.le_iff_toInt_le, Coordinate.toInt_min,
    Coordinate.toInt_max]
  omega

theorem contains_insert (h : e.contains q = true) (p : Position) :
    (e.insert p).contains q = true := by
  simp only [contains_iff, insert, Int32.le_iff_toInt_le, Coordinate.toInt_min,
    Coordinate.toInt_max] at h ⊢
  omega

/-- An edge that moves moves to the new position, and one that stays still touches an old one. -/
theorem exists_touching {f : Position → Int32} {v w : Int32} (h : ∃ q ∈ ps, f q = v)
    (hw : w = v ∨ w = f p) : ∃ q ∈ ps ++ [p], f q = w := by
  rcases hw with rfl | rfl
  · obtain ⟨q, hq, rfl⟩ := h
    exact ⟨q, List.mem_append_left _ hq, rfl⟩
  · exact ⟨p, by simp, rfl⟩

theorem IsHull.append_singleton (h : e.IsHull ps) (p : Position) :
    (e.insert p).IsHull (ps ++ [p]) where
  contains q hq := by
    rcases List.mem_append.1 hq with hq | hq
    · exact contains_insert (h.contains q hq) p
    · obtain rfl := List.mem_singleton.1 hq
      exact contains_insert_self e q
  left := exists_touching h.left (Coordinate.min_eq_or _ _)
  right := exists_touching h.right (Coordinate.max_eq_or _ _)
  top := exists_touching h.top (Coordinate.min_eq_or _ _)
  bottom := exists_touching h.bottom (Coordinate.max_eq_or _ _)

/-- The first position that is put into the empty box is the whole box. -/
theorem insert_empty (p : Position) : empty.insert p = ⟨p, p⟩ := by
  have hmin (v : Int32) : min Int32.maxValue v = v := by
    rw [← Int32.toInt_inj, Coordinate.toInt_min]
    have hv := v.toInt_le
    omega
  have hmax (v : Int32) : max Int32.minValue v = v := by
    rw [← Int32.toInt_inj, Coordinate.toInt_max]
    have hv := v.minValue_le_toInt
    omega
  simp only [insert, empty, hmin, hmax]

theorem isHull_singleton (p : Position) : (⟨p, p⟩ : Extent).IsHull [p] where
  contains q hq := by
    obtain rfl := List.mem_singleton.1 hq
    simp [contains]
  left := ⟨p, by simp⟩
  right := ⟨p, by simp⟩
  top := ⟨p, by simp⟩
  bottom := ⟨p, by simp⟩

/-- The box that is grown around some positions is the smallest one. -/
theorem isHull_ofPositions (h : ps ≠ []) : (ofPositions ps).IsHull ps := by
  -- Positions come in at the end of the list. The empty box has no edge that touches anything, so
  -- the first position is a case of its own.
  induction ps using List.reverseRecOn with
  | nil => exact absurd rfl h
  | append_singleton ps p ih =>
    have hgrown : ofPositions (ps ++ [p]) = (ofPositions ps).insert p := by simp [ofPositions]
    rw [hgrown]
    by_cases hps : ps = []
    · subst hps
      change (empty.insert p).IsHull [p]
      rw [insert_empty]
      exact isHull_singleton p
    · exact (ih hps).append_singleton p

theorem contains_ofPositions (h : p ∈ ps) : (ofPositions ps).contains p = true :=
  (isHull_ofPositions (List.ne_nil_of_mem h)).contains p h

end Extent

end MazeChase
