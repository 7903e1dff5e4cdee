import MazeChase.Board.Map

/-!
# The characters of a map in order

A map is read row by row, and each row from the left. So a character is read after as many others as
there are in all earlier rows together and further left in its own row, whatever the lengths of the
rows are. This is the rank of the character; ranks ascend in the order of reading, and they are the
places of the characters in the list that the reader goes through.

Reading takes the characters one by one for what they stand for. It stops at the first one that is
not a symbol of maps.

## Main definitions

* `Cell.alphabet`, `Cell.ground` — the symbols of maps and what their tiles are made of
* `Board.Mark.IsIn`, `Board.Mark.Precedes`, `Board.Mark.rank` — the characters of a map in order
* `Board.FirstUnknown` — the first character that is no symbol

## Main results

* `Board.getElem?_marks` — a character is read after as many others as its rank says
* `Board.rank_lt_rank_iff` — ranks ascend in the order of reading
* `Board.readMarks_eq` — what comes of some characters that are read in order
* `Board.find?_marks_eq_some_iff` — where reading stops
-/

namespace MazeChase

/-! ### Symbols -/

namespace Cell

variable {c : Char}

/-- The symbols of maps. -/
def alphabet : List Char := ['#', ' ', '.', '=', 'P', 'G']

/-- What the tile of a symbol is made of: walls and gates have symbols of their own, and all other
symbols stand on floor. -/
def ground (c : Char) : Terrain :=
  if c = '#' then .wall else if c = '=' then .playerOnly else .floor

/-- The cell of a symbol. -/
def ofKnown (c : Char) : Cell where
  terrain := ground c
  player := c = 'P'
  ghost := c = 'G'

theorem ofSymbol?_of_mem (h : c ∈ alphabet) : ofSymbol? c = some (ofKnown c) := by
  simp only [alphabet, List.mem_cons, List.not_mem_nil, or_false] at h
  rcases h with rfl | rfl | rfl | rfl | rfl | rfl <;> rfl

theorem ofSymbol?_of_not_mem (h : c ∉ alphabet) : ofSymbol? c = none := by
  simp only [ofSymbol?]
  split
  -- Every case but the last is the case of a symbol.
  case h_7 => rfl
  all_goals exact absurd (by decide) h

end Cell

namespace Board

variable {rows : List (List Char)}

/-! ### Characters in order -/

namespace Mark

variable {m n : Mark}

/-- The mark is a character of a map, in its row and column. -/
def IsIn (m : Mark) (rows : List (List Char)) : Prop :=
  ∃ chars, rows[m.row]? = some chars ∧ chars[m.column]? = some m.symbol

/-- One mark is read before another: in an earlier row, or further left in the same row. -/
def Precedes (m n : Mark) : Prop :=
  m.row < n.row ∨ m.row = n.row ∧ m.column < n.column

/-- How many characters of a map are read before a mark: all earlier rows, and what stands further
left. -/
def rank (rows : List (List Char)) (m : Mark) : Nat :=
  (rows.take m.row).flatten.length + m.column

/-- The tile of a mark. -/
def tile (rows : List (List Char)) (m : Mark) : TileId := ⟨m.rank rows⟩

/-- The cell of a mark at its position. -/
def entry (m : Mark) : Position × Cell := (m.position, .ofKnown m.symbol)

theorem IsIn.mem (h : m.IsIn rows) : ∃ line ∈ rows, m.symbol ∈ line := by
  obtain ⟨line, hline, hsymbol⟩ := h
  exact ⟨line, List.mem_of_getElem? hline, List.mem_of_getElem? hsymbol⟩

theorem exists_isIn {line : List Char} {c : Char} (hline : line ∈ rows) (hc : c ∈ line) :
    ∃ m : Mark, m.IsIn rows ∧ m.symbol = c := by
  obtain ⟨row, hrow⟩ := List.mem_iff_getElem?.1 hline
  obtain ⟨column, hcolumn⟩ := List.mem_iff_getElem?.1 hc
  exact ⟨⟨row, column, c⟩, ⟨line, hrow, hcolumn⟩, rfl⟩

theorem Precedes.not_precedes (h : m.Precedes n) : ¬ n.Precedes m := by
  simp only [Precedes] at h ⊢
  omega

end Mark

/-- When the first row is number `k`, the characters are read in the order of their ranks. -/
theorem getElem?_marksFrom {k i : Nat} {m : Mark} :
    (marksFrom k rows)[i]? = some m ↔
      ∃ row, m.row = k + row ∧ Mark.IsIn ⟨row, m.column, m.symbol⟩ rows ∧
        Mark.rank rows ⟨row, m.column, m.symbol⟩ = i := by
  obtain ⟨r, column, c⟩ := m
  -- The rows are taken off from the top, which moves the number of the first row.
  induction rows generalizing k i with
  | nil => simp [marksFrom, Mark.IsIn]
  | cons line rest ih =>
    rw [marksFrom, List.getElem?_append, List.length_mapIdx]
    -- A place in the first row is a column, and any other place is one in the rows behind it.
    split
    · next hi =>
      simp only [List.getElem?_mapIdx, Option.map_eq_some_iff, Mark.mk.injEq]
      constructor
      · rintro ⟨c, hc, rfl, rfl, rfl⟩
        exact ⟨0, rfl, ⟨line, rfl, hc⟩, by simp [Mark.rank]⟩
      · rintro ⟨_ | row, hrow, ⟨line', hline, hc⟩, hrank⟩
        · obtain rfl : line = line' := by simpa using hline
          obtain rfl : column = i := by simpa [Mark.rank] using hrank
          exact ⟨c, hc, hrow.symm, rfl, rfl⟩
        · -- A character of a later row has the whole first row before it.
          simp only [Mark.rank, List.take_succ_cons, List.flatten_cons, List.length_append] at hrank
          omega
    · next hi =>
      rw [ih]
      constructor
      · rintro ⟨row, hrow, hin, hrank⟩
        refine ⟨row + 1, by omega, hin, ?_⟩
        simp only [Mark.rank, List.take_succ_cons, List.flatten_cons, List.length_append] at hrank ⊢
        omega
      · rintro ⟨_ | row, hrow, ⟨line', hline, hc⟩, hrank⟩
        · obtain rfl : line = line' := by simpa using hline
          obtain rfl : column = i := by simpa [Mark.rank] using hrank
          exact absurd (List.getElem?_eq_some_iff.1 hc).1 hi
        · refine ⟨row, by omega, ⟨line', hline, hc⟩, ?_⟩
          simp only [Mark.rank, List.take_succ_cons, List.flatten_cons, List.length_append]
            at hrank ⊢
          omega

/-- A character is read after as many others as its rank says. -/
theorem getElem?_marks {i : Nat} {m : Mark} :
    (marksFrom 0 rows)[i]? = some m ↔ m.IsIn rows ∧ m.rank rows = i := by
  rw [getElem?_marksFrom]
  simp only [Nat.zero_add]
  constructor
  · rintro ⟨row, rfl, hin, hrank⟩
    exact ⟨hin, hrank⟩
  · rintro ⟨hin, hrank⟩
    exact ⟨m.row, rfl, hin, hrank⟩

theorem mem_marks {m : Mark} : m ∈ marksFrom 0 rows ↔ m.IsIn rows := by
  simp only [List.mem_iff_getElem?, getElem?_marks, exists_and_left, exists_eq', and_true]

theorem length_marksFrom (k : Nat) (rows : List (List Char)) :
    (marksFrom k rows).length = rows.flatten.length := by
  induction rows generalizing k with
  | nil => rfl
  | cons line rest ih => simp [marksFrom, ih]

theorem pairwise_marksFrom (k : Nat) (rows : List (List Char)) :
    (marksFrom k rows).Pairwise Mark.Precedes := by
  induction rows generalizing k with
  | nil => exact .nil
  | cons line rest ih =>
    rw [marksFrom, List.pairwise_append]
    -- Columns ascend within the first row, and all other characters are in rows after it.
    refine ⟨?_, ih (k + 1), ?_⟩
    · rw [List.pairwise_iff_getElem]
      intro i j hi hj hij
      simpa [Mark.Precedes] using hij
    · intro m hm n hn
      obtain ⟨i, hi, rfl⟩ := List.mem_mapIdx.1 hm
      obtain ⟨j, hj⟩ := List.mem_iff_getElem?.1 hn
      obtain ⟨row, hrow, -⟩ := getElem?_marksFrom.1 hj
      exact .inl (by simp only [hrow]; omega)

/-- Ranks ascend in the order of reading. -/
theorem rank_lt_rank_iff {m n : Mark} (hm : m.IsIn rows) (hn : n.IsIn rows) :
    m.rank rows < n.rank rows ↔ m.Precedes n := by
  have hordered {m n : Mark} (hm : m.IsIn rows) (hn : n.IsIn rows)
      (hlt : m.rank rows < n.rank rows) : m.Precedes n := by
    obtain ⟨hi, hgetm⟩ := List.getElem?_eq_some_iff.1 (getElem?_marks.2 ⟨hm, rfl⟩)
    obtain ⟨hj, hgetn⟩ := List.getElem?_eq_some_iff.1 (getElem?_marks.2 ⟨hn, rfl⟩)
    have hpair := List.pairwise_iff_getElem.1 (pairwise_marksFrom 0 rows) _ _ hi hj hlt
    rwa [hgetm, hgetn] at hpair
  refine ⟨hordered hm hn, fun h => Nat.lt_of_not_le fun hle => ?_⟩
  rcases Nat.lt_or_eq_of_le hle with hlt | heq
  · exact h.not_precedes (hordered hn hm hlt)
  · -- Two characters of one rank are the same.
    have hsame := (getElem?_marks.2 ⟨hm, heq.symm⟩).symm.trans (getElem?_marks.2 ⟨hn, rfl⟩)
    obtain rfl := Option.some.inj hsame
    exact h.not_precedes h

/-! ### Reading -/

/-- Reading stops at the first character that is no symbol, and without one it takes every character
for what it stands for. -/
theorem readMarks_eq (ms : List Mark) :
    readMarks ms = match ms.find? fun m => m.symbol ∉ Cell.alphabet with
      | some m => .error (.unknownSymbol m.row m.column m.symbol)
      | none => .ok (ms.map Mark.entry) := by
  induction ms with
  | nil => rfl
  | cons m rest ih =>
    rw [readMarks, List.find?_cons]
    by_cases hm : m.symbol ∈ Cell.alphabet
    · rw [Cell.ofSymbol?_of_mem hm, ih]
      simp only [hm, not_true_eq_false, decide_false]
      cases rest.find? fun m => m.symbol ∉ Cell.alphabet <;> rfl
    · rw [Cell.ofSymbol?_of_not_mem hm]
      simp only [hm, not_false_eq_true, decide_true]

/-- The mark is the first character of a map that is no symbol. -/
structure FirstUnknown (rows : List (List Char)) (m : Mark) : Prop where
  isIn : m.IsIn rows
  unknown : m.symbol ∉ Cell.alphabet
  first : ∀ n : Mark, n.IsIn rows → n.Precedes m → n.symbol ∈ Cell.alphabet

theorem find?_marks_eq_some_iff {m : Mark} :
    ((marksFrom 0 rows).find? fun m => m.symbol ∉ Cell.alphabet) = some m ↔
      FirstUnknown rows m := by
  -- The first in the list is the first that is read, for ranks are places in the list.
  rw [List.find?_eq_some_iff_getElem]
  simp only [decide_eq_true_eq, Bool.not_eq_true', decide_eq_false_iff_not,
    Decidable.not_not]
  constructor
  · rintro ⟨hunknown, i, hi, rfl, hbefore⟩
    obtain ⟨hin, hrank⟩ := getElem?_marks.1 (List.getElem?_eq_getElem hi)
    refine ⟨hin, hunknown, fun n hn hprecedes => ?_⟩
    have hlt : n.rank rows < i := hrank ▸ (rank_lt_rank_iff hn hin).2 hprecedes
    obtain ⟨hj, hget⟩ := List.getElem?_eq_some_iff.1 (getElem?_marks.2 ⟨hn, rfl⟩)
    exact hget ▸ hbefore _ hlt
  · rintro ⟨hin, hunknown, hfirst⟩
    obtain ⟨hi, hget⟩ := List.getElem?_eq_some_iff.1 (getElem?_marks.2 ⟨hin, rfl⟩)
    refine ⟨hunknown, _, hi, hget, fun j hj => ?_⟩
    obtain ⟨hn, hrank⟩ := getElem?_marks.1 (List.getElem?_eq_getElem (Nat.lt_trans hj hi))
    exact hfirst _ hn ((rank_lt_rank_iff hn hin).1 (hrank.symm ▸ hj))

end Board

end MazeChase
