/-!
# Lines of a text

A text is cut into lines at line feeds. A carriage return just before a line feed belongs to the
line end; one at the very end of the text does not. A line feed at the end of the text ends the
last line and does not begin another.

## Main definitions

* `Text.lines`, `Text.unlines` — the lines of a text, and the text of some lines
* `Text.isBlank`, `Text.trimBlank` — blank characters, and lines without the blank ones around them

## Main results

* `Text.lines_append_lineFeed` — what stands before a line feed is a line of its own
* `Text.lines_unlines` — the lines of a text that is made of lines are these lines
* `Text.trimBlank_append` — blank lines around some lines make no difference
* `Text.trimBlank_eq_self` — when no blank lines are left out
-/

namespace MazeChase.Text

/-- Whether a character has the White_Space property. -/
def isBlank (c : Char) : Bool :=
  let n := c.toNat
  (9 ≤ n && n ≤ 13) || n == 0x20 || n == 0x85 || n == 0xa0 || n == 0x1680 ||
    (0x2000 ≤ n && n ≤ 0x200a) || n == 0x2028 || n == 0x2029 || n == 0x202f || n == 0x205f ||
    n == 0x3000

/-- A line without the carriage return at its end, if there is one. -/
def dropReturn : List Char → List Char
  | [] => []
  | ['\r'] => []
  | c :: rest => c :: dropReturn rest

/-- The lines of the rest of a text, when the characters of `line` were read since the last line
feed, the latest first. -/
def linesFrom (line : List Char) : List Char → List (List Char)
  | [] => if line.isEmpty then [] else [line.reverse]
  | '\n' :: rest => dropReturn line.reverse :: linesFrom [] rest
  | c :: rest => linesFrom (c :: line) rest

/-- The lines of a text. -/
def lines (text : List Char) : List (List Char) := linesFrom [] text

theorem linesFrom_append_lineFeed (line cs rest : List Char) (h : '\n' ∉ cs) :
    linesFrom line (cs ++ '\n' :: rest) =
      dropReturn (line.reverse ++ cs) :: linesFrom [] rest := by
  induction cs generalizing line with
  | nil => simp [linesFrom]
  | cons c cs ih =>
    simp only [List.mem_cons, not_or] at h
    rw [List.cons_append, linesFrom.eq_3 _ _ _ (fun hc => h.1 hc.symm), ih _ h.2]
    simp

theorem lines_append_lineFeed {cs : List Char} (rest : List Char) (h : '\n' ∉ cs) :
    lines (cs ++ '\n' :: rest) = dropReturn cs :: lines rest :=
  linesFrom_append_lineFeed [] cs rest h

/-- The text of some lines: every line ends with a line feed. -/
def unlines (ls : List (List Char)) : List Char := ls.flatMap (· ++ ['\n'])

theorem dropReturn_of_getLast?_ne {cs : List Char} (h : cs.getLast? ≠ some '\r') :
    dropReturn cs = cs := by
  fun_induction dropReturn cs with
  | case1 => rfl
  | case2 => exact absurd rfl h
  | case3 c rest hne ih =>
    cases rest with
    | nil => rfl
    | cons c' rest =>
      rw [List.getLast?_cons_cons] at h
      rw [ih h]

theorem dropReturn_append_return (cs : List Char) : dropReturn (cs ++ ['\r']) = cs := by
  induction cs with
  | nil => rfl
  | cons c cs ih =>
    have hne : cs ++ ['\r'] ≠ [] := List.append_ne_nil_of_right_ne_nil cs (List.cons_ne_nil _ _)
    rw [List.cons_append, dropReturn.eq_3 c _ fun _ h => hne h, ih]

theorem mem_of_mem_dropReturn {c : Char} {cs : List Char} (h : c ∈ dropReturn cs) : c ∈ cs := by
  fun_induction dropReturn cs with
  | case1 => exact h
  | case2 => cases h
  | case3 c' rest hne ih =>
    rcases List.mem_cons.1 h with rfl | hrest
    · exact List.mem_cons_self
    · exact List.mem_cons_of_mem c' (ih hrest)

/-- A line must have no line feed in it, and no carriage return at its end that would be taken for
a part of the line end. -/
theorem lines_unlines {ls : List (List Char)}
    (h : ∀ l ∈ ls, '\n' ∉ l ∧ l.getLast? ≠ some '\r') : lines (unlines ls) = ls := by
  induction ls with
  | nil => rfl
  | cons l rest ih =>
    obtain ⟨hfeed, hreturn⟩ := h l List.mem_cons_self
    have hrest := ih fun l' hl' => h l' (List.mem_cons_of_mem l hl')
    have htext : unlines (l :: rest) = l ++ '\n' :: unlines rest := by simp [unlines]
    rw [htext, lines_append_lineFeed _ hfeed, dropReturn_of_getLast?_ne hreturn, hrest]

/-- Whether a line holds nothing but blanks. -/
def isBlankLine (line : List Char) : Bool := line.all isBlank

/-- The lines from the first to the last that is not blank. -/
def trimBlank (ls : List (List Char)) : List (List Char) :=
  ((ls.dropWhile isBlankLine).reverse.dropWhile isBlankLine).reverse

/-- Blank lines around some lines make no difference. -/
theorem trimBlank_append {above below ls : List (List Char)}
    (habove : ∀ l ∈ above, isBlankLine l = true) (hbelow : ∀ l ∈ below, isBlankLine l = true) :
    trimBlank (above ++ ls ++ below) = trimBlank ls := by
  rw [trimBlank, trimBlank, List.append_assoc, List.dropWhile_append_of_pos habove,
    List.dropWhile_append]
  split
  · next hempty =>
    -- The lines are blank themselves, so all that is left is what stands below them.
    rw [List.isEmpty_iff.1 hempty, ← List.append_nil below, List.dropWhile_append_of_pos hbelow,
      List.dropWhile_nil]
  · rw [List.reverse_append, List.dropWhile_append_of_pos (by simpa using hbelow)]

/-- Nothing is left out of lines whose first and last are not blank. -/
theorem trimBlank_eq_self {ls : List (List Char)}
    (hfirst : ∀ l ∈ ls.head?, isBlankLine l = false)
    (hlast : ∀ l ∈ ls.getLast?, isBlankLine l = false) : trimBlank ls = ls := by
  have hdrop {ls : List (List Char)} (h : ∀ l ∈ ls.head?, isBlankLine l = false) :
      ls.dropWhile isBlankLine = ls := by
    cases ls with
    | nil => rfl
    | cons l rest =>
      have hl := h l rfl
      simp [hl]
  rw [trimBlank, hdrop hfirst, hdrop (by rwa [List.head?_reverse]), List.reverse_reverse]

end MazeChase.Text
