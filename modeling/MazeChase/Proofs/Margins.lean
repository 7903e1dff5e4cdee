import MazeChase.Proofs.Redrawing

/-!
# Maps in texts

A map may be written into a text with some room around it. Every line of the text ends with a line
feed, before which a carriage return may stand, and the last line need not end at all. Blank lines
above and below the map are a margin. They are told from the map by their characters alone, so a
blank row between two other rows belongs to the map and keeps its number.

The rows of the map are found again whatever the margins are and however the lines end, and nothing
else of the text is lost: the board is that of the rows, and what is reported of a text that cannot
be read is what is reported of the rows.

## Main definitions

* `Text.LineEnd`, `Text.Written` — texts that are written out of lines
* `Text.IsMargin`, `Text.Framed` — rows with blank lines around them
* `Board.ReadsAs` — a text is read as some rows are

## Main results

* `Text.Written.lines_of_margins`, `Text.Written.lines_of_rows` — the lines of a written text
* `Text.Framed.trimBlank_lines` — the rows are found again
* `Board.margins_ignored` — a text is read as its rows
-/

namespace MazeChase

namespace Text

/-! ### Written lines -/

/-- How a line ends. -/
inductive LineEnd where
  /-- With a line feed. -/
  | feed
  /-- With a carriage return and a line feed. -/
  | returnFeed
deriving DecidableEq, Repr

/-- The characters of a line end. -/
def LineEnd.chars : LineEnd → List Char
  | feed => ['\n']
  | returnFeed => ['\r', '\n']

/-- What is read of a line that ends like this. A carriage return at the end of the line would be
taken for a part of a bare line feed. -/
def LineEnd.cut : LineEnd → List Char → List Char
  | feed, l => dropReturn l
  | returnFeed, l => l

/-- A text is written out of some lines. Each ends in one way or the other, but the last need not
end. -/
inductive Written : List (List Char) → List Char → Prop
  | nil : Written [] []
  | unended (l : List Char) : Written [l] l
  | ended (l : List Char) (e : LineEnd) {ls : List (List Char)} {text : List Char}
      (h : Written ls text) : Written (l :: ls) (l ++ e.chars ++ text)

/-- A blank line above or below a map. It may hold any blank but a line feed. -/
structure IsMargin (l : List Char) : Prop where
  blank : isBlankLine l = true
  no_feed : '\n' ∉ l

/-- A row of a map as far as lines are concerned: it does not reach over the end of its line. -/
structure IsRow (l : List Char) : Prop where
  no_feed : '\n' ∉ l
  no_return : l.getLast? ≠ some '\r'

/-- A text shows some rows with blank lines above and below. -/
structure Framed (above rows below : List (List Char)) (text : List Char) : Prop where
  written : Written (above ++ rows ++ below) text
  above_margin : ∀ l ∈ above, IsMargin l
  row : ∀ l ∈ rows, IsRow l
  first_row : ∀ l ∈ rows.head?, isBlankLine l = false
  last_row : ∀ l ∈ rows.getLast?, isBlankLine l = false
  below_margin : ∀ l ∈ below, IsMargin l

variable {above rows below : List (List Char)} {l text : List Char} {e : LineEnd}

/-- A line that does not end is read as it is, if there is anything in it. -/
theorem lines_of_ne_nil (hfeed : '\n' ∉ l) (hne : l ≠ []) : lines l = [l] := by
  have hfrom (line cs : List Char) (hcs : '\n' ∉ cs) (hne : line.reverse ++ cs ≠ []) :
      linesFrom line cs = [line.reverse ++ cs] := by
    induction cs generalizing line with
    | nil =>
      have hline : line ≠ [] := by simpa using hne
      simp [linesFrom, hline]
    | cons c cs ih =>
      simp only [List.mem_cons, not_or] at hcs
      rw [linesFrom.eq_3 _ _ _ (fun hc => hcs.1 hc.symm), ih _ hcs.2 (by simp)]
      simp
  exact hfrom [] l hfeed hne

theorem lines_append_lineEnd (e : LineEnd) (rest : List Char) (hfeed : '\n' ∉ l) :
    lines (l ++ e.chars ++ rest) = e.cut l :: lines rest := by
  cases e with
  | feed =>
    rw [LineEnd.chars, List.append_assoc, List.singleton_append, lines_append_lineFeed _ hfeed]
    rfl
  | returnFeed =>
    have hreturn : '\n' ∉ l ++ ['\r'] := by simpa using hfeed
    have htext : l ++ LineEnd.returnFeed.chars ++ rest = l ++ ['\r'] ++ '\n' :: rest := by
      simp [LineEnd.chars]
    rw [htext, lines_append_lineFeed _ hreturn, dropReturn_append_return]
    rfl

/-- A margin that ends is read as a blank line. -/
theorem IsMargin.isBlankLine_cut (h : IsMargin l) (e : LineEnd) : isBlankLine (e.cut l) = true := by
  have hblank := h.blank
  cases e with
  | feed =>
    simp only [isBlankLine, List.all_eq_true] at hblank ⊢
    exact fun c hc => hblank c (mem_of_mem_dropReturn hc)
  | returnFeed => exact hblank

/-- A row that ends is read as it is. -/
theorem IsRow.cut_eq (h : IsRow l) (e : LineEnd) : e.cut l = l := by
  cases e with
  | feed => exact dropReturn_of_getLast?_ne h.no_return
  | returnFeed => rfl

namespace Written

/-- Margins are read as blank lines, and what is written after them is read after them. There may be
fewer lines than margins, for an empty line that does not end is no line. -/
theorem lines_of_margins (h : Written (above ++ rows) text)
    (hmargin : ∀ l ∈ above, IsMargin l) :
    ∃ blanks rest, Written rows rest ∧ (∀ l ∈ blanks, isBlankLine l = true) ∧
      lines text = blanks ++ lines rest := by
  induction above generalizing text with
  | nil => exact ⟨[], text, h, nofun, rfl⟩
  | cons l above ih =>
    have hl : IsMargin l := hmargin l List.mem_cons_self
    rw [List.cons_append] at h
    generalize hls : above ++ rows = ls at h
    cases h with
    | unended =>
      -- The last margin does not end, so nothing follows, and if it is empty it is not read at all.
      obtain ⟨rfl, rfl⟩ := List.append_eq_nil_iff.1 hls
      rcases eq_or_ne l [] with rfl | hne
      · exact ⟨[], [], .nil, nofun, rfl⟩
      · exact ⟨[l], [], .nil, List.forall_mem_singleton.2 hl.blank,
          lines_of_ne_nil hl.no_feed hne⟩
    | @ended _ e _ text hrest =>
      obtain ⟨blanks, rest, hwritten, hblanks, hrest⟩ :=
        ih (hls ▸ hrest) fun l hl => hmargin l (List.mem_cons_of_mem _ hl)
      refine ⟨e.cut l :: blanks, rest, hwritten, ?_, ?_⟩
      · exact List.forall_mem_cons.2 ⟨hl.isBlankLine_cut e, hblanks⟩
      · rw [lines_append_lineEnd e text hl.no_feed, hrest, List.cons_append]

/-- Rows are read as they are. The last one has to hold something, for it may be the line that does
not end. -/
theorem lines_of_rows (h : Written (rows ++ below) text) (hrow : ∀ l ∈ rows, IsRow l)
    (hlast : ∀ l ∈ rows.getLast?, l ≠ []) :
    ∃ rest, Written below rest ∧ lines text = rows ++ lines rest := by
  induction rows generalizing text with
  | nil => exact ⟨text, h, rfl⟩
  | cons l rows ih =>
    have hl : IsRow l := hrow l List.mem_cons_self
    rw [List.cons_append] at h
    generalize hls : rows ++ below = ls at h
    cases h with
    | unended =>
      -- The last row does not end. It is read all the same, for it holds something.
      obtain ⟨rfl, rfl⟩ := List.append_eq_nil_iff.1 hls
      refine ⟨[], .nil, ?_⟩
      rw [lines_of_ne_nil hl.no_feed (hlast l rfl)]
      rfl
    | @ended _ e _ text hrest =>
      have hlast' : ∀ l ∈ rows.getLast?, l ≠ [] := by
        cases rows with
        | nil => exact nofun
        | cons l' rows => rwa [List.getLast?_cons_cons] at hlast
      obtain ⟨rest, hwritten, hrest⟩ :=
        ih (hls ▸ hrest) (fun l hl => hrow l (List.mem_cons_of_mem _ hl)) hlast'
      refine ⟨rest, hwritten, ?_⟩
      rw [lines_append_lineEnd e text hl.no_feed, hl.cut_eq, hrest, List.cons_append]

end Written

namespace Framed

theorem ne_nil_of_last_row (h : Framed above rows below text) : ∀ l ∈ rows.getLast?, l ≠ [] := by
  rintro l hl rfl
  cases h.last_row [] hl

/-- The rows are found again in the text. -/
theorem trimBlank_lines (h : Framed above rows below text) : trimBlank (lines text) = rows := by
  have hwritten := h.written
  rw [List.append_assoc] at hwritten
  obtain ⟨blanksAbove, text', hrows, habove, hlines⟩ := hwritten.lines_of_margins h.above_margin
  obtain ⟨text'', hmargin, hlines'⟩ := hrows.lines_of_rows h.row h.ne_nil_of_last_row
  rw [← List.append_nil below] at hmargin
  obtain ⟨blanksBelow, rest, hrest, hbelow, hlines''⟩ := hmargin.lines_of_margins h.below_margin
  cases hrest with
  | nil =>
    have hall : lines text = blanksAbove ++ rows ++ blanksBelow := by
      rw [hlines, hlines', hlines'', List.append_assoc]
      simp [lines, linesFrom]
    rw [hall, trimBlank_append habove hbelow, trimBlank_eq_self h.first_row h.last_row]

end Framed

end Text

namespace Board

variable {above rows below : List (List Char)} {text : String} {border : Border}

/-- A text is read as some rows are. -/
structure ReadsAs (text : String) (rows : List (List Char)) (border : Border) : Prop where
  /-- There is the same board, or the same is reported, with rows counted from the first. -/
  ofText_eq : ofText text border = ofRows rows border
  /-- If there are no rows the board is empty. -/
  of_nil : rows = [] → ofText text border = .ok ⟨[], [], []⟩
  /-- What is reported is the first character of the rows that is no symbol. -/
  refused : RowsFit rows → ∀ e, ofText text border = .error e ↔
    ∃ m, FirstUnknown rows m ∧ e = .unknownSymbol m.row m.column m.symbol
  /-- Rows of symbols give the board that they depict, blank rows among them. -/
  depicted : RowsFit rows → (∀ line ∈ rows, ∀ c ∈ line, c ∈ Cell.alphabet) →
    ∃ board, ofText text border = .ok board ∧ board.Depicts rows border

/-- **Nothing around a map matters.** However many blank lines stand above and below its rows, and
however the lines end, a text is read as its rows are. No other rows can be found in it. -/
theorem margins_ignored (h : Text.Framed above rows below text.toList) (border : Border) :
    ReadsAs text rows border ∧
      ∀ above' rows' below', Text.Framed above' rows' below' text.toList → rows' = rows := by
  have heq : ofText text border = ofRows rows border := by rw [ofText, h.trimBlank_lines]
  constructor
  · constructor
    case ofText_eq => exact heq
    case of_nil =>
      rintro rfl
      exact heq
    case refused =>
      intro hfit e
      rw [heq, ofRows_eq_error_iff hfit]
    case depicted =>
      intro hfit hknown
      obtain ⟨board, hboard⟩ := hfit.exists_build border
      rw [heq, ofRows_of_known hknown]
      exact ⟨board, hboard, depicts_of_build hfit hboard⟩
  · intro above' rows' below' h'
    exact h'.trimBlank_lines.symm.trans h.trimBlank_lines

/-- A map with a blank row between two others. -/
def doorway : List (List Char) := [['P', '.'], [' '], ['#', 'G']]

/-- The doorway in a text. A blank line above it ends in a carriage return of its own, and the one
below it does not end at all. -/
def doorwayText : String := "\t\r\n\u2003\r\nP.\r\n \n#G\r\n "

theorem framed_doorway :
    Text.Framed [['\t'], ['\u2003', '\r']] doorway [[' ']] doorwayText.toList where
  written := .ended ['\t'] .returnFeed <| .ended ['\u2003', '\r'] .feed <|
    .ended ['P', '.'] .returnFeed <| .ended [' '] .feed <| .ended ['#', 'G'] .returnFeed <|
      .unended [' ']
  above_margin := by
    rw [List.forall_mem_cons, List.forall_mem_singleton]
    exact ⟨⟨by decide, by decide⟩, ⟨by decide, by decide⟩⟩
  row := by
    rw [doorway, List.forall_mem_cons, List.forall_mem_cons, List.forall_mem_singleton]
    exact ⟨⟨by decide, by decide⟩, ⟨by decide, by decide⟩, ⟨by decide, by decide⟩⟩
  first_row := by
    intro l hl
    obtain rfl := Option.some.inj hl
    decide
  last_row := by
    intro l hl
    obtain rfl := Option.some.inj hl
    decide
  below_margin := by
    rw [List.forall_mem_singleton]
    exact ⟨by decide, by decide⟩

/-- The blank row of the doorway counts: the wall is in row 2. -/
theorem margins_ignored_doorway :
    Text.Framed [['\t'], ['\u2003', '\r']] doorway [[' ']] doorwayText.toList ∧
      ofText doorwayText .tunnels = ofRows doorway .tunnels ∧
      ∃ board, ofText doorwayText .tunnels = .ok board ∧ board.tileCount = 5 ∧
        board.tileAt ⟨0, 2⟩ = some ⟨3⟩ ∧ board.terrain? ⟨3⟩ = some .wall := by
  obtain ⟨hreads, -⟩ := margins_ignored framed_doorway .tunnels
  have hfit : RowsFit doorway := ⟨by decide, by decide⟩
  have hknown : ∀ line ∈ doorway, ∀ c ∈ line, c ∈ Cell.alphabet := by
    simp [doorway, Cell.alphabet]
  obtain ⟨board, hboard, hdepicts⟩ := hreads.depicted hfit hknown
  have hwall : Mark.IsIn ⟨2, 0, '#'⟩ doorway := ⟨['#', 'G'], rfl, rfl⟩
  obtain ⟨-, -, -, -, hterrain⟩ := hdepicts.tile _ hwall
  exact ⟨framed_doorway, hreads.ofText_eq, board, hboard, hdepicts.tileCount_eq,
    (hdepicts.tileAt_eq_some_iff ⟨0, 2⟩ _).2 ⟨_, hwall, rfl, by decide, by decide⟩, hterrain⟩

end Board

end MazeChase
