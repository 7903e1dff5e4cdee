import MazeChase.Drawing
import MazeChase.Proofs.Reading

/-!
# Maps that are drawn and read again

A map is read by rows and a drawing is made by columns and rows of positions, and the two have only
the board between them. If the rows of a map are equally long the drawing has the same rows: what a
symbol stands on is drawn, so both floor symbols become a blank, and the letters that say where
players and ghosts begin become floor as well. So when the drawing is read in turn, the board has
the same tiles, with the same positions, terrains and sides, and nobody begins anywhere; and the
drawing of that board is the same once more.

A map without any character, of whatever number of empty rows, has an empty drawing.

The drawing can be read from a text too. There blank lines around a map are left out, so the first
row and the last one have to show something.

## Main definitions

* `Cell.redraw`, `Board.redrawn` — how a symbol and a map are drawn
* `Board.Redrawing` — what becomes of a map that is drawn and read again

## Main results

* `Board.drawRows_of_depicts` — the drawing of a map has the rows of the map
* `Board.cellsOf_redrawn` — a map is drawn with the same cells, but without the letters
* `Board.redrawing_keeps_tiles` — a map that is drawn and read again is the same maze
-/

namespace MazeChase

/-! ### Symbols -/

namespace Cell

/-- The symbol that a drawing has for a symbol of a map. -/
def redraw (c : Char) : Char := (ground c).symbol

theorem symbol_mem_alphabet (t : Terrain) : t.symbol ∈ alphabet := by
  cases t <;> decide

/-- In a drawing nobody begins anywhere. -/
theorem ofKnown_symbol (t : Terrain) : ofKnown t.symbol = { terrain := t } := by
  cases t <;> rfl

theorem ne_lineEnd_of_mem_alphabet {c : Char} (h : c ∈ alphabet) : c ≠ '\n' ∧ c ≠ '\r' := by
  simp only [alphabet, List.mem_cons, List.not_mem_nil, or_false] at h
  rcases h with rfl | rfl | rfl | rfl | rfl | rfl <;> decide

end Cell

/-- Nobody stands anywhere, so nobody stands on a tile. -/
theorem Population.Consistent.occupants_eq_nil {p : Population} (hp : p.Consistent)
    (h : ∀ a, p.tile? a = none) (t : TileId) : p.occupants t = [] := by
  rw [List.eq_nil_iff_forall_not_mem]
  intro a ha
  have ht := (hp.mem_occupants a t).1 ha
  rw [h a] at ht
  cases ht

namespace Board

variable {rows : List (List Char)} {border : Border} {board copy : Board} {p : Population}
  {width : Nat}

/-! ### The size of a drawing -/

instance : Std.LawfulOrderMax Int32 where
  max_le_iff a b c := by
    simp only [Int32.le_iff_toInt_le, Coordinate.toInt_max]
    omega
  max_eq_or := Coordinate.max_eq_or

/-- Coordinates below `n`, the greatest of which is the one before `n`, take `n` columns or rows. -/
theorem extentOf_eq_ok {cs : List Int32} {n : Nat} (hn : n < 2 ^ 31)
    (hlast : ∃ c ∈ cs, c.toInt + 1 = n) (hbelow : ∀ c ∈ cs, c.toInt < n) :
    extentOf cs = .ok n := by
  obtain ⟨c, hc, hcn⟩ := hlast
  have hmax : cs.max? = some c := by
    refine List.max?_eq_some_iff.2 ⟨hc, fun d hd => ?_⟩
    rw [Int32.le_iff_toInt_le]
    have hd' := hbelow d hd
    omega
  -- The map has one column less than would be needed to reach the last coordinate of all.
  have hne : c ≠ Int32.maxValue := by
    rintro rfl
    rw [Int32.toInt_maxValue] at hcn
    omega
  have hcount : (c.toInt + 1).toNat = n := by omega
  simp only [extentOf, hmax, if_neg hne, hcount]

theorem Depicts.mem_positions_iff (h : board.Depicts rows border) {q : Position} :
    q ∈ board.positions ↔
      ∃ m : Mark, m.IsIn rows ∧ q.x.toInt = m.column ∧ q.y.toInt = m.row := by
  constructor
  · -- A position belongs to a tile, and a tile to a character.
    intro hq
    obtain ⟨i, hi⟩ := List.mem_iff_getElem?.1 hq
    have hposition : board.position? ⟨i⟩ = some q := by
      rw [← hi, position?, tile?, positions, List.getElem?_map]
    have hlt : i < board.tileCount := by
      simpa [positions, tileCount] using (List.getElem?_eq_some_iff.1 hi).1
    obtain ⟨m, hm, htile⟩ := h.exists_mark ⟨i⟩ hlt
    obtain ⟨q', hq', hx, hy, -⟩ := h.tile m hm
    rw [htile, hposition] at hq'
    obtain rfl := Option.some.inj hq'
    exact ⟨m, hm, hx, hy⟩
  · rintro ⟨m, hm, hx, hy⟩
    obtain ⟨q', hq', hx', hy', -⟩ := h.tile m hm
    obtain rfl : q = q' := Position.ext_toInt (hx.trans hx'.symm) (hy.trans hy'.symm)
    obtain ⟨tile, htile, rfl⟩ := Option.map_eq_some_iff.1 hq'
    exact List.mem_map_of_mem (List.mem_of_getElem? htile)

/-- A drawing has as many columns and rows as a map of equally long rows. -/
theorem drawnSize_of_depicts (h : board.Depicts rows border) (hfit : RowsFit rows)
    (hrect : ∀ line ∈ rows, line.length = width) (hrows : rows ≠ []) (hwidth : 0 < width) :
    board.drawnWidth = .ok width ∧ board.drawnHeight = .ok rows.length := by
  have hheight : 0 < rows.length := List.length_pos_of_ne_nil hrows
  -- Characters stand in the last column and in the last row.
  have hmark {row column : Nat} (hrow : row < rows.length) (hcolumn : column < width) :
      ∃ q ∈ board.positions, q.x.toInt = column ∧ q.y.toInt = row := by
    rw [← hrect _ (List.getElem_mem hrow)] at hcolumn
    have hm : Mark.IsIn ⟨row, column, rows[row][column]⟩ rows :=
      ⟨rows[row], List.getElem?_eq_getElem hrow, List.getElem?_eq_getElem hcolumn⟩
    obtain ⟨q, hq, hx, hy, -⟩ := h.tile _ hm
    exact ⟨q, h.mem_positions_iff.2 ⟨_, hm, hx, hy⟩, hx, hy⟩
  have hinside {q : Position} (hq : q ∈ board.positions) :
      q.x.toInt < width ∧ q.y.toInt < rows.length := by
    obtain ⟨m, ⟨line, hline, hc⟩, hx, hy⟩ := h.mem_positions_iff.1 hq
    have hrow := (List.getElem?_eq_some_iff.1 hline).1
    have hcolumn := (List.getElem?_eq_some_iff.1 hc).1
    rw [hrect line (List.mem_of_getElem? hline)] at hcolumn
    omega
  have hwidth' : width < 2 ^ 31 := by
    have hfirst := List.getElem_mem hheight
    rw [← hrect _ hfirst]
    exact hfit.columns_lt _ hfirst
  constructor
  · refine extentOf_eq_ok hwidth' ?_ ?_
    · obtain ⟨q, hq, hx, -⟩ := hmark hheight (Nat.sub_lt hwidth Nat.one_pos)
      exact ⟨q.x, List.mem_map_of_mem hq, by omega⟩
    · intro c hc
      obtain ⟨q, hq, rfl⟩ := List.mem_map.1 hc
      exact (hinside hq).1
  · refine extentOf_eq_ok hfit.rows_lt ?_ ?_
    · obtain ⟨q, hq, -, hy⟩ := hmark (Nat.sub_lt hheight Nat.one_pos) hwidth
      exact ⟨q.y, List.mem_map_of_mem hq, by omega⟩
    · intro c hc
      obtain ⟨q, hq, rfl⟩ := List.mem_map.1 hc
      exact (hinside hq).2

/-! ### The drawing of a map -/

/-- How a map is drawn: not at all without characters, else with every symbol redrawn. -/
def redrawn (rows : List (List Char)) : List (List Char) :=
  if rows.flatten = [] then [] else rows.map (·.map Cell.redraw)

theorem figureAt_of_isIn (h : board.Depicts rows border) (hfit : RowsFit rows)
    (hp : ∀ t, p.occupants t = []) {m : Mark} (hm : m.IsIn rows) :
    board.figureAt p m.position = Cell.redraw m.symbol := by
  obtain ⟨hx, hy⟩ := hfit.toInt_position hm
  obtain ⟨-, -, -, -, hterrain⟩ := h.tile m hm
  have hat := (h.tileAt_eq_some_iff m.position (m.tile rows)).2 ⟨m, hm, rfl, hx, hy⟩
  rw [figureAt, hat, Option.elim_some, figureOf, hp, hterrain]
  rfl

/-- The drawing of a map of equally long rows has the rows of the map. -/
theorem drawRows_of_depicts (h : board.Depicts rows border) (hfit : RowsFit rows)
    (hrect : ∀ line ∈ rows, line.length = width) (hp : ∀ t, p.occupants t = []) :
    board.drawRows p = .ok (redrawn rows) := by
  by_cases hempty : rows.flatten = []
  · -- Without characters there are no tiles, however many rows there are.
    have hcount : board.tileCount = 0 := by
      rw [h.tileCount_eq, hempty, List.length_nil]
    have hpositions : board.positions = [] := by
      rw [positions, List.eq_nil_of_length_eq_zero hcount, List.map_nil]
    rw [redrawn, if_pos hempty, drawRows, drawnWidth, drawnHeight, hpositions]
    rfl
  · obtain ⟨line, hline, hne⟩ : ∃ line ∈ rows, line ≠ [] := by
      simpa [List.flatten_eq_nil_iff] using hempty
    have hwidth : 0 < width := hrect line hline ▸ List.length_pos_of_ne_nil hne
    obtain ⟨hcolumns, hlines⟩ :=
      drawnSize_of_depicts h hfit hrect (List.ne_nil_of_mem hline) hwidth
    rw [redrawn, if_neg hempty, drawRows, hcolumns, hlines]
    refine congrArg Except.ok ?_
    -- Row by row and column by column the figure is that of the character there.
    refine List.ext_getElem (by simp) fun y hy _ => ?_
    replace hy : y < rows.length := by simpa using hy
    have hlength := hrect _ (List.getElem_mem hy)
    rw [List.getElem_map, List.getElem_map, List.getElem_range]
    refine List.ext_getElem (by simp [hlength]) fun x hx _ => ?_
    replace hx : x < rows[y].length := by simpa [hlength] using hx
    rw [List.getElem_map, List.getElem_map, List.getElem_range]
    exact figureAt_of_isIn (m := ⟨y, x, rows[y][x]⟩) h hfit hp
      ⟨rows[y], List.getElem?_eq_getElem hy, List.getElem?_eq_getElem hx⟩

/-- A drawing shows tiles, wherever players and ghosts begin. -/
theorem draw_congr (h : copy.tiles = board.tiles) (p : Population) :
    copy.draw p = board.draw p := by
  obtain ⟨tiles, players, ghosts⟩ := board
  obtain ⟨tiles', players', ghosts'⟩ := copy
  obtain rfl : tiles' = tiles := h
  rfl

/-! ### The board of a drawing -/

/-- A cell on which nobody begins. -/
def bare (entry : Position × Cell) : Position × Cell := (entry.1, { terrain := entry.2.terrain })

theorem marksFrom_map (f : Char → Char) (k : Nat) (rows : List (List Char)) :
    marksFrom k (rows.map (·.map f)) =
      (marksFrom k rows).map fun m => { m with symbol := f m.symbol } := by
  induction rows generalizing k with
  | nil => rfl
  | cons line rest ih =>
    rw [List.map_cons, marksFrom, marksFrom, ih, List.map_append]
    congr 1
    refine List.ext_getElem? fun i => ?_
    simp only [List.getElem?_mapIdx, List.getElem?_map, Option.map_map]
    rfl

/-- A map is drawn with the same cells, but nobody begins on any of them. -/
theorem cellsOf_redrawn (rows : List (List Char)) :
    cellsOf (redrawn rows) = (cellsOf rows).map bare := by
  by_cases hempty : rows.flatten = []
  · have hmarks : marksFrom 0 rows = [] := by
      apply List.eq_nil_of_length_eq_zero
      rw [length_marksFrom, hempty, List.length_nil]
    rw [redrawn, if_pos hempty, cellsOf, cellsOf, hmarks]
    rfl
  · rw [redrawn, if_neg hempty, cellsOf, cellsOf, marksFrom_map, List.map_map, List.map_map]
    refine List.map_congr_left fun m _ => ?_
    simp only [Function.comp_apply, Mark.entry, bare, Cell.redraw, Cell.ofKnown_symbol]
    rfl

theorem length_redrawn (hboard : board.Depicts rows border) :
    (redrawn rows).length = if board.isEmpty then 0 else rows.length := by
  have hempty : board.isEmpty = true ↔ rows.flatten = [] := by
    rw [isEmpty, List.isEmpty_iff_length_eq_zero, ← List.length_eq_zero_iff,
      ← hboard.tileCount_eq, tileCount]
  simp only [redrawn, hempty]
  split
  · rfl
  · exact List.length_map _

theorem width_redrawn (hrect : ∀ line ∈ rows, line.length = width) :
    ∀ line ∈ redrawn rows, line.length = width := by
  intro line hline
  rw [redrawn] at hline
  split at hline
  · cases hline
  · obtain ⟨row, hrow, rfl⟩ := List.mem_map.1 hline
    rw [List.length_map, hrect row hrow]

/-- A drawing is itself a map. -/
theorem redrawn_known (rows : List (List Char)) :
    ∀ line ∈ redrawn rows, ∀ c ∈ line, c ∈ Cell.alphabet := by
  intro line hline c hc
  rw [redrawn] at hline
  split at hline
  · cases hline
  · obtain ⟨row, -, rfl⟩ := List.mem_map.1 hline
    obtain ⟨c, -, rfl⟩ := List.mem_map.1 hc
    exact Cell.symbol_mem_alphabet _

/-- The drawing of a map can be read: its tiles are those of the map, and nobody begins on them. -/
theorem exists_copy (hfit : RowsFit rows)
    (hbuild : (blueprintOf border (cellsOf rows)).build = .ok board) :
    ∃ copy, ofRows (redrawn rows) border = .ok copy ∧ copy.tiles = board.tiles ∧
      copy.playerSpawns = [] ∧ copy.ghostSpawns = [] := by
  have hpositions : ((cellsOf (redrawn rows)).map Prod.fst).Nodup := by
    rw [cellsOf_redrawn, List.map_map]
    exact hfit.nodup_positions
  have hspawns {test : Cell → Bool} (htest : ∀ t : Terrain, test { terrain := t } = false) :
      placesOf (cellsOf (redrawn rows)) test = [] := by
    rw [List.eq_nil_iff_forall_not_mem]
    intro t ht
    obtain ⟨entry, hentry, hbegins⟩ := mem_placesOf.1 ht
    rw [cellsOf_redrawn] at hentry
    obtain ⟨_, -, rfl⟩ := List.mem_map.1 (List.mem_of_getElem? hentry)
    rw [bare, htest] at hbegins
    cases hbegins
  -- The two boards are built alike but for the spawn tiles, and the tiles do not depend on those.
  refine ⟨⟨_, _, _⟩, (ofRows_of_known (redrawn_known rows) border).trans
    (Blueprint.build_eq_ok_iff.2 ⟨fault?_blueprintOf hpositions, rfl⟩), ?_,
    hspawns fun _ => rfl, hspawns fun _ => rfl⟩
  obtain ⟨-, rfl⟩ := Blueprint.build_eq_ok_iff.1 hbuild
  refine Blueprint.tiles_congr ?_ rfl rfl
  simp only [blueprintOf, cellsOf_redrawn, List.map_map]
  rfl

/-! ### Texts -/

/-- A row in which a wall or a gate stands is not blank, and neither is its drawing. -/
def HasWall (line : List Char) : Prop := '#' ∈ line ∨ '=' ∈ line

theorem HasWall.isBlankLine_eq_false {line : List Char} (h : HasWall line) :
    Text.isBlankLine line = false := by
  rw [Text.isBlankLine, List.all_eq_false]
  rcases h with h | h
  · exact ⟨_, h, by decide⟩
  · exact ⟨_, h, by decide⟩

theorem HasWall.redraw {line : List Char} (h : HasWall line) : HasWall (line.map Cell.redraw) :=
  h.imp (List.mem_map_of_mem (f := Cell.redraw)) (List.mem_map_of_mem (f := Cell.redraw))

/-- Symbols are no line ends, so the lines of a map are found again. -/
theorem lines_unlines_of_known (hknown : ∀ line ∈ rows, ∀ c ∈ line, c ∈ Cell.alphabet) :
    Text.lines (Text.unlines rows) = rows := by
  refine Text.lines_unlines fun line hline => ⟨fun hfeed => ?_, fun hreturn => ?_⟩
  · exact (Cell.ne_lineEnd_of_mem_alphabet (hknown line hline _ hfeed)).1 rfl
  · have hmem := List.mem_of_getLast? hreturn
    exact (Cell.ne_lineEnd_of_mem_alphabet (hknown line hline _ hmem)).2 rfl

theorem ofText_of_known (hknown : ∀ line ∈ rows, ∀ c ∈ line, c ∈ Cell.alphabet)
    (hfirst : ∀ line ∈ rows.head?, HasWall line) (hlast : ∀ line ∈ rows.getLast?, HasWall line)
    (border : Border) : ofText (String.ofList (Text.unlines rows)) border = ofRows rows border := by
  have htrim : Text.trimBlank rows = rows := Text.trimBlank_eq_self
    (fun line hline => (hfirst line hline).isBlankLine_eq_false)
    (fun line hline => (hlast line hline).isBlankLine_eq_false)
  rw [ofText, String.toList_ofList, lines_unlines_of_known hknown, htrim]

theorem hasWall_redrawn (hfirst : ∀ line ∈ rows.head?, HasWall line)
    (hlast : ∀ line ∈ rows.getLast?, HasWall line) :
    (∀ line ∈ (redrawn rows).head?, HasWall line) ∧
      ∀ line ∈ (redrawn rows).getLast?, HasWall line := by
  rw [redrawn]
  split
  · exact ⟨nofun, nofun⟩
  · rw [List.head?_map, List.getLast?_map]
    constructor
    · intro line hline
      obtain ⟨row, hrow, rfl⟩ := Option.map_eq_some_iff.1 hline
      exact (hfirst row hrow).redraw
    · intro line hline
      obtain ⟨row, hrow, rfl⟩ := Option.map_eq_some_iff.1 hline
      exact (hlast row hrow).redraw

/-! ### There and back -/

/-- What becomes of a map with rows of one width that is drawn and read again: `board` is the board
of the map, `lines` is the drawing, and `copy` is the board of the drawing. -/
structure Redrawing (rows : List (List Char)) (width : Nat) (border : Border) (board : Board)
    (lines : List (List Char)) (copy : Board) : Prop where
  /-- There is one line for each row, but none if there are no tiles; -/
  length_lines : lines.length = if board.isEmpty then 0 else rows.length
  /-- the lines are as long as the rows, -/
  width_lines : ∀ line ∈ lines, line.length = width
  /-- and are found again in a text in which each ends with a line feed. -/
  lines_unlines : Text.lines (Text.unlines lines) = lines
  /-- That text is the drawing as long as nobody stands anywhere. -/
  draw_eq : ∀ p : Population, p.Consistent → (∀ a, p.tile? a = none) →
    board.draw p = .ok (String.ofList (Text.unlines lines))
  /-- The copy has the same tiles, with their positions, terrains and sides, -/
  tiles_eq : copy.tiles = board.tiles
  /-- and no player -/
  playerSpawns_eq : copy.playerSpawns = []
  /-- and no ghost begins on any of them. -/
  ghostSpawns_eq : copy.ghostSpawns = []
  /-- It looks the same. -/
  redraw_eq : ∀ p : Population, p.Consistent → (∀ a, p.tile? a = none) →
    copy.draw p = .ok (String.ofList (Text.unlines lines))
  /-- If walls or gates stand in the first row and in the last, both maps can be read from texts. -/
  texts : (∀ line ∈ rows.head?, HasWall line) → (∀ line ∈ rows.getLast?, HasWall line) →
    ofText (String.ofList (Text.unlines rows)) border = .ok board ∧
      ofText (String.ofList (Text.unlines lines)) border = .ok copy

/-- **A map that is drawn and read again is the same maze.** -/
theorem redrawing_keeps_tiles (hfit : RowsFit rows)
    (hknown : ∀ line ∈ rows, ∀ c ∈ line, c ∈ Cell.alphabet)
    (hrect : ∀ line ∈ rows, line.length = width) (border : Border) :
    ∃ board lines copy, ofRows rows border = .ok board ∧ ofRows lines border = .ok copy ∧
      Redrawing rows width border board lines copy := by
  obtain ⟨board, hbuild⟩ := hfit.exists_build border
  obtain ⟨copy, hcopy, htiles, hplayers, hghosts⟩ := exists_copy hfit hbuild
  have hboard : ofRows rows border = .ok board := (ofRows_of_known hknown border).trans hbuild
  have hdepicts := depicts_of_build hfit hbuild
  have hdraw (p : Population) (hp : p.Consistent) (hout : ∀ a, p.tile? a = none) :
      board.draw p = .ok (String.ofList (Text.unlines (redrawn rows))) := by
    rw [draw, drawRows_of_depicts hdepicts hfit hrect (hp.occupants_eq_nil hout)]
    rfl
  refine ⟨board, redrawn rows, copy, hboard, hcopy, ?_⟩
  constructor
  case length_lines => exact length_redrawn hdepicts
  case width_lines => exact width_redrawn hrect
  case lines_unlines => exact lines_unlines_of_known (redrawn_known rows)
  case draw_eq => exact hdraw
  case tiles_eq => exact htiles
  case playerSpawns_eq => exact hplayers
  case ghostSpawns_eq => exact hghosts
  case redraw_eq =>
    intro p hp hout
    rw [draw_congr htiles, hdraw p hp hout]
  case texts =>
    intro hfirst hlast
    obtain ⟨hfirst', hlast'⟩ := hasWall_redrawn hfirst hlast
    exact ⟨(ofText_of_known hknown hfirst hlast border).trans hboard,
      (ofText_of_known (redrawn_known rows) hfirst' hlast' border).trans hcopy⟩

/-- A player and a ghost between two gates. -/
def gatehouse : List (List Char) := [['#', '=', '#'], ['P', '.', 'G'], ['=', ' ', '#']]

/-- The letters and the dot of the gatehouse become blanks. -/
theorem redrawing_keeps_tiles_gatehouse :
    RowsFit gatehouse ∧ (∀ line ∈ gatehouse, ∀ c ∈ line, c ∈ Cell.alphabet) ∧
      (∀ line ∈ gatehouse, line.length = 3) ∧
      ∃ board copy, ofRows gatehouse .tunnels = .ok board ∧
        board.draw (.ofKinds [.player, .blinky] 9) = .ok "#=#\n   \n= #\n" ∧
        ofText "#=#\n   \n= #\n" .tunnels = .ok copy ∧ copy.tiles = board.tiles := by
  have hfit : RowsFit gatehouse := ⟨by decide, by decide⟩
  have hknown : ∀ line ∈ gatehouse, ∀ c ∈ line, c ∈ Cell.alphabet := by
    simp [gatehouse, Cell.alphabet]
  have hrect : ∀ line ∈ gatehouse, line.length = 3 := by simp [gatehouse]
  have hshown : (ofRows gatehouse .tunnels).map
      (fun board => board.draw (.ofKinds [.player, .blinky] 9)) = .ok (.ok "#=#\n   \n= #\n") := by
    rfl
  obtain ⟨board, lines, copy, hboard, -, h⟩ := redrawing_keeps_tiles hfit hknown hrect .tunnels
  rw [hboard] at hshown
  have hdraw : board.draw _ = _ := Except.ok.inj hshown
  have htext := h.draw_eq (.ofKinds [.player, .blinky] 9) (Population.consistent_ofKinds _ _)
    fun _ => Population.tile?_ofKinds
  have hfirst : ∀ line ∈ gatehouse.head?, HasWall line := by
    intro line hline
    obtain rfl := Option.some.inj hline
    exact .inl (by decide)
  have hlast : ∀ line ∈ gatehouse.getLast?, HasWall line := by
    intro line hline
    obtain rfl := Option.some.inj hline
    exact .inr (by decide)
  -- The text that the drawing was computed to be is the text that the theorem speaks of.
  rw [htext] at hdraw
  have hcopy := (h.texts hfirst hlast).2
  rw [Except.ok.inj hdraw] at hcopy htext
  exact ⟨hfit, hknown, hrect, board, copy, hboard, htext, hcopy, h.tiles_eq⟩

end Board

end MazeChase
