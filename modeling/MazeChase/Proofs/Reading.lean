import Mathlib.Algebra.Ring.Nat
import MazeChase.Proofs.Layout
import MazeChase.Proofs.Marks
import MazeChase.Proofs.Sequence

/-!
# How maps are read

Every character of a map has to be one of the symbols of maps. If some are not, the one that is read
first is reported, and nothing else can be wrong with a map. Otherwise every character becomes one
tile, at the column and row of the character, and the tiles are numbered in the order of reading.

A place of the grid that no character takes has no tile. So where a row is shorter than the next one
the sides that face the gap lead nowhere, with tunnels or without.

## Main definitions

* `Board.RowsFit` — maps whose rows and columns can be numbered by coordinates
* `Board.Depicts` — all that a map says of its board

## Main results

* `Board.depicts_of_build` — the board of the cells of a map is what the map says
* `Board.ofRows_eq_error_iff` — what is reported of a map that cannot be read
* `Board.ofRows_exact` — which maps are read, what is reported of the others, and what comes of them
-/

namespace MazeChase.Board

variable {rows : List (List Char)} {border : Border} {board : Board} {t u : TileId} {p q : Position}

/-! ### Cells -/

variable {cells : List (Position × Cell)} {test : Cell → Bool}

theorem mem_placesOf :
    t ∈ placesOf cells test ↔ ∃ entry, cells[t.index]? = some entry ∧ test entry.2 = true := by
  obtain ⟨i⟩ := t
  simp only [placesOf, List.mem_map, List.mem_filter, List.mem_zipIdx_iff_getElem?, TileId.mk.injEq]
  constructor
  · rintro ⟨⟨entry, j⟩, ⟨hentry, htest⟩, rfl⟩
    exact ⟨entry, hentry, htest⟩
  · rintro ⟨entry, hentry, htest⟩
    exact ⟨(entry, i), ⟨hentry, htest⟩, rfl⟩

theorem pairwise_placesOf (cells : List (Position × Cell)) (test : Cell → Bool) :
    (placesOf cells test).Pairwise fun t u => t.index < u.index := by
  have hplaces : (cells.zipIdx.map Prod.snd).Pairwise (· < ·) := by
    rw [List.zipIdx_map_snd]
    exact List.pairwise_lt_range'
  rw [placesOf, List.pairwise_map]
  exact (List.pairwise_map.1 hplaces).filter _

theorem positions_blueprintOf (border : Border) (cells : List (Position × Cell)) :
    (blueprintOf border cells).positions = cells.map Prod.fst := by
  simp [Blueprint.positions, blueprintOf, Function.comp_def]

/-- Nothing is wrong with cells at different positions. -/
theorem fault?_blueprintOf (h : (cells.map Prod.fst).Nodup) :
    (blueprintOf border cells).fault? = none := by
  rw [Blueprint.fault?_eq_none_iff, positions_blueprintOf]
  constructor
  · exact h
  · -- No link is written, so the tiles that are named are places of cells.
    intro t ht
    have hplace : ∃ test, t ∈ placesOf cells test := by
      rcases List.mem_append.1 ht with hlink | hspawn
      · cases hlink
      · rcases List.mem_append.1 hspawn with hplayer | hghost
        · exact ⟨_, hplayer⟩
        · exact ⟨_, hghost⟩
    obtain ⟨test, hplace⟩ := hplace
    obtain ⟨entry, hentry, -⟩ := mem_placesOf.1 hplace
    simpa [Blueprint.tileCount, blueprintOf] using (List.getElem?_eq_some_iff.1 hentry).1

/-- The cells of the characters of a map. -/
def cellsOf (rows : List (List Char)) : List (Position × Cell) := (marksFrom 0 rows).map Mark.entry

theorem getElem?_cellsOf {i : Nat} {entry : Position × Cell} :
    (cellsOf rows)[i]? = some entry ↔
      ∃ m : Mark, m.IsIn rows ∧ m.rank rows = i ∧ m.entry = entry := by
  simp only [cellsOf, List.getElem?_map, Option.map_eq_some_iff, getElem?_marks, and_assoc]

theorem mem_placesOf_cellsOf {c : Char}
    (htest : ∀ m : Mark, test (.ofKnown m.symbol) = true ↔ m.symbol = c) :
    t ∈ placesOf (cellsOf rows) test ↔
      ∃ m : Mark, m.IsIn rows ∧ m.symbol = c ∧ m.tile rows = t := by
  obtain ⟨i⟩ := t
  simp only [mem_placesOf, getElem?_cellsOf, Mark.tile, TileId.mk.injEq]
  constructor
  · rintro ⟨_, ⟨m, hm, hrank, rfl⟩, hentry⟩
    exact ⟨m, hm, (htest m).1 hentry, hrank⟩
  · rintro ⟨m, hm, hc, hrank⟩
    exact ⟨_, ⟨m, hm, hrank, rfl⟩, (htest m).2 hc⟩

/-! ### Positions -/

/-- The rows and columns of a map are few enough to be numbered by coordinates. -/
structure RowsFit (rows : List (List Char)) : Prop where
  rows_lt : rows.length < 2 ^ 31
  columns_lt : ∀ line ∈ rows, line.length < 2 ^ 31

namespace RowsFit

variable {m n : Mark}

theorem toInt_position (hfit : RowsFit rows) (hm : m.IsIn rows) :
    m.position.x.toInt = m.column ∧ m.position.y.toInt = m.row := by
  obtain ⟨line, hline, hsymbol⟩ := hm
  have hrow : m.row < rows.length := (List.getElem?_eq_some_iff.1 hline).1
  have hcolumn : m.column < line.length := (List.getElem?_eq_some_iff.1 hsymbol).1
  have hline' := hfit.columns_lt line (List.mem_of_getElem? hline)
  exact ⟨Int32.toInt_ofNat_of_lt (Nat.lt_trans hcolumn hline'),
    Int32.toInt_ofNat_of_lt (Nat.lt_trans hrow hfit.rows_lt)⟩

theorem position_ne (hfit : RowsFit rows) (hm : m.IsIn rows) (hn : n.IsIn rows)
    (h : m.Precedes n) : m.position ≠ n.position := by
  intro heq
  -- Coordinates are exact numbers, so characters at one position share their row and column.
  obtain ⟨hxm, hym⟩ := hfit.toInt_position hm
  obtain ⟨hxn, hyn⟩ := hfit.toInt_position hn
  rw [heq] at hxm hym
  simp only [Mark.Precedes] at h
  omega

/-- Different characters lie at different positions. -/
theorem nodup_positions (hfit : RowsFit rows) :
    ((cellsOf rows).map Prod.fst).Nodup := by
  rw [cellsOf, List.map_map]
  refine List.pairwise_map.2 ((pairwise_marksFrom 0 rows).imp_of_mem ?_)
  intro m n hm hn h
  exact hfit.position_ne (mem_marks.1 hm) (mem_marks.1 hn) h

end RowsFit

/-! ### The board of a map -/

/-- The calls that add the tiles of a map one by one, and then join them as a grid. -/
def gridCalls (rows : List (List Char)) (border : Border) : List Blueprint.Call :=
  (marksFrom 0 rows).map (fun m => .addTile m.position (Cell.ground m.symbol)) ++
    [.connectGrid border]

/-- The board is what a map with a border says. -/
structure Depicts (rows : List (List Char)) (border : Border) (board : Board) : Prop where
  /-- There is one tile for each character, -/
  tileCount_eq : board.tileCount = rows.flatten.length
  /-- where the character stands and of what it stands for; -/
  tile : ∀ m : Mark, m.IsIn rows → ∃ p, board.position? (m.tile rows) = some p ∧
    p.x.toInt = m.column ∧ p.y.toInt = m.row ∧
    board.terrain? (m.tile rows) = some (Cell.ground m.symbol)
  /-- every tile is the tile of a character; -/
  exists_mark : ∀ t, t.index < board.tileCount → ∃ m : Mark, m.IsIn rows ∧ m.tile rows = t
  /-- and tiles are numbered in the order of reading. -/
  ordered : ∀ m n : Mark, m.IsIn rows → n.IsIn rows →
    (m.Precedes n ↔ (m.tile rows).index < (n.tile rows).index)
  /-- A place where no character stands has no tile. -/
  tileAt_eq_some_iff : ∀ p t, board.tileAt p = some t ↔
    ∃ m : Mark, m.IsIn rows ∧ m.tile rows = t ∧ p.x.toInt = m.column ∧ p.y.toInt = m.row
  /-- Players begin on the tiles of one letter, -/
  mem_playerSpawns_iff : ∀ t, t ∈ board.playerSpawns ↔
    ∃ m : Mark, m.IsIn rows ∧ m.symbol = 'P' ∧ m.tile rows = t
  /-- in order, -/
  playerSpawns_ascending : board.playerSpawns.Pairwise fun t u => t.index < u.index
  /-- ghosts on the tiles of another one, -/
  mem_ghostSpawns_iff : ∀ t, t ∈ board.ghostSpawns ↔
    ∃ m : Mark, m.IsIn rows ∧ m.symbol = 'G' ∧ m.tile rows = t
  /-- in order. -/
  ghostSpawns_ascending : board.ghostSpawns.Pairwise fun t u => t.index < u.index
  /-- The sides of the tiles lead where they lead if the tiles are added and joined as a grid, -/
  gridded : ∃ grid, (Blueprint.ofCalls (gridCalls rows border)).build = .ok grid ∧
    grid.tiles = board.tiles
  /-- which is to what comes after, on the plane or on the torus that the smallest box around all
  tiles becomes. -/
  joined : ∀ {t d p}, board.position? t = some p → ∃ e : Extent, e.IsHull board.positions ∧
    ∀ u, board.neighbor t d = some u ↔ ∃ q, board.position? u = some q ∧ e.Joins border p d q

theorem RowsFit.exists_build (hfit : RowsFit rows) (border : Border) :
    ∃ board, (blueprintOf border (cellsOf rows)).build = .ok board :=
  ⟨_, Blueprint.build_eq_ok_iff.2 ⟨fault?_blueprintOf hfit.nodup_positions, rfl⟩⟩

section Built

variable (h : (blueprintOf border (cellsOf rows)).build = .ok board)

include h

theorem position?_eq_some_iff_of_cellsOf :
    board.position? t = some p ↔
      ∃ m : Mark, m.IsIn rows ∧ m.tile rows = t ∧ m.position = p := by
  obtain ⟨i⟩ := t
  rw [Blueprint.position?_of_build h, positions_blueprintOf, List.getElem?_map,
    Option.map_eq_some_iff]
  simp only [getElem?_cellsOf, Mark.tile, TileId.mk.injEq]
  constructor
  · rintro ⟨_, ⟨m, hm, hrank, rfl⟩, rfl⟩
    exact ⟨m, hm, hrank, rfl⟩
  · rintro ⟨m, hm, hrank, rfl⟩
    exact ⟨_, ⟨m, hm, hrank, rfl⟩, rfl⟩

theorem terrain?_of_isIn {m : Mark} (hm : m.IsIn rows) :
    board.terrain? (m.tile rows) = some (Cell.ground m.symbol) := by
  have hcell : (cellsOf rows)[m.rank rows]? = some m.entry := getElem?_cellsOf.2 ⟨m, hm, rfl, rfl⟩
  have hplot : (blueprintOf border (cellsOf rows)).plots[m.rank rows]? =
      some ⟨m.position, Cell.ground m.symbol⟩ := by
    simp only [blueprintOf, List.getElem?_map, hcell]
    rfl
  rw [Blueprint.terrain?_of_build h, Mark.tile, hplot]
  rfl

theorem tileCount_of_cellsOf : board.tileCount = rows.flatten.length := by
  rw [Blueprint.tileCount_of_build h]
  simp [Blueprint.tileCount, blueprintOf, cellsOf, length_marksFrom]

theorem tileAt_of_cellsOf (hfit : RowsFit rows) :
    board.tileAt p = some t ↔
      ∃ m : Mark, m.IsIn rows ∧ m.tile rows = t ∧ p.x.toInt = m.column ∧ p.y.toInt = m.row := by
  rw [Blueprint.tileAt_of_build h, position?_eq_some_iff_of_cellsOf h]
  refine exists_congr fun m => and_congr_right fun hm => and_congr_right fun _ => ?_
  obtain ⟨hx, hy⟩ := hfit.toInt_position hm
  constructor
  · rintro rfl
    exact ⟨hx, hy⟩
  · rintro ⟨hpx, hpy⟩
    exact Position.ext_toInt (hx.trans hpx.symm) (hy.trans hpy.symm)

end Built

theorem plotsOf_gridCalls (rows : List (List Char)) (border : Border) :
    Blueprint.plotsOf (gridCalls rows border) = (blueprintOf border (cellsOf rows)).plots := by
  simp only [Blueprint.plotsOf, gridCalls, List.flatMap_append, List.flatMap_map,
    Blueprint.Call.plots, List.flatMap_singleton, List.append_nil, ← List.map_eq_flatMap,
    blueprintOf, cellsOf, List.map_map]
  rfl

theorem exists_grid (hfit : RowsFit rows) (border : Border) :
    ∃ grid, (Blueprint.ofCalls (gridCalls rows border)).build = .ok grid ∧
      grid.tiles = (blueprintOf border (cellsOf rows)).tiles := by
  have hfits : Blueprint.Fit (gridCalls rows border) := by
    refine ⟨?_, ?_⟩
    · rw [plotsOf_gridCalls]
      change (blueprintOf border (cellsOf rows)).positions.Nodup
      rw [positions_blueprintOf]
      exact hfit.nodup_positions
    · -- Tiles are added and joined, but none is named.
      intro c hc t ht
      rcases List.mem_append.1 hc with hadd | hjoin
      · obtain ⟨m, -, rfl⟩ := List.mem_map.1 hadd
        cases ht
      · obtain rfl := List.mem_singleton.1 hjoin
        cases ht
  obtain ⟨grid, hgrid⟩ := Blueprint.exists_build_ofCalls hfits
  refine ⟨grid, hgrid, ?_⟩
  obtain ⟨-, rfl⟩ := Blueprint.build_eq_ok_iff.1 hgrid
  refine Blueprint.tiles_congr ?_ ?_ ?_
  · rw [Blueprint.plots_ofCalls, plotsOf_gridCalls]
  · rw [Blueprint.links_ofCalls]
    simp [gridCalls, Blueprint.Call.links, blueprintOf]
  · rw [Blueprint.grid_ofCalls]
    simp [Blueprint.lastBorder?, gridCalls, Blueprint.Call.border?, blueprintOf]

/-- The board of the cells of a map is what the map says. -/
theorem depicts_of_build (hfit : RowsFit rows)
    (h : (blueprintOf border (cellsOf rows)).build = .ok board) : board.Depicts rows border where
  tileCount_eq := tileCount_of_cellsOf h
  tile m hm := by
    obtain ⟨hx, hy⟩ := hfit.toInt_position hm
    exact ⟨_, (position?_eq_some_iff_of_cellsOf h).2 ⟨m, hm, rfl, rfl⟩, hx, hy,
      terrain?_of_isIn h hm⟩
  exists_mark t ht := by
    obtain ⟨p, hp⟩ : ∃ p, board.position? t = some p :=
      ⟨_, congrArg (Option.map Tile.position) (List.getElem?_eq_getElem ht)⟩
    obtain ⟨m, hm, htile, -⟩ := (position?_eq_some_iff_of_cellsOf h).1 hp
    exact ⟨m, hm, htile⟩
  ordered m n hm hn := (rank_lt_rank_iff hm hn).symm
  tileAt_eq_some_iff p t := tileAt_of_cellsOf h hfit
  mem_playerSpawns_iff t := by
    obtain ⟨-, rfl⟩ := Blueprint.build_eq_ok_iff.1 h
    exact mem_placesOf_cellsOf fun m => by simp [Cell.ofKnown]
  playerSpawns_ascending := by
    obtain ⟨-, rfl⟩ := Blueprint.build_eq_ok_iff.1 h
    exact pairwise_placesOf _ _
  mem_ghostSpawns_iff t := by
    obtain ⟨-, rfl⟩ := Blueprint.build_eq_ok_iff.1 h
    exact mem_placesOf_cellsOf fun m => by simp [Cell.ofKnown]
  ghostSpawns_ascending := by
    obtain ⟨-, rfl⟩ := Blueprint.build_eq_ok_iff.1 h
    exact pairwise_placesOf _ _
  gridded := by
    obtain ⟨-, rfl⟩ := Blueprint.build_eq_ok_iff.1 h
    exact exists_grid hfit border
  joined := by
    intro t d p hp
    refine ⟨.ofPositions board.positions, ?_, fun u => ?_⟩
    · have hmem := Blueprint.mem_positions_of_build h hp
      rw [← Blueprint.positions_of_build h] at hmem
      exact Extent.isHull_ofPositions (List.ne_nil_of_mem hmem)
    · rw [Blueprint.positions_of_build h]
      exact Blueprint.neighbor_eq_some_iff h rfl rfl hp

/-! ### Which maps are read -/

theorem ofRows_eq_error_iff (hfit : RowsFit rows) (border : Border) {e : BoardError} :
    ofRows rows border = .error e ↔
      ∃ m, FirstUnknown rows m ∧ e = .unknownSymbol m.row m.column m.symbol := by
  -- Either reading the characters fails or building the board does.
  simp only [← find?_marks_eq_some_iff]
  rw [ofRows, bind_eq_error_iff, readMarks_eq]
  obtain ⟨board, hboard⟩ := hfit.exists_build border
  cases (marksFrom 0 rows).find? fun m => m.symbol ∉ Cell.alphabet with
  | some m => simp [eq_comm]
  | none =>
    -- All characters are known, and nothing is wrong with their cells.
    simp only [reduceCtorEq, false_and, exists_false, iff_false, false_or, not_exists, not_and,
      Except.ok.injEq]
    rintro _ rfl hbuild
    rw [cellsOf] at hboard
    rw [hboard] at hbuild
    cases hbuild

theorem ofRows_of_known (hknown : ∀ line ∈ rows, ∀ c ∈ line, c ∈ Cell.alphabet) (border : Border) :
    ofRows rows border = (blueprintOf border (cellsOf rows)).build := by
  have hnone : ((marksFrom 0 rows).find? fun m => m.symbol ∉ Cell.alphabet) = none := by
    rw [List.find?_eq_none]
    intro m hm
    obtain ⟨line, hline, hc⟩ := (mem_marks.1 hm).mem
    simpa using hknown line hline m.symbol hc
  rw [ofRows, readMarks_eq, hnone]
  rfl

/-- **Maps are read exactly.** A map is refused exactly if some character is no symbol, and then the
first of these in the order of reading is reported and nothing else; and any other map gives the
board that it depicts. -/
theorem ofRows_exact (hfit : RowsFit rows) (border : Border) :
    ((∃ e, ofRows rows border = .error e) ↔ ∃ line ∈ rows, ∃ c ∈ line, c ∉ Cell.alphabet) ∧
    (∀ e, ofRows rows border = .error e ↔
      ∃ m, FirstUnknown rows m ∧ e = .unknownSymbol m.row m.column m.symbol) ∧
    ((∀ line ∈ rows, ∀ c ∈ line, c ∈ Cell.alphabet) →
      ∃ board, ofRows rows border = .ok board ∧ board.Depicts rows border) := by
  have hread (hknown : ∀ line ∈ rows, ∀ c ∈ line, c ∈ Cell.alphabet) :
      ∃ board, ofRows rows border = .ok board ∧ board.Depicts rows border := by
    obtain ⟨board, hboard⟩ := hfit.exists_build border
    exact ⟨board, (ofRows_of_known hknown border).trans hboard, depicts_of_build hfit hboard⟩
  refine ⟨⟨?_, ?_⟩, fun e => ofRows_eq_error_iff hfit border, hread⟩
  · rintro ⟨e, he⟩
    obtain ⟨m, hm, -⟩ := (ofRows_eq_error_iff hfit border).1 he
    obtain ⟨line, hline, hc⟩ := hm.isIn.mem
    exact ⟨line, hline, m.symbol, hc, hm.unknown⟩
  · rintro ⟨line, hline, c, hc, hunknown⟩
    cases hresult : ofRows rows border with
    | error e => exact ⟨e, rfl⟩
    | ok board =>
      -- Reading comes to a board only if every character is a symbol.
      obtain ⟨cells, hcells, -⟩ := bind_eq_ok_iff.1 hresult
      rw [readMarks_eq] at hcells
      split at hcells
      · cases hcells
      · next hnone =>
        obtain ⟨m, hm, rfl⟩ := Mark.exists_isIn hline hc
        have hsymbol := List.find?_eq_none.1 hnone m (mem_marks.2 hm)
        exact absurd hunknown (by simpa using hsymbol)

/-- Three rows of different lengths, one of them without any character. -/
def staircase : List (List Char) := [['#', 'P'], [], ['G', '.', '=']]

/-- Two characters of this map are no symbols. -/
def smudged : List (List Char) := [['P', '?'], ['!', 'G']]

theorem ofRows_exact_staircase :
    RowsFit staircase ∧ RowsFit smudged ∧
      (∃ board, ofRows staircase .tunnels = .ok board ∧ board.Depicts staircase .tunnels) ∧
      ofRows smudged .solid = .error (.unknownSymbol 0 1 '?') := by
  have hfit : RowsFit staircase := ⟨by decide, by decide⟩
  have hfit' : RowsFit smudged := ⟨by decide, by decide⟩
  have hfirst : FirstUnknown smudged ⟨0, 1, '?'⟩ := by
    refine ⟨⟨_, rfl, rfl⟩, by decide, ?_⟩
    rintro ⟨row, column, c⟩ ⟨line, hline, hc⟩ (hrow | ⟨hrow, hcolumn⟩)
    · cases hrow
    · obtain rfl : row = 0 := hrow
      obtain rfl : column = 0 := Nat.lt_one_iff.1 hcolumn
      obtain rfl := Option.some.inj hline
      obtain rfl := Option.some.inj hc
      decide
  obtain ⟨-, -, hread⟩ := ofRows_exact hfit .tunnels
  obtain ⟨-, hreport, -⟩ := ofRows_exact hfit' .solid
  have hknown : ∀ line ∈ staircase, ∀ c ∈ line, c ∈ Cell.alphabet := by
    simp [staircase, Cell.alphabet]
  exact ⟨hfit, hfit', hread hknown, (hreport _).2 ⟨_, hfirst, rfl⟩⟩

end MazeChase.Board
