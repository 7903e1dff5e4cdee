import MazeChase.Board.Map
import MazeChase.Proofs.Layout
import MazeChase.Proofs.Sequence

/-!
# Boards on which every way leads back

A link is one-way if the opposite side of its target does not lead back to the tile that it leaves.
Links that are written by hand may be one-way, and the board lists those that are. A grid has none:
what lies beside a tile has that tile beside it on the opposite side, on the plane and on every
torus. This needs no care for boxes one or two cells wide, where the opposite sides of a tile lead
to the same cell, nor for gaps, since a tile that is missing is missing from both sides.

## Main definitions

* `Board.Undirected` — every way leads back
* `Board.Precedes` — the order of the sides of tiles in a report
* `Board.ListsOneWays` — a report lists exactly the one-way links

## Main results

* `Blueprint.undirected_of_build` — without links by hand every way leads back
* `Board.report_exact_and_grids_undirected` — the report is exact, and empty for every grid and
  every map
-/

namespace MazeChase

namespace Board

variable {board : Board} {t u : TileId} {d : Direction}

/-- Every way leads back. -/
def Undirected (board : Board) : Prop :=
  ∀ t d u, board.neighbor t d = some u → board.neighbor u d.opposite = some t

/-- Of two sides of tiles, the first one comes before the second one: tiles ascend, and the sides of
one tile stand in canonical order. -/
def Precedes (s s' : TileId × Direction) : Prop :=
  s.1.index < s'.1.index ∨ s.1 = s'.1 ∧ s.2.ordinal < s'.2.ordinal

theorem Precedes.ne {s s' : TileId × Direction} (h : Precedes s s') : s ≠ s' := by
  rintro rfl
  rcases h with h | ⟨-, h⟩
  · omega
  · omega

/-! ### The report of one-way links -/

theorem mem_oneWayLinks :
    (t, d) ∈ board.oneWayLinks ↔
      ∃ u, board.neighbor t d = some u ∧ board.neighbor u d.opposite ≠ some t := by
  simp only [oneWayLinks, List.mem_flatMap, List.mem_map, List.mem_filter, Option.any_eq_true,
    bne_iff_ne, Prod.mk.injEq]
  constructor
  · rintro ⟨t, -, d, ⟨-, u, hu, hback⟩, rfl, rfl⟩
    exact ⟨u, hu, hback⟩
  · rintro ⟨u, hu, hback⟩
    obtain ⟨tile, htile, -⟩ := Option.bind_eq_some_iff.1 hu
    exact ⟨t, mem_tileIds.2 (lt_of_tile? htile), d, ⟨Direction.mem_all d, u, hu, hback⟩, rfl, rfl⟩

theorem pairwise_tileIds (board : Board) :
    board.tileIds.Pairwise (fun t u => t.index < u.index) := by
  rw [tileIds, List.pairwise_map]
  exact List.pairwise_lt_range

theorem pairwise_oneWayLinks (board : Board) : board.oneWayLinks.Pairwise Precedes := by
  rw [oneWayLinks, List.pairwise_flatMap]
  constructor
  · intro t _
    rw [List.pairwise_map]
    exact (Direction.pairwise_all.filter _).imp fun h => .inr ⟨rfl, h⟩
  · apply (pairwise_tileIds board).imp
    intro t u htu s hs s' hs'
    obtain ⟨d, -, rfl⟩ := List.mem_map.1 hs
    obtain ⟨d', -, rfl⟩ := List.mem_map.1 hs'
    exact .inl htu

theorem oneWayLinks_eq_nil_iff : board.oneWayLinks = [] ↔ board.Undirected := by
  rw [List.eq_nil_iff_forall_not_mem]
  constructor
  · intro h t d u hu
    by_contra hback
    exact h (t, d) (mem_oneWayLinks.2 ⟨u, hu, hback⟩)
  · rintro h ⟨t, d⟩ hmem
    obtain ⟨u, hu, hback⟩ := mem_oneWayLinks.1 hmem
    exact hback (h t d u hu)

/-- A list of sides of tiles is the report of the one-way links of a board. -/
structure ListsOneWays (board : Board) (report : List (TileId × Direction)) : Prop where
  exact : ∀ t d, (t, d) ∈ report ↔
    ∃ u, board.neighbor t d = some u ∧ board.neighbor u d.opposite ≠ some t
  ascending : report.Pairwise Precedes
  nodup : report.Nodup

theorem listsOneWays_oneWayLinks (board : Board) : board.ListsOneWays board.oneWayLinks where
  exact _ _ := mem_oneWayLinks
  ascending := pairwise_oneWayLinks board
  nodup := (pairwise_oneWayLinks board).imp Precedes.ne

end Board

/-! ### Grids -/

namespace Blueprint

variable {b : Blueprint} {board : Board}

/-- Without links by hand every way leads back. -/
theorem undirected_of_build (h : b.build = .ok board) (hlinks : b.links = []) :
    board.Undirected := by
  have hlink (t : TileId) (d : Direction) : b.linked? t d = none := by simp [linked?, hlinks]
  intro t d u hu
  obtain ⟨p, hp⟩ := Board.exists_position?_of_neighbor hu
  cases hgrid : b.grid with
  | none =>
    rw [neighbor_of_build h hp, exit?, hlink, gridded?, hgrid] at hu
    cases hu
  | some border =>
    obtain ⟨q, hq, hjoins⟩ := (neighbor_eq_some_iff h (hlink t d) hgrid hp).1 hu
    -- The way back is a step on the same torus, and the tile that it comes back to lies in the box.
    have hinside := Extent.contains_ofPositions (mem_positions_of_build h hp)
    exact (neighbor_eq_some_iff h (hlink u d.opposite) hgrid hq).2 ⟨p, hp, hjoins.symm hinside⟩

theorem links_ofCalls_eq_nil {calls : List Call} (h : ∀ c ∈ calls, c.links = []) :
    (ofCalls calls).links = [] := by
  rw [links_ofCalls]
  exact List.flatMap_eq_nil_iff.2 h

end Blueprint

namespace Board

variable {rows : List (List Char)} {border : Border} {board : Board}

theorem undirected_of_ofRows (h : ofRows rows border = .ok board) : board.Undirected := by
  obtain ⟨cells, -, hbuild⟩ := bind_eq_ok_iff.1 h
  exact Blueprint.undirected_of_build hbuild rfl

/-- The report of one-way links lists exactly these, by tile and side; and it is empty for every
board that is joined as a grid only, every map among them. -/
theorem report_exact_and_grids_undirected :
    (∀ board : Board, board.ListsOneWays board.oneWayLinks) ∧
    (∀ calls : List Blueprint.Call, Blueprint.Fit calls → (∀ c ∈ calls, c.links = []) →
      ∃ board, (Blueprint.ofCalls calls).build = .ok board ∧ board.oneWayLinks = []) ∧
    (∀ rows border board, ofRows rows border = .ok board → board.oneWayLinks = []) ∧
    ∀ text border board, ofText text border = .ok board → board.oneWayLinks = [] := by
  refine ⟨listsOneWays_oneWayLinks, ?_, ?_, ?_⟩
  · intro calls hfit hlinks
    obtain ⟨board, hbuild⟩ := Blueprint.exists_build_ofCalls hfit
    refine ⟨board, hbuild, oneWayLinks_eq_nil_iff.2 ?_⟩
    exact Blueprint.undirected_of_build hbuild (Blueprint.links_ofCalls_eq_nil hlinks)
  · intro rows border board h
    exact oneWayLinks_eq_nil_iff.2 (undirected_of_ofRows h)
  · intro text border board h
    exact oneWayLinks_eq_nil_iff.2 (undirected_of_ofRows h)

/-- A ragged grid with tunnels: three of the four cells of a box two cells wide and high. -/
def ragged : List Blueprint.Call :=
  [.connectGrid .tunnels, .addTile ⟨0, 0⟩ .floor, .addTile ⟨1, 0⟩ .floor, .addTile ⟨0, 1⟩ .floor]

theorem report_exact_and_grids_undirected_ragged :
    (Blueprint.Fit ragged ∧
      ∃ board, (Blueprint.ofCalls ragged).build = .ok board ∧ board.oneWayLinks = []) ∧
    (∃ board, ofRows [['P', '.'], ['G']] .tunnels = .ok board ∧ board.oneWayLinks = []) ∧
    ∃ board, ofText "P.\nG" .solid = .ok board ∧ board.oneWayLinks = [] := by
  have hfit : Blueprint.Fit ragged := ⟨by decide, by decide⟩
  have hmap : ∃ board, ofRows [['P', '.'], ['G']] .tunnels = .ok board := ⟨_, rfl⟩
  have hdrawing : ∃ board, ofText "P.\nG" .solid = .ok board := ⟨_, rfl⟩
  obtain ⟨-, hcalls, hrows, htext⟩ := report_exact_and_grids_undirected
  obtain ⟨board, hboard⟩ := hmap
  obtain ⟨board', hboard'⟩ := hdrawing
  exact ⟨⟨hfit, hcalls ragged hfit (by decide)⟩, ⟨board, hboard, hrows _ _ _ hboard⟩,
    board', hboard', htext _ _ _ hboard'⟩

end Board

end MazeChase
