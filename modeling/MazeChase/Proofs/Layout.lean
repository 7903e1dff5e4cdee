import Mathlib.Data.List.Induction
import Mathlib.Data.List.Nodup
import MazeChase.Board.Blueprint
import MazeChase.Proofs.Torus

/-!
# How boards are laid out

A blueprint is written by calls: tiles are added, links are written by hand, one way or both ways,
the tiles are joined as a grid, and spawn tiles are marked. The order of the calls matters as little
as it can. Of the links written for one side of a tile the last one counts, whether it was written
before the tiles were joined or after; of the borders that were given the last one counts; and where
no link was written the sides lead where the grid leads, which looks at all tiles, those that were
added later among them.

A side leads through the grid to the tile that lies beside, in exact integers: beside on the plane,
or, if there are tunnels, beside on the torus that the smallest box around all tiles becomes.

## Main definitions

* `Blueprint.Call`, `Blueprint.ofCalls` — blueprints as they are written
* `Blueprint.plotsOf`, `Blueprint.lastLink?`, `Blueprint.lastBorder?` — what counts of some calls
* `Blueprint.Fit` — calls that fit together
* `Blueprint.Layout` — the geometry that some calls intend

## Main results

* `Blueprint.fault?_eq_none_iff`, `Blueprint.fault?_ofCalls_eq_none_iff` — what is consistent
* `Blueprint.neighbor_of_build`, `Blueprint.neighbor_eq_some_iff` — where a side of a tile leads
* `Blueprint.layout_of_calls` — a board is laid out as the calls intend
-/

namespace MazeChase

/-- Nothing is repeated in a list if nothing in it equals an earlier entry, and nothing was seen
before. -/
theorem firstRepeated_eq_none_iff {α : Type} [DecidableEq α] {seen l : List α} :
    firstRepeated seen l = none ↔ l.Nodup ∧ ∀ a ∈ l, a ∉ seen := by
  induction l generalizing seen with
  | nil => simp [firstRepeated]
  | cons a rest ih =>
    rw [firstRepeated]
    by_cases ha : a ∈ seen
    · simp [ha]
    · rw [if_neg ha, ih]
      simp only [List.nodup_cons, List.mem_cons, not_or, forall_eq_or_imp]
      constructor
      · rintro ⟨hrest, hseen⟩
        exact ⟨⟨fun hmem => (hseen a hmem).1 rfl, hrest⟩, ha, fun b hb => (hseen b hb).2⟩
      · rintro ⟨⟨hfresh, hrest⟩, -, hseen⟩
        refine ⟨hrest, fun b hb => ⟨?_, hseen b hb⟩⟩
        rintro rfl
        exact hfresh hb

theorem Board.exists_position?_of_neighbor {board : Board} {t u : TileId} {d : Direction}
    (h : board.neighbor t d = some u) : ∃ p, board.position? t = some p := by
  obtain ⟨tile, htile, -⟩ := Option.bind_eq_some_iff.1 h
  exact ⟨tile.position, Option.map_eq_some_iff.2 ⟨tile, htile, rfl⟩⟩

namespace Blueprint

variable {b : Blueprint} {board : Board} {t u : TileId} {d : Direction} {p q : Position}

/-! ### Consistency -/

theorem linkFault?_eq_none_iff {l : Link} :
    b.linkFault? l = none ↔ l.source.index < b.tileCount ∧ l.target.index < b.tileCount := by
  simp only [linkFault?]
  split
  · next h => simp [Nat.not_lt.2 h]
  · next h =>
    split
    · next h' => simp [Nat.not_lt.2 h']
    · next h' => simp [Nat.lt_of_not_le h, Nat.lt_of_not_le h']

theorem spawnFault?_eq_none_iff : b.spawnFault? t = none ↔ t.index < b.tileCount := by
  simp [spawnFault?]

/-- The tiles that links and marks name. -/
def names (b : Blueprint) : List TileId :=
  b.links.flatMap (fun l => [l.source, l.target]) ++ (b.playerSpawns ++ b.ghostSpawns)

/-- What a side is linked to was written for it. -/
theorem mem_links_of_linked? (h : b.linked? t d = some u) : ⟨t, d, u⟩ ∈ b.links := by
  obtain ⟨l, hfound, rfl⟩ := Option.map_eq_some_iff.1 h
  have hside := List.find?_some hfound
  simp only [Bool.and_eq_true, decide_eq_true_eq] at hside
  obtain ⟨rfl, rfl⟩ := hside
  exact List.mem_reverse.1 (List.mem_of_find?_eq_some hfound)

/-- Links name the tiles at both ends. -/
theorem mem_names_of_linked? (h : b.linked? t d = some u) : t ∈ b.names ∧ u ∈ b.names := by
  have hends : ∀ w ∈ [t, u], w ∈ b.names := fun w hw =>
    List.mem_append_left _ (List.mem_flatMap.2 ⟨_, mem_links_of_linked? h, hw⟩)
  exact ⟨hends t (by simp), hends u (by simp)⟩

/-- A blueprint is consistent if no two tiles lie at one position and all links and marks name tiles
of it. -/
theorem fault?_eq_none_iff :
    b.fault? = none ↔ b.positions.Nodup ∧ ∀ t ∈ b.names, t.index < b.tileCount := by
  simp only [fault?, Option.or_eq_none_iff, Option.map_eq_none_iff, firstRepeated_eq_none_iff,
    List.findSome?_eq_none_iff, linkFault?_eq_none_iff, spawnFault?_eq_none_iff, names,
    List.forall_mem_append, List.forall_mem_flatMap, List.forall_mem_cons]
  simp [and_assoc]

/-! ### What was built -/

theorem tile?_of_build (h : b.build = .ok board) (t : TileId) :
    board.tile? t = b.plots[t.index]?.map fun plot =>
      ⟨plot.position, plot.terrain,
        .ofFn fun d => b.exit? (.ofPositions b.positions) t plot.position d⟩ := by
  obtain ⟨-, rfl⟩ := build_eq_ok_iff.1 h
  rw [Board.tile?, tiles, List.getElem?_mapIdx]

/-- No two tiles of a board lie at one position. -/
theorem nodup_positions_of_build (h : b.build = .ok board) : b.positions.Nodup :=
  (fault?_eq_none_iff.1 (build_eq_ok_iff.1 h).1).1

/-- Links and marks name tiles of the board. -/
theorem lt_of_mem_names_of_build (h : b.build = .ok board) (ht : t ∈ b.names) :
    t.index < b.tileCount :=
  (fault?_eq_none_iff.1 (build_eq_ok_iff.1 h).1).2 t ht

theorem tileCount_of_build (h : b.build = .ok board) : board.tileCount = b.tileCount := by
  obtain ⟨-, rfl⟩ := build_eq_ok_iff.1 h
  simp [Board.tileCount, tiles, tileCount]

theorem terrain?_of_build (h : b.build = .ok board) (t : TileId) :
    board.terrain? t = b.plots[t.index]?.map Plot.terrain := by
  rw [Board.terrain?, tile?_of_build h, Option.map_map]
  rfl

theorem position?_of_build (h : b.build = .ok board) (t : TileId) :
    board.position? t = b.positions[t.index]? := by
  rw [Board.position?, tile?_of_build h, Option.map_map, positions, List.getElem?_map]
  rfl

theorem positions_of_build (h : b.build = .ok board) : board.positions = b.positions := by
  apply List.ext_getElem?
  intro i
  rw [← position?_of_build h ⟨i⟩, Board.position?, Board.tile?, Board.positions, List.getElem?_map]

theorem mem_positions_of_build (h : b.build = .ok board) (hp : board.position? t = some p) :
    p ∈ b.positions := by
  rw [position?_of_build h] at hp
  exact List.mem_of_getElem? hp

/-- A side of a tile of the board leads where the blueprint says, with the box around all tiles. -/
theorem neighbor_of_build (h : b.build = .ok board) (hp : board.position? t = some p)
    (d : Direction) :
    board.neighbor t d = b.exit? (.ofPositions b.positions) t p d := by
  rw [Board.position?, tile?_of_build h, Option.map_map] at hp
  obtain ⟨plot, hplot, rfl⟩ := Option.map_eq_some_iff.1 hp
  rw [Board.neighbor, tile?_of_build h, hplot]
  exact Compass.get_ofFn _ d

/-- The tiles are the same wherever players and ghosts begin. -/
theorem tiles_congr {b' : Blueprint} (hplots : b.plots = b'.plots) (hlinks : b.links = b'.links)
    (hgrid : b.grid = b'.grid) : b.tiles = b'.tiles := by
  obtain ⟨plots, links, grid, players, ghosts⟩ := b
  obtain ⟨plots', links', grid', players', ghosts'⟩ := b'
  obtain rfl : plots = plots' := hplots
  obtain rfl : links = links' := hlinks
  obtain rfl : grid = grid' := hgrid
  rfl

/-! ### The grid -/

theorem tileAt_eq_some_iff (hnodup : b.positions.Nodup) :
    b.tileAt p = some u ↔ b.positions[u.index]? = some p := by
  obtain ⟨i⟩ := u
  simp only [tileAt, Option.map_eq_some_iff, TileId.mk.injEq, exists_eq_right,
    List.idxOf?_eq_some_iff, List.getElem?_eq_some_iff]
  constructor
  · rintro ⟨hi, hp, -⟩
    exact ⟨hi, hp⟩
  · rintro ⟨hi, hp⟩
    refine ⟨hi, hp, fun j hj hq => ?_⟩
    -- An earlier tile at the same position would be the same tile.
    have hsame := hnodup.getElem_inj_iff.1 (hq.trans hp.symm)
    omega

/-- Tiles and positions of the board name each other. -/
theorem tileAt_of_build (h : b.build = .ok board) :
    board.tileAt p = some t ↔ board.position? t = some p := by
  have hat : board.tileAt p = b.tileAt p := by
    rw [Board.tileAt, tileAt, positions_of_build h]
  rw [hat, tileAt_eq_some_iff (nodup_positions_of_build h), position?_of_build h]

/-- The grid leads to the tile that comes after, in the grid whose border goes around all tiles. -/
theorem gridded?_eq_some_iff {border : Border} (hnodup : b.positions.Nodup)
    (hgrid : b.grid = some border) (hp : p ∈ b.positions) :
    b.gridded? (.ofPositions b.positions) p d = some u ↔
      ∃ q, b.positions[u.index]? = some q ∧
        (Extent.ofPositions b.positions).Joins border p d q := by
  simp only [gridded?, hgrid, Option.bind_some, Option.bind_eq_some_iff,
    tileAt_eq_some_iff hnodup, Extent.next?_eq_some_iff (Extent.contains_ofPositions hp)]
  constructor
  · rintro ⟨q, ⟨hjoins, -⟩, hq⟩
    exact ⟨q, hq, hjoins⟩
  · rintro ⟨q, hq, hjoins⟩
    -- The box goes around all tiles, so a step that leads to a tile does not leave it.
    exact ⟨q, ⟨hjoins, Extent.contains_ofPositions (List.mem_of_getElem? hq)⟩, hq⟩

/-- Where no link was written, a side of a tile of the board leads through the grid. -/
theorem neighbor_eq_some_iff {border : Border} (h : b.build = .ok board)
    (hlink : b.linked? t d = none) (hgrid : b.grid = some border)
    (hp : board.position? t = some p) :
    board.neighbor t d = some u ↔
      ∃ q, board.position? u = some q ∧ (Extent.ofPositions b.positions).Joins border p d q := by
  rw [neighbor_of_build h hp, exit?, hlink, Option.none_or, position?_of_build h]
  exact gridded?_eq_some_iff (nodup_positions_of_build h) hgrid (mem_positions_of_build h hp)

/-! ### Calls -/

/-- A call that writes on a blueprint. -/
inductive Call where
  /-- One more tile. -/
  | addTile (position : Position) (terrain : Terrain)
  /-- A one-way link. -/
  | link (source : TileId) (direction : Direction) (target : TileId)
  /-- A link and the link that leads back. -/
  | linkBoth (tile : TileId) (direction : Direction) (other : TileId)
  /-- Neighbouring plots are joined. -/
  | connectGrid (border : Border)
  /-- A tile on which players begin. -/
  | markPlayer (tile : TileId)
  /-- A tile on which ghosts begin. -/
  | markGhost (tile : TileId)
deriving DecidableEq, Repr

/-- The blueprint after a call. -/
def call (b : Blueprint) : Call → Blueprint
  | .addTile p terrain => (b.addTile p terrain).1
  | .link t d u => b.link t d u
  | .linkBoth t d u => b.linkBoth t d u
  | .connectGrid border => b.connectGrid border
  | .markPlayer t => b.markPlayer t
  | .markGhost t => b.markGhost t

/-- The blueprint that some calls write, in their order. -/
def ofCalls (calls : List Call) : Blueprint := calls.foldl call empty

namespace Call

/-- The tile that a call adds. -/
def plots : Call → List Plot
  | addTile p terrain => [⟨p, terrain⟩]
  | _ => []

/-- The one-way links that a call writes. -/
def links : Call → List Link
  | link t d u => [⟨t, d, u⟩]
  | linkBoth t d u => [⟨t, d, u⟩, ⟨u, d.opposite, t⟩]
  | _ => []

/-- The border that a call gives. -/
def border? : Call → Option Border
  | connectGrid border => some border
  | _ => none

/-- The tiles that a call names. -/
def names : Call → List TileId
  | link t _ u => [t, u]
  | linkBoth t _ u => [t, u]
  | markPlayer t => [t]
  | markGhost t => [t]
  | _ => []

end Call

variable {calls : List Call} {c : Call}

/-- The tiles that some calls add. -/
def plotsOf (calls : List Call) : List Plot := calls.flatMap Call.plots

/-- The target of the last link that some calls write for a side of a tile. -/
def lastLink? (calls : List Call) (t : TileId) (d : Direction) : Option TileId :=
  ((calls.flatMap Call.links).filter fun l => l.source = t && l.direction = d).getLast?.map
    Link.target

/-- The last border that some calls give. -/
def lastBorder? (calls : List Call) : Option Border := (calls.filterMap Call.border?).getLast?

theorem plots_call : (b.call c).plots = b.plots ++ c.plots := by
  cases c <;> simp [call, Call.plots, addTile, link, linkBoth, connectGrid, markPlayer, markGhost]

theorem links_call : (b.call c).links = b.links ++ c.links := by
  cases c <;> simp [call, Call.links, addTile, link, linkBoth, connectGrid, markPlayer, markGhost]

theorem grid_call : (b.call c).grid = c.border?.or b.grid := by
  cases c <;> rfl

theorem mem_names_call : t ∈ (b.call c).names ↔ t ∈ b.names ∨ t ∈ c.names := by
  cases c <;>
    grind [call, names, Call.names, addTile, link, linkBoth, connectGrid, markPlayer, markGhost]

theorem ofCalls_append_singleton : ofCalls (calls ++ [c]) = (ofCalls calls).call c := by
  simp [ofCalls]

/-- What every call adds at the end of a list, all calls add in their order. -/
theorem eq_flatMap_of_call {α : Type} {list : Blueprint → List α} {added : Call → List α}
    (hempty : list empty = []) (hcall : ∀ b c, list (call b c) = list b ++ added c)
    (calls : List Call) : list (ofCalls calls) = calls.flatMap added := by
  induction calls using List.reverseRecOn with
  | nil => exact hempty
  | append_singleton calls c ih =>
    rw [ofCalls_append_singleton, hcall, ih]
    simp

theorem plots_ofCalls (calls : List Call) : (ofCalls calls).plots = plotsOf calls :=
  eq_flatMap_of_call rfl (fun _ _ => plots_call) calls

theorem links_ofCalls (calls : List Call) : (ofCalls calls).links = calls.flatMap Call.links :=
  eq_flatMap_of_call rfl (fun _ _ => links_call) calls

theorem linked?_ofCalls (calls : List Call) (t : TileId) (d : Direction) :
    (ofCalls calls).linked? t d = lastLink? calls t d := by
  rw [linked?, ← List.getLast?_filter, links_ofCalls]
  rfl

theorem grid_ofCalls (calls : List Call) : (ofCalls calls).grid = lastBorder? calls := by
  induction calls using List.reverseRecOn with
  | nil => rfl
  | append_singleton calls c ih =>
    rw [ofCalls_append_singleton, grid_call, ih, lastBorder?, lastBorder?, List.filterMap_append,
      List.getLast?_append]
    cases c <;> rfl

theorem mem_names_ofCalls : t ∈ (ofCalls calls).names ↔ ∃ c ∈ calls, t ∈ c.names := by
  induction calls using List.reverseRecOn with
  | nil => simp [ofCalls, empty, names]
  | append_singleton calls c ih =>
    rw [ofCalls_append_singleton, mem_names_call, ih]
    simp [or_and_right, exists_or]

/-- Some calls fit together: no two tiles are added at one position, and no call names a tile that
is never added, be it before the call or after. -/
structure Fit (calls : List Call) : Prop where
  distinct : ((plotsOf calls).map Plot.position).Nodup
  known : ∀ c ∈ calls, ∀ t ∈ c.names, t.index < (plotsOf calls).length

theorem fault?_ofCalls_eq_none_iff : (ofCalls calls).fault? = none ↔ Fit calls := by
  rw [fault?_eq_none_iff, positions, tileCount, plots_ofCalls]
  simp only [mem_names_ofCalls]
  constructor
  · rintro ⟨hdistinct, hknown⟩
    exact ⟨hdistinct, fun c hc t ht => hknown t ⟨c, hc, ht⟩⟩
  · rintro ⟨hdistinct, hknown⟩
    refine ⟨hdistinct, ?_⟩
    rintro t ⟨c, hc, ht⟩
    exact hknown c hc t ht

theorem exists_build_ofCalls (h : Fit calls) : ∃ board, (ofCalls calls).build = .ok board :=
  ⟨_, build_eq_ok_iff.2 ⟨fault?_ofCalls_eq_none_iff.2 h, rfl⟩⟩

/-! ### The layout -/

/-- The board is laid out as some calls intend. -/
structure Layout (calls : List Call) (board : Board) : Prop where
  /-- The tiles lie where they were added, in the order in which they were added. -/
  positions_eq : board.positions = (plotsOf calls).map Plot.position
  /-- The last link that was written for a side counts. -/
  written : ∀ {t d u}, lastLink? calls t d = some u → board.neighbor t d = some u
  /-- Without a grid other sides lead nowhere. -/
  unjoined : ∀ {t d}, lastLink? calls t d = none → lastBorder? calls = none →
    board.neighbor t d = none
  /-- With a grid they lead to what comes after, on the plane or on the torus that the smallest box
  around all tiles becomes. -/
  joined : ∀ {border t d p}, lastLink? calls t d = none → lastBorder? calls = some border →
    board.position? t = some p →
      ∃ e : Extent, e.IsHull board.positions ∧
        ∀ u, board.neighbor t d = some u ↔
          ∃ q, board.position? u = some q ∧ e.Joins border p d q

/-- A board that was built as some calls say is laid out as they intend. -/
theorem layout_of_build (h : (ofCalls calls).build = .ok board) : Layout calls board where
  positions_eq := by rw [positions_of_build h, positions, plots_ofCalls]
  written := by
    intro t d u hlink
    rw [← linked?_ofCalls] at hlink
    -- The blueprint is consistent, so the link leaves a tile of the board.
    have ht : t.index < (ofCalls calls).positions.length := by
      rw [positions, List.length_map]
      exact lt_of_mem_names_of_build h (mem_names_of_linked? hlink).1
    have hp := (position?_of_build h t).trans (List.getElem?_eq_getElem ht)
    rw [neighbor_of_build h hp, exit?, hlink]
    rfl
  unjoined := by
    intro t d hlink hborder
    cases hu : board.neighbor t d with
    | none => rfl
    | some u =>
      obtain ⟨p, hp⟩ := Board.exists_position?_of_neighbor hu
      rw [neighbor_of_build h hp, exit?, linked?_ofCalls, hlink, gridded?, grid_ofCalls,
        hborder] at hu
      cases hu
  joined := by
    intro border t d p hlink hborder hp
    refine ⟨.ofPositions (ofCalls calls).positions, ?_, fun u => ?_⟩
    · rw [positions_of_build h]
      exact Extent.isHull_ofPositions (List.ne_nil_of_mem (mem_positions_of_build h hp))
    · rw [← linked?_ofCalls] at hlink
      rw [← grid_ofCalls] at hborder
      exact neighbor_eq_some_iff h hlink hborder hp

/-- Calls that fit together make a board, and it is laid out as they intend. -/
theorem layout_of_calls (h : Fit calls) :
    ∃ board, (ofCalls calls).build = .ok board ∧ Layout calls board := by
  obtain ⟨board, hbuild⟩ := exists_build_ofCalls h
  exact ⟨board, hbuild, layout_of_build hbuild⟩

/-- A ring around the world: two tiles at the two ends of all columns. Their borders are solid at
first, a side is linked by hand before the last tile is there, and tunnels come last. -/
def ring : List Call :=
  [.addTile ⟨.minValue, 0⟩ .floor, .connectGrid .solid, .link ⟨0⟩ .north ⟨1⟩,
    .addTile ⟨.maxValue, 0⟩ .floor, .connectGrid .tunnels]

theorem layout_of_calls_ring :
    Fit ring ∧ ∃ board, (ofCalls ring).build = .ok board ∧ Layout ring board ∧
      Direction.all.map (board.neighbor ⟨0⟩) = [some ⟨1⟩, some ⟨0⟩, none, some ⟨1⟩] := by
  have hfit : Fit ring := ⟨by decide, by decide⟩
  have hsides : (ofCalls ring).build.map (fun board => Direction.all.map (board.neighbor ⟨0⟩)) =
      .ok [some ⟨1⟩, some ⟨0⟩, none, some ⟨1⟩] := by decide
  obtain ⟨board, hbuild, hlayout⟩ := layout_of_calls hfit
  rw [hbuild] at hsides
  exact ⟨hfit, board, hbuild, hlayout, Except.ok.inj hsides⟩

end Blueprint

end MazeChase
