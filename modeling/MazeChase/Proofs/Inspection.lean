import MazeChase.Proofs.Layout

/-!
# What is wrong with a blueprint

A blueprint is inspected before a board is made of it. First the tiles are gone through, then the
links that were written by hand, then the marks of the players, and last those of the ghosts; each
list in the order in which it was written, and all of them only after everything is written. What is
reported is the first thing that is wrong in this order, however much else is, so a link to a tile
that was never added goes unnoticed as long as two tiles lie at one position.

If nothing is wrong there is a board, and later code needs to check nothing again. Tiles and
positions name each other, all sides and all spawn marks lead to tiles of the board, and whatever
was written is found again where it was written.

## Main definitions

* `Blueprint.FirstFault` — the first thing that is wrong with some tiles, links and marks
* `Blueprint.Realized` — a board that is as some calls have written it

## Main results

* `firstRepeated_eq_some_iff` — the first entry that is repeated
* `Blueprint.fault?_eq_some_iff` — the fault that is reported is the first one
* `Blueprint.realized_of_build` — a board that was built is as it was written
* `Blueprint.build_exact` — when calls make a board, which one, and what is reported otherwise

## Main examples

* `Blueprint.clutter` — calls with which everything is wrong at once
-/

namespace MazeChase

/-- The first repeated entry is the one before which nothing is repeated. -/
theorem firstRepeated_eq_some_iff {α : Type} [DecidableEq α] {seen l : List α} {a : α} :
    firstRepeated seen l = some a ↔
      ∃ before after, l = before ++ a :: after ∧ firstRepeated seen before = none ∧
        (a ∈ seen ∨ a ∈ before) := by
  induction l generalizing seen with
  | nil => simp [firstRepeated]
  | cons b rest ih =>
    rw [firstRepeated]
    by_cases hb : b ∈ seen
    · rw [if_pos hb, Option.some.injEq]
      constructor
      · rintro rfl
        exact ⟨[], rest, rfl, rfl, .inl hb⟩
      · rintro ⟨before, after, hsplit, hnone, -⟩
        cases before with
        | nil => exact (List.cons.inj hsplit).1
        | cons c before =>
          -- The list begins with a repeated entry, so the part before the first one is empty.
          obtain ⟨rfl, -⟩ := List.cons.inj hsplit
          rw [firstRepeated, if_pos hb] at hnone
          cases hnone
    · rw [if_neg hb, ih]
      constructor
      · rintro ⟨before, after, rfl, hnone, hrepeats⟩
        refine ⟨b :: before, after, rfl, ?_, ?_⟩
        · rwa [firstRepeated, if_neg hb]
        · simpa [or_assoc, or_left_comm] using hrepeats
      · rintro ⟨before, after, hsplit, hnone, hrepeats⟩
        cases before with
        | nil =>
          obtain ⟨rfl, -⟩ := List.cons.inj hsplit
          simp [hb] at hrepeats
        | cons c before =>
          obtain ⟨rfl, rfl⟩ := List.cons.inj hsplit
          rw [firstRepeated, if_neg hb] at hnone
          refine ⟨before, after, rfl, hnone, ?_⟩
          simpa [or_assoc, or_left_comm] using hrepeats

/-- Both ends of a link are among the first `count` tiles. -/
def Link.Within (l : Link) (count : Nat) : Prop := l.source.index < count ∧ l.target.index < count

instance (l : Link) (count : Nat) : Decidable (l.Within count) :=
  inferInstanceAs (Decidable (l.source.index < count ∧ l.target.index < count))

namespace Blueprint

variable {b : Blueprint} {board : Board} {t u : TileId} {d : Direction} {p : Position}
  {e : BoardError}

/-! ### The first fault -/

/-- The first thing that is wrong with some tiles, links and marks. -/
inductive FirstFault (plots : List Plot) (links : List Link) (marks : List TileId) :
    BoardError → Prop
  /-- A tile repeats the position of an earlier one, and no tile before it does. -/
  | taken {before after : List Position} {p : Position}
      (hsplit : plots.map Plot.position = before ++ p :: after) (hfirst : before.Nodup)
      (hrepeats : p ∈ before) : FirstFault plots links marks (.duplicatePosition p)
  /-- A link leads to an unknown tile, and no link before it names one. -/
  | dangling {before after : List Link} {l : Link} (hapart : (plots.map Plot.position).Nodup)
      (hsplit : links = before ++ l :: after) (hfirst : ∀ k ∈ before, k.Within plots.length)
      (htarget : plots.length ≤ l.target.index) :
      FirstFault plots links marks (.danglingLink l.source l.target)
  /-- A link to a tile leaves an unknown one, and no link before it names one. -/
  | rootless {before after : List Link} {l : Link} (hapart : (plots.map Plot.position).Nodup)
      (hsplit : links = before ++ l :: after) (hfirst : ∀ k ∈ before, k.Within plots.length)
      (htarget : l.target.index < plots.length) (hsource : plots.length ≤ l.source.index) :
      FirstFault plots links marks (.tileNotFound l.source)
  /-- A mark names an unknown tile, and neither a link nor a mark before it names one. -/
  | marked {before after : List TileId} {t : TileId} (hapart : (plots.map Plot.position).Nodup)
      (hlinks : ∀ l ∈ links, l.Within plots.length) (hsplit : marks = before ++ t :: after)
      (hfirst : ∀ u ∈ before, u.index < plots.length) (hunknown : plots.length ≤ t.index) :
      FirstFault plots links marks (.tileNotFound t)

theorem linkFault?_eq_some_iff {l : Link} :
    b.linkFault? l = some e ↔
      b.tileCount ≤ l.target.index ∧ e = .danglingLink l.source l.target ∨
        l.target.index < b.tileCount ∧ b.tileCount ≤ l.source.index ∧
          e = .tileNotFound l.source := by
  rw [linkFault?]
  by_cases htarget : b.tileCount ≤ l.target.index
  · simp [htarget, Nat.not_lt.2 htarget, eq_comm]
  · by_cases hsource : b.tileCount ≤ l.source.index <;>
      simp [htarget, hsource, Nat.lt_of_not_le htarget, eq_comm]

theorem spawnFault?_eq_some_iff :
    b.spawnFault? t = some e ↔ b.tileCount ≤ t.index ∧ e = .tileNotFound t := by
  simp [spawnFault?, eq_comm]

/-- The tiles, the links and the marks are gone through one list after the other. -/
theorem fault?_eq_some_iff_passes :
    b.fault? = some e ↔
      (∃ p, firstRepeated [] b.positions = some p ∧ .duplicatePosition p = e) ∨
      b.positions.Nodup ∧ b.links.findSome? b.linkFault? = some e ∨
      b.positions.Nodup ∧ (∀ l ∈ b.links, l.Within b.tileCount) ∧
        (b.playerSpawns ++ b.ghostSpawns).findSome? b.spawnFault? = some e := by
  simp only [fault?, Option.or_eq_some_iff, Option.or_eq_none_iff, Option.map_eq_some_iff,
    Option.map_eq_none_iff, firstRepeated_eq_none_iff, List.findSome?_eq_none_iff,
    linkFault?_eq_none_iff, Link.Within]
  simp [or_assoc, and_assoc]

/-- What is wrong in one of the passes, with nothing wrong before, is the first fault. -/
theorem firstFault_of_fault? (h : b.fault? = some e) :
    FirstFault b.plots b.links (b.playerSpawns ++ b.ghostSpawns) e := by
  obtain ⟨p, hp, rfl⟩ | ⟨hapart, hlink⟩ | ⟨hapart, hwithin, hmark⟩ := fault?_eq_some_iff_passes.1 h
  · obtain ⟨before, after, hsplit, hfirst, hrepeats⟩ := firstRepeated_eq_some_iff.1 hp
    rw [firstRepeated_eq_none_iff] at hfirst
    exact .taken hsplit hfirst.1 (by simpa using hrepeats)
  · obtain ⟨before, l, after, hsplit, hfault, hfirst⟩ := List.findSome?_eq_some_iff.1 hlink
    simp only [linkFault?_eq_none_iff] at hfirst
    obtain ⟨htarget, rfl⟩ | ⟨htarget, hsource, rfl⟩ := linkFault?_eq_some_iff.1 hfault
    · exact .dangling hapart hsplit hfirst htarget
    · exact .rootless hapart hsplit hfirst htarget hsource
  · obtain ⟨before, t, after, hsplit, hfault, hfirst⟩ := List.findSome?_eq_some_iff.1 hmark
    simp only [spawnFault?_eq_none_iff] at hfirst
    obtain ⟨hunknown, rfl⟩ := spawnFault?_eq_some_iff.1 hfault
    exact .marked hapart hwithin hsplit hfirst hunknown

theorem FirstFault.fault?_eq
    (h : FirstFault b.plots b.links (b.playerSpawns ++ b.ghostSpawns) e) : b.fault? = some e := by
  rw [fault?_eq_some_iff_passes]
  cases h with
  | @taken before after p hsplit hfirst hrepeats =>
    have hnone : firstRepeated [] before = none := by simp [firstRepeated_eq_none_iff, hfirst]
    have hfound : firstRepeated [] b.positions = some p :=
      firstRepeated_eq_some_iff.2 ⟨before, after, hsplit, hnone, .inr hrepeats⟩
    exact .inl ⟨p, hfound, rfl⟩
  | dangling hapart hsplit hfirst htarget =>
    have hfault := linkFault?_eq_some_iff.2 (.inl ⟨htarget, rfl⟩)
    exact .inr (.inl ⟨hapart, List.findSome?_eq_some_iff.2
      ⟨_, _, _, hsplit, hfault, fun k hk => linkFault?_eq_none_iff.2 (hfirst k hk)⟩⟩)
  | rootless hapart hsplit hfirst htarget hsource =>
    have hfault := linkFault?_eq_some_iff.2 (.inr ⟨htarget, hsource, rfl⟩)
    exact .inr (.inl ⟨hapart, List.findSome?_eq_some_iff.2
      ⟨_, _, _, hsplit, hfault, fun k hk => linkFault?_eq_none_iff.2 (hfirst k hk)⟩⟩)
  | marked hapart hwithin hsplit hfirst hunknown =>
    have hfault := spawnFault?_eq_some_iff.2 ⟨hunknown, rfl⟩
    exact .inr (.inr ⟨hapart, hwithin, List.findSome?_eq_some_iff.2
      ⟨_, _, _, hsplit, hfault, fun u hu => spawnFault?_eq_none_iff.2 (hfirst u hu)⟩⟩)

/-- The fault that is reported is the first one. -/
theorem fault?_eq_some_iff :
    b.fault? = some e ↔ FirstFault b.plots b.links (b.playerSpawns ++ b.ghostSpawns) e :=
  ⟨firstFault_of_fault?, FirstFault.fault?_eq⟩

/-! ### Boards that were built -/

theorem lt_of_tileAt (h : b.tileAt p = some t) : t.index < b.tileCount := by
  obtain ⟨i, hi, rfl⟩ := Option.map_eq_some_iff.1 h
  obtain ⟨hlt, -⟩ := List.idxOf?_eq_some_iff.1 hi
  rwa [positions, List.length_map] at hlt

/-- Sides lead from tiles to tiles. -/
theorem lt_of_neighbor_of_build (h : b.build = .ok board) (hu : board.neighbor t d = some u) :
    t.index < board.tileCount ∧ u.index < board.tileCount := by
  obtain ⟨tile, htile, -⟩ := Option.bind_eq_some_iff.1 hu
  refine ⟨Board.lt_of_tile? htile, ?_⟩
  rw [tileCount_of_build h]
  obtain ⟨p, hp⟩ := Board.exists_position?_of_neighbor hu
  rw [neighbor_of_build h hp, exit?, Option.or_eq_some_iff] at hu
  obtain hlink | ⟨-, hgrid⟩ := hu
  · exact lt_of_mem_names_of_build h (mem_names_of_linked? hlink).2
  · obtain ⟨border, -, hstep⟩ := Option.bind_eq_some_iff.1 hgrid
    obtain ⟨q, -, hat⟩ := Option.bind_eq_some_iff.1 hstep
    exact lt_of_tileAt hat

/-- Players and ghosts begin on tiles of the board. -/
theorem lt_of_mem_spawns_of_build (h : b.build = .ok board)
    (ht : t ∈ board.playerSpawns ++ board.ghostSpawns) : t.index < board.tileCount := by
  rw [tileCount_of_build h]
  apply lt_of_mem_names_of_build h
  obtain ⟨-, rfl⟩ := build_eq_ok_iff.1 h
  exact List.mem_append_right _ ht

namespace Call

/-- The tile on which players begin by a call. -/
def playerMarks : Call → List TileId
  | markPlayer t => [t]
  | _ => []

/-- The tile on which ghosts begin by a call. -/
def ghostMarks : Call → List TileId
  | markGhost t => [t]
  | _ => []

end Call

variable {calls : List Call} {c : Call}

theorem playerSpawns_call : (b.call c).playerSpawns = b.playerSpawns ++ c.playerMarks := by
  cases c <;>
    simp [call, Call.playerMarks, addTile, link, linkBoth, connectGrid, markPlayer, markGhost]

theorem ghostSpawns_call : (b.call c).ghostSpawns = b.ghostSpawns ++ c.ghostMarks := by
  cases c <;>
    simp [call, Call.ghostMarks, addTile, link, linkBoth, connectGrid, markPlayer, markGhost]

theorem playerSpawns_ofCalls (calls : List Call) :
    (ofCalls calls).playerSpawns = calls.flatMap Call.playerMarks :=
  eq_flatMap_of_call rfl (fun _ _ => playerSpawns_call) calls

theorem ghostSpawns_ofCalls (calls : List Call) :
    (ofCalls calls).ghostSpawns = calls.flatMap Call.ghostMarks :=
  eq_flatMap_of_call rfl (fun _ _ => ghostSpawns_call) calls

/-- A board is as some calls have written it. -/
structure Realized (calls : List Call) (board : Board) : Prop where
  /-- Tiles lie where they were added. -/
  position?_eq : ∀ t, board.position? t = (plotsOf calls)[t.index]?.map Plot.position
  /-- They are made of what they were added with. -/
  terrain?_eq : ∀ t, board.terrain? t = (plotsOf calls)[t.index]?.map Plot.terrain
  /-- Their sides lead where the links and the grid lead. -/
  layout : Layout calls board
  /-- Only tiles have sides, and these lead to tiles. -/
  neighbor_lt : ∀ {t d u}, board.neighbor t d = some u →
    t.index < board.tileCount ∧ u.index < board.tileCount
  /-- Tiles and positions name each other. -/
  tileAt_iff : ∀ p t, board.tileAt p = some t ↔ board.position? t = some p
  /-- Players begin on the tiles that were marked for them, in the order of the marks. -/
  playerSpawns_eq : board.playerSpawns = calls.flatMap Call.playerMarks
  /-- So do ghosts. -/
  ghostSpawns_eq : board.ghostSpawns = calls.flatMap Call.ghostMarks
  /-- Everybody begins on tiles of the board. -/
  spawn_lt : ∀ t ∈ board.playerSpawns ++ board.ghostSpawns, t.index < board.tileCount

/-- A board that was built is as it was written. -/
theorem realized_of_build (h : (ofCalls calls).build = .ok board) : Realized calls board where
  position?_eq t := by rw [position?_of_build h, positions, List.getElem?_map, plots_ofCalls]
  terrain?_eq t := by rw [terrain?_of_build h, plots_ofCalls]
  layout := layout_of_build h
  neighbor_lt := lt_of_neighbor_of_build h
  tileAt_iff _ _ := tileAt_of_build h
  playerSpawns_eq := by
    obtain ⟨-, rfl⟩ := build_eq_ok_iff.1 h
    exact playerSpawns_ofCalls calls
  ghostSpawns_eq := by
    obtain ⟨-, rfl⟩ := build_eq_ok_iff.1 h
    exact ghostSpawns_ofCalls calls
  spawn_lt _ := lt_of_mem_spawns_of_build h

/-- **Blueprints are inspected in order.** Whatever calls were made, what is reported is the first
fault: the first tile at a position that is taken, else the first link that names an unknown tile,
else the first such mark, those of players before those of ghosts. If the calls fit together, and
only then, there is a board, and it is as they have written it. -/
theorem build_exact (calls : List Call) :
    (∀ e, (ofCalls calls).build = .error e ↔
      FirstFault (plotsOf calls) (calls.flatMap Call.links)
        (calls.flatMap Call.playerMarks ++ calls.flatMap Call.ghostMarks) e) ∧
    ((∃ board, (ofCalls calls).build = .ok board) ↔ Fit calls) ∧
    ∀ board, (ofCalls calls).build = .ok board → Realized calls board := by
  refine ⟨fun e => ?_, ⟨?_, exists_build_ofCalls⟩, fun _ => realized_of_build⟩
  · rw [build_eq_error_iff, fault?_eq_some_iff, plots_ofCalls, links_ofCalls,
      playerSpawns_ofCalls, ghostSpawns_ofCalls]
  · rintro ⟨board, hbuild⟩
    exact fault?_ofCalls_eq_none_iff.1 (build_eq_ok_iff.1 hbuild).1

/-- Two tiles. One link leads to a tile that is not there, and another one comes from such a tile;
the ghosts and then the players are to begin on tiles that are not there. -/
def clutter : List Call :=
  [.markGhost ⟨5⟩, .link ⟨0⟩ .east ⟨2⟩, .addTile ⟨0, 0⟩ .floor, .markPlayer ⟨4⟩,
    .link ⟨3⟩ .west ⟨0⟩, .addTile ⟨1, 0⟩ .floor]

/-- The tiles that are missing. -/
def remainder : List Call :=
  [.addTile ⟨2, 0⟩ .floor, .addTile ⟨3, 0⟩ .wall, .addTile ⟨4, 0⟩ .floor, .addTile ⟨5, 0⟩ .floor]

/-- A tile at a position that is taken is reported before anything else. Of the other faults the
next one is reported whenever the tile is added that the one before it is about, until there is a
board. -/
theorem build_exact_clutter :
    (ofCalls (clutter ++ [.addTile ⟨0, 0⟩ .wall])).build = .error (.duplicatePosition ⟨0, 0⟩) ∧
      (ofCalls clutter).build = .error (.danglingLink ⟨0⟩ ⟨2⟩) ∧
      (ofCalls (clutter ++ remainder.take 1)).build = .error (.tileNotFound ⟨3⟩) ∧
      (ofCalls (clutter ++ remainder.take 2)).build = .error (.tileNotFound ⟨4⟩) ∧
      ∃ board, (ofCalls (clutter ++ remainder)).build = .ok board ∧
        Realized (clutter ++ remainder) board := by
  obtain ⟨htaken, -, -⟩ := build_exact (clutter ++ [.addTile ⟨0, 0⟩ .wall])
  obtain ⟨hdangling, -, -⟩ := build_exact clutter
  obtain ⟨hrootless, -, -⟩ := build_exact (clutter ++ remainder.take 1)
  obtain ⟨hmarked, -, -⟩ := build_exact (clutter ++ remainder.take 2)
  obtain ⟨-, hbuilds, hrealized⟩ := build_exact (clutter ++ remainder)
  refine ⟨(htaken _).2 ?_, (hdangling _).2 ?_, (hrootless _).2 ?_, (hmarked _).2 ?_, ?_⟩
  · have hsplit : (plotsOf (clutter ++ [.addTile ⟨0, 0⟩ .wall])).map Plot.position =
        [⟨0, 0⟩, ⟨1, 0⟩] ++ ⟨0, 0⟩ :: [] := rfl
    exact .taken hsplit (by decide) (by decide)
  · have hsplit : clutter.flatMap Call.links =
        [] ++ ⟨⟨0⟩, .east, ⟨2⟩⟩ :: [⟨⟨3⟩, .west, ⟨0⟩⟩] := rfl
    exact .dangling (by decide) hsplit (by decide) (by decide)
  · have hsplit : (clutter ++ remainder.take 1).flatMap Call.links =
        [⟨⟨0⟩, .east, ⟨2⟩⟩] ++ ⟨⟨3⟩, .west, ⟨0⟩⟩ :: [] := rfl
    exact .rootless (by decide) hsplit (by decide) (by decide) (by decide)
  · have hsplit : (clutter ++ remainder.take 2).flatMap Call.playerMarks ++
        (clutter ++ remainder.take 2).flatMap Call.ghostMarks = [] ++ ⟨4⟩ :: [⟨5⟩] := rfl
    exact .marked (by decide) (by decide) hsplit (by decide) (by decide)
  · obtain ⟨board, hbuild⟩ := hbuilds.2 ⟨by decide, by decide⟩
    exact ⟨board, hbuild, hrealized board hbuild⟩

end Blueprint

end MazeChase
