import MazeChase.Proofs.Decisions
import MazeChase.Proofs.Reading

/-!
# Open rooms

A map whose rows are equally long and show nothing but floor is an open room: every place of a
rectangle has one tile, the tile admits everybody, and its sides lead to the tiles beside it. The
grid distance of two tiles of a room is exact, for a room is too small for it to run over.

In a room every step changes the distance to any tile by one, and unless it is at the tile already
some step comes closer. So the greedy selector never gives up before it arrives, and each of its
steps comes closer by one.

## Main definitions

* `Position.stepsTo` — the grid distance in exact numbers
* `Board.ShowsRoom`, `Board.IsRoom` — maps and boards of open rooms
* `Board.Apart` — two tiles with a number of steps between them

## Main results

* `Board.isRoom_of_ofRows` — the board of a map that shows a room is a room
* `Board.IsRoom.stepToward` — greedy steps arrive without a detour
-/

namespace MazeChase

/-! ### Steps on the plane -/

namespace Position

variable {p q r : Position} {d : Direction}

/-- The number of steps from one position to another: the grid distance in exact numbers. -/
def stepsTo (p q : Position) : Nat :=
  (p.x.toInt - q.x.toInt).natAbs + (p.y.toInt - q.y.toInt).natAbs

theorem stepsTo_eq_zero_iff : p.stepsTo q = 0 ↔ p = q := by
  constructor
  · intro h
    simp only [stepsTo] at h
    exact ext_toInt (by omega) (by omega)
  · rintro rfl
    simp [stepsTo]

/-- A step changes the distance to any position by one. -/
theorem IsBeside.stepsTo (h : p.IsBeside d q) (r : Position) :
    q.stepsTo r + 1 = p.stepsTo r ∨ q.stepsTo r = p.stepsTo r + 1 := by
  obtain ⟨hx, hy⟩ := h
  simp only [Position.stepsTo]
  cases d <;> simp only [Direction.delta, Int32.reduceToInt] at hx hy <;> omega

end Position

namespace Board

variable {rows : List (List Char)} {width height n : Nat} {board : Board} {t u goal : TileId}
  {p q r : Position} {k : AgentKind}

/-- Between two tiles of the board there are `n` steps. -/
def Apart (board : Board) (t u : TileId) (n : Nat) : Prop :=
  ∃ p q, board.position? t = some p ∧ board.position? u = some q ∧ p.stepsTo q = n

theorem Apart.stepsTo_eq (h : board.Apart t u n) (hp : board.position? t = some p)
    (hq : board.position? u = some q) : p.stepsTo q = n := by
  obtain ⟨p', q', hp', hq', hsteps⟩ := h
  obtain rfl : p = p' := Option.some.inj (hp.symm.trans hp')
  obtain rfl : q = q' := Option.some.inj (hq.symm.trans hq')
  exact hsteps

theorem Apart.eq_zero (h : board.Apart t t n) : n = 0 := by
  obtain ⟨p, -, hp, -, -⟩ := id h
  rw [← h.stepsTo_eq hp hp]
  exact Position.stepsTo_eq_zero_iff.2 rfl

/-! ### Rooms -/

/-- The rows of a map are all `width` long, and every character stands for floor. -/
structure ShowsRoom (rows : List (List Char)) (width : Nat) : Prop where
  fits : RowsFit rows
  length_eq : ∀ line ∈ rows, line.length = width
  floor : ∀ line ∈ rows, ∀ c ∈ line, ∃ cell, Cell.ofSymbol? c = some cell ∧ cell.terrain = .floor

/-- The board is an open room with `width` columns and `height` rows. -/
structure IsRoom (board : Board) (width height : Nat) : Prop where
  /-- All tiles lie in the rectangle, -/
  inside : ∀ {t p}, board.position? t = some p →
    (0 ≤ p.x.toInt ∧ p.x.toInt < width) ∧ 0 ≤ p.y.toInt ∧ p.y.toInt < height
  /-- and every place of it has a tile, -/
  exists_tile : ∀ {x y : Int}, 0 ≤ x → x < width → 0 ≤ y → y < height →
    ∃ t p, board.position? t = some p ∧ p.x.toInt = x ∧ p.y.toInt = y
  /-- but no more than one. -/
  injective : ∀ {t u p}, board.position? t = some p → board.position? u = some p → t = u
  /-- The tiles admit everybody, -/
  admits : ∀ {t p}, board.position? t = some p → ∀ k, board.admits t k = true
  /-- and their sides lead to the tiles beside them. -/
  neighbor_eq_some_iff : ∀ {t p}, board.position? t = some p → ∀ d u,
    board.neighbor t d = some u ↔ ∃ q, board.position? u = some q ∧ p.IsBeside d q

namespace ShowsRoom

variable (hroom : ShowsRoom rows width)

include hroom

theorem known {line : List Char} (hline : line ∈ rows) {c : Char} (hc : c ∈ line) :
    c ∈ Cell.alphabet ∧ Cell.ground c = .floor := by
  obtain ⟨cell, hcell, hfloor⟩ := hroom.floor line hline c hc
  by_cases hmem : c ∈ Cell.alphabet
  · rw [Cell.ofSymbol?_of_mem hmem, Option.some.injEq] at hcell
    subst hcell
    exact ⟨hmem, hfloor⟩
  · rw [Cell.ofSymbol?_of_not_mem hmem] at hcell
    cases hcell

/-- The characters of the map take up the rectangle. -/
theorem isIn_iff (row column : Nat) :
    (∃ c, Mark.IsIn ⟨row, column, c⟩ rows) ↔ row < rows.length ∧ column < width := by
  constructor
  · rintro ⟨c, line, hline, hc⟩
    obtain ⟨hrow, -⟩ := List.getElem?_eq_some_iff.1 hline
    obtain ⟨hcolumn, -⟩ := List.getElem?_eq_some_iff.1 hc
    exact ⟨hrow, hroom.length_eq line (List.mem_of_getElem? hline) ▸ hcolumn⟩
  · rintro ⟨hrow, hcolumn⟩
    have hlength := hroom.length_eq _ (List.getElem_mem hrow)
    exact ⟨_, _, List.getElem?_eq_getElem hrow, List.getElem?_eq_getElem (hlength ▸ hcolumn)⟩

end ShowsRoom

/-- The board of a map that shows a room is a room. -/
theorem isRoom_of_ofRows (hroom : ShowsRoom rows width) (h : ofRows rows .solid = .ok board) :
    board.IsRoom width rows.length := by
  have hfit := hroom.fits
  rw [ofRows_of_known fun line hline c hc => (hroom.known hline hc).1] at h
  -- Every tile comes from a character, whose column and row are its coordinates.
  have hplace {t : TileId} {p : Position} (hp : board.position? t = some p) :
      ∃ m : Mark, m.IsIn rows ∧ m.tile rows = t ∧ p.x.toInt = m.column ∧ p.y.toInt = m.row := by
    obtain ⟨m, hm, htile, rfl⟩ := (position?_eq_some_iff_of_cellsOf h).1 hp
    exact ⟨m, hm, htile, hfit.toInt_position hm⟩
  exact {
    inside := fun hp => by
      obtain ⟨m, hm, -, hx, hy⟩ := hplace hp
      obtain ⟨hrow, hcolumn⟩ := (hroom.isIn_iff m.row m.column).1 ⟨m.symbol, hm⟩
      omega
    exists_tile := fun {x y} hx hx' hy hy' => by
      obtain ⟨c, hm⟩ := (hroom.isIn_iff y.toNat x.toNat).2 (by omega)
      obtain ⟨hcolumn, hrow⟩ := hfit.toInt_position hm
      refine ⟨_, _, (position?_eq_some_iff_of_cellsOf h).2 ⟨_, hm, rfl, rfl⟩, ?_, ?_⟩
      · rw [hcolumn]
        exact Int.toNat_of_nonneg hx
      · rw [hrow]
        exact Int.toNat_of_nonneg hy
    injective := fun {t u p} ht hu => by
      obtain ⟨m, hm, rfl, hx, hy⟩ := hplace ht
      obtain ⟨n, hn, rfl, hx', hy'⟩ := hplace hu
      have hrow : m.row = n.row := by omega
      have hcolumn : m.column = n.column := by omega
      simp only [Mark.tile, Mark.rank, hrow, hcolumn]
    admits := fun {t p} hp k => by
      obtain ⟨m, hm, rfl, -⟩ := hplace hp
      obtain ⟨line, hline, hc⟩ := hm.mem
      rw [Board.admits, terrain?_of_isIn h hm, (hroom.known hline hc).2]
      rfl
    neighbor_eq_some_iff := fun hp d u => by
      obtain ⟨e, -, hjoined⟩ := (depicts_of_build hfit h).joined (d := d) hp
      exact hjoined u }

/-! ### Steps in a room -/

namespace IsRoom

variable {d : Direction} (hroom : board.IsRoom width height)

include hroom

/-- The distance that the board tells is the number of steps. -/
theorem distance_eq (ht : board.position? t = some p) (hu : board.position? u = some q) :
    ∃ w, board.distance t u = some w ∧ w.toNat = p.stepsTo q := by
  refine ⟨p.distance q, distance_of_position? ht hu, ?_⟩
  -- No coordinate is negative, so two gaps together fit into a word.
  have hp := hroom.inside ht
  have hq := hroom.inside hu
  have hpx := p.x.toInt_lt
  have hpy := p.y.toInt_lt
  have hqx := q.x.toInt_lt
  have hqy := q.y.toInt_lt
  rw [Position.toNat_distance, Position.stepsTo]
  simp only [UInt32.size]
  omega

/-- No two tiles are so far apart that the steps do not fit into a word. -/
theorem lt_size_of_apart (h : board.Apart t u n) : n < UInt32.size := by
  obtain ⟨p, q, hp, hq, rfl⟩ := h
  obtain ⟨w, -, hw⟩ := hroom.distance_eq hp hq
  rw [← hw]
  exact w.toNat_lt_size

/-- Without a step between them two tiles are the same. -/
theorem eq_of_apart (h : board.Apart t u 0) : t = u := by
  obtain ⟨p, q, hp, hq, hzero⟩ := h
  obtain rfl := Position.stepsTo_eq_zero_iff.1 hzero
  exact hroom.injective hp hq

/-- From any other tile some side leads closer. The tile there lies between the two. -/
theorem exists_closer (ht : board.position? t = some p) (hgoal : board.position? goal = some r)
    (hne : p.stepsTo r ≠ 0) :
    ∃ d u q, board.neighbor t d = some u ∧ board.position? u = some q ∧
      q.stepsTo r + 1 = p.stepsTo r := by
  obtain ⟨⟨hpx, hpx'⟩, hpy, hpy'⟩ := hroom.inside ht
  obtain ⟨⟨hrx, hrx'⟩, hry, hry'⟩ := hroom.inside hgoal
  have hside (d : Direction) (hx : 0 ≤ p.x.toInt + d.delta.1.toInt)
      (hx' : p.x.toInt + d.delta.1.toInt < width) (hy : 0 ≤ p.y.toInt + d.delta.2.toInt)
      (hy' : p.y.toInt + d.delta.2.toInt < height)
      (hcloser : (p.x.toInt + d.delta.1.toInt - r.x.toInt).natAbs +
        (p.y.toInt + d.delta.2.toInt - r.y.toInt).natAbs + 1 = p.stepsTo r) :
      ∃ d u q, board.neighbor t d = some u ∧ board.position? u = some q ∧
        q.stepsTo r + 1 = p.stepsTo r := by
    obtain ⟨u, q, hu, hqx, hqy⟩ := hroom.exists_tile hx hx' hy hy'
    refine ⟨d, u, q, (hroom.neighbor_eq_some_iff ht d u).2 ⟨q, hu, hqx, hqy⟩, hu, ?_⟩
    rw [← hcloser, Position.stepsTo, hqx, hqy]
  simp only [Position.stepsTo] at hne hside ⊢
  rcases Int.lt_trichotomy p.x.toInt r.x.toInt with heast | hsame | hwest
  · apply hside .east <;> simp only [Direction.delta, Int32.reduceToInt] <;> omega
  · rcases Int.lt_trichotomy p.y.toInt r.y.toInt with hsouth | hthere | hnorth
    · apply hside .south <;> simp only [Direction.delta, Int32.reduceToInt] <;> omega
    · omega
    · apply hside .north <;> simp only [Direction.delta, Int32.reduceToInt] <;> omega
  · apply hside .west <;> simp only [Direction.delta, Int32.reduceToInt] <;> omega

/-- Every side of a tile leads to a tile that admits everybody. -/
theorem filter_neighbor (t : TileId) (d : Direction) (k : AgentKind) :
    ((board.neighbor t d).filter fun u => board.admits u k) = board.neighbor t d := by
  cases hu : board.neighbor t d with
  | none => rfl
  | some u =>
    obtain ⟨p, hp⟩ := Board.exists_position?_of_neighbor hu
    obtain ⟨q, hq, -⟩ := (hroom.neighbor_eq_some_iff hp d u).1 hu
    rw [Option.filter_some, if_pos (hroom.admits hq k)]

/-- In a room in which every tile is open a greedy step comes closer by one, until it arrives. -/
theorem stepToward {v : View} (hboard : v.board = board) {a : AgentId}
    (hopen : ∀ t d, v.graph.step? t d a = board.neighbor t d)
    (h : board.Apart t goal (n + 1)) :
    ∃ d u, v.graph.stepToward v.distance t goal a = some d ∧ board.neighbor t d = some u ∧
      board.Apart u goal n := by
  obtain ⟨p, r, hp, hr, hsteps⟩ := h
  have hdistance : v.distance = board.distance := by rw [← hboard]; rfl
  obtain ⟨here, hhere, hhereNat⟩ := hroom.distance_eq hp hr
  -- The selector finds a step, for one comes closer.
  obtain ⟨d, hd⟩ : ∃ d, v.graph.stepToward v.distance t goal a = some d := by
    obtain ⟨d, u, q, hneighbor, hq, hcloser⟩ := hroom.exists_closer hp hr (by omega)
    obtain ⟨there, hthere, hthereNat⟩ := hroom.distance_eq hq hr
    rw [hdistance]
    refine MoveGraph.exists_stepToward hhere ((hopen t d).trans hneighbor) hthere ?_
    rw [UInt32.lt_iff_toNat_lt]
    omega
  -- Whatever it finds comes closer, and by a single step.
  obtain ⟨u, here', there, hu, hhere', hthere, hcloser⟩ := MoveGraph.closer_of_stepToward hd
  rw [hopen] at hu
  rw [hdistance] at hhere' hthere
  obtain rfl : here = here' := Option.some.inj (hhere.symm.trans hhere')
  obtain ⟨q, hq, hbeside⟩ := (hroom.neighbor_eq_some_iff hp d u).1 hu
  obtain ⟨there', hthere', hthereNat⟩ := hroom.distance_eq hq hr
  obtain rfl : there = there' := Option.some.inj (hthere.symm.trans hthere')
  refine ⟨d, u, hd, hu, q, r, hq, hr, ?_⟩
  rw [UInt32.lt_iff_toNat_lt] at hcloser
  have hone := hbeside.stepsTo r
  omega

end IsRoom

end Board

end MazeChase
