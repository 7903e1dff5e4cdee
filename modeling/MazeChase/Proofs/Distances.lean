import MazeChase.Proofs.Approach
import MazeChase.Proofs.Lineup
import MazeChase.Proofs.OpenRoom

/-!
# Distances on a board

The distance that a board tells is the number of steps between the positions of two tiles, except
that the largest word stands for every larger number. It is still a metric: it does not matter from
which end it is taken, only a tile itself is at no distance, and no detour is shorter. Coordinates
reach to both ends of 32 bits, so two gaps together may be more than a word can say, and where they
are the distances beside each other all look alike.

On a board whose tiles are joined as a grid with solid borders, and in no other way, a link is a
single step. As long as the numbers fit, the distances at its two ends differ by one. Then all open
directions that lead closer lead equally close, and the greedy selector takes the first of them.

## Main definitions

* `Board.MeasuresSteps` — the distance is a metric that is cut off at the largest word
* `Board.InReach` — two tiles between which the number of steps fits into a word
* `MoveGraph.firstCloser` — the first open direction that leads closer
* `Board.StepsByOne` — links are single steps, and greedy steps come closer by one

## Main results

* `Position.stepsTo_triangle` — a detour is not shorter
* `MoveGraph.stepToward_eq_firstCloser` — the greedy selector where all closer directions are equal
* `Blueprint.distances_of_build` — distances on every board that was built

## Main examples

* `Blueprint.farLands` — tiles at both ends of the coordinates
-/

namespace MazeChase

/-! ### Steps between positions -/

namespace Position

variable {p q r : Position}

theorem stepsTo_comm (p q : Position) : p.stepsTo q = q.stepsTo p := by
  simp only [stepsTo]
  omega

theorem stepsTo_triangle (p q r : Position) : p.stepsTo r ≤ p.stepsTo q + q.stepsTo r := by
  simp only [stepsTo]
  omega

/-- The distance is the number of steps as far as a word can say it. -/
theorem toNat_distance_eq_min (p q : Position) :
    (p.distance q).toNat = min (UInt32.size - 1) (p.stepsTo q) :=
  toNat_distance p q

theorem distance_comm (p q : Position) : p.distance q = q.distance p := by
  rw [← UInt32.toNat_inj, toNat_distance_eq_min, toNat_distance_eq_min, stepsTo_comm]

theorem distance_eq_zero_iff : p.distance q = 0 ↔ p = q := by
  rw [← stepsTo_eq_zero_iff, ← UInt32.toNat_inj, toNat_distance_eq_min, UInt32.toNat_zero]
  simp only [UInt32.size]
  omega

/-- What is cut off on both sides of a detour is never too much. -/
theorem toNat_distance_triangle (p q r : Position) :
    (p.distance r).toNat ≤ (p.distance q).toNat + (q.distance r).toNat := by
  have hdetour := stepsTo_triangle p q r
  simp only [toNat_distance_eq_min]
  omega

end Position

/-! ### The first direction that leads closer -/

namespace MoveGraph

variable {g : MoveGraph} {distance : TileId → TileId → Option UInt32} {t goal : TileId}
  {a : AgentId} {d : Direction}

/-- Whether direction `d` leads from tile `t` to an open tile that is closer to the goal. -/
def leadsCloser (g : MoveGraph) (distance : TileId → TileId → Option UInt32) (t goal : TileId)
    (a : AgentId) (d : Direction) : Bool :=
  (g.step? t d a).any fun u =>
    (distance u goal).any fun there => (distance t goal).any fun here => there < here

/-- The first direction, in canonical order, that leads to an open tile closer to the goal. -/
def firstCloser (g : MoveGraph) (distance : TileId → TileId → Option UInt32) (t goal : TileId)
    (a : AgentId) : Option Direction :=
  Direction.all.find? (g.leadsCloser distance t goal a)

theorem leadsCloser_iff :
    g.leadsCloser distance t goal a d = true ↔ ∃ there, g.Nears distance t goal a d there := by
  simp only [leadsCloser, Option.any_eq_true, decide_eq_true_eq, step?_eq_some_iff, Nears]
  constructor
  · rintro ⟨u, ⟨hlink, hopen⟩, there, hthere, here, hhere, hcloser⟩
    exact ⟨there, here, u, hhere, hlink, hopen, hthere, hcloser⟩
  · rintro ⟨there, here, u, hhere, hlink, hopen, hthere, hcloser⟩
    exact ⟨u, ⟨hlink, hopen⟩, there, hthere, here, hhere, hcloser⟩

/-- If all directions that lead closer lead equally close, the first of them is the nearest. -/
theorem stepToward_eq_firstCloser
    (heven : ∀ d there d' there', g.Nears distance t goal a d there →
      g.Nears distance t goal a d' there' → there = there') :
    g.stepToward distance t goal a = g.firstCloser distance t goal a := by
  ext d
  rw [stepToward_eq_some_iff, firstCloser,
    find?_eq_some_iff_of_ascending Direction.pairwise_all, leadsCloser_iff]
  constructor
  · -- All of them lead equally close, so only the order of the directions is left to decide.
    rintro ⟨there, hnearest⟩
    refine ⟨Direction.mem_all d, ⟨there, hnearest.nears⟩, fun d' _ hbefore => ?_⟩
    rw [Bool.eq_false_iff, ne_eq, leadsCloser_iff]
    rintro ⟨there', hnears'⟩
    obtain rfl : there = there' := heven _ _ _ _ hnearest.nears hnears'
    exact absurd (hnearest.first d' hnears') (Nat.not_le_of_lt hbefore)
  · rintro ⟨-, ⟨there, hnears⟩, hfirst⟩
    refine ⟨there, hnears, fun d' there' hnears' => ?_, fun d' hnears' => ?_⟩
    · obtain rfl : there = there' := heven _ _ _ _ hnears hnears'
      exact UInt32.le_refl _
    · apply Nat.le_of_not_lt
      intro hbefore
      have hcloser : g.leadsCloser distance t goal a d' = true := leadsCloser_iff.2 ⟨_, hnears'⟩
      rw [hfirst d' (Direction.mem_all d') hbefore] at hcloser
      cases hcloser

end MoveGraph

/-! ### Boards -/

namespace Board

variable {board : Board} {t u goal : TileId} {p q : Position} {w : UInt32} {n : Nat}

/-- The distance that a board tells is a metric: the number of steps between the positions of two
tiles, cut off at the largest word. -/
structure MeasuresSteps (board : Board) : Prop where
  /-- It is the exact number of steps, or the largest word if that is more. -/
  exact : ∀ {t u p q}, board.position? t = some p → board.position? u = some q →
    ∃ w, board.distance t u = some w ∧ w.toNat = min (UInt32.size - 1) (p.stepsTo q)
  /-- It is not known exactly if one of the tiles is not on the board. -/
  eq_none_iff : ∀ t u, board.distance t u = none ↔
    board.tileCount ≤ t.index ∨ board.tileCount ≤ u.index
  /-- It is the same from both ends. -/
  comm : ∀ t u, board.distance t u = board.distance u t
  /-- A tile, and no other, is at no distance of itself. -/
  eq_zero_iff : ∀ t u, t.index < board.tileCount → (board.distance t u = some 0 ↔ t = u)
  /-- A detour is not shorter, in exact numbers. -/
  triangle : ∀ {t u v x y z}, board.distance t u = some x → board.distance u v = some y →
    board.distance t v = some z → z.toNat ≤ x.toNat + y.toNat

/-- The two tiles are on the board, and the number of steps between them fits into a word. -/
def InReach (board : Board) (t u : TileId) : Prop := ∃ n, board.Apart t u n ∧ n < UInt32.size

/-- The goal is in reach of a tile and of all tiles to which its sides lead. -/
structure InReachAround (board : Board) (t goal : TileId) : Prop where
  here : board.InReach t goal
  sides : ∀ d u, board.neighbor t d = some u → board.InReach u goal

/-- Links are single steps, and greedy steps come closer by one, as far as words can say it. -/
structure StepsByOne (board : Board) : Prop where
  /-- At the two ends of a link the distances to a goal differ by one. -/
  link : ∀ {t d u goal}, board.neighbor t d = some u → board.InReach t goal →
    board.InReach u goal → ∃ x y, board.distance t goal = some x ∧ board.distance u goal = some y ∧
      (y.toNat + 1 = x.toNat ∨ y.toNat = x.toNat + 1)
  /-- Whoever may enter which tiles, a greedy step takes the first direction that leads closer, -/
  greedy : ∀ {g : MoveGraph} {t goal : TileId} (a : AgentId), g.neighbor = board.neighbor →
    board.InReachAround t goal →
      g.stepToward board.distance t goal a = g.firstCloser board.distance t goal a
  /-- and it comes closer by one. -/
  gain : ∀ {g : MoveGraph} {t goal : TileId} {a : AgentId} {d : Direction},
    g.neighbor = board.neighbor → board.InReachAround t goal →
      g.stepToward board.distance t goal a = some d → ∃ u x y, board.neighbor t d = some u ∧
        g.accessible u a = true ∧ board.distance t goal = some x ∧
          board.distance u goal = some y ∧ y.toNat + 1 = x.toNat

/-- Within reach the distance is the number of steps. -/
theorem distance_of_apart (h : board.Apart t u n) (hn : n < UInt32.size) :
    ∃ w, board.distance t u = some w ∧ w.toNat = n := by
  obtain ⟨p, q, hp, hq, rfl⟩ := h
  refine ⟨p.distance q, distance_of_position? hp hq, ?_⟩
  rw [Position.toNat_distance_eq_min]
  omega

/-- If no two tiles lie at one position the distance is a metric. -/
theorem measuresSteps (hinjective : ∀ {t u p}, board.position? t = some p →
    board.position? u = some p → t = u) : board.MeasuresSteps where
  exact hp hq := ⟨_, distance_of_position? hp hq, Position.toNat_distance_eq_min _ _⟩
  eq_none_iff _ _ := distance_eq_none_iff
  comm t u := by
    ext w
    rw [distance_eq_some_iff, distance_eq_some_iff]
    constructor
    · rintro ⟨p, q, hp, hq, rfl⟩
      exact ⟨q, p, hq, hp, Position.distance_comm q p⟩
    · rintro ⟨p, q, hp, hq, rfl⟩
      exact ⟨q, p, hq, hp, Position.distance_comm q p⟩
  eq_zero_iff t u ht := by
    rw [distance_eq_some_iff]
    constructor
    · rintro ⟨p, q, hp, hq, hzero⟩
      obtain rfl := Position.distance_eq_zero_iff.1 hzero
      exact hinjective hp hq
    · rintro rfl
      obtain ⟨p, hp⟩ := exists_position? ht
      exact ⟨p, p, hp, hp, Position.distance_eq_zero_iff.2 rfl⟩
  triangle hx hy hz := by
    obtain ⟨p, q, hp, hq, rfl⟩ := distance_eq_some_iff.1 hx
    obtain ⟨-, r, -, hr, -⟩ := distance_eq_some_iff.1 hy
    rw [distance_of_position? hq hr, Option.some.injEq] at hy
    rw [distance_of_position? hp hr, Option.some.injEq] at hz
    rw [← hy, ← hz]
    exact Position.toNat_distance_triangle p q r

section Beside

variable {d : Direction} (hbeside : ∀ {t d u}, board.neighbor t d = some u →
  ∃ p q, board.position? t = some p ∧ board.position? u = some q ∧ p.IsBeside d q)

include hbeside

/-- At the two ends of a link that is a single step the distances differ by one. -/
theorem distance_of_link (hlink : board.neighbor t d = some u) (ht : board.InReach t goal)
    (hu : board.InReach u goal) : ∃ x y, board.distance t goal = some x ∧
      board.distance u goal = some y ∧ (y.toNat + 1 = x.toNat ∨ y.toNat = x.toNat + 1) := by
  obtain ⟨m, hm, hmsize⟩ := ht
  obtain ⟨n, hn, hnsize⟩ := hu
  obtain ⟨x, hx, hxm⟩ := distance_of_apart hm hmsize
  obtain ⟨y, hy, hyn⟩ := distance_of_apart hn hnsize
  obtain ⟨p, q, hp, hq, hstep⟩ := hbeside hlink
  obtain ⟨-, r, -, hr, -⟩ := id hm
  refine ⟨x, y, hx, hy, ?_⟩
  rw [hxm, hyn, ← hm.stepsTo_eq hp hr, ← hn.stepsTo_eq hq hr]
  exact hstep.stepsTo r

/-- Every direction that leads closer leads closer by one. -/
theorem toNat_of_nears {g : MoveGraph} {a : AgentId} (hg : g.neighbor = board.neighbor)
    (hreach : board.InReachAround t goal) {there : UInt32}
    (h : g.Nears board.distance t goal a d there) :
    ∃ u here, board.neighbor t d = some u ∧ g.accessible u a = true ∧
      board.distance t goal = some here ∧ board.distance u goal = some there ∧
        there.toNat + 1 = here.toNat := by
  obtain ⟨here, u, hhere, hlink, hopen, hthere, hcloser⟩ := h
  rw [hg] at hlink
  obtain ⟨x, y, hx, hy, hone⟩ := distance_of_link hbeside hlink hreach.here (hreach.sides d u hlink)
  obtain rfl := Option.some.inj (hhere.symm.trans hx)
  obtain rfl := Option.some.inj (hthere.symm.trans hy)
  rw [UInt32.lt_iff_toNat_lt] at hcloser
  exact ⟨u, here, hlink, hopen, hhere, hthere, by omega⟩

/-- If all links are single steps, greedy steps come closer by one. -/
theorem stepsByOne : board.StepsByOne where
  link := distance_of_link hbeside
  greedy a hg hreach := by
    apply MoveGraph.stepToward_eq_firstCloser
    intro d there d' there' hnears hnears'
    obtain ⟨u, here, -, -, hhere, -, hone⟩ := toNat_of_nears hbeside hg hreach hnears
    obtain ⟨u', here', -, -, hhere', -, hone'⟩ := toNat_of_nears hbeside hg hreach hnears'
    obtain rfl := Option.some.inj (hhere.symm.trans hhere')
    rw [← UInt32.toNat_inj]
    omega
  gain hg hreach hd := by
    obtain ⟨there, hnearest⟩ := MoveGraph.stepToward_eq_some_iff.1 hd
    obtain ⟨u, here, hlink, hopen, hhere, hthere, hone⟩ :=
      toNat_of_nears hbeside hg hreach hnearest.nears
    exact ⟨u, here, there, hlink, hopen, hhere, hthere, hone⟩

end Beside

end Board

/-! ### Boards that were built -/

namespace Blueprint

variable {b : Blueprint} {board : Board} {t u : TileId} {d : Direction} {p : Position}

/-- No two tiles of a board that was built lie at one position. -/
theorem position?_injective_of_build (h : b.build = .ok board) (ht : board.position? t = some p)
    (hu : board.position? u = some p) : t = u := by
  rw [← tileAt_of_build h] at ht hu
  exact Option.some.inj (ht.symm.trans hu)

/-- In a grid with solid borders, without links by hand, a link leads to the tile beside. -/
theorem isBeside_of_build (h : b.build = .ok board) (hlinks : b.links = [])
    (hgrid : b.grid = some .solid) (hu : board.neighbor t d = some u) :
    ∃ p q, board.position? t = some p ∧ board.position? u = some q ∧ p.IsBeside d q := by
  have hlink : b.linked? t d = none := by simp [linked?, hlinks]
  obtain ⟨p, hp⟩ := Board.exists_position?_of_neighbor hu
  obtain ⟨q, hq, hjoins⟩ := (neighbor_eq_some_iff h hlink hgrid hp).1 hu
  exact ⟨p, q, hp, hq, hjoins⟩

/-- **Distances on a board.** On every board that was built the distance is a metric that is cut off
at the largest word. If the tiles were joined as a grid with solid borders and in no other way,
links are single steps; and where the numbers fit into words, greedy steps take the first direction
that leads closer, and they come closer by one. -/
theorem distances_of_build (h : b.build = .ok board) :
    board.MeasuresSteps ∧ (b.links = [] → b.grid = some .solid → board.StepsByOne) :=
  ⟨Board.measuresSteps (position?_injective_of_build h),
    fun hlinks hgrid => Board.stepsByOne (isBeside_of_build h hlinks hgrid)⟩

/-- A goal at the west end of all columns and four tiles at the east end. From one of the four a
tile to the north and a tile to the west are both closer to the goal. The last one is so far off
that the steps do not fit into a word. -/
def farLands : Blueprint where
  plots := [⟨⟨.minValue, 0⟩, .floor⟩, ⟨⟨2147483646, 1⟩, .floor⟩, ⟨⟨2147483646, 0⟩, .floor⟩,
    ⟨⟨2147483645, 1⟩, .floor⟩, ⟨⟨.maxValue, 3⟩, .floor⟩]
  grid := some .solid

/-- The distance of the last tile is cut off. Of the two ways that lead closer from the other one
the first is taken, and it comes closer by one. -/
theorem distances_of_build_farLands :
    ∃ board, farLands.build = .ok board ∧ board.MeasuresSteps ∧ board.StepsByOne ∧
      board.Apart ⟨4⟩ ⟨0⟩ (UInt32.size + 2) ∧ board.distance ⟨4⟩ ⟨0⟩ = some 0xffffffff ∧
      board.InReachAround ⟨1⟩ ⟨0⟩ ∧ board.distance ⟨1⟩ ⟨0⟩ = some 0xffffffff ∧
      ∃ u, (⟨board.neighbor, fun _ _ => true⟩ : MoveGraph).stepToward board.distance ⟨1⟩ ⟨0⟩ ⟨0⟩ =
          some .north ∧
        board.neighbor ⟨1⟩ .north = some u ∧ board.distance u ⟨0⟩ = some 0xfffffffe := by
  have hbuild : farLands.build = .ok ⟨farLands.tiles, [], []⟩ :=
    build_eq_ok_iff.2 ⟨by decide, rfl⟩
  obtain ⟨hmetric, hsteps⟩ := distances_of_build hbuild
  have hstepsByOne := hsteps rfl rfl
  have haround : (⟨farLands.tiles, [], []⟩ : Board).InReachAround ⟨1⟩ ⟨0⟩ := by
    refine ⟨⟨UInt32.size - 1, ⟨_, _, rfl, rfl, by decide⟩, by decide⟩, fun d u hu => ?_⟩
    -- There is nothing to the south and to the east.
    cases d with
    | north =>
      obtain rfl : ⟨2⟩ = u := Option.some.inj hu
      exact ⟨UInt32.size - 2, ⟨_, _, rfl, rfl, by decide⟩, by decide⟩
    | west =>
      obtain rfl : ⟨3⟩ = u := Option.some.inj hu
      exact ⟨UInt32.size - 2, ⟨_, _, rfl, rfl, by decide⟩, by decide⟩
    | south => cases hu
    | east => cases hu
  refine ⟨_, hbuild, hmetric, hstepsByOne, ⟨_, _, rfl, rfl, by decide⟩, by decide, haround,
    by decide, ⟨2⟩, ?_, by decide, by decide⟩
  rw [hstepsByOne.greedy ⟨0⟩ rfl haround]
  decide

end Blueprint

end MazeChase
