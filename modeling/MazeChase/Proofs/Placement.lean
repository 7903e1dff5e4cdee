import Mathlib.Data.List.Basic
import MazeChase.Game.Setup
import MazeChase.Proofs.Sequence

/-!
# How everybody is placed

Setting up a game changes the given population by moves only, whether the first positions are given
or the spawn tiles are taken in turn. A game that comes about is built of parts of fitting sizes,
and everybody in it stands on a tile that admits them.

## Main definitions

* `Board.spawns` — the spawn tiles of a side
* `Population.waitingBefore` — whose turn it is on a side

## Main results

* `Setup.placed_induction` — what every single move respects, setting up respects
* `Setup.tile?_placed_of_positions`, `Setup.tile?_placed_of_spawns` — where everybody begins
* `Setup.build_eq_ok_iff` — when a game comes about, and which
-/

namespace MazeChase

variable {p q : Population} {R : Population → Population → Prop}

theorem placing_eq_ok_iff {a : AgentId} {t : TileId} :
    placing p a t = .ok q ↔ p.occupy a t = .ok q :=
  mapError_eq_ok_iff

theorem placeAll_induction (refl : ∀ p, R p p) (trans : ∀ {p q r}, R p q → R q r → R p r)
    (occupy : ∀ {p a t q}, p.occupy a t = .ok q → R p q) {i : Nat} {tiles : List TileId}
    (h : placeAll p i tiles = .ok q) : R p q := by
  induction tiles generalizing p i with
  | nil =>
    obtain rfl : p = q := by simpa [placeAll] using h
    exact refl p
  | cons t rest ih =>
    simp only [placeAll, bind_eq_ok_iff, placing_eq_ok_iff] at h
    obtain ⟨p', hfirst, hrest⟩ := h
    exact trans (occupy hfirst) (ih hrest)

/-- The spawn tiles of the side to which a kind belongs. -/
def Board.spawns (board : Board) (k : AgentKind) : List TileId :=
  if k.isPlayer then board.playerSpawns else board.ghostSpawns

/-- The first agent that waits gets the spawn tile whose turn it is on its side, and the others
follow. -/
theorem placeAtSpawns_cons {board : Board} {a : AgentId} {k : AgentKind}
    {rest : List (AgentId × AgentKind)} {players ghosts : Nat} :
    placeAtSpawns board ((a, k) :: rest) players ghosts p =
      match spawnTile? (board.spawns k) (if k.isPlayer then players else ghosts) with
      | none => .error (.noSpawn k)
      | some t => placing p a t >>= placeAtSpawns board rest
          (if k.isPlayer then players + 1 else players)
          (if k.isPlayer then ghosts else ghosts + 1) := by
  cases hk : k.isPlayer with
  | true =>
    cases hspawn : spawnTile? board.playerSpawns players <;>
      simp [placeAtSpawns, Board.spawns, hk, hspawn]
  | false =>
    cases hspawn : spawnTile? board.ghostSpawns ghosts <;>
      simp [placeAtSpawns, Board.spawns, hk, hspawn]

theorem placeAtSpawns_cons_eq_ok_iff {board : Board} {a : AgentId} {k : AgentKind}
    {rest : List (AgentId × AgentKind)} {players ghosts : Nat} :
    placeAtSpawns board ((a, k) :: rest) players ghosts p = .ok q ↔
      ∃ t p', spawnTile? (board.spawns k) (if k.isPlayer then players else ghosts) = some t ∧
        p.occupy a t = .ok p' ∧
        placeAtSpawns board rest (if k.isPlayer then players + 1 else players)
          (if k.isPlayer then ghosts else ghosts + 1) p' = .ok q := by
  rw [placeAtSpawns_cons]
  cases spawnTile? (board.spawns k) (if k.isPlayer then players else ghosts) with
  | none => simp
  | some t =>
    simp only [bind_eq_ok_iff, placing_eq_ok_iff, Option.some.injEq, exists_and_left,
      exists_eq_left']

theorem placeAtSpawns_induction (refl : ∀ p, R p p) (trans : ∀ {p q r}, R p q → R q r → R p r)
    (occupy : ∀ {p a t q}, p.occupy a t = .ok q → R p q) {board : Board}
    {waiting : List (AgentId × AgentKind)} {players ghosts : Nat}
    (h : placeAtSpawns board waiting players ghosts p = .ok q) : R p q := by
  induction waiting generalizing p players ghosts with
  | nil =>
    obtain rfl : p = q := by simpa [placeAtSpawns] using h
    exact refl p
  | cons first rest ih =>
    obtain ⟨t, p', -, hfirst, hrest⟩ := placeAtSpawns_cons_eq_ok_iff.1 h
    exact trans (occupy hfirst) (ih hrest)

/-! ### Where everybody is placed -/

section Places

variable {board : Board} {a : AgentId} {k : AgentKind} {before rest : List (AgentId × AgentKind)}
  {players ghosts : Nat}

/-- The agents from `i` on stand on the given tiles in order, and the others where they did. -/
theorem tile?_placeAll {i : Nat} {tiles : List TileId} (h : placeAll p i tiles = .ok q)
    (a : AgentId) :
    q.tile? a = if a.index < i then p.tile? a else tiles[a.index - i]?.or (p.tile? a) := by
  induction tiles generalizing p i with
  | nil =>
    obtain rfl : p = q := by simpa [placeAll] using h
    simp
  | cons t rest ih =>
    simp only [placeAll, bind_eq_ok_iff, placing_eq_ok_iff] at h
    obtain ⟨p', hfirst, hrest⟩ := h
    rw [ih hrest, Population.tile?_occupy hfirst]
    -- The first tile is for agent `i`, and the others are for those after it.
    rcases Nat.lt_trichotomy a.index i with hlt | heq | hgt
    · have hne : a ≠ ⟨i⟩ := fun h => absurd (congrArg AgentId.index h) (Nat.ne_of_lt hlt)
      rw [if_pos (Nat.lt_succ_of_lt hlt), if_pos hlt, if_neg hne]
    · obtain rfl : a = ⟨i⟩ := congrArg AgentId.mk heq
      simp
    · have hne : a ≠ ⟨i⟩ := fun h => absurd (congrArg AgentId.index h) (Nat.ne_of_gt hgt)
      have hplace : a.index - i = a.index - (i + 1) + 1 := by omega
      rw [if_neg (Nat.not_lt.2 hgt), if_neg hne, if_neg (Nat.lt_asymm hgt), hplace,
        List.getElem?_cons_succ]

/-- Whoever does not wait stays where they are. -/
theorem tile?_placeAtSpawns_of_forall_ne
    (h : placeAtSpawns board rest players ghosts p = .ok q) (ha : ∀ e ∈ rest, e.1 ≠ a) :
    q.tile? a = p.tile? a := by
  induction rest generalizing p players ghosts with
  | nil =>
    obtain rfl : p = q := by simpa [placeAtSpawns] using h
    rfl
  | cons first rest ih =>
    obtain ⟨t, p', -, hfirst, hrest⟩ := placeAtSpawns_cons_eq_ok_iff.1 h
    have hne : a ≠ first.1 := (ha first List.mem_cons_self).symm
    rw [ih hrest fun e he => ha e (List.mem_cons_of_mem first he),
      Population.tile?_occupy hfirst, if_neg hne]

/-- Who waits gets the spawn tile after those of its side that wait before it. -/
theorem tile?_placeAtSpawns
    (h : placeAtSpawns board (before ++ (a, k) :: rest) players ghosts p = .ok q)
    (ha : ∀ e ∈ rest, e.1 ≠ a) :
    q.tile? a = spawnTile? (board.spawns k) ((if k.isPlayer then players else ghosts) +
      before.countP fun e => e.2.isPlayer == k.isPlayer) := by
  induction before generalizing p players ghosts with
  | nil =>
    obtain ⟨t, p', hspawn, hfirst, hrest⟩ := placeAtSpawns_cons_eq_ok_iff.1 h
    rw [tile?_placeAtSpawns_of_forall_ne hrest ha, Population.tile?_occupy hfirst, if_pos rfl,
      List.countP_nil, Nat.add_zero, hspawn]
  | cons first before ih =>
    obtain ⟨t, p', -, -, hrest⟩ := placeAtSpawns_cons_eq_ok_iff.1 h
    rw [ih hrest, List.countP_cons]
    cases first.2.isPlayer <;> cases k.isPlayer <;> simp <;> congr 1 <;> omega

end Places

namespace Population

variable {a : AgentId} {k : AgentKind}

/-- Those of some agents who stand nowhere, with their kinds. -/
def unplacedAmong (p : Population) (ids : List AgentId) : List (AgentId × AgentKind) :=
  (ids.filter fun a => (p.tile? a).isNone).filterMap fun a => (p.kind? a).map (a, ·)

/-- How many agents on the side of kind `k` stand nowhere and come before agent `a`. -/
def waitingBefore (p : Population) (a : AgentId) (k : AgentKind) : Nat :=
  (p.unplacedAmong ((List.range a.index).map AgentId.mk)).countP fun e =>
    e.2.isPlayer == k.isPlayer

theorem mem_of_mem_unplacedAmong {ids : List AgentId} {e : AgentId × AgentKind}
    (h : e ∈ p.unplacedAmong ids) : e.1 ∈ ids := by
  simp only [unplacedAmong, List.mem_filterMap, List.mem_filter, Option.map_eq_some_iff] at h
  obtain ⟨a, ⟨ha, -⟩, k, -, rfl⟩ := h
  exact ha

/-- Whose turn it is depends on nobody but the agents before. -/
theorem waitingBefore_congr (htile : ∀ b : AgentId, b.index < a.index → q.tile? b = p.tile? b)
    (hkind : ∀ b : AgentId, b.index < a.index → q.kind? b = p.kind? b) :
    q.waitingBefore a k = p.waitingBefore a k := by
  have hbefore {b : AgentId} (hb : b ∈ (List.range a.index).map AgentId.mk) :
      b.index < a.index := by
    obtain ⟨j, hj, rfl⟩ := List.mem_map.1 hb
    exact List.mem_range.1 hj
  have hfilter : ((List.range a.index).map AgentId.mk).filter (fun b => (q.tile? b).isNone) =
      ((List.range a.index).map AgentId.mk).filter fun b => (p.tile? b).isNone :=
    List.filter_congr fun b hb => by rw [htile b (hbefore hb)]
  rw [waitingBefore, waitingBefore, unplacedAmong, unplacedAmong, hfilter]
  refine congrArg (List.countP _) (List.filterMap_congr fun b hb => ?_)
  rw [hkind b (hbefore (List.mem_filter.1 hb).1)]

/-- The list of those who stand nowhere, taken apart at one of them. -/
theorem unplaced_eq_append (ht : p.tile? a = none) (hk : p.kind? a = some k) :
    ∃ rest, p.unplaced =
        p.unplacedAmong ((List.range a.index).map AgentId.mk) ++ (a, k) :: rest ∧
      ∀ e ∈ rest, e.1 ≠ a := by
  obtain ⟨r, hr⟩ := Nat.exists_eq_add_of_lt (lt_count_of_kind? hk)
  have hids : p.agentIds = (List.range a.index).map AgentId.mk ++
      a :: (List.range r).map fun j => ⟨a.index + (j + 1)⟩ := by
    rw [agentIds, hr, Nat.add_assoc, List.range_add, List.map_append, List.range_succ_eq_map]
    simp [Function.comp_def]
  have hout : (p.tile? a).isNone = true := by rw [ht, Option.isNone_none]
  have hpair : (p.kind? a).map (a, ·) = some (a, k) := by rw [hk, Option.map_some]
  refine ⟨p.unplacedAmong ((List.range r).map fun j => ⟨a.index + (j + 1)⟩), ?_, ?_⟩
  · simp only [unplaced, unplacedAmong, hids, List.filter_append, List.filterMap_append,
      List.filter_cons, hout, if_true, List.filterMap_cons, hpair]
  · -- Whoever comes after `a` has another identifier.
    rintro e he rfl
    obtain ⟨j, -, hj⟩ := List.mem_map.1 (mem_of_mem_unplacedAmong he)
    have hindex : e.1.index + (j + 1) = e.1.index := congrArg AgentId.index hj
    omega

end Population

namespace Setup

variable {s : Setup} {g : Game}

theorem length_of_placed {positions : List TileId} (hpos : s.positions = some positions)
    (h : s.placed = .ok q) : positions.length = s.population.count := by
  simp only [placed, hpos] at h
  split at h
  · cases h
  · next hlength => exact Decidable.not_not.1 hlength

/-- Given positions are taken up one by one. -/
theorem tile?_placed_of_positions {positions : List TileId} (hpos : s.positions = some positions)
    (h : s.placed = .ok q) (a : AgentId) :
    q.tile? a = positions[a.index]?.or (s.population.tile? a) := by
  simp only [placed, hpos] at h
  split at h
  · cases h
  · simpa using tile?_placeAll h a

/-- Without positions, whoever stood nowhere stands on the spawn tile of its side whose turn it
was. -/
theorem tile?_placed_of_spawns {a : AgentId} {k : AgentKind} (hpos : s.positions = none)
    (h : s.placed = .ok q) (ht : s.population.tile? a = none)
    (hk : s.population.kind? a = some k) :
    q.tile? a = spawnTile? (s.board.spawns k) (s.population.waitingBefore a k) := by
  obtain ⟨rest, hunplaced, hrest⟩ := Population.unplaced_eq_append ht hk
  simp only [placed, hpos, hunplaced] at h
  simpa [Population.waitingBefore] using tile?_placeAtSpawns h hrest

theorem placed_induction (refl : ∀ p, R p p) (trans : ∀ {p q r}, R p q → R q r → R p r)
    (occupy : ∀ {p a t q}, p.occupy a t = .ok q → R p q) (h : s.placed = .ok q) :
    R s.population q := by
  simp only [placed] at h
  split at h
  · split at h
    · cases h
    · exact placeAll_induction refl trans occupy h
  · exact placeAtSpawns_induction refl trans occupy h

theorem count_placed (h : s.placed = .ok q) : q.count = s.population.count :=
  placed_induction (R := fun p q => q.count = p.count) (fun _ => rfl) (fun h h' => h'.trans h)
    Population.count_occupy h

theorem tileCount_placed (h : s.placed = .ok q) : q.tileCount = s.population.tileCount :=
  placed_induction (R := fun p q => q.tileCount = p.tileCount) (fun _ => rfl)
    (fun h h' => h'.trans h) Population.tileCount_occupy h

theorem kind?_placed (h : s.placed = .ok q) (a : AgentId) : q.kind? a = s.population.kind? a :=
  placed_induction (R := fun p q => q.kind? a = p.kind? a) (fun _ => rfl)
    (fun h h' => h'.trans h) Population.kind?_occupy h

theorem consistent_placed (h : s.placed = .ok q) (hs : s.population.Consistent) : q.Consistent :=
  placed_induction (R := fun p q => p.Consistent → q.Consistent) (fun _ => id)
    (fun h h' => h' ∘ h) (fun hq hp => hp.occupy hq) h hs

theorem sizeFault?_eq_none_iff :
    s.sizeFault? = none ↔
      s.memories.length = s.population.count ∧ s.population.tileCount = s.board.tileCount := by
  simp only [sizeFault?]
  split
  · simp_all
  · split <;> simp_all

/-- Somebody may begin where they stand if they stand on a tile that admits their kind. -/
theorem startFault?_eq_none_iff {board : Board} {a : AgentId} :
    p.startFault? board a = none ↔
      ∃ t k, p.tile? a = some t ∧ p.kind? a = some k ∧ board.admits t k = true := by
  simp only [Population.startFault?, Population.requireTile]
  cases htile : p.tile? a with
  | none => simp
  | some t => cases p.kind? a <;> simp

/-- A game comes about if the sizes fit, everybody can be placed and nobody has to stand where it
may not. -/
theorem build_eq_ok_iff :
    s.build = .ok g ↔
      s.sizeFault? = none ∧ ∃ population, s.placed = .ok population ∧
        (∀ a : AgentId, a.index < population.count →
          population.startFault? s.board a = none) ∧
        g = {
          config := s.config
          board := s.board
          population
          memories := s.memories
          strategy := s.strategy
          rules := s.rules
          steering := List.replicate population.count none } := by
  simp only [build]
  cases s.sizeFault? with
  | some e => simp
  | none =>
    simp only [bind_eq_ok_iff, true_and]
    refine exists_congr fun population => and_congr_right fun _ => ?_
    cases hfault : population.agentIds.findSome? (population.startFault? s.board) with
    | some e =>
      obtain ⟨a, hmem, ha⟩ := List.exists_of_findSome?_eq_some hfault
      simp only [reduceCtorEq, false_iff, not_and]
      intro hall
      rw [hall a (Population.mem_agentIds.1 hmem)] at ha
      cases ha
    | none =>
      have hall (a : AgentId) (ha : a.index < population.count) :=
        List.findSome?_eq_none_iff.1 hfault a (Population.mem_agentIds.2 ha)
      constructor
      · intro h
        exact ⟨hall, (Except.ok.inj h).symm⟩
      · rintro ⟨-, rfl⟩
        rfl

end Setup

end MazeChase
