import MazeChase.Proofs.History
import MazeChase.Proofs.Inspection
import MazeChase.Proofs.Lineup

/-!
# How games begin

The parts of a game are looked at in order: whether their sizes fit, whether everybody finds a tile
to begin on, and whether that tile admits them. In each pass the first agent for whom something is
wrong is reported, and a later pass is not made once an earlier one has found something.

If nothing is wrong the game begins with nothing played and nothing queued. Whoever got a position
stands on it. Otherwise those who stood somewhere stand there still, and the others take the spawn
tiles of their side in turn, in the order of their identifiers. Two more things could go wrong on
the way: somebody could get a spawn tile off the board, and somebody could be left without a tile.
Neither does on a board that was built.

## Main definitions

* `Setup.position?`, `Setup.spawn?`, `Setup.start?` — the tile on which an agent is to begin
* `Setup.OffBoard`, `Setup.Spawnless`, `Setup.Barred` — who cannot begin
* `Setup.FirstFlaw` — the first thing that is wrong with the parts
* `Setup.Valid` — nothing is wrong with them
* `Setup.Begins` — a game at its beginning

## Main results

* `placeAll_eq_error_iff`, `placeAtSpawns_eq_error_iff` — for whom a placement fails
* `Setup.tile?_placed` — whoever was placed stands where they are to begin
* `Setup.build_eq_error_iff` — what is reported is the first flaw
* `Setup.valid_iff` — without a first flaw nothing is wrong
* `Setup.begins_or_flawed` — what comes of the parts of a game

## Main examples

* `Setup.yard` — a player and three ghosts on a board where only ghosts have spawn tiles
-/

namespace MazeChase

namespace Population

variable {p q : Population} {a : AgentId} {k : AgentKind}

theorem mem_unplaced : (a, k) ∈ p.unplaced ↔ p.tile? a = none ∧ p.kind? a = some k := by
  simp only [unplaced, List.mem_filterMap, List.mem_filter, Option.isNone_iff_eq_none,
    Option.map_eq_some_iff, Prod.mk.injEq, mem_agentIds]
  constructor
  · rintro ⟨a, ⟨-, hout⟩, k, hk, rfl, rfl⟩
    exact ⟨hout, hk⟩
  · rintro ⟨hout, hk⟩
    exact ⟨a, ⟨lt_count_of_kind? hk, hout⟩, k, hk, rfl, rfl⟩

theorem pairwise_unplaced (p : Population) :
    p.unplaced.Pairwise fun e f => e.1.index < f.1.index := by
  rw [unplaced, List.pairwise_filterMap]
  refine (p.pairwise_agentIds.filter _).imp fun {a b} hlt e he f hf => ?_
  obtain ⟨k, -, rfl⟩ := Option.map_eq_some_iff.1 he
  obtain ⟨l, -, rfl⟩ := Option.map_eq_some_iff.1 hf
  exact hlt

end Population

/-! ### Where a placement fails -/

section Failures

variable {p : Population} {board : Board} {e : GameError}

/-- Known agents are placed up to the first tile that is out of range. -/
theorem placeAll_eq_error_iff {i : Nat} {tiles : List TileId} (h : i + tiles.length ≤ p.count) :
    placeAll p i tiles = .error e ↔
      ∃ t, tiles.find? (p.tileCount ≤ ·.index) = some t ∧
        e = .placement (.tileOutOfRange t p.tileCount) := by
  induction tiles generalizing p i with
  | nil => simp [placeAll]
  | cons t rest ih =>
    rw [List.length_cons] at h
    have hknown : ¬ p.count ≤ (AgentId.mk i).index := by simp only; omega
    by_cases ht : p.tileCount ≤ t.index
    · have hfails : p.occupy ⟨i⟩ t = .error (.tileOutOfRange t p.tileCount) := by
        rw [Population.occupy, if_neg hknown, if_pos ht]
      rw [placeAll, placing, hfails, List.find?_cons_of_pos (by simpa using ht)]
      simp [Except.mapError, bind, Except.bind, eq_comm]
    · -- This agent is placed. The next ones are as known as before, and no tile came or went.
      obtain ⟨q, hq⟩ : ∃ q, p.occupy ⟨i⟩ t = .ok q :=
        ⟨_, Population.occupy_eq_ok_iff.2 ⟨Nat.lt_of_not_le hknown, Nat.lt_of_not_le ht, rfl⟩⟩
      have hrest : i + 1 + rest.length ≤ q.count := by
        rw [Population.count_occupy hq]
        omega
      rw [placeAll, placing_eq_ok_iff.2 hq, List.find?_cons_of_neg (by simpa using ht)]
      rw [← Population.tileCount_occupy hq]
      exact ih hrest

theorem spawnTile?_eq_none_iff {spawns : List TileId} {used : Nat} :
    spawnTile? spawns used = none ↔ spawns = [] := by
  rw [spawnTile?, List.getElem?_eq_none_iff]
  constructor
  · intro h
    refine List.eq_nil_of_length_eq_zero (Nat.eq_zero_of_not_pos fun hpos => ?_)
    exact absurd (Nat.mod_lt used hpos) (Nat.not_lt.2 h)
  · rintro rfl
    exact Nat.zero_le _

/-- Known agents are placed up to the first whose side has no spawn tile, if all spawn tiles are in
range. -/
theorem placeAtSpawns_eq_error_iff {waiting : List (AgentId × AgentKind)} {players ghosts : Nat}
    (hknown : ∀ e ∈ waiting, e.1.index < p.count)
    (hspawns : ∀ k, ∀ t ∈ board.spawns k, t.index < p.tileCount) :
    placeAtSpawns board waiting players ghosts p = .error e ↔
      ∃ entry, waiting.find? (fun entry => (board.spawns entry.2).isEmpty) = some entry ∧
        e = .noSpawn entry.2 := by
  induction waiting generalizing p players ghosts with
  | nil => simp [placeAtSpawns]
  | cons first rest ih =>
    obtain ⟨a, k⟩ := first
    rw [placeAtSpawns_cons]
    by_cases hk : board.spawns k = []
    · rw [spawnTile?_eq_none_iff.2 hk, List.find?_cons_of_pos (by simpa using hk)]
      simp [eq_comm]
    · -- There is a tile whose turn it is, it is in range, and so the agent comes to stand on it.
      obtain ⟨t, ht⟩ := Option.ne_none_iff_exists'.1 (mt spawnTile?_eq_none_iff.1 hk)
      have hrange := hspawns k t (List.mem_of_getElem? ht)
      obtain ⟨q, hq⟩ : ∃ q, p.occupy a t = .ok q :=
        ⟨_, Population.occupy_eq_ok_iff.2 ⟨hknown _ List.mem_cons_self, hrange, rfl⟩⟩
      have hknown' (entry) (hentry : entry ∈ rest) : entry.1.index < q.count := by
        rw [Population.count_occupy hq]
        exact hknown entry (List.mem_cons_of_mem _ hentry)
      rw [← Population.tileCount_occupy hq] at hspawns
      rw [ht, List.find?_cons_of_neg (by simpa using hk), ← ih hknown' hspawns]
      simp only [placing_eq_ok_iff.2 hq]
      rfl

end Failures

namespace Setup

/-! ### What can be wrong -/

/-- The position that was given for an agent. -/
def position? (s : Setup) (a : AgentId) : Option TileId := s.positions.bind (·[a.index]?)

/-- The spawn tile whose turn it is when the turn comes to an agent. -/
def spawn? (s : Setup) (a : AgentId) : Option TileId :=
  (s.population.kind? a).bind fun k =>
    (s.board.spawns k)[s.population.waitingBefore a k % (s.board.spawns k).length]?

/-- The tile on which an agent is to begin: the position that was given for it or, if there are no
positions, the tile on which it stands already or else a spawn tile. -/
def start? (s : Setup) (a : AgentId) : Option TileId :=
  if s.positions.isSome then s.position? a else (s.population.tile? a).or (s.spawn? a)

/-- The parts fit in size. -/
structure Sized (s : Setup) : Prop where
  memories : s.memories.length = s.population.count
  tiles : s.population.tileCount = s.board.tileCount
  positions : ∀ ts, s.positions = some ts → ts.length = s.population.count

/-- An agent was given a position that is not on the board. -/
def OffBoard (s : Setup) (a : AgentId) : Prop :=
  ∃ t, s.position? a = some t ∧ s.board.tileCount ≤ t.index

/-- An agent needs a spawn tile, and there is none for its side. -/
def Spawnless (s : Setup) (a : AgentId) : Prop :=
  s.positions = none ∧ s.population.tile? a = none ∧
    ∃ k, s.population.kind? a = some k ∧ s.board.spawns k = []

/-- The tile on which an agent is to begin does not admit it. -/
def Barred (s : Setup) (a : AgentId) : Prop :=
  ∃ t k, s.start? a = some t ∧ s.population.kind? a = some k ∧ s.board.admits t k = false

/-- The first thing that is wrong with the parts of a game. -/
inductive FirstFlaw (s : Setup) : GameError → Prop
  /-- There are too few or too many memories. -/
  | memories (hcount : s.memories.length ≠ s.population.count) :
      FirstFlaw s (.memoryCount s.population.count s.memories.length)
  /-- The agents are not those of a board of this size, and nothing was wrong before. -/
  | tiles (hmemories : s.memories.length = s.population.count)
      (hcount : s.population.tileCount ≠ s.board.tileCount) :
      FirstFlaw s (.tileCount s.population.tileCount s.board.tileCount)
  /-- There are too few or too many positions, and nothing was wrong before. -/
  | positions {ts : List TileId} (hmemories : s.memories.length = s.population.count)
      (htiles : s.population.tileCount = s.board.tileCount) (hts : s.positions = some ts)
      (hcount : ts.length ≠ s.population.count) :
      FirstFlaw s (.positionCount s.population.count ts.length)
  /-- The sizes fit, and an agent is the first with a position off the board. -/
  | offBoard {a : AgentId} {t : TileId} (hsized : s.Sized) (hfirst : a.IsFirst s.OffBoard)
      (ht : s.position? a = some t) :
      FirstFlaw s (.placement (.tileOutOfRange t s.board.tileCount))
  /-- The sizes fit, and an agent is the first without a spawn tile for its side. -/
  | noSpawn {a : AgentId} {k : AgentKind} (hsized : s.Sized) (hfirst : a.IsFirst s.Spawnless)
      (hk : s.population.kind? a = some k) : FirstFlaw s (.noSpawn k)
  /-- The sizes fit, all agents have tiles, and one is the first that its tile does not admit. -/
  | barred {a : AgentId} {t : TileId} (hsized : s.Sized) (hboard : ∀ b, ¬ s.OffBoard b)
      (hspawn : ∀ b, ¬ s.Spawnless b) (hfirst : a.IsFirst s.Barred) (ht : s.start? a = some t) :
      FirstFlaw s (.inaccessibleStart a t)

/-- Nothing is wrong with the parts of a game. -/
structure Valid (s : Setup) : Prop where
  sized : s.Sized
  on_board : ∀ a, ¬ s.OffBoard a
  spawned : ∀ a, ¬ s.Spawnless a
  admitted : ∀ a, ¬ s.Barred a

/-- A game is made of some parts, and nothing has happened in it. -/
structure Begins (s : Setup) (g : Game) : Prop where
  config_eq : g.config = s.config
  board_eq : g.board = s.board
  memories_eq : g.memories = s.memories
  strategy_eq : g.strategy = s.strategy
  rules_eq : g.rules = s.rules
  /-- No tick was played. -/
  tick_eq : g.tick = .zero
  /-- No move is queued. -/
  steering_eq : g.steering = List.replicate s.population.count none
  /-- The agents are those that were given. -/
  count_eq : g.population.count = s.population.count
  kind?_eq : ∀ a, g.population.kind? a = s.population.kind? a
  /-- They stand where they are to begin. -/
  placed : ∀ a : AgentId, a.index < s.population.count →
    ∃ t, s.start? a = some t ∧ g.population.tile? a = some t
  /-- The tiles know who stands on them. -/
  consistent : s.population.Consistent → g.population.Consistent

variable {s : Setup} {g : Game} {q : Population} {a : AgentId} {t : TileId} {k : AgentKind}
  {e : GameError}

/-! ### The passes -/

theorem sizeFault?_eq_some_iff :
    s.sizeFault? = some e ↔
      s.memories.length ≠ s.population.count ∧
          e = .memoryCount s.population.count s.memories.length ∨
        s.memories.length = s.population.count ∧ s.population.tileCount ≠ s.board.tileCount ∧
          e = .tileCount s.population.tileCount s.board.tileCount := by
  rw [sizeFault?]
  by_cases hmemories : s.memories.length = s.population.count
  · by_cases htiles : s.population.tileCount = s.board.tileCount <;>
      simp [hmemories, htiles, eq_comm]
  · simp [hmemories, eq_comm]

theorem Sized.sizeFault?_eq (h : s.Sized) : s.sizeFault? = none :=
  sizeFault?_eq_none_iff.2 ⟨h.memories, h.tiles⟩

/-- The sizes are looked at first, then everybody is placed, and then the tiles are looked at. -/
theorem build_eq_error_iff_passes :
    s.build = .error e ↔
      s.sizeFault? = some e ∨
      s.sizeFault? = none ∧ (s.placed = .error e ∨
        ∃ q, s.placed = .ok q ∧ q.agentIds.findSome? (q.startFault? s.board) = some e) := by
  rw [build]
  cases s.sizeFault? with
  | some e' => simp
  | none =>
    simp only [bind_eq_error_iff, reduceCtorEq, true_and, false_or]
    refine or_congr_right (exists_congr fun q => and_congr_right fun _ => ?_)
    cases q.agentIds.findSome? (q.startFault? s.board) with
    | some e' => simp
    | none => constructor <;> intro h <;> cases h

/-- With positions, the first agent whose position is off the board is reported. -/
theorem placed_eq_error_iff_of_positions (hsized : s.Sized) {ts : List TileId}
    (hts : s.positions = some ts) :
    s.placed = .error e ↔
      ∃ a t, a.IsFirst s.OffBoard ∧ s.position? a = some t ∧
        e = .placement (.tileOutOfRange t s.board.tileCount) := by
  have hlength := hsized.positions ts hts
  -- Places of the list are numbers of agents, so the first of one is the first of the other.
  have hposition (a : AgentId) : s.position? a = ts[a.index]? := by rw [position?, hts]; rfl
  rw [placed, hts]
  simp only [hlength, ne_eq, not_true, if_false]
  rw [placeAll_eq_error_iff (by omega), hsized.tiles]
  simp only [List.find?_eq_some_iff_getElem, decide_eq_true_eq]
  constructor
  · rintro ⟨t, ⟨hout, i, hi, rfl, hbefore⟩, rfl⟩
    have ht : s.position? ⟨i⟩ = some ts[i] := (hposition _).trans (List.getElem?_eq_getElem hi)
    refine ⟨⟨i⟩, ts[i], ⟨⟨_, ht, hout⟩, ?_⟩, ht, rfl⟩
    rintro b hlt ⟨u, hu, hle⟩
    obtain ⟨hb, rfl⟩ := List.getElem?_eq_some_iff.1 ((hposition b).symm.trans hu)
    have hin := hbefore b.index hlt
    simp [hle] at hin
  · rintro ⟨a, t, hfirst, ht, rfl⟩
    obtain ⟨t', ht', hout⟩ := hfirst.holds
    obtain rfl : t = t' := Option.some.inj (ht.symm.trans ht')
    obtain ⟨hi, hget⟩ := List.getElem?_eq_some_iff.1 ((hposition a).symm.trans ht)
    refine ⟨t, ⟨hout, a.index, hi, hget, fun j hj => ?_⟩, rfl⟩
    have hin := hfirst.before ⟨j⟩ hj
    simp only [OffBoard, hposition, not_exists, not_and] at hin
    simpa using hin _ (List.getElem?_eq_getElem (Nat.lt_trans hj hi))

/-- Without positions, the first agent without a spawn tile is reported. -/
theorem placed_eq_error_iff_of_spawns (hsized : s.Sized)
    (hspawns : ∀ k, ∀ t ∈ s.board.spawns k, t.index < s.board.tileCount)
    (hts : s.positions = none) :
    s.placed = .error e ↔
      ∃ a k, a.IsFirst s.Spawnless ∧ s.population.kind? a = some k ∧ e = .noSpawn k := by
  rw [← hsized.tiles] at hspawns
  have hknown (entry) (h : entry ∈ s.population.unplaced) :
      entry.1.index < s.population.count :=
    Population.lt_count_of_kind? (Population.mem_unplaced.1 h).2
  rw [placed, hts]
  simp only
  rw [placeAtSpawns_eq_error_iff hknown hspawns]
  -- Agents wait in ascending order, so the first entry that fails belongs to the first such agent.
  simp only [find?_eq_some_iff_of_ascending s.population.pairwise_unplaced, List.isEmpty_iff]
  constructor
  · rintro ⟨⟨a, k⟩, ⟨hmem, hnone, hbefore⟩, rfl⟩
    obtain ⟨hout, hk⟩ := Population.mem_unplaced.1 hmem
    refine ⟨a, k, ⟨⟨hts, hout, k, hk, hnone⟩, ?_⟩, hk, rfl⟩
    rintro b hlt ⟨-, hout', l, hl, hnone'⟩
    have hsome := hbefore (b, l) (Population.mem_unplaced.2 ⟨hout', hl⟩) hlt
    simp [hnone'] at hsome
  · rintro ⟨a, k, hfirst, hk, rfl⟩
    obtain ⟨-, hout, l, hl, hnone⟩ := hfirst.holds
    obtain rfl : k = l := Option.some.inj (hk.symm.trans hl)
    refine ⟨(a, k), ⟨Population.mem_unplaced.2 ⟨hout, hk⟩, hnone, ?_⟩, rfl⟩
    rintro ⟨b, l⟩ hmem hlt
    obtain ⟨hout', hl⟩ := Population.mem_unplaced.1 hmem
    exact Bool.eq_false_iff.2 fun hempty =>
      hfirst.before b hlt ⟨hts, hout', l, hl, List.isEmpty_iff.1 hempty⟩

/-- Whoever was placed stands where they are to begin. -/
theorem tile?_placed (hsized : s.Sized) (h : s.placed = .ok q) (ha : a.index < s.population.count) :
    q.tile? a = s.start? a := by
  cases hts : s.positions with
  | some ts =>
    have hi : a.index < ts.length := (hsized.positions ts hts).symm ▸ ha
    rw [tile?_placed_of_positions hts h, List.getElem?_eq_getElem hi]
    simp [start?, position?, hts, List.getElem?_eq_getElem hi]
  | none =>
    cases ht : s.population.tile? a with
    | some t =>
      -- Whoever stands somewhere does not wait.
      have hstays : ∀ entry ∈ s.population.unplaced, entry.1 ≠ a := by
        rintro entry hentry rfl
        rw [(Population.mem_unplaced.1 hentry).1] at ht
        cases ht
      simp only [placed, hts] at h
      rw [tile?_placeAtSpawns_of_forall_ne h hstays]
      simp [start?, hts, ht]
    | none =>
      obtain ⟨k, hk⟩ := Population.exists_kind? ha
      rw [tile?_placed_of_spawns hts h ht hk]
      simp [start?, spawn?, spawnTile?, hts, ht, hk]

/-- If nobody lacks a spawn tile everybody has a tile to begin on. -/
theorem exists_start? (hsized : s.Sized) (hspawn : ∀ b, ¬ s.Spawnless b)
    (ha : a.index < s.population.count) : ∃ t, s.start? a = some t := by
  cases hts : s.positions with
  | some ts =>
    have hi : a.index < ts.length := (hsized.positions ts hts).symm ▸ ha
    exact ⟨ts[a.index], by simp [start?, position?, hts, List.getElem?_eq_getElem hi]⟩
  | none =>
    cases ht : s.population.tile? a with
    | some t => exact ⟨t, by simp [start?, hts, ht]⟩
    | none =>
      obtain ⟨k, hk⟩ := Population.exists_kind? ha
      have hsome : s.board.spawns k ≠ [] := fun hnone => hspawn a ⟨hts, ht, k, hk, hnone⟩
      have hturns : spawnTile? (s.board.spawns k) (s.population.waitingBefore a k) ≠ none :=
        mt spawnTile?_eq_none_iff.1 hsome
      obtain ⟨t, hturn⟩ := Option.ne_none_iff_exists'.1 hturns
      rw [spawnTile?] at hturn
      exact ⟨t, by simp [start?, spawn?, hts, ht, hk, hturn]⟩

/-- Once everybody is placed, a tile that does not admit its agent is all that can be wrong. -/
theorem startFault?_placed_eq_some_iff (hsized : s.Sized) (hspawn : ∀ b, ¬ s.Spawnless b)
    (h : s.placed = .ok q) (ha : a.index < s.population.count) :
    q.startFault? s.board a = some e ↔
      s.Barred a ∧ ∃ t, s.start? a = some t ∧ e = .inaccessibleStart a t := by
  obtain ⟨t, ht⟩ := exists_start? hsized hspawn ha
  obtain ⟨k, hk⟩ := Population.exists_kind? ha
  have htile : q.tile? a = some t := (tile?_placed hsized h ha).trans ht
  simp only [Population.startFault?, Population.requireTile, htile, kind?_placed h, hk, Barred, ht]
  cases hadmits : s.board.admits t k with
  | true => simp [hadmits]
  | false =>
    simp only [Option.any_some, hadmits, Bool.false_eq_true, if_false, Option.some.injEq]
    constructor
    · rintro rfl
      exact ⟨⟨t, k, rfl, rfl, hadmits⟩, t, rfl, rfl⟩
    · rintro ⟨-, u, rfl, rfl⟩
      rfl

/-- The first agent that its tile does not admit is reported. -/
theorem findSome?_startFault?_eq_some_iff (hsized : s.Sized) (hspawn : ∀ b, ¬ s.Spawnless b)
    (h : s.placed = .ok q) :
    q.agentIds.findSome? (q.startFault? s.board) = some e ↔
      ∃ a t, a.IsFirst s.Barred ∧ s.start? a = some t ∧ e = .inaccessibleStart a t := by
  have hfault {b : AgentId} {e : GameError} (hb : b.index < s.population.count) :=
    startFault?_placed_eq_some_iff (e := e) hsized hspawn h hb
  rw [findSome?_eq_some_iff_of_ascending q.pairwise_agentIds]
  simp only [Population.mem_agentIds, count_placed h]
  constructor
  · rintro ⟨a, ha, hfound, hleast⟩
    obtain ⟨hbarred, t, ht, rfl⟩ := (hfault ha).1 hfound
    refine ⟨a, t, ⟨hbarred, fun b hlt hb => ?_⟩, ht, rfl⟩
    -- An earlier agent that is barred would have been found before.
    have hknown := Nat.lt_trans hlt ha
    obtain ⟨u, hu⟩ := exists_start? hsized hspawn hknown
    have hnone := hleast b hknown hlt
    rw [(hfault hknown).2 ⟨hb, u, hu, rfl⟩] at hnone
    cases hnone
  · rintro ⟨a, t, hfirst, ht, rfl⟩
    obtain ⟨-, k, -, hk, -⟩ := hfirst.holds
    have ha := Population.lt_count_of_kind? hk
    refine ⟨a, ha, (hfault ha).2 ⟨hfirst.holds, t, ht, rfl⟩, fun b hb hlt => ?_⟩
    refine Option.eq_none_iff_forall_ne_some.2 fun e' hfound => ?_
    exact hfirst.before b hlt ((hfault hb).1 hfound).1

/-- Everybody is placed unless there are too few or too many positions, a position is off the
board or there is no spawn tile. -/
theorem placed_eq_error_iff (hmemories : s.memories.length = s.population.count)
    (htiles : s.population.tileCount = s.board.tileCount)
    (hspawns : ∀ k, ∀ t ∈ s.board.spawns k, t.index < s.board.tileCount) :
    s.placed = .error e ↔
      (∃ ts, s.positions = some ts ∧ ts.length ≠ s.population.count ∧
        e = .positionCount s.population.count ts.length) ∨
      s.Sized ∧
        ((∃ a t, a.IsFirst s.OffBoard ∧ s.position? a = some t ∧
          e = .placement (.tileOutOfRange t s.board.tileCount)) ∨
        ∃ a k, a.IsFirst s.Spawnless ∧ s.population.kind? a = some k ∧ e = .noSpawn k) := by
  cases hts : s.positions with
  | some ts =>
    -- With positions nobody needs a spawn tile.
    have hspawned (a : AgentId) : ¬ a.IsFirst s.Spawnless := fun hfirst => by
      simpa [hts] using hfirst.holds.1
    by_cases hcount : ts.length = s.population.count
    · have hsized : s.Sized := ⟨hmemories, htiles, fun ts' hts' => by
        obtain rfl : ts = ts' := Option.some.inj (hts.symm.trans hts')
        exact hcount⟩
      simp [placed_eq_error_iff_of_positions hsized hts, hsized, hspawned, hcount]
    · have hsized : ¬ s.Sized := fun hsized => hcount (hsized.positions ts hts)
      simp [placed, hts, hcount, hsized, eq_comm]
  | none =>
    -- Without positions none is off the board, and there is no number of them to be wrong.
    have hsized : s.Sized := ⟨hmemories, htiles, fun ts h => by simp [hts] at h⟩
    have hinside (a : AgentId) : ¬ a.IsFirst s.OffBoard := fun hfirst => by
      simpa [OffBoard, position?, hts] using hfirst.holds
    simp [placed_eq_error_iff_of_spawns hsized hspawns hts, hsized, hinside]

/-- Everybody is placed if the sizes fit, no position is off the board and nobody lacks a spawn
tile. -/
theorem exists_placed_iff (hmemories : s.memories.length = s.population.count)
    (htiles : s.population.tileCount = s.board.tileCount)
    (hspawns : ∀ k, ∀ t ∈ s.board.spawns k, t.index < s.board.tileCount) :
    (∃ q, s.placed = .ok q) ↔ s.Sized ∧ (∀ a, ¬ s.OffBoard a) ∧ ∀ a, ¬ s.Spawnless a := by
  have hfails {e : GameError} := placed_eq_error_iff (e := e) hmemories htiles hspawns
  constructor
  · rintro ⟨q, hq⟩
    have hno (e : GameError) : s.placed ≠ .error e := by simp [hq]
    have hsized : s.Sized := ⟨hmemories, htiles, fun ts hts => length_of_placed hts hq⟩
    -- If anybody has a flaw there is a first one who has it, and that one is reported.
    refine ⟨hsized, fun a ha => ?_, fun a ha => ?_⟩
    · obtain ⟨b, hb⟩ := AgentId.exists_isFirst ha
      obtain ⟨t, ht, -⟩ := hb.holds
      exact hno _ (hfails.2 (.inr ⟨hsized, .inl ⟨b, t, hb, ht, rfl⟩⟩))
    · obtain ⟨b, hb⟩ := AgentId.exists_isFirst ha
      obtain ⟨-, -, k, hk, -⟩ := hb.holds
      exact hno _ (hfails.2 (.inr ⟨hsized, .inr ⟨b, k, hb, hk, rfl⟩⟩))
  · rintro ⟨hsized, hboard, hspawn⟩
    cases hq : s.placed with
    | ok q => exact ⟨q, rfl⟩
    | error e =>
      obtain ⟨ts, hts, hcount, -⟩ | ⟨-, ⟨a, t, hfirst, -⟩ | ⟨a, k, hfirst, -⟩⟩ := hfails.1 hq
      · exact absurd (hsized.positions ts hts) hcount
      · exact absurd hfirst.holds (hboard a)
      · exact absurd hfirst.holds (hspawn a)

/-! ### What comes of the parts -/

/-- What is reported is the first flaw. -/
theorem build_eq_error_iff
    (hspawns : ∀ k, ∀ t ∈ s.board.spawns k, t.index < s.board.tileCount) :
    s.build = .error e ↔ s.FirstFlaw e := by
  rw [build_eq_error_iff_passes]
  constructor
  · -- A check is reached only if all checks before it have passed, as each flaw says.
    rintro (hsize | ⟨hsize, hfault⟩)
    · obtain ⟨hmemories, rfl⟩ | ⟨hmemories, htiles, rfl⟩ := sizeFault?_eq_some_iff.1 hsize
      · exact .memories hmemories
      · exact .tiles hmemories htiles
    · obtain ⟨hmemories, htiles⟩ := sizeFault?_eq_none_iff.1 hsize
      obtain hplaced | ⟨q, hq, hstart⟩ := hfault
      · obtain ⟨ts, hts, hcount, rfl⟩ |
            ⟨hsized, ⟨a, t, hfirst, ht, rfl⟩ | ⟨a, k, hfirst, hk, rfl⟩⟩ :=
          (placed_eq_error_iff hmemories htiles hspawns).1 hplaced
        · exact .positions hmemories htiles hts hcount
        · exact .offBoard hsized hfirst ht
        · exact .noSpawn hsized hfirst hk
      · obtain ⟨hsized, hboard, hspawn⟩ :=
          (exists_placed_iff hmemories htiles hspawns).1 ⟨q, hq⟩
        obtain ⟨a, t, hfirst, ht, rfl⟩ :=
          (findSome?_startFault?_eq_some_iff hsized hspawn hq).1 hstart
        exact .barred hsized hboard hspawn hfirst ht
  · intro hflaw
    cases hflaw with
    | memories hcount => exact .inl (sizeFault?_eq_some_iff.2 (.inl ⟨hcount, rfl⟩))
    | tiles hmemories hcount =>
      exact .inl (sizeFault?_eq_some_iff.2 (.inr ⟨hmemories, hcount, rfl⟩))
    | positions hmemories htiles hts hcount =>
      exact .inr ⟨sizeFault?_eq_none_iff.2 ⟨hmemories, htiles⟩, .inl
        ((placed_eq_error_iff hmemories htiles hspawns).2 (.inl ⟨_, hts, hcount, rfl⟩))⟩
    | offBoard hsized hfirst ht =>
      exact .inr ⟨hsized.sizeFault?_eq, .inl
        ((placed_eq_error_iff hsized.memories hsized.tiles hspawns).2
          (.inr ⟨hsized, .inl ⟨_, _, hfirst, ht, rfl⟩⟩))⟩
    | noSpawn hsized hfirst hk =>
      exact .inr ⟨hsized.sizeFault?_eq, .inl
        ((placed_eq_error_iff hsized.memories hsized.tiles hspawns).2
          (.inr ⟨hsized, .inr ⟨_, _, hfirst, hk, rfl⟩⟩))⟩
    | barred hsized hboard hspawn hfirst ht =>
      obtain ⟨q, hq⟩ := (exists_placed_iff hsized.memories hsized.tiles hspawns).2
        ⟨hsized, hboard, hspawn⟩
      exact .inr ⟨hsized.sizeFault?_eq, .inr ⟨q, hq,
        (findSome?_startFault?_eq_some_iff hsized hspawn hq).2 ⟨_, _, hfirst, ht, rfl⟩⟩⟩

/-- Nothing is wrong exactly if nothing is the first thing that is wrong. -/
theorem valid_iff : s.Valid ↔ ∀ e, ¬ s.FirstFlaw e := by
  constructor
  · rintro h e (hcount | ⟨-, hcount⟩ | ⟨-, -, hts, hcount⟩ | ⟨-, hfirst, -⟩ | ⟨-, hfirst, -⟩ |
      ⟨-, -, -, hfirst, -⟩)
    · exact hcount h.sized.memories
    · exact hcount h.sized.tiles
    · exact hcount (h.sized.positions _ hts)
    · exact h.on_board _ hfirst.holds
    · exact h.spawned _ hfirst.holds
    · exact h.admitted _ hfirst.holds
  · -- What is required comes in the order of the flaws, so each part relies on those before it.
    intro hno
    have hmemories : s.memories.length = s.population.count :=
      Decidable.not_not.1 fun h => hno _ (.memories h)
    have htiles : s.population.tileCount = s.board.tileCount :=
      Decidable.not_not.1 fun h => hno _ (.tiles hmemories h)
    have hsized : s.Sized := ⟨hmemories, htiles, fun ts hts =>
      Decidable.not_not.1 fun h => hno _ (.positions hmemories htiles hts h)⟩
    have hboard (a : AgentId) : ¬ s.OffBoard a := by
      intro ha
      obtain ⟨b, hb⟩ := AgentId.exists_isFirst ha
      obtain ⟨t, ht, -⟩ := hb.holds
      exact hno _ (.offBoard hsized hb ht)
    have hspawn (a : AgentId) : ¬ s.Spawnless a := by
      intro ha
      obtain ⟨b, hb⟩ := AgentId.exists_isFirst ha
      obtain ⟨-, -, k, hk, -⟩ := hb.holds
      exact hno _ (.noSpawn hsized hb hk)
    refine ⟨hsized, hboard, hspawn, fun a ha => ?_⟩
    obtain ⟨b, hb⟩ := AgentId.exists_isFirst ha
    obtain ⟨t, -, ht, -, -⟩ := hb.holds
    exact hno _ (.barred hsized hboard hspawn hb ht)

/-- A game that comes about is at its beginning. -/
theorem begins_of_build (h : s.build = .ok g) : s.Begins g := by
  obtain ⟨hsize, q, hplaced, hstart, rfl⟩ := build_eq_ok_iff.1 h
  obtain ⟨hmemories, htiles⟩ := sizeFault?_eq_none_iff.1 hsize
  have hsized : s.Sized := ⟨hmemories, htiles, fun ts hts => length_of_placed hts hplaced⟩
  have hcount := count_placed hplaced
  -- The game holds the given parts as they are; only its population is another one.
  refine ⟨rfl, rfl, rfl, rfl, rfl, rfl, congrArg (List.replicate · none) hcount, hcount,
    kind?_placed hplaced, fun a ha => ?_, consistent_placed hplaced⟩
  obtain ⟨t, -, ht, -, -⟩ := startFault?_eq_none_iff.1 (hstart a (hcount ▸ ha))
  exact ⟨t, (tile?_placed hsized hplaced ha).symm.trans ht, ht⟩

/-- **A game begins or the first flaw is reported.** On a board that was built, a setup fails with
the first flaw of its parts and with nothing else. It succeeds exactly if nothing is wrong with
them, and then the game is made of these parts, and everybody stands where they are to begin. -/
theorem begins_or_flawed (s : Setup) (hboard : ∃ b : Blueprint, b.build = .ok s.board) :
    (∀ e, s.build = .error e ↔ s.FirstFlaw e) ∧
      ((∃ g, s.build = .ok g) ↔ s.Valid) ∧
      ∀ g, s.build = .ok g → s.Begins g := by
  obtain ⟨b, hb⟩ := hboard
  have hspawns (k : AgentKind) (t : TileId) (ht : t ∈ s.board.spawns k) :
      t.index < s.board.tileCount := by
    apply Blueprint.lt_of_mem_spawns_of_build hb
    rw [Board.spawns] at ht
    split at ht
    · exact List.mem_append_left _ ht
    · exact List.mem_append_right _ ht
  have herror (e : GameError) : s.build = .error e ↔ s.FirstFlaw e := build_eq_error_iff hspawns
  refine ⟨herror, ?_, fun g => begins_of_build⟩
  rw [valid_iff]
  simp only [← herror]
  cases s.build with
  | ok g => simp
  | error e => simp

end Setup

/-- A gate between two tiles of open floor. Ghosts begin at the two ends, and players nowhere. -/
def Blueprint.yard : Blueprint :=
  ofCalls [.addTile ⟨0, 0⟩ .floor, .addTile ⟨1, 0⟩ .playerOnly, .addTile ⟨2, 0⟩ .floor,
    .connectGrid .solid, .markGhost ⟨0⟩, .markGhost ⟨2⟩]

/-- A ghost, a player and two more ghosts, for `tileCount` tiles. -/
def Population.motley (tileCount : Nat) : Population :=
  .ofKinds [.blinky, .player, .pinky, .inky] tileCount

/-- Parts of a game in the yard. -/
def Setup.yard (population : Population) (memories : Nat) (positions : Option (List TileId)) :
    Setup where
  config := {}
  board := ⟨Blueprint.yard.tiles, [], [⟨0⟩, ⟨2⟩]⟩
  population
  memories := Memory.ofCount memories 0
  strategy := .unassigned
  positions

/-- With the first setup everything is wrong at once, and each of the next ones puts right what was
reported: the memories, the tiles of the population, the number of the positions, the position that
is off the board. The ghost on the gate is reported last, although it is the first agent. Without
positions the player finds no spawn tile; once it stands on the gate it keeps its place, and the
ghosts take the two ends in turn. -/
theorem Setup.begins_or_flawed_yard :
    (yard (.motley 2) 3 (some [⟨1⟩, ⟨7⟩, ⟨9⟩])).build = .error (.memoryCount 4 3) ∧
      (yard (.motley 2) 4 (some [⟨1⟩, ⟨7⟩, ⟨9⟩])).build = .error (.tileCount 2 3) ∧
      (yard (.motley 3) 4 (some [⟨1⟩, ⟨7⟩, ⟨9⟩])).build = .error (.positionCount 4 3) ∧
      (yard (.motley 3) 4 (some [⟨1⟩, ⟨7⟩, ⟨9⟩, ⟨2⟩])).build =
        .error (.placement (.tileOutOfRange ⟨7⟩ 3)) ∧
      (yard (.motley 3) 4 (some [⟨1⟩, ⟨0⟩, ⟨0⟩, ⟨2⟩])).build =
        .error (.inaccessibleStart ⟨0⟩ ⟨1⟩) ∧
      (yard (.motley 3) 4 none).build = .error (.noSpawn .player) ∧
      (yard ((Population.motley 3).changed (.occupy ⟨1⟩ ⟨1⟩)) 4 none).Valid ∧
      ∃ g, (yard ((Population.motley 3).changed (.occupy ⟨1⟩ ⟨1⟩)) 4 none).build = .ok g ∧
        g.population.tile? ⟨1⟩ = some ⟨1⟩ ∧ g.population.tile? ⟨2⟩ = some ⟨2⟩ ∧
        g.population.tile? ⟨3⟩ = some ⟨0⟩ := by
  have hboard : ∃ b : Blueprint, b.build = .ok ⟨Blueprint.yard.tiles, [], [⟨0⟩, ⟨2⟩]⟩ :=
    ⟨.yard, rfl⟩
  have hreported (population : Population) (memories : Nat) (positions : Option (List TileId))
      (e : GameError) (h : (yard population memories positions).FirstFlaw e) :
      (yard population memories positions).build = .error e :=
    ((begins_or_flawed (yard population memories positions) hboard).1 e).2 h
  have hsized (a b c d : TileId) : (yard (.motley 3) 4 (some [a, b, c, d])).Sized :=
    ⟨rfl, rfl, fun ts hts => by cases hts; rfl⟩
  have hzero {i : Nat} (hlt : i < 1) : i = 0 := Nat.lt_one_iff.1 hlt
  obtain ⟨-, hvalid, hbegins⟩ := begins_or_flawed
    (yard ((Population.motley 3).changed (.occupy ⟨1⟩ ⟨1⟩)) 4 none) hboard
  refine ⟨hreported _ _ _ _ (.memories (by decide)), hreported _ _ _ _ (.tiles rfl (by decide)),
    ?_, ?_, ?_, ?_, ?_, ?_⟩
  · have hts : (yard (.motley 3) 4 (some [⟨1⟩, ⟨7⟩, ⟨9⟩])).positions = some [⟨1⟩, ⟨7⟩, ⟨9⟩] := rfl
    exact hreported _ _ _ _ (.positions rfl rfl hts (by decide))
  · refine hreported _ _ _ _ (.offBoard (a := ⟨1⟩) (hsized _ _ _ _) ⟨⟨_, rfl, by decide⟩, ?_⟩ rfl)
    rintro ⟨i⟩ hlt ⟨t, ht, hout⟩
    obtain rfl := hzero hlt
    cases ht
    exact absurd hout (by decide)
  · refine hreported _ _ _ _ (.barred (hsized _ _ _ _) ?_ ?_
      ⟨⟨_, _, rfl, rfl, rfl⟩, fun b hlt => absurd hlt (Nat.not_lt_zero _)⟩ rfl)
    · rintro ⟨i⟩ ⟨t, ht, hout⟩
      have hinside : ∀ t ∈ [(⟨1⟩ : TileId), ⟨0⟩, ⟨0⟩, ⟨2⟩], t.index < 3 := by decide
      exact absurd (hinside t (List.mem_of_getElem? ht)) (Nat.not_lt.2 hout)
    · rintro a ⟨hnone, -⟩
      cases hnone
  · refine hreported _ _ _ _ (.noSpawn (a := ⟨1⟩) ⟨rfl, rfl, nofun⟩
      ⟨⟨rfl, rfl, _, rfl, rfl⟩, ?_⟩ rfl)
    rintro ⟨i⟩ hlt ⟨-, -, k, hk, hnone⟩
    obtain rfl := hzero hlt
    cases hk
    cases hnone
  · exact hvalid.1 ⟨_, rfl⟩
  · have hplaced := (hbegins _ rfl).placed
    obtain ⟨t, ht, hplayer⟩ := hplaced ⟨1⟩ (by decide)
    obtain ⟨u, hu, hpinky⟩ := hplaced ⟨2⟩ (by decide)
    obtain ⟨v, hv, hinky⟩ := hplaced ⟨3⟩ (by decide)
    cases ht
    cases hu
    cases hv
    exact ⟨_, rfl, hplayer, hpinky, hinky⟩

end MazeChase
