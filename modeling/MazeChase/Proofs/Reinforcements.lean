import MazeChase.Proofs.Arrivals
import MazeChase.Proofs.Bystanders

/-!
# Ghosts that join a game

A game is set up once with some agents, and once more with some ghosts after them. Without the rule
that ghosts block ghosts the newcomers disturb nobody: the first agents begin where they began, and
in every tick they decide, move and meet as they did.

They begin alike because nothing that an agent gets at the start depends on those after it: its
generator is seeded by its own number, and whether positions are given or spawn tiles are taken in
turn, it has its place before the newcomers have theirs. From then on the two games agree on the
first agents, who include all players, and nobody is in anybody's way.

## Main definitions

* `Setup.fresh` — a setup in which nobody is placed and nobody remembers anything

## Main results

* `Setup.tile?_of_build_fresh_append` — newcomers take nobody's place
* `Game.AgreeOn.encountersAt_eq` — newcomers meet players, and everybody else meets as before
* `Game.reinforcements_disturb_nobody` — newcomers disturb nobody
-/

namespace MazeChase

/-! ### The start -/

namespace Setup

/-- A setup with agents of some kinds who are not placed, with the memories of a seed, and without
rules of access. Positions may be given. -/
def fresh (config : Schedule) (board : Board) (seed : UInt64) (strategy : Strategy)
    (positions : Option (List TileId)) (kinds : List AgentKind) : Setup where
  config
  board
  population := .ofKinds kinds board.tileCount
  memories := Memory.ofCount kinds.length seed
  strategy
  positions

variable {config : Schedule} {board : Board} {seed : UInt64} {strategy : Strategy}
  {positions : Option (List TileId)} {kinds newcomers : List AgentKind} {more : List TileId}
  {g h : Game} {a : AgentId}

theorem kind?_of_build_fresh
    (hg : (fresh config board seed strategy positions kinds).build = .ok g) :
    g.population.kind? a = kinds[a.index]? := by
  obtain ⟨-, population, hplaced, -, rfl⟩ := build_eq_ok_iff.1 hg
  exact (kind?_placed hplaced a).trans Population.kind?_ofKinds

/-- With newcomers at the end, with positions of their own at the end if positions are given,
everybody else begins where they did without them. -/
theorem tile?_of_build_fresh_append
    (hg : (fresh config board seed strategy positions kinds).build = .ok g)
    (hh : (fresh config board seed strategy (positions.map (· ++ more))
      (kinds ++ newcomers)).build = .ok h) (ha : a.index < kinds.length) :
    h.population.tile? a = g.population.tile? a := by
  obtain ⟨-, population, hplaced, -, rfl⟩ := build_eq_ok_iff.1 hg
  obtain ⟨-, population', hplaced', -, rfl⟩ := build_eq_ok_iff.1 hh
  cases positions with
  | some tiles =>
    -- The given positions are as many as the first agents, so theirs come before the others.
    have hlength : tiles.length = kinds.length :=
      (length_of_placed rfl hplaced).trans Population.count_ofKinds
    change population'.tile? a = population.tile? a
    rw [tile?_placed_of_positions rfl hplaced a, tile?_placed_of_positions rfl hplaced' a,
      List.getElem?_append_left (hlength ▸ ha)]
    simp [fresh]
  | none =>
    -- Of those who wait before an agent no newcomer is one.
    have hkind (b : AgentId) (hb : b.index < kinds.length) :
        (Population.ofKinds (kinds ++ newcomers) board.tileCount).kind? b =
          (Population.ofKinds kinds board.tileCount).kind? b := by
      rw [Population.kind?_ofKinds, Population.kind?_ofKinds, List.getElem?_append_left hb]
    have hk : (Population.ofKinds kinds board.tileCount).kind? a = some kinds[a.index] := by
      rw [Population.kind?_ofKinds, List.getElem?_eq_getElem ha]
    have htile := tile?_placed_of_spawns rfl hplaced Population.tile?_ofKinds hk
    have htile' := tile?_placed_of_spawns rfl hplaced' Population.tile?_ofKinds
      ((hkind a ha).trans hk)
    have hturn : (Population.ofKinds (kinds ++ newcomers) board.tileCount).waitingBefore a
        kinds[a.index] =
          (Population.ofKinds kinds board.tileCount).waitingBefore a kinds[a.index] :=
      Population.waitingBefore_congr (fun b _ => by simp)
        fun b hb => hkind b (Nat.lt_trans hb ha)
    change population'.tile? a = population.tile? a
    rw [htile, htile']
    exact congrArg (spawnTile? _) hturn

end Setup

namespace Game

variable {watched : AgentId → Bool} {g h : Game} {a : AgentId}

/-! ### Encounters -/

/-- If everybody in the first game is watched, the ghosts on a tile there are the watched among
those in the second game. -/
theorem AgreeOn.ghostsOn_eq (hgh : AgreeOn watched g h)
    (hall : ∀ a k, g.population.kind? a = some k → watched a = true) (t : TileId) :
    ghostsOn g.population t = (ghostsOn h.population t).filter watched := by
  have hg := hgh.ready_left.coherent.consistent
  have hh := hgh.ready_right.coherent.consistent
  -- Both lists ascend, so only the members have to be compared.
  apply eq_of_ascending
  · exact pairwise_ghostsOn hg t
  · exact (pairwise_ghostsOn hh t).filter _
  · intro a
    rw [List.mem_filter, mem_ghostsOn hg, mem_ghostsOn hh, Population.isGhost, Population.isGhost]
    constructor
    · rintro ⟨hghost, htile⟩
      obtain ⟨k, hk⟩ := Population.exists_kind? (Population.lt_count_of_tile? htile)
      obtain ⟨k', htwin⟩ := hgh.twin a (hall a k hk)
      rw [htwin.kind_left] at hghost
      rw [htwin.kind_right, htwin.tile?_eq]
      exact ⟨⟨hghost, htile⟩, hall a k hk⟩
    · rintro ⟨⟨hghost, htile⟩, ha⟩
      obtain ⟨k, htwin⟩ := hgh.twin a ha
      rw [htwin.kind_right] at hghost
      rw [htwin.kind_left, ← htwin.tile?_eq]
      exact ⟨hghost, htile⟩

/-- Its encounters then are those of the second game in which a watched ghost takes part. -/
theorem AgreeOn.encountersAt_eq (hgh : AgreeOn watched g h)
    (hall : ∀ a k, g.population.kind? a = some k → watched a = true) (tick : Tick) :
    encountersAt tick g.population =
      (encountersAt tick h.population).filter fun e => watched e.ghost := by
  have hplayers : h.population.agentsOfKind .player = g.population.agentsOfKind .player :=
    Population.agentsOfKind_congr hgh.player_iff
  rw [encountersAt, encountersAt, List.filter_flatMap, hplayers]
  refine List.flatMap_congr fun player hplayer => ?_
  have hwatched := hgh.watches_left player (Population.mem_agentsOfKind.1 hplayer)
  obtain ⟨k, htwin⟩ := hgh.twin player hwatched
  rw [htwin.tile?_eq]
  cases g.population.tile? player with
  | none => rfl
  | some t =>
    simp only [hgh.ghostsOn_eq hall, List.filter_map]
    rfl

/-! ### The whole game -/

variable {config : Schedule} {board : Board} {seed : UInt64} {strategy : Strategy}
  {positions : Option (List TileId)} {kinds newcomers : List AgentKind} {more : List TileId}

/-- A game and the same with newcomers agree on the agents that are in both. -/
theorem agreeOn_of_build_fresh (hnew : ∀ k ∈ newcomers, k.isGhost = true)
    (hstandard : strategy.isStandard = true)
    (hg : (Setup.fresh config board seed strategy positions kinds).build = .ok g)
    (hh : (Setup.fresh config board seed strategy (positions.map (· ++ more))
      (kinds ++ newcomers)).build = .ok h) :
    AgreeOn (fun a => a.index < kinds.length) g h := by
  have hkindg (a : AgentId) : g.population.kind? a = kinds[a.index]? :=
    Setup.kind?_of_build_fresh hg
  have hkindh (a : AgentId) : h.population.kind? a = (kinds ++ newcomers)[a.index]? :=
    Setup.kind?_of_build_fresh hh
  have htile (a : AgentId) (ha : a.index < kinds.length) :
      h.population.tile? a = g.population.tile? a := Setup.tile?_of_build_fresh_append hg hh ha
  obtain ⟨-, population, -, -, rfl⟩ := Setup.build_eq_ok_iff.1 hg
  obtain ⟨-, population', -, -, rfl⟩ := Setup.build_eq_ok_iff.1 hh
  refine agreeOn_of_build (Population.consistent_ofKinds _ _) (Population.consistent_ofKinds _ _)
    hg hh rfl hstandard hstandard (fun a ha => decide_eq_true ?_) (fun a ha => decide_eq_true ?_)
    fun a ha => ?_
  · rw [hkindg] at ha
    exact (List.getElem?_eq_some_iff.1 ha).1
  · -- A player is no newcomer.
    rw [hkindh] at ha
    refine Nat.lt_of_not_le fun hle => ?_
    rw [List.getElem?_append_right hle] at ha
    exact absurd (hnew _ (List.mem_of_getElem? ha)) (by decide)
  · have hlt : a.index < kinds.length := of_decide_eq_true ha
    have hlt' : a.index < (kinds ++ newcomers).length := Nat.lt_of_lt_of_le hlt (by simp)
    have hk : kinds[a.index]? = some kinds[a.index] := List.getElem?_eq_getElem hlt
    have hleft := (hkindg a).trans hk
    have hright := (hkindh a).trans ((List.getElem?_append_left hlt).trans hk)
    refine ⟨kinds[a.index], ?_⟩
    exact {
      kind_left := hleft
      kind_right := hright
      tile?_eq := htile a hlt
      -- A generator is seeded by the number of its agent, however many agents there are.
      memory_eq :=
        (Memory.getElem?_ofCount seed hlt').trans (Memory.getElem?_ofCount seed hlt).symm
      queued_eq := (queued_of_build hh hright).trans (queued_of_build hg hleft).symm
      leaf_eq := rfl
      spares_left := Rules.spares_of_off rfl _
      spares_right := Rules.spares_of_off rfl _ }

/-- **Newcomers disturb nobody.** A game is set up twice, the second time with ghosts added after
its agents, and without the rule that ghosts block ghosts. After the same ticks, with the agents of
the first game steered alike, each of them is on the same tile and has the same memory in both
games; and of the encounters in the next tick the first game has exactly those in which no newcomer
takes part, in the same order. -/
theorem reinforcements_disturb_nobody (hnew : ∀ k ∈ newcomers, k.isGhost = true)
    (hstandard : strategy.isStandard = true)
    (hg : (Setup.fresh config board seed strategy positions kinds).build = .ok g)
    (hh : (Setup.fresh config board seed strategy (positions.map (· ++ more))
      (kinds ++ newcomers)).build = .ok h)
    {cs ds : List Command} (hcs : ∀ c ∈ cs, c.isTurn = true)
    (hsame : ds.filter (Command.isHeeded fun a => a.index < kinds.length) =
      cs.filter (Command.isHeeded fun a => a.index < kinds.length)) :
    (∀ a : AgentId, a.index < kinds.length → (g.after cs).SameAt (h.after ds) a) ∧
      (h.after ds).tick = (g.after cs).tick ∧
      ((g.after cs).tick.count.toNat + 1 < UInt64.size →
        ∃ r r', (g.after cs).step.result = .ok r ∧ (h.after ds).step.result = .ok r' ∧
          r.encounters = r'.encounters.filter fun e => e.ghost.index < kinds.length) := by
  have hagree := (agreeOn_of_build_fresh hnew hstandard hg hh).after hcs hsame
  refine ⟨fun a ha => hagree.sameAt (decide_eq_true ha), hagree.tick_eq, fun htick => ?_⟩
  obtain ⟨r, r', hr, hr', hencounters, hencounters'⟩ :=
    hagree.exists_reports (Tick.next_of_lt htick)
  refine ⟨r, r', hr, hr', ?_⟩
  rw [hencounters, hencounters']
  refine hagree.step.encountersAt_eq (fun a k hk => decide_eq_true ?_) _
  -- Nobody joins or leaves the first game while it is played.
  have hplays : ∀ c ∈ cs, c.isPlay = true := fun c hc => Command.isPlay_of_isTurn (hcs c hc)
  rw [kind?_step, (Roams.after g hplays).kind?_eq, Setup.kind?_of_build_fresh hg] at hk
  exact (List.getElem?_eq_some_iff.1 hk).1

/-- A ghost pursues the player in the corridor, and another joins them at the far end. Neither the
steering of the newcomer nor whom it meets makes a difference to the first two. -/
theorem reinforcements_disturb_nobody_corridor :
    ∃ g h : Game,
      (Setup.fresh {} .corridor 0 (.assign (.uniform .pursue) .player .unassigned)
        (some [⟨1⟩, ⟨0⟩]) [.player, .blinky]).build = .ok g ∧
      (Setup.fresh {} .corridor 0 (.assign (.uniform .pursue) .player .unassigned)
        ((some [⟨1⟩, ⟨0⟩]).map (· ++ [⟨2⟩])) ([.player, .blinky] ++ [.clyde])).build = .ok h ∧
      (g.after [.steer ⟨0⟩ .east]).SameAt (h.after [.steer ⟨2⟩ .east, .steer ⟨0⟩ .east]) ⟨1⟩ ∧
      ∃ r r', (g.after [.steer ⟨0⟩ .east]).step.result = .ok r ∧
        (h.after [.steer ⟨2⟩ .east, .steer ⟨0⟩ .east]).step.result = .ok r' ∧
        r.encounters = r'.encounters.filter fun e => e.ghost.index < 2 := by
  obtain ⟨g, hg⟩ : ∃ g, (Setup.fresh {} .corridor 0
    (.assign (.uniform .pursue) .player .unassigned) (some [⟨1⟩, ⟨0⟩])
      [.player, .blinky]).build = .ok g := ⟨_, rfl⟩
  obtain ⟨h, hh⟩ : ∃ h, (Setup.fresh {} .corridor 0
    (.assign (.uniform .pursue) .player .unassigned) ((some [⟨1⟩, ⟨0⟩]).map (· ++ [⟨2⟩]))
      ([.player, .blinky] ++ [.clyde])).build = .ok h := ⟨_, rfl⟩
  have hnew : ∀ k ∈ [AgentKind.clyde], k.isGhost = true := by decide
  have hturns : ∀ c ∈ [Command.steer ⟨0⟩ .east], c.isTurn = true := by decide
  have hsame : [Command.steer ⟨2⟩ .east, .steer ⟨0⟩ .east].filter
      (Command.isHeeded fun a => a.index < 2) =
        [Command.steer ⟨0⟩ .east].filter (Command.isHeeded fun a => a.index < 2) := rfl
  have hdisturbs := reinforcements_disturb_nobody hnew rfl hg hh hturns hsame
  have htick : (g.after [.steer ⟨0⟩ .east]).tick.count.toNat + 1 < UInt64.size := by
    have hstart : g.tick = .zero := by
      obtain ⟨-, _, -, -, rfl⟩ := Setup.build_eq_ok_iff.1 hg
      rfl
    rw [after_cons, after_nil, obey_steer, hstart]
    decide
  exact ⟨g, h, hg, hh, hdisturbs.1 ⟨1⟩ (by decide), hdisturbs.2.2 htick⟩

end Game

end MazeChase
