import MazeChase.Proofs.Chasers
import MazeChase.Proofs.Lineup
import MazeChase.Proofs.OpenRoom
import MazeChase.Proofs.Stoppage
import MazeChase.Proofs.Unhindered

/-!
# How a standing player is caught

A player who stays can be caught by a ghost that pursues it, if there are no walls between them and
ghosts do not bar each other's way. In an open room every greedy step brings the ghost one step
closer, and every step that it decides on it makes: nobody else can be in its way. So it is on the
tile of the player after as many ticks as there were steps between them at first, and not earlier.
The report of that last tick is the first that tells of the two.

The argument is carried by what every tick keeps of such a game: the player waits where it is, and
nobody is steered. How many other ghosts there are, and what they do, makes no difference.

## Main definitions

* `Game.PlayerWaits` — the only player stays, and nothing hinders the ghosts
* `Game.Catches` — what a ghost does to a player who waits

## Main results

* `Game.PlayerWaits.step` — a player who waits goes on waiting
* `Game.PlayerWaits.closer` — each tick brings a ghost that pursues the player one step closer
* `Game.catches_of_build` — a standing player is caught in as many ticks as there are steps

## Main examples

* `Setup.cornered`, `Game.cornered` — a player and a ghost at the ends of a corridor
-/

namespace MazeChase

variable {a player ghost : AgentId} {t goal home start : TileId} {k : AgentKind} {v : View}
  {d : Direction} {n width height : Nat}

/-! ### Decisions -/

namespace Behavior

theorem decide_idle (h : v.tileOf a = .ok t) (m : Memory) : (idle.decide a v m).1 = .ok none := by
  rw [decide, DecisionRule.fromTile_of_ok h]

/-- Whoever pursues a target in sight makes a greedy step toward it if there is one. -/
theorem decide_pursue (h : v.tileOf a = .ok t) (htarget : v.target = some goal)
    (hstep : v.graph.stepToward v.distance t goal a = some d) (m : Memory) :
    (pursue.decide a v m).1 = .ok (some d) := by
  have hknown : v.known m = some goal := by rw [View.known, htarget, Option.some_or]
  rw [decide_of_goal (.target hknown) h hstep]

end Behavior

namespace Game

variable {g : Game}

/-- An agent that is not steered decides as the behaviour of its kind. -/
theorem decide_none_eq_leaf (hk : g.population.kind? a = some k) (m : Memory) :
    g.decide a m none = (g.strategy.leaf k).decide a g.view m :=
  Strategy.decide_eq_leaf (v := g.view) hk m

/-! ### A player who waits -/

/-- The only player stays at home, ghosts do not bar each other's way, and nobody is steered. -/
structure PlayerWaits (g : Game) (player : AgentId) (home : TileId) : Prop where
  ready : g.Ready
  unbarred : g.rules.ghostsBlockGhosts = false
  unsteered : ∀ queued ∈ g.steering, queued = none
  player_iff : ∀ a, g.population.kind? a = some .player ↔ a = player
  idle : g.strategy.leaf .player = .idle
  home : g.population.tile? player = some home

namespace PlayerWaits

variable (h : g.PlayerWaits player home)

include h

theorem target_eq : g.target = some home := by
  have honly (b : AgentId) : b ∈ g.population.agentsOfKind .player ↔ b = player := by
    rw [Population.mem_agentsOfKind, h.player_iff]
  rw [target]
  cases hlist : g.population.agentsOfKind .player with
  | nil =>
    have hmem := (honly player).2 rfl
    rw [hlist] at hmem
    cases hmem
  | cons b rest =>
    have hb : b = player := (honly b).1 (hlist ▸ List.mem_cons_self)
    rw [List.findSome?_cons, hb, h.home]

/-- What an agent does in the next tick is what the behaviour of its kind decides, and nobody is in
its way. -/
theorem exists_wish (hk : g.population.kind? a = some k) (ht : g.population.tile? a = some t) :
    ∃ m wish, ((g.strategy.leaf k).decide a g.view m).1 = .ok wish ∧
      g.step.game.population.tile? a = some (g.board.advance k t wish) := by
  obtain ⟨_, m, queued, _, hm, hq⟩ := h.ready.exists_state (Population.lt_count_of_tile? ht)
  obtain rfl : queued = none := h.unsteered queued (List.mem_of_getElem? hq)
  obtain ⟨wish, hwish, htile, -⟩ :=
    h.ready.step_of_spares hk (Rules.spares_of_off h.unbarred k) ht hm hq
  rw [decide_none_eq_leaf hk] at hwish
  exact ⟨m, wish, hwish, htile⟩

/-- A player who waits goes on waiting. -/
theorem step : g.step.game.PlayerWaits player home where
  ready := h.ready.step
  unbarred := by rw [step_rules, h.unbarred]
  unsteered := by
    obtain ⟨wishes, outcomes, hcarried⟩ := h.ready.exists_carriedOut
    intro queued hqueued
    rw [hcarried.steering_eq] at hqueued
    exact List.eq_of_mem_replicate hqueued
  player_iff a := by rw [kind?_step, h.player_iff]
  idle := by rw [step_strategy, h.idle]
  home := by
    have hk : g.population.kind? player = some .player := (h.player_iff player).2 rfl
    obtain ⟨m, wish, hwish, htile⟩ := h.exists_wish hk h.home
    rw [h.idle, Behavior.decide_idle (View.tileOf_of_tile? h.home)] at hwish
    obtain rfl := Except.ok.inj hwish
    exact htile

/-- A ghost that is somewhere else than the player meets nobody. -/
theorem ne_ghost_of_ne (ht : g.population.tile? ghost = some t) (hne : t ≠ home) {tick : Tick}
    {e : Encounter} (he : e ∈ encountersAt tick g.population) : e.ghost ≠ ghost := by
  rintro rfl
  obtain ⟨-, -, hplayer, htile, hmet⟩ := (mem_encountersAt h.ready.coherent.consistent).1 he
  rw [(h.player_iff e.player).1 hplayer, h.home] at hmet
  exact hne (Option.some.inj (ht.symm.trans (htile.trans hmet.symm)))

/-- A ghost that is where the player is meets it. -/
theorem mem_encountersAt_of_home (hghost : g.population.isGhost ghost = true)
    (ht : g.population.tile? ghost = some home) (tick : Tick) :
    ⟨tick, home, ghost, player⟩ ∈ encountersAt tick g.population :=
  (mem_encountersAt h.ready.coherent.consistent).2
    ⟨rfl, hghost, (h.player_iff player).2 rfl, ht, h.home⟩

/-- Each tick brings a ghost that pursues the player one step closer. -/
theorem closer (hroom : g.board.IsRoom width height) (hk : g.population.kind? ghost = some k)
    (hpursues : g.strategy.leaf k = .pursue) (ht : g.population.tile? ghost = some t)
    (hapart : g.board.Apart t home (n + 1)) :
    ∃ u, g.step.game.population.tile? ghost = some u ∧ g.board.Apart u home n := by
  -- All tiles of a room are open, so what the ghost sees is the board as it is.
  have hopen (t : TileId) (d : Direction) : g.view.graph.step? t d ghost = g.board.neighbor t d :=
    (View.step?_of_spares (v := g.view) hk (Rules.spares_of_off h.unbarred k) t d).trans
      (hroom.filter_neighbor t d k)
  obtain ⟨d, u, hstep, hu, hone⟩ := hroom.stepToward (v := g.view) rfl hopen hapart
  obtain ⟨m, wish, hwish, htile⟩ := h.exists_wish hk ht
  rw [hpursues, Behavior.decide_pursue (View.tileOf_of_tile? ht) h.target_eq hstep] at hwish
  obtain rfl := Except.ok.inj hwish
  refine ⟨u, ?_, hone⟩
  rw [htile, Board.advance, hroom.filter_neighbor, hu, Option.getD_some]

end PlayerWaits

theorem PlayerWaits.stepped (h : g.PlayerWaits player home) (n : Nat) :
    (g.stepped n).PlayerWaits player home :=
  stepped_induction (R := fun g h => g.PlayerWaits player home → h.PlayerWaits player home)
    (fun _ => id) (fun h h' => h' ∘ h) (fun _ => PlayerWaits.step) n g h

/-- After `j` ticks the ghost is `j` steps closer. -/
theorem PlayerWaits.approach (h : g.PlayerWaits player home) (hroom : g.board.IsRoom width height)
    (hk : g.population.kind? ghost = some k) (hpursues : g.strategy.leaf k = .pursue)
    (ht : g.population.tile? ghost = some t) (hapart : g.board.Apart t home n) {j : Nat}
    (hj : j ≤ n) :
    ∃ u, (g.stepped j).population.tile? ghost = some u ∧ g.board.Apart u home (n - j) := by
  induction j generalizing g t n with
  | zero => exact ⟨t, ht, hapart⟩
  | succ j ih =>
    obtain ⟨n, rfl⟩ : ∃ m, n = m + 1 := ⟨n - 1, by omega⟩
    obtain ⟨u, hu, hone⟩ := h.closer hroom hk hpursues ht hapart
    have hlater := ih h.step (by rwa [step_board]) (by rwa [kind?_step]) (by rwa [step_strategy]) hu
      (by rwa [step_board]) (Nat.le_of_succ_le_succ hj)
    rw [step_board] at hlater
    rw [Nat.add_sub_add_right]
    exact hlater

/-! ### The catch -/

/-- What a ghost does to a player who waits at home, with `n` steps between them. -/
structure Catches (g : Game) (player ghost : AgentId) (home : TileId) (n : Nat) : Prop where
  /-- After `k` ticks there are `k` steps less between them. -/
  approaches : ∀ k ≤ n, (g.stepped k).population.tile? player = some home ∧
    ∃ t, (g.stepped k).population.tile? ghost = some t ∧ g.board.Apart t home (n - k)
  /-- All these ticks succeed. The ghost meets nobody before the last of them, -/
  misses : ∀ k, k + 1 < n → ∃ report, (g.stepped k).step.result = .ok report ∧
    ∀ e ∈ report.encounters, e.ghost ≠ ghost
  /-- and in the last one, which is tick `n - 1`, it meets the player at home. -/
  meets : ∀ k, k + 1 = n → ∃ report, (g.stepped k).step.result = .ok report ∧
    ∃ e ∈ report.encounters, e.tick.count.toNat = k ∧ e.tile = home ∧ e.ghost = ghost ∧
      e.player = player

/-- A game that is ready reports who meets whom after each of its ticks. -/
theorem Ready.exists_encounters {j : Nat} (hg : g.Ready) (hzero : g.tick = .zero)
    (hclock : j + 1 < UInt64.size) :
    (g.stepped j).tick.count.toNat = j ∧ ∃ report, (g.stepped j).step.result = .ok report ∧
      report.encounters = encountersAt (g.stepped j).tick (g.stepped (j + 1)).population := by
  have hstart : g.tick.count.toNat = 0 := by rw [hzero]; rfl
  have hcount : (g.stepped j).tick.count.toNat = j := by
    rw [tick_stepped (by omega) (hg.unbroken j), hstart, Nat.zero_add]
  obtain ⟨report, hok⟩ := (hg.stepped j).unstopped.step (by rwa [hcount])
  exact ⟨hcount, report, hok, by rw [encounters_of_ok hok, stepped_succ]⟩

/-- A player who waits from the first tick on is caught. -/
theorem PlayerWaits.catches (h : g.PlayerWaits player home) (hzero : g.tick = .zero)
    (hroom : g.board.IsRoom width height) (hk : g.population.kind? ghost = some k)
    (hpursues : g.strategy.leaf k = .pursue) (ht : g.population.tile? ghost = some t)
    (hapart : g.board.Apart t home n) : g.Catches player ghost home n := by
  have hnear {j : Nat} (hj : j ≤ n) :
      ∃ u, (g.stepped j).population.tile? ghost = some u ∧ g.board.Apart u home (n - j) :=
    h.approach hroom hk hpursues ht hapart hj
  -- The clock has room for all these ticks, for a room is not that large.
  have hclock {j : Nat} (hj : j < n) : j + 1 < UInt64.size := by
    have hsmall := hroom.lt_size_of_apart hapart
    simp only [UInt32.size, UInt64.size] at hsmall ⊢
    omega
  have hghost (j : Nat) : (g.stepped j).population.isGhost ghost = true := by
    have hkind : (g.stepped j).population.kind? ghost = some k := by rw [kind?_stepped, hk]
    rw [Population.isGhost_of_kind? hkind, AgentKind.isGhost_iff]
    rintro rfl
    rw [h.idle] at hpursues
    cases hpursues
  refine ⟨fun j hj => ⟨(h.stepped j).home, hnear hj⟩, ?_, ?_⟩
  · intro j hj
    obtain ⟨-, report, hok, hencounters⟩ :=
      h.ready.exists_encounters hzero (hclock (Nat.lt_of_succ_lt hj))
    obtain ⟨u, hu, hleft⟩ := hnear (Nat.le_of_lt hj)
    have hne : u ≠ home := by
      rintro rfl
      have hnone := hleft.eq_zero
      omega
    refine ⟨report, hok, fun e he => ?_⟩
    rw [hencounters] at he
    exact (h.stepped (j + 1)).ne_ghost_of_ne hu hne he
  · rintro j rfl
    obtain ⟨hcount, report, hok, hencounters⟩ :=
      h.ready.exists_encounters hzero (hclock (Nat.lt_succ_self j))
    obtain ⟨u, hu, hleft⟩ := hnear (Nat.le_refl (j + 1))
    rw [Nat.sub_self] at hleft
    obtain rfl : u = home := hroom.eq_of_apart hleft
    refine ⟨report, hok, ⟨(g.stepped j).tick, u, ghost, player⟩, ?_, hcount, rfl, rfl, rfl⟩
    rw [hencounters]
    exact (h.stepped (j + 1)).mem_encountersAt_of_home (hghost (j + 1)) hu _

/-- **A standing player is caught.** In an open room, with one player who stays and any number of
ghosts that do not bar each other's way, a ghost that pursues the player is one step closer after
each tick, meets nobody before it arrives, and meets the player in the tick in which it arrives. -/
theorem catches_of_build {rows : List (List Char)} (hrows : Board.ShowsRoom rows width) {s : Setup}
    (hboard : Board.ofRows rows .solid = .ok s.board) (hs : s.population.Reachable)
    (hstandard : s.strategy.isStandard = true) (hrules : s.rules.ghostsBlockGhosts = false)
    (hg : s.build = .ok g) (hplayer : ∀ a, g.population.kind? a = some .player ↔ a = player)
    (hidle : s.strategy.leaf .player = .idle) (hhome : g.population.tile? player = some home)
    (hk : g.population.kind? ghost = some k) (hpursues : s.strategy.behavior? k = some .pursue)
    (hstart : g.population.tile? ghost = some start) (hapart : g.board.Apart start home n) :
    g.Catches player ghost home n := by
  have hready : g.Ready := ready_of_build hs.consistent hg hstandard
  have hroom : s.board.IsRoom width rows.length := Board.isRoom_of_ofRows hrows hboard
  have hpursues' : s.strategy.leaf k = .pursue := by rw [Strategy.leaf, hpursues, Option.getD_some]
  obtain ⟨-, population, -, -, rfl⟩ := Setup.build_eq_ok_iff.1 hg
  have hwaits : PlayerWaits _ player home := {
    ready := hready
    unbarred := hrules
    unsteered := fun queued hqueued => List.eq_of_mem_replicate hqueued
    player_iff := hplayer
    idle := hidle
    home := hhome }
  exact hwaits.catches rfl hroom hk hpursues' hstart hapart

end Game

/-- A player who stays at the western end of the corridor, and a ghost at the eastern end that
pursues it. -/
def Setup.cornered : Setup where
  config := {}
  board := .corridor
  population := .ofKinds [.player, .blinky] 3
  memories := Memory.ofCount 2 0
  strategy := .assign (.uniform .pursue) .player (.uniform .idle)
  positions := some [⟨0⟩, ⟨2⟩]

/-- The two at the beginning. -/
def Game.cornered : Game where
  config := {}
  board := .corridor
  population := {
    agents := [⟨.player, some ⟨0⟩⟩, ⟨.blinky, some ⟨2⟩⟩]
    crowds := #[[⟨0⟩], [], [⟨1⟩]] }
  memories := Memory.ofCount 2 0
  strategy := .assign (.uniform .pursue) .player (.uniform .idle)
  steering := [none, none]

/-- The corridor is a room of one row, and the ghost has come to its other end after two ticks. -/
theorem Game.catches_of_build_cornered :
    Setup.cornered.build = .ok cornered ∧ cornered.board.Apart ⟨2⟩ ⟨0⟩ 2 ∧
      cornered.Catches ⟨0⟩ ⟨1⟩ ⟨0⟩ 2 := by
  have hrows : Board.ShowsRoom [['G', 'P', 'G']] 3 := by
    refine ⟨⟨by decide, by decide⟩, by decide, ?_⟩
    intro line hline c hc
    obtain rfl := List.mem_singleton.1 hline
    simp only [List.mem_cons, List.not_mem_nil, or_false] at hc
    rcases hc with rfl | rfl | rfl <;> exact ⟨_, rfl, rfl⟩
  have hplayer (a : AgentId) : cornered.population.kind? a = some .player ↔ a = ⟨0⟩ := by
    obtain ⟨i⟩ := a
    rcases i with _ | _ | i <;> simp [cornered, Population.kind?]
  have hbuild : Setup.cornered.build = .ok cornered := rfl
  have hapart : cornered.board.Apart ⟨2⟩ ⟨0⟩ 2 := ⟨_, _, rfl, rfl, rfl⟩
  exact ⟨hbuild, hapart, catches_of_build (k := .blinky) hrows rfl (.ofKinds _ _) rfl rfl hbuild
    hplayer rfl rfl rfl rfl rfl hapart⟩

end MazeChase
