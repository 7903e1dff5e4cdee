import MazeChase.Proofs.Decisions
import MazeChase.Proofs.Headcount

/-!
# What gets in the way of a move

Everybody decides by the world as it was before the tick, and every move is checked once more when
its turn comes, in a world in which the agents with smaller identifiers have moved already. Terrain
and kinds are the same in both worlds, so a step that was open can only be shut by a ghost that has
come to the tile in between, and that only for a ghost, if ghosts block ghosts. Ghosts that have
gone in between open steps and never shut them, and those whose turn is still to come hold no tile
that they did not hold before.

Whoever chooses by a standard behaviour chooses an open step. So without steering nothing but an
earlier ghost ever blocks a move.

## Main definitions

* `Game.Forestalls`, `Game.Barred` — a ghost comes to a tile first, and bars it to a later ghost
* `Game.BlockedByGhosts` — to what the blocked moves of a tick are due

## Main results

* `Settled.blocked_iff`, `View.accessible_eq_false_iff` — what blocks a move, and what shuts a tile
* `Game.heldByGhost_midway_iff` — who holds a tile when the turn of an agent comes
* `Game.blocked_iff` — when an open step is blocked
* `Game.blocked_by_earlier_ghosts` — chosen moves are blocked by earlier ghosts only

## Main examples

* `Game.embrace` — the ambush with ghosts that let each other pass
-/

namespace MazeChase

variable {board : Board} {rules : Rules} {p q : Population} {a b : AgentId} {t u : TileId}
  {d : Direction} {o : Outcome} {v w : View}

/-! ### What shuts a tile -/

/-- A move along a link is blocked if the tile to which the link leads is shut by then. -/
theorem Settled.blocked_iff (h : Settled board rules p a (some d) q o) (ht : p.tile? a = some t)
    (hu : board.neighbor t d = some u) :
    o = .blocked ↔ (movingView board rules p).accessible u a = false := by
  cases h with
  | blocked hhere hstep =>
    obtain rfl := Option.some.inj (hhere.symm.trans ht)
    have hshut : (movingView board rules p).accessible u a ≠ true := by
      intro hopen
      have hgoes : (movingView board rules p).graph.step? _ d a = some u :=
        MoveGraph.step?_eq_some_iff.2 ⟨hu, hopen⟩
      exact Option.some_ne_none u (hgoes.symm.trans hstep)
    simpa using hshut
  | moved hhere hstep _ =>
    obtain rfl := Option.some.inj (hhere.symm.trans ht)
    obtain ⟨hlink, hopen⟩ := MoveGraph.step?_eq_some_iff.1 hstep
    obtain rfl := Option.some.inj (hlink.symm.trans hu)
    rw [View.graph_accessible] at hopen
    simp [hopen]

/-- A tile that an agent might enter in one world is shut in another one with the same terrain and
kinds only if a ghost holds it there, and ghosts block ghosts. -/
theorem View.accessible_eq_false_iff (hopen : v.accessible u a = true) (hboard : w.board = v.board)
    (hkind : w.population.kind? a = v.population.kind? a) :
    w.accessible u a = false ↔
      w.rules.ghostsBlockGhosts = true ∧ w.population.isGhost a = true ∧
        w.heldByGhost u a = true := by
  obtain ⟨k, hk, hadmits, -⟩ := accessible_iff.1 hopen
  rw [← hkind] at hk
  rw [← hboard] at hadmits
  rw [Population.isGhost_of_kind? hk]
  simp [accessible, hk, hadmits, and_assoc]

/-- Kinds are the same halfway through a tick. -/
theorem Midway.isGhost_eq {before : Population} (h : Midway p q a before) (b : AgentId) :
    before.isGhost b = p.isGhost b := by
  rw [Population.isGhost, h.kind?_eq, Population.isGhost]

namespace Game

variable {g : Game} {report : Report} {before : Population} {m : Memory} {queued : Option Direction}

/-! ### The turn of an agent -/

/-- Ghost `b` stood elsewhere before the next tick, and comes to tile `u` before the turn of
agent `a`. -/
structure Forestalls (g : Game) (b a : AgentId) (u : TileId) : Prop where
  earlier : b.index < a.index
  ghost : g.population.isGhost b = true
  elsewhere : ∃ t, g.population.tile? b = some t ∧ t ≠ u
  arrives : g.step.game.population.tile? b = some u

/-- Ghosts block ghosts, and tile `u` is taken when the turn of ghost `a` comes. -/
structure Barred (g : Game) (a : AgentId) (u : TileId) : Prop where
  rule : g.rules.ghostsBlockGhosts = true
  ghost : g.population.isGhost a = true
  forestalled : ∃ b, g.Forestalls b a u

/-- Whoever stands somewhere after a tick that reports stood somewhere before. -/
theorem exists_tile?_of_step (hg : g.Coherent) (hok : g.step.result = .ok report)
    (hu : g.step.game.population.tile? a = some u) : ∃ t, g.population.tile? a = some t := by
  have ha : a.index < g.population.count := by
    rw [← count_step]
    exact Population.lt_count_of_tile? hu
  obtain ⟨o, -, hstays, hmoves⟩ := exists_outcome hg hok ha
  by_cases ho : o = .moved
  · obtain ⟨t, -, -, ht, -, -⟩ := hmoves ho
    exact ⟨t, ht⟩
  · exact ⟨u, (hstays ho).symm.trans hu⟩

/-- A tile that was free before the tick is held, when the turn of agent `a` comes, by a ghost that
came there earlier in the tick, and by nobody else. -/
theorem heldByGhost_midway_iff (hg : g.Coherent) (hok : g.step.result = .ok report)
    (hmidway : Midway g.population g.step.game.population a before)
    (hfree : g.view.heldByGhost u a = false) :
    (movingView g.board g.rules before).heldByGhost u a = true ↔ ∃ b, g.Forestalls b a u := by
  have hnobody (b : AgentId) (hne : b ≠ a) (hghost : g.population.isGhost b = true) :
      g.population.tile? b ≠ some u :=
    View.ne_tile?_of_heldByGhost_eq_false (v := g.view) hg.consistent hfree hne hghost
  rw [View.heldByGhost_iff (hmidway.consistent hg.consistent)]
  constructor
  · rintro ⟨b, hne, hghost, hb⟩
    change before.isGhost b = true at hghost
    change before.tile? b = some u at hb
    rw [hmidway.isGhost_eq] at hghost
    by_cases hearlier : b.index < a.index
    · rw [hmidway.earlier b hearlier] at hb
      obtain ⟨t, ht⟩ := exists_tile?_of_step hg hok hb
      refine ⟨b, hearlier, hghost, ⟨t, ht, ?_⟩, hb⟩
      rintro rfl
      exact hnobody b hne hghost ht
    · -- Its turn has not come, so it would have held the tile before the tick.
      rw [hmidway.later b (Nat.le_of_not_lt hearlier)] at hb
      exact absurd hb (hnobody b hne hghost)
  · rintro ⟨b, hb⟩
    have hne : b ≠ a := by
      rintro rfl
      exact Nat.lt_irrefl _ hb.earlier
    have hghost : before.isGhost b = true := (hmidway.isGhost_eq b).trans hb.ghost
    have hthere : before.tile? b = some u := (hmidway.earlier b hb.earlier).trans hb.arrives
    exact ⟨b, hne, hghost, hthere⟩

/-- An open step is blocked exactly if ghosts block ghosts, a ghost takes it, and another ghost is
there first. -/
theorem blocked_iff (hg : g.Coherent) (hok : g.step.result = .ok report)
    (hm : g.memories[a.index]? = some m) (hq : g.steering[a.index]? = some queued)
    (hdecides : (g.decide a m queued).1 = .ok (some d)) (ht : g.population.tile? a = some t)
    (hu : g.board.neighbor t d = some u) (hopen : g.view.accessible u a = true) :
    report.outcomes[a.index]? = some .blocked ↔ g.Barred a u := by
  obtain ⟨wishes, hcarried⟩ := exists_carriedOut_of_ok hok
  obtain ⟨wish, hwish, hdecided⟩ := decide_of_approved hcarried.approved hm hq
  obtain rfl : wish = some d := Except.ok.inj (hdecided.symm.trans hdecides)
  -- The move is judged by the world `before` that is there when the turn of `a` comes.
  obtain ⟨before, after, o, hattempts⟩ := hcarried.exists_attempts hwish
  have hmidway := hattempts.midway
  have hhere : before.tile? a = some t := (hmidway.later a (Nat.le_refl _)).trans ht
  have hshut : o = .blocked ↔ g.rules.ghostsBlockGhosts = true ∧ before.isGhost a = true ∧
      (movingView g.board g.rules before).heldByGhost u a = true :=
    (hattempts.settled.blocked_iff hhere hu).trans
      (View.accessible_eq_false_iff hopen rfl (hmidway.kind?_eq a))
  rw [hattempts.reported report hok, Option.some.injEq, hshut, hmidway.isGhost_eq]
  constructor
  · rintro ⟨hrule, hghost, hheld⟩
    have hfree := View.heldByGhost_eq_false hopen hrule hghost
    exact ⟨hrule, hghost, (heldByGhost_midway_iff hg hok hmidway hfree).1 hheld⟩
  · rintro ⟨hrule, hghost, hfirst⟩
    have hfree := View.heldByGhost_eq_false hopen hrule hghost
    exact ⟨hrule, hghost, (heldByGhost_midway_iff hg hok hmidway hfree).2 hfirst⟩

/-- Nothing but a move is blocked. -/
theorem exists_move_of_blocked (hg : g.Coherent) (hok : g.step.result = .ok report)
    (hblocked : report.outcomes[a.index]? = some .blocked) :
    ∃ m queued d, g.memories[a.index]? = some m ∧ g.steering[a.index]? = some queued ∧
      (g.decide a m queued).1 = .ok (some d) := by
  have ha : a.index < g.population.count := by
    rw [← hg.asked_eq, ← length_outcomes_of_ok hok]
    exact (List.getElem?_eq_some_iff.1 hblocked).1
  obtain ⟨m, queued, hm, hq⟩ := hg.exists_state ha
  obtain ⟨wishes, hcarried⟩ := exists_carriedOut_of_ok hok
  obtain ⟨wish, hwish, hdecided⟩ := decide_of_approved hcarried.approved hm hq
  obtain ⟨before, after, o, hattempts⟩ := hcarried.exists_attempts hwish
  obtain rfl : o = .blocked :=
    Option.some.inj ((hattempts.reported report hok).symm.trans hblocked)
  cases hattempts.settled with
  | blocked => exact ⟨m, queued, _, hm, hq, hdecided⟩

/-! ### Chosen moves -/

/-- What a standard behaviour chooses is an open step, so only an earlier ghost can block it. -/
theorem exists_blocked_iff (hg : g.Coherent) (hs : g.strategy.isStandard = true)
    (hok : g.step.result = .ok report) (hm : g.memories[a.index]? = some m)
    (hq : g.steering[a.index]? = some none)
    (hdecides : (g.strategy.decide a g.view m).1 = .ok (some d)) :
    ∃ t u, g.population.tile? a = some t ∧ g.board.neighbor t d = some u ∧
      (report.outcomes[a.index]? = some .blocked ↔ g.Barred a u) := by
  obtain ⟨t, u, ht, hu, hopen⟩ := Strategy.exists_neighbor_of_decide hs hdecides
  exact ⟨t, u, ht, hu, blocked_iff hg hok hm hq hdecides ht hu hopen⟩

/-- To what the blocked moves of a tick are due. -/
structure BlockedByGhosts (g : Game) (report : Report) : Prop where
  /-- A direction that the strategy chose for an agent that is not steered leads from its tile to a
  tile, and the move is blocked exactly if that tile is barred to the agent. -/
  chosen : ∀ {a m d}, g.memories[a.index]? = some m → g.steering[a.index]? = some none →
    (g.strategy.decide a g.view m).1 = .ok (some d) →
      ∃ t u, g.population.tile? a = some t ∧ g.board.neighbor t d = some u ∧
        (report.outcomes[a.index]? = some .blocked ↔ g.Barred a u)
  /-- If ghosts do not block ghosts and nobody is steered, no move is blocked. -/
  unblocked : g.rules.ghostsBlockGhosts = false → (∀ queued ∈ g.steering, queued = none) →
    report.blocked = 0

/-- **Chosen moves are blocked by earlier ghosts only.** In every tick that succeeds, a move that
was chosen by a strategy of standard behaviours is blocked exactly if ghosts block ghosts, a ghost
moves, and a ghost with a smaller identifier has come to the tile in the same tick. -/
theorem blocked_by_earlier_ghosts (hg : g.Reachable) (hs : g.strategy.isStandard = true)
    (hok : g.step.result = .ok report) : g.BlockedByGhosts report where
  chosen hm hq hdecides := exists_blocked_iff hg.coherent hs hok hm hq hdecides
  unblocked := by
    intro hrule hnobody
    rw [Report.blocked, List.count_eq_zero]
    intro hmem
    obtain ⟨i, hi⟩ := List.mem_iff_getElem?.1 hmem
    obtain ⟨m, queued, d, hm, hq, hdecides⟩ :=
      exists_move_of_blocked (a := ⟨i⟩) hg.coherent hok hi
    -- Nobody is steered, so the strategy has chosen the move.
    obtain rfl : queued = none := hnobody queued (List.mem_of_getElem? hq)
    obtain ⟨t, u, -, -, hiff⟩ := exists_blocked_iff hg.coherent hs hok hm hq hdecides
    have hon := (hiff.1 hi).rule
    rw [hrule] at hon
    cases hon

/-- The ambush with ghosts that do not block each other. -/
def embrace : Game := { ambush with rules := {} }

theorem reachable_embrace : embrace.Reachable :=
  .build (s := { Setup.ambush with rules := {} }) (.ofKinds _ _) rfl

/-- In the ambush Blinky comes to the tile of the player first and Pinky is blocked. When ghosts do
not block ghosts nobody is. -/
theorem blocked_by_earlier_ghosts_ambush :
    (∃ report, ambush.step.result = .ok report ∧ report.outcomes[2]? = some .blocked ∧
      ∃ b, ambush.Forestalls b ⟨2⟩ ⟨1⟩) ∧
    ∃ report, embrace.step.result = .ok report ∧ report.blocked = 0 := by
  have hpinky : (ambush.strategy.decide ⟨2⟩ ambush.view (.forAgent 0 ⟨2⟩)).1 = .ok (some .west) :=
    rfl
  have hambush := blocked_by_earlier_ghosts reachable_ambush rfl rfl
  have hembrace := blocked_by_earlier_ghosts reachable_embrace rfl rfl
  obtain ⟨t, u, ht, hu, hiff⟩ := hambush.chosen (a := ⟨2⟩) rfl rfl hpinky
  obtain rfl : ⟨2⟩ = t := Option.some.inj ht
  obtain rfl : ⟨1⟩ = u := Option.some.inj hu
  have hblinky : ambush.Forestalls ⟨1⟩ ⟨2⟩ ⟨1⟩ := ⟨by decide, rfl, ⟨⟨0⟩, rfl, by decide⟩, rfl⟩
  exact ⟨⟨_, rfl, hiff.2 ⟨rfl, rfl, _, hblinky⟩, _, hblinky⟩,
    _, rfl, hembrace.unblocked rfl (by decide)⟩

end Game

end MazeChase
