import MazeChase.Proofs.Readiness

/-!
# Agents in whose way nobody stands

One agent bars the way of another by a single rule, that ghosts block ghosts. The player is never
barred, and without the rule nobody is. For such an agent the terrain alone decides which tiles are
open. So where a tick takes it depends on its own tile and its own wish, whoever moves before it.

## Main definitions

* `Rules.Spares` — nobody bars the way of agents of a kind
* `Board.advance` — where a wish leads if nobody is in the way

## Main results

* `View.step?_of_spares` — which steps are open to such an agent
* `tile?_settleAll_of_spares` — where it is when all wishes are settled
* `Game.Ready.step_of_spares` — what a tick does to it
-/

namespace MazeChase

variable {board : Board} {rules : Rules} {p q : Population} {a : AgentId} {k : AgentKind}
  {t : TileId} {wish : Option Direction}

/-- Nobody bars the way of agents of kind `k`. -/
def Rules.Spares (rules : Rules) (k : AgentKind) : Prop :=
  ¬ (rules.ghostsBlockGhosts = true ∧ k.isGhost = true)

theorem Rules.spares_player (rules : Rules) : rules.Spares .player := by
  simp [Spares]

theorem Rules.spares_of_off (h : rules.ghostsBlockGhosts = false) (k : AgentKind) :
    rules.Spares k := by
  simp [Spares, h]

/-! ### Where the way is open -/

theorem View.accessible_of_spares {v : View} (hk : v.population.kind? a = some k)
    (hs : v.rules.Spares k) (t : TileId) : v.accessible t a = v.board.admits t k := by
  rw [Bool.eq_iff_iff, View.accessible_iff]
  constructor
  · rintro ⟨k', hk', hadmits, -⟩
    obtain rfl := Option.some.inj (hk.symm.trans hk')
    exact hadmits
  · intro hadmits
    exact ⟨k, hk, hadmits, fun hbarred => hs ⟨hbarred.1, hbarred.2.1⟩⟩

theorem View.step?_of_spares {v : View} (hk : v.population.kind? a = some k)
    (hs : v.rules.Spares k) (t : TileId) (d : Direction) :
    v.graph.step? t d a = (v.board.neighbor t d).filter fun u => v.board.admits u k := by
  simp only [MoveGraph.step?, View.graph_neighbor, View.graph_accessible,
    View.accessible_of_spares hk hs]

/-- Where the wish of an agent of kind `k` leads from `t` if nobody is in the way. -/
def Board.advance (board : Board) (k : AgentKind) (t : TileId) : Option Direction → TileId
  | none => t
  | some d => ((board.neighbor t d).filter fun u => board.admits u k).getD t

/-! ### The moves of a tick -/

theorem Settled.tile?_of_spares {o : Outcome} (h : Settled board rules p a wish q o)
    (hk : p.kind? a = some k) (hs : rules.Spares k) (ht : p.tile? a = some t) :
    q.tile? a = some (board.advance k t wish) := by
  have hopen (d : Direction) : (movingView board rules p).graph.step? t d a =
      (board.neighbor t d).filter fun u => board.admits u k :=
    View.step?_of_spares (v := movingView board rules p) hk hs t d
  cases h with
  | idle => exact ht
  | blocked hhere hstep =>
    obtain rfl := Option.some.inj (ht.symm.trans hhere)
    rw [hopen] at hstep
    rw [Board.advance, hstep, ht, Option.getD_none]
  | moved hhere hstep hoccupy =>
    obtain rfl := Option.some.inj (ht.symm.trans hhere)
    rw [hopen] at hstep
    rw [Population.tile?_occupy hoccupy, if_pos rfl, Board.advance, hstep, Option.getD_some]

/-- When all wishes are settled such an agent is where its own wish leads. -/
theorem tile?_settleAll_of_spares {i j : Nat} {wishes : List (Option Direction)}
    {outcomes : List Outcome} (h : settleAll board rules i wishes p = (q, .ok outcomes))
    (ha : a.index = i + j) (hwish : wishes[j]? = some wish) (hk : p.kind? a = some k)
    (hs : rules.Spares k) (ht : p.tile? a = some t) :
    q.tile? a = some (board.advance k t wish) := by
  obtain ⟨before, after, o, -, hturn, hmidway, hafter⟩ := exists_turn h ha hwish
  rw [hafter]
  exact hturn.tile?_of_spares ((hmidway.kind?_eq a).trans hk) hs
    ((hmidway.later a (Nat.le_refl _)).trans ht)

/-- A tick of a game that is ready takes an agent in whose way nobody stands where its own wish
leads, and lets it remember what its decision left it to remember. -/
theorem Game.Ready.step_of_spares {g : Game} (hg : g.Ready) {m : Memory}
    {queued : Option Direction} (hk : g.population.kind? a = some k) (hs : g.rules.Spares k)
    (ht : g.population.tile? a = some t) (hm : g.memories[a.index]? = some m)
    (hq : g.steering[a.index]? = some queued) :
    ∃ wish, (g.decide a m queued).1 = .ok wish ∧
      g.step.game.population.tile? a = some (g.board.advance k t wish) ∧
      g.step.game.memories[a.index]? = some (g.decide a m queued).2 := by
  obtain ⟨wishes, outcomes, hcarried⟩ := hg.exists_carriedOut
  obtain ⟨wish, hwish, hdecides⟩ := decide_of_approved hcarried.approved hm hq
  refine ⟨wish, hdecides, ?_, ?_⟩
  · exact tile?_settleAll_of_spares hcarried.settled (Nat.zero_add _).symm hwish hk hs ht
  · rw [hcarried.memories_eq]
    exact getElem?_memoriesAfter hm hq

end MazeChase
