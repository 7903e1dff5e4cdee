import Mathlib.Logic.Relation
import MazeChase.Proofs.History

/-!
# Where agents can be

In a game that is only played and steered, every agent stands on a tile that admits it at all times,
and gets about only along the links of the board: a tick leaves it on its tile or takes it one link
further. So an agent is never anywhere but where a path of admitting tiles leads from its first
tile, and one whose first tile has no admitting neighbour never leaves it.

Nothing is assumed of the board, whose links may be one-way, wrapped or loops, and nothing of the
strategy, which may propose any direction: a direction in which the agent cannot go is not taken.

## Main definitions

* `Board.Leads` — a link that an agent of some kind may take
* `Population.Strides` — an agent stays or takes one link
* `Whereabouts` — all that is known of where agents are, given where they began

## Main results

* `settleAll_strides` — in the moves of one tick no agent takes more than one link
* `Game.whereabouts_after` — where agents are after any play
-/

namespace MazeChase

open Relation (ReflTransGen)

variable {board : Board} {rules : Rules} {p q r : Population} {a b : AgentId} {k : AgentKind}
  {t u : TileId}

/-- A link of the board leads from `t` to `u`, and `u` admits agents of kind `k`. -/
def Board.Leads (board : Board) (k : AgentKind) (t u : TileId) : Prop :=
  (∃ d, board.neighbor t d = some u) ∧ board.admits u k = true

theorem Board.admits_of_reflTransGen (h : ReflTransGen (board.Leads k) t u)
    (ht : board.admits t k = true) : board.admits u k = true := by
  rcases h.cases_tail with rfl | ⟨_, -, hlast⟩
  · exact ht
  · exact hlast.2

/-- Who cannot take a first link takes none. -/
theorem Board.eq_of_reflTransGen (h : ReflTransGen (board.Leads k) t u)
    (hshut : ∀ d v, board.neighbor t d = some v → board.admits v k = false) : u = t := by
  rcases h.cases_head with rfl | ⟨v, ⟨⟨d, hd⟩, hv⟩, -⟩
  · rfl
  · rw [hshut d v hd] at hv
    cases hv

/-! ### One tick -/

/-- From `p` to `q` agent `a` keeps its tile or takes one link of the board. -/
def Population.Strides (board : Board) (p q : Population) (a : AgentId) : Prop :=
  q.tile? a = p.tile? a ∨
    ∃ k t u, p.kind? a = some k ∧ p.tile? a = some t ∧ board.Leads k t u ∧ q.tile? a = some u

theorem Settled.strides {wish : Option Direction} {o : Outcome}
    (h : Settled board rules p a wish q o) : Population.Strides board p q a := by
  cases h with
  | idle => exact .inl rfl
  | blocked => exact .inl rfl
  | @moved d here there _ hhere hstep hoccupy =>
    obtain ⟨hneighbor, hopen⟩ := MoveGraph.step?_eq_some_iff.1 hstep
    obtain ⟨k, hk, hadmits, -⟩ := View.accessible_iff.1 hopen
    refine .inr ⟨k, here, there, hk, hhere, ⟨⟨d, hneighbor⟩, hadmits⟩, ?_⟩
    rw [Population.tile?_occupy hoccupy, if_pos rfl]

/-- Every agent has one turn, and takes at most one link in it. -/
theorem settleAll_strides (i : Nat) (wishes : List (Option Direction)) (p : Population)
    (a : AgentId) : Population.Strides board p (settleAll board rules i wishes p).1 a := by
  induction wishes generalizing i p with
  | nil => exact .inl rfl
  | cons wish rest ih =>
    simp only [settleAll]
    split
    · exact .inl rfl
    · next p' o h =>
      have hsettled := settle_eq_ok_iff.1 h
      by_cases hi : a = ⟨i⟩
      · -- It is the turn of `a`, and the later turns leave it where it is then.
        subst hi
        have hlater : (settleAll board rules (i + 1) rest p').1.tile? ⟨i⟩ = p'.tile? ⟨i⟩ :=
          tile?_settleAll_of_outside (.inl (Nat.lt_succ_self i))
        simpa only [Population.Strides, hlater] using hsettled.strides
      · have hsame := hsettled.tile?_of_ne hi
        have hkind : p'.kind? a = p.kind? a := hsettled.kind?_eq
        simpa only [Population.Strides, hsame, hkind] using ih (i + 1) p'

theorem Game.step_strides (g : Game) (a : AgentId) :
    Population.Strides g.board g.population g.step.game.population a := by
  rcases step_population g with h | ⟨wishes, -, h⟩
  · rw [h]
    exact .inl rfl
  · rw [h]
    exact settleAll_strides 0 wishes g.population a

/-! ### Many ticks -/

/-- From `g` to `h` the board and the kinds are kept, and whoever stood somewhere stands somewhere
that a path of admitting tiles leads to. -/
structure Game.Roams (g h : Game) : Prop where
  board_eq : h.board = g.board
  kind?_eq : ∀ a, h.population.kind? a = g.population.kind? a
  path : ∀ a k t, g.population.kind? a = some k → g.population.tile? a = some t →
    ∃ u, h.population.tile? a = some u ∧ ReflTransGen (g.board.Leads k) t u

namespace Game.Roams

variable {g h l : Game}

theorem refl (g : Game) : g.Roams g :=
  ⟨rfl, fun _ => rfl, fun _ _ t _ ht => ⟨t, ht, .refl⟩⟩

theorem trans (hgh : g.Roams h) (hhl : h.Roams l) : g.Roams l where
  board_eq := hhl.board_eq.trans hgh.board_eq
  kind?_eq a := (hhl.kind?_eq a).trans (hgh.kind?_eq a)
  path a k t hk ht := by
    obtain ⟨u, hu, hfirst⟩ := hgh.path a k t hk ht
    obtain ⟨v, hv, hsecond⟩ := hhl.path a k u ((hgh.kind?_eq a).trans hk) hu
    rw [hgh.board_eq] at hsecond
    exact ⟨v, hv, hfirst.trans hsecond⟩

theorem step (g : Game) : g.Roams g.step.game where
  board_eq := step_board
  kind?_eq a := kind?_step a
  path a k t hk ht := by
    rcases step_strides g a with hsame | ⟨k', t', u, hk', ht', hleads, hu⟩
    · exact ⟨t, hsame.trans ht, .refl⟩
    · obtain rfl := Option.some.inj (hk.symm.trans hk')
      obtain rfl := Option.some.inj (ht.symm.trans ht')
      exact ⟨u, hu, .single hleads⟩

theorem after (g : Game) {cs : List Command} (hcs : ∀ c ∈ cs, c.isPlay = true) :
    g.Roams (g.after cs) := by
  refine after_induction refl trans step ?_ hcs g
  intro g a d h hsteer
  obtain ⟨-, rfl⟩ := steer_eq_ok_iff.1 hsteer
  exact ⟨rfl, fun _ => rfl, fun _ _ t _ ht => ⟨t, ht, .refl⟩⟩

end Game.Roams

/-- What is known of where agents are in `g`, on board `board`, given that they began as in
`start`. -/
structure Whereabouts (board : Board) (start : Population) (g : Game) : Prop where
  /-- The two views agree. -/
  mem_occupants_iff : ∀ a t, g.population.tile? a = some t ↔ a ∈ g.population.occupants t
  /-- Nobody is counted twice. -/
  nodup_occupants : ∀ t, (g.population.occupants t).Nodup
  /-- Only agents of the game stand anywhere, and only on tiles of the board. -/
  in_range : ∀ a t, g.population.tile? a = some t →
    a.index < start.count ∧ t.index < board.tileCount
  /-- Everybody stands on a tile that admits them, and has the kind with which they began. -/
  admitted : ∀ a : AgentId, a.index < start.count →
    ∃ k t, start.kind? a = some k ∧ g.population.kind? a = some k ∧
      g.population.tile? a = some t ∧ board.admits t k = true
  /-- The next tick leaves everybody where they are or takes them one link further. -/
  stride : ∀ a, g.step.game.population.tile? a = g.population.tile? a ∨
    ∃ t d u, g.population.tile? a = some t ∧ board.neighbor t d = some u ∧
      g.step.game.population.tile? a = some u
  /-- A path of admitting tiles leads from where an agent began to where it is. -/
  path : ∀ a k t u, start.kind? a = some k → start.tile? a = some t →
    g.population.tile? a = some u → ReflTransGen (board.Leads k) t u
  /-- Who began shut in is still there. -/
  shut_in : ∀ a k t, start.kind? a = some k → start.tile? a = some t →
    (∀ d u, board.neighbor t d = some u → board.admits u k = false) →
    g.population.tile? a = some t

namespace Game

variable {s : Setup} {g : Game}

/-- At the start of a game everybody stands on a tile that admits them. -/
theorem admitted_of_build (hg : s.build = .ok g) (ha : a.index < g.population.count) :
    ∃ k t, g.population.kind? a = some k ∧ g.population.tile? a = some t ∧
      g.board.admits t k = true := by
  obtain ⟨-, population, -, hstart, rfl⟩ := Setup.build_eq_ok_iff.1 hg
  obtain ⟨t, k, ht, hk, hadmits⟩ := Setup.startFault?_eq_none_iff.1 (hstart a ha)
  exact ⟨k, t, hk, ht, hadmits⟩

/-- **Where agents are.** After a game was set up, and played and steered in any way, successful or
not, the views of the population agree, everybody stands where they may, moves one link at a time,
and is where a path of admitting tiles leads. -/
theorem whereabouts_after (hs : s.population.Reachable) (hg : s.build = .ok g)
    {cs : List Command} (hcs : ∀ c ∈ cs, c.isPlay = true) :
    Whereabouts s.board g.population (g.after cs) := by
  have hboard : g.board = s.board := by
    obtain ⟨-, population, -, -, rfl⟩ := Setup.build_eq_ok_iff.1 hg
    rfl
  have hroams : g.Roams (g.after cs) := .after g hcs
  have hnow : (g.after cs).board = s.board := hroams.board_eq.trans hboard
  have hcoherent := ((Reachable.build hs hg).after cs).coherent
  -- Everything below reads off two facts: the parts of the game fit together, and this path.
  have hpath (a : AgentId) (k : AgentKind) (t u : TileId) (hk : g.population.kind? a = some k)
      (ht : g.population.tile? a = some t) (hu : (g.after cs).population.tile? a = some u) :
      ReflTransGen (s.board.Leads k) t u := by
    obtain ⟨u', hu', hleads⟩ := hroams.path a k t hk ht
    obtain rfl := Option.some.inj (hu.symm.trans hu')
    rwa [hboard] at hleads
  constructor
  case mem_occupants_iff => exact fun a t => (hcoherent.consistent.mem_occupants a t).symm
  case nodup_occupants => exact hcoherent.consistent.nodup
  case in_range =>
    intro a t ht
    obtain ⟨ha, htile⟩ := hcoherent.consistent.lt_of_tile? ht
    obtain ⟨k, hk⟩ := Population.exists_kind? ha
    rw [hroams.kind?_eq] at hk
    rw [hcoherent.tileCount_eq, hnow] at htile
    exact ⟨Population.lt_count_of_kind? hk, htile⟩
  case admitted =>
    intro a ha
    obtain ⟨k, t, hk, ht, hadmits⟩ := admitted_of_build hg ha
    obtain ⟨u, hu, -⟩ := hroams.path a k t hk ht
    rw [hboard] at hadmits
    exact ⟨k, u, hk, (hroams.kind?_eq a).trans hk, hu,
      Board.admits_of_reflTransGen (hpath a k t u hk ht hu) hadmits⟩
  case stride =>
    intro a
    rcases step_strides (g.after cs) a with hsame | ⟨k, t, u, -, ht, ⟨⟨d, hd⟩, -⟩, hu⟩
    · exact .inl hsame
    · rw [hnow] at hd
      exact .inr ⟨t, d, u, ht, hd, hu⟩
  case path => exact hpath
  case shut_in =>
    intro a k t hk ht hshut
    obtain ⟨u, hu, -⟩ := hroams.path a k t hk ht
    rwa [Board.eq_of_reflTransGen (hpath a k t u hk ht hu) hshut] at hu

theorem whereabouts_after_ambush :
    Setup.ambush.population.Reachable ∧ Setup.ambush.build = .ok ambush ∧
      Whereabouts .corridor ambush.population
        (ambush.after [.step, .steer ⟨0⟩ .east, .play 2, .playOut]) := by
  have hreachable : Setup.ambush.population.Reachable := .ofKinds _ _
  have hplays : ∀ c ∈ [Command.step, .steer ⟨0⟩ .east, .play 2, .playOut], c.isPlay = true := by
    decide
  exact ⟨hreachable, Setup.build_ambush,
    whereabouts_after hreachable Setup.build_ambush hplays⟩

end Game

end MazeChase
