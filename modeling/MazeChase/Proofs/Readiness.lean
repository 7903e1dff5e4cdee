import MazeChase.Proofs.Abort
import MazeChase.Proofs.Outlook
import MazeChase.Proofs.Whereabouts

/-!
# Games in which no tick is called off

A tick is called off by an agent that cannot decide or that wants to move from nowhere. A standard
behaviour decides for everybody who stands somewhere, and nobody is ever taken off the board by a
tick. So in a game with standard behaviours in which everybody is placed no tick is called off, and
after the tick the same is true. Only the end of the clock is left as a reason to fail, and then all
moves are made.

What a tick does to such a game is said here without a word on errors.

## Main definitions

* `Strategy.leaf` — the behaviour on which a kind ends up, or to stay
* `Game.Ready` — everybody is placed and decides by a standard behaviour

## Main results

* `Behavior.exists_decide_eq_ok` — a standard behaviour decides for whoever stands somewhere
* `Game.Ready.exists_carriedOut` — a game that is ready makes its moves
* `Game.ready_of_build`, `Game.Ready.obey` — games are ready from the start and stay so
-/

namespace MazeChase

/-! ### Deciding -/

section Deciding

variable {a : AgentId} {v : View} {t : TileId} {k : AgentKind}

theorem View.tileOf_of_tile? (h : v.population.tile? a = some t) : v.tileOf a = .ok t := by
  obtain ⟨k, hk⟩ := Population.exists_kind? (Population.lt_count_of_tile? h)
  simp only [tileOf, hk, h]

theorem DecisionRule.fromTile_of_ok
    {rule : AgentId → View → Memory → TileId → Option Direction × Memory}
    (ht : v.tileOf a = .ok t) (m : Memory) :
    DecisionRule.fromTile rule a v m = (.ok (rule a v m t).1, (rule a v m t).2) := by
  simp only [fromTile, ht]

theorem Behavior.exists_decide_eq_ok {b : Behavior} (hb : b.isStandard = true)
    (ht : v.tileOf a = .ok t) (m : Memory) : ∃ wish, (b.decide a v m).1 = .ok wish := by
  cases b with
  | custom rule => cases hb
  | _ => exact ⟨_, congrArg Prod.fst (DecisionRule.fromTile_of_ok ht m)⟩

namespace Strategy

/-- The behaviour on which a kind ends up; without one it stays. -/
def leaf (s : Strategy) (k : AgentKind) : Behavior := (s.behavior? k).getD .idle

theorem decide_eq_leaf {s : Strategy} (h : v.population.kind? a = some k) (m : Memory) :
    s.decide a v m = (s.leaf k).decide a v m :=
  decide_of_kind? h m

theorem isStandard_leaf {s : Strategy} (hs : s.isStandard = true) (k : AgentKind) :
    (s.leaf k).isStandard = true := by
  induction s with
  | uniform behavior => exact hs
  | unassigned => rfl
  | assign rest kind chosen ihr ihc =>
    obtain ⟨hrest, hchosen⟩ : rest.isStandard = true ∧ chosen.isStandard = true := by
      simpa [isStandard] using hs
    -- The kind goes on to one of the two strategies, and both are standard.
    simp only [leaf, behavior?]
    split
    · exact ihc hchosen
    · exact ihr hrest

theorem exists_decide_eq_ok {s : Strategy} (hs : s.isStandard = true)
    (ht : v.population.tile? a = some t) (m : Memory) : ∃ wish, (s.decide a v m).1 = .ok wish := by
  obtain ⟨k, hk⟩ := Population.exists_kind? (Population.lt_count_of_tile? ht)
  rw [decide_eq_leaf hk]
  exact Behavior.exists_decide_eq_ok (isStandard_leaf hs k) (View.tileOf_of_tile? ht) m

end Strategy

end Deciding

namespace Game

variable {g h : Game} {a : AgentId} {m : Memory} {queued : Option Direction}
  {wishes : List (Option Direction)}

theorem getElem?_decisions {i : Nat} (hm : g.memories[i]? = some m)
    (hq : g.steering[i]? = some queued) : g.decisions[i]? = some (g.decide ⟨i⟩ m queued) := by
  have hentry : (g.memories.zip g.steering)[i]? = some (m, queued) :=
    List.getElem?_zip_eq_some.2 ⟨hm, hq⟩
  rw [decisions, List.getElem?_mapIdx, hentry, Option.map_some]

theorem getElem?_memoriesAfter {i : Nat} (hm : g.memories[i]? = some m)
    (hq : g.steering[i]? = some queued) :
    g.memoriesAfter[i]? = some (g.decide ⟨i⟩ m queued).2 := by
  have hi := getElem?_decisions hm hq
  have hlt : i < (g.decisions.map Prod.snd).length := by
    rw [List.length_map]
    exact (List.getElem?_eq_some_iff.1 hi).1
  rw [memoriesAfter, List.getElem?_append_left hlt, List.getElem?_map, hi, Option.map_some]

/-- Who is asked wishes what it decided. -/
theorem decide_of_approved {i : Nat}
    (happroved : approveAll g.population 0 g.proposals = .ok wishes)
    (hm : g.memories[i]? = some m) (hq : g.steering[i]? = some queued) :
    ∃ wish, wishes[i]? = some wish ∧ (g.decide ⟨i⟩ m queued).1 = .ok wish := by
  have hi : g.proposals[i]? = some (g.decide ⟨i⟩ m queued).1 :=
    getElem?_proposals.2 ⟨m, queued, hm, hq, rfl⟩
  rw [(approveAll_eq_ok_iff.1 happroved).1, List.getElem?_map, Option.map_eq_some_iff] at hi
  obtain ⟨wish, hwish, hdecides⟩ := hi
  exact ⟨wish, hwish, hdecides.symm⟩

/-- Only agents of the game are asked. -/
theorem CallsOff.lt_count {i : Nat} {e : GameError} (hg : g.Coherent) (h : g.CallsOff i e) :
    i < g.population.count := by
  rw [← hg.length_memories]
  cases h with
  | undecided hm => exact (List.getElem?_eq_some_iff.1 hm).1
  | unplaced hm => exact (List.getElem?_eq_some_iff.1 hm).1

/-! ### Games that are ready -/

/-- Everybody is placed and decides by a standard behaviour, and the parts of the game fit
together. -/
structure Ready (g : Game) : Prop where
  coherent : g.Coherent
  standard : g.strategy.isStandard = true
  placed : ∀ a : AgentId, a.index < g.population.count → (g.population.tile? a).isSome

namespace Ready

/-- Every agent has a tile, a memory and a place in the queue. -/
theorem exists_state (hg : g.Ready) (ha : a.index < g.population.count) :
    ∃ t m queued, g.population.tile? a = some t ∧ g.memories[a.index]? = some m ∧
      g.steering[a.index]? = some queued := by
  obtain ⟨t, ht⟩ := Option.isSome_iff_exists.1 (hg.placed a ha)
  obtain ⟨m, queued, hm, hq⟩ := hg.coherent.exists_state ha
  exact ⟨t, m, queued, ht, hm, hq⟩

theorem exists_decide_eq_ok (hg : g.Ready) (ha : a.index < g.population.count) (m : Memory)
    (queued : Option Direction) : ∃ wish, (g.decide a m queued).1 = .ok wish := by
  cases queued with
  | some d => exact ⟨some d, rfl⟩
  | none =>
    obtain ⟨t, ht⟩ := Option.isSome_iff_exists.1 (hg.placed a ha)
    exact Strategy.exists_decide_eq_ok (v := g.view) hg.standard ht m

theorem not_callsOff (hg : g.Ready) (i : Nat) (e : GameError) : ¬ g.CallsOff i e := by
  intro hcalls
  -- Whoever is asked is an agent of the game, so it decides and stands somewhere.
  have hknown := hcalls.lt_count hg.coherent
  cases hcalls with
  | undecided hm hq hd =>
    obtain ⟨wish, hwish⟩ := hg.exists_decide_eq_ok (a := ⟨i⟩) hknown _ _
    rw [hd] at hwish
    cases hwish
  | unplaced hm hq hd hout =>
    have hplaced := hg.placed ⟨i⟩ hknown
    rw [hout] at hplaced
    cases hplaced

/-- The tick of a game that is ready makes its moves. -/
theorem exists_carriedOut (hg : g.Ready) : ∃ wishes outcomes, g.CarriedOut wishes outcomes := by
  cases happroved : approveAll g.population 0 g.proposals with
  | error e =>
    obtain ⟨i, hcalls, -⟩ := approveAll_proposals_eq_error_iff.1 happroved
    exact absurd hcalls (hg.not_callsOff i e)
  | ok wishes =>
    exact ⟨wishes, Game.exists_carriedOut (Nat.le_of_eq hg.coherent.tileCount_eq.symm) happroved⟩

theorem step (hg : g.Ready) : g.step.game.Ready where
  coherent := hg.coherent.step
  standard := by rw [step_strategy, hg.standard]
  placed a ha := by
    rw [count_step] at ha
    exact step_population_induction (R := fun p q => (p.tile? a).isSome → (q.tile? a).isSome)
      (fun _ => id) (fun h h' => h' ∘ h) Settled.isSome_tile? (hg.placed a ha)

theorem steer {d : Direction} (hg : g.Ready) (h' : g.steer a d = .ok h) : h.Ready := by
  have hcoherent := hg.coherent.steer h'
  obtain ⟨-, rfl⟩ := steer_eq_ok_iff.1 h'
  exact ⟨hcoherent, hg.standard, hg.placed⟩

/-- A game that is only played and steered stays ready. -/
theorem obey (hg : g.Ready) {c : Command} (hc : c.isPlay = true) : (g.obey c).Ready :=
  obey_induction (R := fun g h => g.Ready → h.Ready) (fun _ => id) (fun h h' => h' ∘ h)
    (fun _ => Ready.step) (fun h' hg => hg.steer h') hc g hg

end Ready

/-- A game is ready when it was set up. -/
theorem ready_of_build {s : Setup} (hs : s.population.Consistent) (hg : s.build = .ok g)
    (hstandard : s.strategy.isStandard = true) : g.Ready where
  coherent := coherent_of_build hs hg
  standard := by
    obtain ⟨-, population, -, -, rfl⟩ := Setup.build_eq_ok_iff.1 hg
    exact hstandard
  placed a ha := by
    obtain ⟨k, t, -, ht, -⟩ := admitted_of_build hg ha
    exact Option.isSome_iff_exists.2 ⟨t, ht⟩

end Game

end MazeChase
