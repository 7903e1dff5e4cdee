import MazeChase.Proofs.History

/-!
# Ghosts that keep apart

Under the rule that ghosts block ghosts no two ghosts come together: if two of them stand on one
tile after a tick, both stood there before it. Decisions are of no use in the argument. They are
taken while everybody still stands where they stood, so two ghosts may well choose the same free
tile, or a tile that a third is about to leave; it is the look at the crowd just before each single
move that keeps them apart. Hence what is shown of one settled wish holds in every order of moves.

## Main definitions

* `Population.KeepsApart` — no two ghosts came together from one population to the next

## Main results

* `Settled.keepsApart` — one wish brings no two ghosts together
* `Game.ghosts_never_meet` — nor does a tick, nor any play
-/

namespace MazeChase

variable {board : Board} {rules : Rules} {p q r : Population} {a b c : AgentId} {t : TileId}

/-- From `p` to `q` the kinds are kept, and two ghosts that share a tile in `q` shared it in `p`. -/
structure Population.KeepsApart (p q : Population) : Prop where
  kind?_eq : ∀ a, q.kind? a = p.kind? a
  shared : ∀ a b t, a ≠ b → p.isGhost a = true → p.isGhost b = true →
    q.tile? a = some t → q.tile? b = some t → p.tile? a = some t ∧ p.tile? b = some t

namespace Population.KeepsApart

theorem refl (p : Population) : p.KeepsApart p :=
  ⟨fun _ => rfl, fun _ _ _ _ _ _ ha hb => ⟨ha, hb⟩⟩

theorem isGhost_eq (h : p.KeepsApart q) (a : AgentId) : q.isGhost a = p.isGhost a := by
  rw [isGhost, isGhost, h.kind?_eq]

theorem trans (hpq : p.KeepsApart q) (hqr : q.KeepsApart r) : p.KeepsApart r where
  kind?_eq a := (hqr.kind?_eq a).trans (hpq.kind?_eq a)
  shared a b t hab hga hgb ha hb := by
    have hga' : q.isGhost a = true := (hpq.isGhost_eq a).trans hga
    have hgb' : q.isGhost b = true := (hpq.isGhost_eq b).trans hgb
    obtain ⟨ha', hb'⟩ := hqr.shared a b t hab hga' hgb' ha hb
    exact hpq.shared a b t hab hga hgb ha' hb'

end Population.KeepsApart

/-- A ghost that may enter a tile under the rule finds no other ghost there. -/
theorem ne_tile?_of_accessible {v : View} (hv : v.population.Consistent)
    (hrule : v.rules.ghostsBlockGhosts = true) (hopen : v.accessible t a = true)
    (ha : v.population.isGhost a = true) (hb : v.population.isGhost b = true) (hab : b ≠ a) :
    v.population.tile? b ≠ some t :=
  View.ne_tile?_of_heldByGhost_eq_false hv (View.heldByGhost_eq_false hopen hrule ha) hab hb

theorem Settled.keepsApart {wish : Option Direction} {o : Outcome}
    (h : Settled board rules p c wish q o) (hp : p.Consistent)
    (hrule : rules.ghostsBlockGhosts = true) : p.KeepsApart q := by
  refine ⟨fun _ => h.kind?_eq, fun a b t hab hga hgb ha hb => ?_⟩
  cases h with
  | idle => exact ⟨ha, hb⟩
  | blocked => exact ⟨ha, hb⟩
  | moved _ hstep hoccupy =>
    have hopen := (MoveGraph.step?_eq_some_iff.1 hstep).2
    rw [Population.tile?_occupy hoccupy] at ha hb
    -- At most one of the two has moved, and it cannot have moved to where the other stands.
    by_cases hac : a = c
    · subst hac
      rw [if_pos rfl] at ha
      rw [if_neg hab.symm] at hb
      obtain rfl := Option.some.inj ha
      exact absurd hb (ne_tile?_of_accessible hp hrule hopen hga hgb hab.symm)
    · rw [if_neg hac] at ha
      by_cases hbc : b = c
      · subst hbc
        rw [if_pos rfl] at hb
        obtain rfl := Option.some.inj hb
        exact absurd ha (ne_tile?_of_accessible hp hrule hopen hgb hga hab)
      · rw [if_neg hbc] at hb
        exact ⟨ha, hb⟩

namespace Game

variable {g : Game}

theorem step_keepsApart (hg : g.population.Consistent)
    (hrule : g.rules.ghostsBlockGhosts = true) :
    g.population.KeepsApart g.step.game.population := by
  have hboth : g.population.Consistent →
      g.step.game.population.Consistent ∧ g.population.KeepsApart g.step.game.population := by
    refine step_population_induction
      (R := fun p q => p.Consistent → q.Consistent ∧ p.KeepsApart q) ?_ ?_ ?_
    · exact fun p hp => ⟨hp, .refl p⟩
    · -- The views agree in between, too, and that is what the next move is checked against.
      intro p q r hpq hqr hp
      obtain ⟨hq, hfirst⟩ := hpq hp
      obtain ⟨hr, hsecond⟩ := hqr hq
      exact ⟨hr, hfirst.trans hsecond⟩
    · intro p a wish q o h hp
      exact ⟨h.consistent hp, h.keepsApart hp hrule⟩
  exact (hboth hg).2

/-- While the game is only played and steered its rules stay, and no two ghosts come together. -/
theorem after_keepsApart (hg : g.population.Consistent)
    (hrule : g.rules.ghostsBlockGhosts = true) {cs : List Command}
    (hcs : ∀ c ∈ cs, c.isPlay = true) : g.population.KeepsApart (g.after cs).population := by
  -- That ghosts stay apart needs the rule and the consistency, so all three are carried along.
  let Kept (g h : Game) : Prop := g.population.Consistent → g.rules.ghostsBlockGhosts = true →
    h.population.Consistent ∧ h.rules.ghostsBlockGhosts = true ∧
      g.population.KeepsApart h.population
  have hkept : Kept g (g.after cs) := by
    refine after_induction (R := Kept) ?_ ?_ ?_ ?_ hcs g
    · exact fun g hg hrule => ⟨hg, hrule, .refl _⟩
    · intro g h k hgh hhk hg hrule
      obtain ⟨hh, hrule', hfirst⟩ := hgh hg hrule
      obtain ⟨hk, hrule'', hsecond⟩ := hhk hh hrule'
      exact ⟨hk, hrule'', hfirst.trans hsecond⟩
    · intro g hg hrule
      exact ⟨consistent_step hg, by rwa [step_rules], step_keepsApart hg hrule⟩
    · -- A queued move is not made yet.
      intro g a d h hsteer hg hrule
      obtain ⟨-, rfl⟩ := steer_eq_ok_iff.1 hsteer
      exact ⟨hg, hrule, .refl _⟩
  exact (hkept hg hrule).2.2

/-- **Ghosts never meet.** Under the rule that ghosts block ghosts, two ghosts that share a tile
after a tick both stood there before it; after any play they share only a tile that they shared at
its start; and ghosts that start apart are apart for ever. -/
theorem ghosts_never_meet (hg : g.Reachable) (hrule : g.rules.ghostsBlockGhosts = true)
    (hab : a ≠ b) (ha : g.population.isGhost a = true) (hb : g.population.isGhost b = true) :
    (∀ report t, g.step.result = .ok report →
      g.step.game.population.tile? a = some t → g.step.game.population.tile? b = some t →
        g.population.tile? a = some t ∧ g.population.tile? b = some t) ∧
    (∀ cs, (∀ c ∈ cs, Command.isPlay c = true) → ∀ t,
      (g.after cs).population.tile? a = some t → (g.after cs).population.tile? b = some t →
        g.population.tile? a = some t ∧ g.population.tile? b = some t) ∧
    ((∀ t, ¬ (g.population.tile? a = some t ∧ g.population.tile? b = some t)) →
      ∀ cs, (∀ c ∈ cs, Command.isPlay c = true) → ∀ t,
        ¬ ((g.after cs).population.tile? a = some t ∧
          (g.after cs).population.tile? b = some t)) := by
  have hc := hg.coherent.consistent
  have hrun (cs : List Command) (hcs : ∀ c ∈ cs, Command.isPlay c = true) (t : TileId) :=
    (after_keepsApart hc hrule hcs).shared a b t hab ha hb
  refine ⟨fun _ t _ => (step_keepsApart hc hrule).shared a b t hab ha hb, hrun, ?_⟩
  intro hapart cs hcs t hmet
  exact hapart t (hrun cs hcs t hmet.1 hmet.2)

/-- The two ghosts of the ambush both make for the player, and only one of them gets there. -/
theorem ghosts_never_meet_ambush :
    ambush.rules.ghostsBlockGhosts = true ∧ ambush.population.isGhost ⟨1⟩ = true ∧
      ambush.population.isGhost ⟨2⟩ = true ∧
      (∀ t, ¬ (ambush.population.tile? ⟨1⟩ = some t ∧ ambush.population.tile? ⟨2⟩ = some t)) ∧
      ¬ ((ambush.after [.step, .steer ⟨2⟩ .west, .step]).population.tile? ⟨1⟩ = some ⟨1⟩ ∧
        (ambush.after [.step, .steer ⟨2⟩ .west, .step]).population.tile? ⟨2⟩ = some ⟨1⟩) := by
  have hapart (t : TileId) :
      ¬ (ambush.population.tile? ⟨1⟩ = some t ∧ ambush.population.tile? ⟨2⟩ = some t) := by
    have hne : ambush.population.tile? ⟨1⟩ ≠ ambush.population.tile? ⟨2⟩ := by decide
    intro hboth
    exact hne (hboth.1.trans hboth.2.symm)
  have hplays : ∀ c ∈ [Command.step, .steer ⟨2⟩ .west, .step], c.isPlay = true := by decide
  refine ⟨rfl, rfl, rfl, hapart, ?_⟩
  exact (ghosts_never_meet (a := ⟨1⟩) (b := ⟨2⟩) reachable_ambush rfl (by decide) rfl rfl).2.2
    hapart _ hplays ⟨1⟩

end Game

end MazeChase
