import MazeChase.Proofs.Chasers
import MazeChase.Proofs.Lineup
import MazeChase.Proofs.Record
import MazeChase.Proofs.Stoppage

/-!
# What chasers remember of their target

The target of a tick is the tile of the first player who stands somewhere, as it is before anybody
moves. An agent sees it in a tick if it decides by itself, stands somewhere and follows a behaviour
that chases. Whatever else is done to a game, nobody sees anything: an agent with an order is not
asked, one without a tile cannot decide, and the other behaviours do not look.

So what an agent remembers of its target can be read off the record of what was done: it is the tile
that the agent saw in the last tick in which it saw one. It does not matter what became of that
tick, since everybody decides before the first decision is looked at, nor where the player has gone
since.

## Main definitions

* `Population.Quarry` — the tile of the first player who stands somewhere
* `Deed.Sees` — an agent sees its target in a tick
* `LastSeen` — the target that an agent saw last, as the record tells it
* `Game.Recalls` — everybody remembers what they saw last

## Main results

* `Game.target_eq_some_iff` — the target of a game is its quarry
* `Game.lastTarget_perform` — what one more deed does to the memory of an agent
* `Game.Leads.lastSeen` — what is remembered is what was seen last, all along a record
* `Game.targets_recalled` — so it is at every moment of every history
-/

namespace MazeChase

variable {a b : AgentId} {t u : TileId} {v : View} {m : Memory} {seen seen' : Option TileId}

/-- Two entries at which a list is cut are the same, or one of them comes after the other. -/
theorem eq_or_mem_of_append_cons_eq {α : Type} {l₁ l₂ r₁ r₂ : List α} {x y : α}
    (h : l₁ ++ x :: r₁ = l₂ ++ y :: r₂) : x = y ∨ y ∈ r₁ ∨ x ∈ r₂ := by
  induction l₁ generalizing l₂ with
  | nil =>
    cases l₂ with
    | nil => exact .inl (List.cons.inj h).1
    | cons z l₂ =>
      obtain ⟨-, rfl⟩ := List.cons.inj h
      exact .inr (.inl (by simp))
  | cons z l₁ ih =>
    cases l₂ with
    | nil =>
      obtain ⟨-, rfl⟩ := List.cons.inj h
      exact .inr (.inr (by simp))
    | cons w l₂ => exact ih (List.cons.inj h).2

/-! ### Seeing -/

/-- Tile `t` is where the first player stands who stands somewhere. -/
def Population.Quarry (p : Population) (t : TileId) : Prop :=
  ∃ player : AgentId,
    player.IsFirst (fun b => p.kind? b = some .player ∧ (p.tile? b).isSome) ∧
      p.tile? player = some t

/-- Agent `a` sees its target on tile `t` when the deed is done. -/
structure Deed.Sees (deed : Deed) (a : AgentId) (t : TileId) : Prop where
  /-- A tick is tried. -/
  tick : deed.act = .tick
  /-- The agent has no order, -/
  unsteered : deed.game.steering[a.index]? = some none
  /-- it stands somewhere, -/
  placed : ∃ here, deed.game.population.tile? a = some here
  /-- and its kind ends up on a behaviour that chases. -/
  chases : ∃ k, deed.game.population.kind? a = some k ∧ (deed.game.strategy.leaf k).Chases
  /-- The target is where the first player stands before the tick. -/
  quarry : deed.game.population.Quarry t

/-- What agent `a` has seen last in the deeds of a log: nothing, or the tile that it saw in a deed
since which it has seen nothing. -/
def LastSeen (a : AgentId) (log : List Deed) : Option TileId → Prop
  | none => ∀ deed ∈ log, ∀ t, ¬ deed.Sees a t
  | some t => ∃ before deed later, log = before ++ deed :: later ∧ deed.Sees a t ∧
      ∀ d ∈ later, ∀ u, ¬ d.Sees a u

theorem Game.target_eq_some_iff {g : Game} : g.target = some t ↔ g.population.Quarry t := by
  have hplayers : (g.population.agentsOfKind .player).Pairwise fun a b => a.index < b.index :=
    g.population.pairwise_agentIds.filter _
  rw [target, findSome?_eq_some_iff_of_ascending hplayers]
  simp only [Population.mem_agentsOfKind]
  constructor
  · rintro ⟨player, hkind, htile, hbefore⟩
    refine ⟨player, ⟨⟨hkind, by simp [htile]⟩, ?_⟩, htile⟩
    rintro b hlt ⟨hb, hsome⟩
    simp [hbefore b hb hlt] at hsome
  · rintro ⟨player, hfirst, htile⟩
    refine ⟨player, hfirst.holds.1, htile, fun b hb hlt => ?_⟩
    exact Option.not_isSome_iff_eq_none.1 fun hsome => hfirst.before b hlt ⟨hb, hsome⟩

namespace Deed.Sees

variable {deed : Deed}

theorem target_eq (h : deed.Sees a t) : deed.game.target = some t :=
  Game.target_eq_some_iff.2 h.quarry

/-- In one tick nobody sees anything else than the others. -/
theorem eq (h : deed.Sees a t) (h' : deed.Sees b u) : t = u :=
  Option.some.inj (h.target_eq.symm.trans h'.target_eq)

end Deed.Sees

namespace LastSeen

variable {log before later : List Deed} {deed : Deed}

/-- Whoever sees something after which it sees nothing has seen that last. -/
theorem eq_some (h : LastSeen a (before ++ deed :: later) seen) (hsees : deed.Sees a t)
    (hsince : ∀ d ∈ later, ∀ u, ¬ d.Sees a u) : seen = some t := by
  cases seen with
  | none => exact absurd hsees (h deed (by simp) t)
  | some u =>
    obtain ⟨before', deed', later', hsplit, hsees', hsince'⟩ := h
    obtain rfl | hlater | hlater := eq_or_mem_of_append_cons_eq hsplit
    · rw [hsees.eq hsees']
    · exact absurd hsees' (hsince deed' hlater u)
    · exact absurd hsees (hsince' deed hlater t)

theorem unique (h : LastSeen a log seen) (h' : LastSeen a log seen') : seen = seen' := by
  cases seen' with
  | some t =>
    obtain ⟨before, deed, later, rfl, hsees, hsince⟩ := h'
    exact h.eq_some hsees hsince
  | none =>
    cases seen with
    | none => rfl
    | some t =>
      obtain ⟨before, deed, later, rfl, hsees, -⟩ := h
      exact absurd hsees (h' deed (by simp) t)

/-- One more deed counts if the agent sees something in it, and else leaves what was seen last. -/
theorem append_singleton (h : LastSeen a log seen) (hsees : ∀ t, deed.Sees a t → seen' = some t)
    (hblind : (∀ t, ¬ deed.Sees a t) → seen' = seen) : LastSeen a (log ++ [deed]) seen' := by
  by_cases hdeed : ∃ t, deed.Sees a t
  · obtain ⟨t, ht⟩ := hdeed
    rw [hsees t ht]
    exact ⟨log, deed, [], rfl, ht, by simp⟩
  · -- The new deed shows nothing, so it only makes what was seen last a little older.
    rw [not_exists] at hdeed
    rw [hblind hdeed]
    cases seen with
    | none =>
      intro d hd
      obtain hd | hd := List.mem_append.1 hd
      · exact h d hd
      · rwa [List.mem_singleton.1 hd]
    | some t =>
      obtain ⟨before, deed', later, rfl, hsees', hsince⟩ := h
      refine ⟨before, deed', later ++ [deed], by simp, hsees', fun d hd => ?_⟩
      obtain hd | hd := List.mem_append.1 hd
      · exact hsince d hd
      · rwa [List.mem_singleton.1 hd]

end LastSeen

/-! ### Remembering -/

namespace Behavior

variable {c : Behavior}

/-- A chaser notes the target if there is one. -/
theorem lastTarget_decide_of_chases (hc : c.Chases) (ht : v.tileOf a = .ok t) (m : Memory) :
    (c.decide a v m).2.lastTarget = v.target.or m.lastTarget := by
  rw [decide_of_chases hc ht, lastTarget_headFor]
  rfl

/-- Nobody else looks for it. -/
theorem lastTarget_decide_of_not_chases (hs : c.isStandard = true) (hc : ¬ c.Chases) (m : Memory) :
    (c.decide a v m).2.lastTarget = m.lastTarget := by
  cases ht : v.tileOf a with
  | error e => rw [decide_of_error hs ht]
  | ok t =>
    cases c with
    | idle => rw [decide, DecisionRule.fromTile_of_ok ht]
    | wander =>
      rw [decide, DecisionRule.fromTile_of_ok ht]
      rfl
    | pursue => exact absurd .pursue hc
    | shy rule => exact absurd (.shy rule) hc
    | custom rule => cases hs

end Behavior

namespace Game

variable {g h : Game} {log : List Deed}

/-- In a tick an agent notes what it sees, whatever becomes of the tick. -/
theorem lastTarget_step (hg : g.Coherent) (hs : g.strategy.isStandard = true)
    (hm : g.memories[a.index]? = some m) :
    ∃ m', g.step.game.memories[a.index]? = some m' ∧
      (∀ t, (Deed.mk g .tick).Sees a t → m'.lastTarget = some t) ∧
      ((∀ t, ¬ (Deed.mk g .tick).Sees a t) → m'.lastTarget = m.lastTarget) := by
  have ha : a.index < g.population.count :=
    hg.length_memories ▸ (List.getElem?_eq_some_iff.1 hm).1
  obtain ⟨-, queued, -, hq⟩ := hg.exists_state ha
  obtain ⟨k, hk⟩ := Population.exists_kind? ha
  have hafter := getElem?_memoriesAfter hm hq
  rw [← step_memories] at hafter
  refine ⟨_, hafter, ?_⟩
  cases queued with
  | some d =>
    -- An order is followed without a look at the world.
    refine ⟨fun t hsees => ?_, fun _ => rfl⟩
    exact absurd (hq.symm.trans hsees.unsteered) (by simp)
  | none =>
    rw [decide, Strategy.decide_eq_leaf (v := g.view) hk]
    by_cases hchases : (g.strategy.leaf k).Chases
    · cases htile : g.population.tile? a with
      | none =>
        have hout : g.view.tileOf a = .error (.unplaced a) := by simp [View.tileOf, view, hk, htile]
        rw [Behavior.decide_of_error (Strategy.isStandard_leaf hs k) hout]
        refine ⟨fun t hsees => ?_, fun _ => rfl⟩
        obtain ⟨here, hhere⟩ := hsees.placed
        exact absurd (htile.symm.trans hhere) (by simp)
      | some here =>
        rw [Behavior.lastTarget_decide_of_chases hchases
          (View.tileOf_of_tile? (v := g.view) htile)]
        refine ⟨fun t hsees => ?_, fun hblind => ?_⟩
        · exact congrArg (·.or m.lastTarget) hsees.target_eq
        · have hnone : g.view.target = none := Option.eq_none_iff_forall_ne_some.2 fun t ht =>
            hblind t ⟨rfl, hq, ⟨here, htile⟩, ⟨k, hk, hchases⟩, target_eq_some_iff.1 ht⟩
          rw [hnone, Option.none_or]
    · rw [Behavior.lastTarget_decide_of_not_chases (Strategy.isStandard_leaf hs k) hchases]
      refine ⟨fun t hsees => ?_, fun _ => rfl⟩
      obtain ⟨l, hl, hchases'⟩ := hsees.chases
      obtain rfl : k = l := Option.some.inj (hk.symm.trans hl)
      exact absurd hchases' hchases

/-- So it is with every act, since nobody sees anything but in a tick. -/
theorem lastTarget_perform (hg : g.Coherent) (hs : g.strategy.isStandard = true) (act : Act)
    (hm : g.memories[a.index]? = some m) :
    ∃ m', (g.perform act).memories[a.index]? = some m' ∧
      (∀ t, (Deed.mk g act).Sees a t → m'.lastTarget = some t) ∧
      ((∀ t, ¬ (Deed.mk g act).Sees a t) → m'.lastTarget = m.lastTarget) := by
  cases act with
  | tick => exact lastTarget_step hg hs hm
  | steer b d =>
    refine ⟨m, ?_, fun t hsees => (by cases hsees.tick), fun _ => rfl⟩
    rw [perform, Act.command, obey_steer]
    exact hm
  | change c => exact ⟨m, hm, fun t hsees => (by cases hsees.tick), fun _ => rfl⟩

theorem Leads.strategy_eq (hlog : g.Leads log h) : h.strategy = g.strategy :=
  hlog.induction (R := fun g h => h.strategy = g.strategy) (fun _ => rfl)
    (fun h h' => h'.trans h) fun g act => strategy_obey g act.command

/-- All along a record an agent remembers what it has seen last. -/
theorem Leads.lastSeen (hlog : g.Leads log h) (hg : g.Coherent)
    (hs : g.strategy.isStandard = true) (before : List Deed)
    (hm : g.memories[a.index]? = some m) (hseen : LastSeen a before m.lastTarget) :
    ∃ m', h.memories[a.index]? = some m' ∧ LastSeen a (before ++ log) m'.lastTarget := by
  -- The deeds before have to stay free: each deed that is done joins them.
  induction hlog generalizing before m with
  | nil g => exact ⟨m, hm, by rwa [List.append_nil]⟩
  | @cons g h act log _ ih =>
    obtain ⟨m', hm', hsees, hblind⟩ := lastTarget_perform hg hs act hm
    have hstandard : (g.perform act).strategy.isStandard = true := by
      rw [perform, strategy_obey, hs]
    have hrest := ih (hg.obey act.command) hstandard _ hm' (hseen.append_singleton hsees hblind)
    rwa [List.append_assoc, List.singleton_append] at hrest

/-- In a game that was reached by the deeds of a log everybody remembers what they have seen last,
and nothing else. -/
def Recalls (g : Game) (log : List Deed) : Prop :=
  ∀ a : AgentId, a.index < g.population.count →
    ∃ m, g.memories[a.index]? = some m ∧ ∀ seen, m.lastTarget = seen ↔ LastSeen a log seen

end Game

/-- Those who see something when a deed is done see one and the same tile, and they remember it
right after it, whatever came of it. -/
structure Deed.Informs (deed : Deed) : Prop where
  alike : ∀ a b t u, deed.Sees a t → deed.Sees b u → t = u
  noted : ∀ a t, deed.Sees a t →
    ∃ m, deed.game.step.game.memories[a.index]? = some m ∧ m.lastTarget = some t

namespace Game

variable {g h : Game} {log : List Deed}

/-- **What is remembered of the target is what was seen last.** In every game that was set up with
memories of no target and with standard behaviours, every agent remembers at every moment of every
history what it has seen last: before each single tick of each run as well as at the end. Those who
see the target in one tick see the tile on which it stood before, whatever their identifiers, and
they remember it even if the tick is called off. -/
theorem targets_recalled {s : Setup} (hs : s.population.Reachable) (hg : s.build = .ok g)
    (hfresh : ∀ m ∈ s.memories, m.lastTarget = none) (hstandard : s.strategy.isStandard = true)
    (cs : List Command) :
    g.Leads (g.record cs) (g.after cs) ∧ (g.after cs).Recalls (g.record cs) ∧
      ∀ before deed later, g.record cs = before ++ deed :: later →
        deed.game.Recalls before ∧ deed.Informs := by
  have hcoherent : g.Coherent := coherent_of_build hs.consistent hg
  obtain ⟨hmemories, hstrategy⟩ : g.memories = s.memories ∧ g.strategy = s.strategy := by
    obtain ⟨-, population, -, -, rfl⟩ := Setup.build_eq_ok_iff.1 hg
    exact ⟨rfl, rfl⟩
  rw [← hmemories] at hfresh
  rw [← hstrategy] at hstandard
  have hrecalls {log : List Deed} {h : Game} (hlog : g.Leads log h) : h.Recalls log := by
    intro a ha
    rw [hlog.count_eq, ← hcoherent.length_memories] at ha
    have hm := List.getElem?_eq_getElem ha
    have hnever : LastSeen a [] g.memories[a.index].lastTarget := by
      rw [hfresh _ (List.getElem_mem ha)]
      exact fun deed hdeed => absurd hdeed List.not_mem_nil
    obtain ⟨m', hm', hseen⟩ := hlog.lastSeen hcoherent hstandard [] hm hnever
    refine ⟨m', hm', fun seen => ⟨?_, fun h => hseen.unique h⟩⟩
    rintro rfl
    exact hseen
  have hrecord := leads_record g cs
  refine ⟨hrecord, hrecalls hrecord, fun before deed later h => ?_⟩
  rw [h] at hrecord
  have hbefore := hrecord.split
  refine ⟨hrecalls hbefore, fun _ _ _ _ hsees hsees' => hsees.eq hsees', fun a t hsees => ?_⟩
  have hgame : deed.game.Coherent := hbefore.coherent hcoherent
  obtain ⟨here, hhere⟩ := hsees.placed
  have ha : a.index < deed.game.memories.length :=
    hgame.length_memories ▸ Population.lt_count_of_tile? hhere
  obtain ⟨m, hm, hnotes, -⟩ := lastTarget_step hgame
    (by rw [hbefore.strategy_eq, hstandard]) (List.getElem?_eq_getElem ha)
  obtain ⟨game, act⟩ := deed
  obtain rfl : act = .tick := hsees.tick
  exact ⟨m, hm, hnotes t hsees⟩

/-- Pinky is taken off the board for the time of one tick, which is called off. Then the player is
moved to the first tile and Blinky, who stands there, gets an order for the next tick. -/
def diversion : List Command :=
  [.change (.vacate ⟨2⟩), .step, .change (.occupy ⟨2⟩ ⟨2⟩), .change (.occupy ⟨0⟩ ⟨0⟩),
    .steer ⟨1⟩ .east, .step]

/-- Blinky sees the player in the tick that is called off and not in the next one, and remembers the
middle tile. Pinky decides in the second tick only, and remembers the first tile. The player, who
does not chase, sees nothing. -/
theorem targets_recalled_ambush :
    Setup.ambush.population.Reachable ∧ Setup.ambush.build = .ok ambush ∧
      (∀ m ∈ Setup.ambush.memories, m.lastTarget = none) ∧
      Setup.ambush.strategy.isStandard = true ∧
      (ambush.after diversion).memories.map Memory.lastTarget = [none, some ⟨1⟩, some ⟨0⟩] ∧
      LastSeen ⟨0⟩ (ambush.record diversion) none ∧
      LastSeen ⟨1⟩ (ambush.record diversion) (some ⟨1⟩) ∧
      LastSeen ⟨2⟩ (ambush.record diversion) (some ⟨0⟩) ∧
      ∃ deed ∈ ambush.record diversion,
        deed.game.step.result = .error (.decision (.unplaced ⟨2⟩)) ∧ deed.Sees ⟨1⟩ ⟨1⟩ ∧
        ∃ m, deed.game.step.game.memories[1]? = some m ∧ m.lastTarget = some ⟨1⟩ := by
  have hreachable : Setup.ambush.population.Reachable := .ofKinds _ _
  have hfresh : ∀ m ∈ Setup.ambush.memories, m.lastTarget = none := by decide
  obtain ⟨hleads, hrecalls, hdeeds⟩ :=
    targets_recalled hreachable Setup.build_ambush hfresh rfl diversion
  have hlast (a : AgentId) (seen : Option TileId) (ha : a.index < ambush.population.count)
      (hseen : (ambush.after diversion).memories[a.index]?.map Memory.lastTarget = some seen) :
      LastSeen a (ambush.record diversion) seen := by
    obtain ⟨m, hm, hiff⟩ := hrecalls a (hleads.count_eq ▸ ha)
    rw [hm] at hseen
    exact (hiff seen).1 (Option.some.inj hseen)
  obtain ⟨later, hrecord⟩ : ∃ later, ambush.record diversion = [⟨ambush, .change (.vacate ⟨2⟩)⟩] ++
      ⟨ambush.obey (.change (.vacate ⟨2⟩)), .tick⟩ :: later := ⟨_, rfl⟩
  have hsees : (Deed.mk (ambush.obey (.change (.vacate ⟨2⟩))) .tick).Sees ⟨1⟩ ⟨1⟩ :=
    ⟨rfl, rfl, ⟨⟨0⟩, rfl⟩, ⟨.blinky, rfl, .pursue⟩,
      ⟨⟨0⟩, ⟨⟨rfl, rfl⟩, fun b hlt => absurd hlt (Nat.not_lt_zero _)⟩, rfl⟩⟩
  refine ⟨hreachable, Setup.build_ambush, hfresh, rfl, rfl, hlast _ _ (by decide) rfl,
    hlast _ _ (by decide) rfl, hlast _ _ (by decide) rfl, _, ?_, rfl, hsees,
    (hdeeds _ _ _ hrecord).2.noted _ _ hsees⟩
  rw [hrecord]
  exact List.mem_append_right _ List.mem_cons_self

end Game

end MazeChase
