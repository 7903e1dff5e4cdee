import Mathlib.Data.List.Induction
import MazeChase.Proofs.Readiness

/-!
# What an agent decides

A standard behaviour never proposes a step that is not open, and an agent that wants to move stays
only if no step is. Two different selectors are behind this, the greedy step and the random one, and
a behaviour may try the first and fall back on the second; but each of them chooses among the open
directions, and the last one tried gives up only where there are none. So what is said of a single
choice holds of every behaviour but the idle one, and by induction of all strategies inside one
another: the kind of the agent picks a path through them, and the behaviour at its end decides.

Before anything is chosen the agent has to have a tile. Without one the decision fails, and nothing
is drawn and nothing remembered.

## Main definitions

* `MoveGraph.Choice` — an open direction, or none where none is open
* `MoveGraph.closerSteps` — the steps among which a greedy one is chosen

## Main results

* `MoveGraph.choice_randomMove`, `MoveGraph.mem_of_stepToward` — what the selectors choose
* `MoveGraph.exists_of_closest` — the first of the least entries of a list
* `MoveGraph.closer_of_stepToward`, `MoveGraph.exists_stepToward` — greedy steps come closer
* `Behavior.choice_decide` — every behaviour but the idle one makes a choice
* `Strategy.behavior?_assignAll` — of several entries for a kind the last one counts
* `Strategy.decide_sound_complete` — when a decision fails, and what it is if it does not
-/

namespace MazeChase

variable {a : AgentId} {t u : TileId} {d : Direction} {k : AgentKind} {v : View} {m : Memory}

/-! ### Choosing among open directions -/

namespace MoveGraph

variable {g : MoveGraph}

/-- What an agent on tile `t` may choose: an open direction, or to stay if no direction is open. -/
inductive Choice (g : MoveGraph) (t : TileId) (a : AgentId) : Option Direction → Prop
  | go {d : Direction} (h : d ∈ g.directions t a) : Choice g t a (some d)
  | trapped (h : g.directions t a = []) : Choice g t a none

theorem directions_eq_nil_iff :
    g.directions t a = [] ↔ ∀ d u, g.neighbor t d = some u → g.accessible u a = false := by
  rw [List.eq_nil_iff_forall_not_mem]
  refine forall_congr' fun d => ?_
  simp [mem_directions, step?_eq_some_iff]

theorem Choice.eq_none_iff {wish : Option Direction} (h : g.Choice t a wish) :
    wish = none ↔ g.directions t a = [] := by
  cases h with
  | go hd =>
    have hne : g.directions t a ≠ [] := List.ne_nil_of_mem hd
    simp [hne]
  | trapped hnil => simp [hnil]

theorem Choice.exists_neighbor (h : g.Choice t a (some d)) :
    ∃ u, g.neighbor t d = some u ∧ g.accessible u a = true := by
  obtain ⟨hd⟩ := h
  obtain ⟨u, hu⟩ := mem_directions.1 hd
  exact ⟨u, step?_eq_some_iff.1 hu⟩

/-- Whatever is drawn, a random move is a choice: the number drawn is below the number of open
directions, so it always names one of them. -/
theorem choice_randomMove {σ : Type} [WordSource σ] (g : MoveGraph) (t : TileId) (a : AgentId)
    (s : σ) : g.Choice t a (g.randomMove t a s).1 := by
  cases h : (g.randomMove t a s).1 with
  | some d => exact .go (mem_of_randomMove h)
  | none =>
    refine .trapped ?_
    simp only [randomMove, randomMoveWithin] at h
    split at h
    · assumption
    · cases h
    · next hne _ =>
      have hpos : 0 < (g.directions t a).length := List.length_pos_of_ne_nil hne
      have hlt : (Uniform.belowWithin Uniform.drawLimit (g.directions t a).length s).1 <
          (g.directions t a).length := Uniform.belowWithin_lt s hpos
      exact absurd (List.getElem?_eq_none_iff.1 h) (Nat.not_le_of_lt hlt)

theorem closest_eq_none_iff {es : List (UInt32 × Direction)} : closest es = none ↔ es = [] := by
  cases es with
  | nil => simp [closest]
  | cons first rest =>
    simp only [closest, reduceCtorEq, iff_false]
    split
    · nofun
    · split <;> nofun

/-- The entry that is found is less than all entries before it, and no more than those after it. -/
theorem exists_of_closest {es : List (UInt32 × Direction)} {e : UInt32 × Direction}
    (h : closest es = some e) :
    ∃ before after, es = before ++ e :: after ∧
      (∀ e' ∈ before, e.1 < e'.1) ∧ ∀ e' ∈ after, e.1 ≤ e'.1 := by
  induction es generalizing e with
  | nil => cases h
  | cons first rest ih =>
    simp only [closest] at h
    split at h
    · next hnone =>
      obtain rfl := Option.some.inj h
      exact ⟨[], rest, rfl, by simp, by simp [closest_eq_none_iff.1 hnone]⟩
    · next best hbest =>
      obtain ⟨before, after, hrest, hbefore, hafter⟩ := ih hbest
      split at h
      · next hless =>
        obtain rfl := Option.some.inj h
        refine ⟨first :: before, after, by rw [hrest, List.cons_append], ?_, hafter⟩
        exact List.forall_mem_cons.2 ⟨hless, hbefore⟩
      · next hleast =>
        -- The first entry is no more than the best of the others, and so no more than any of them.
        obtain rfl := Option.some.inj h
        have hfirst : first.1 ≤ best.1 := UInt32.not_lt.1 hleast
        refine ⟨[], rest, rfl, by simp, fun e' he' => UInt32.le_trans hfirst ?_⟩
        rw [hrest, List.mem_append, List.mem_cons] at he'
        rcases he' with hmem | rfl | hmem
        · exact UInt32.le_of_lt (hbefore e' hmem)
        · exact UInt32.le_refl _
        · exact hafter e' hmem

theorem mem_of_closest {es : List (UInt32 × Direction)} {e : UInt32 × Direction}
    (h : closest es = some e) : e ∈ es := by
  obtain ⟨before, after, rfl, -, -⟩ := exists_of_closest h
  exact List.mem_append_right before List.mem_cons_self

variable {distance : TileId → TileId → Option UInt32} {goal : TileId} {here there : UInt32}

/-- The open directions in which the distance to the goal is less than `here`, each with that
distance. -/
def closerSteps (g : MoveGraph) (distance : TileId → TileId → Option UInt32) (t goal : TileId)
    (a : AgentId) (here : UInt32) : List (UInt32 × Direction) :=
  Direction.all.filterMap fun d => do
    let u ← g.step? t d a
    let there ← distance u goal
    if there < here then some (there, d) else none

theorem stepToward_eq (g : MoveGraph) (distance : TileId → TileId → Option UInt32)
    (t goal : TileId) (a : AgentId) :
    g.stepToward distance t goal a =
      (distance t goal).bind fun here =>
        (closest (g.closerSteps distance t goal a here)).map Prod.snd := by
  simp only [stepToward, closerSteps, Option.bind_eq_bind]
  refine congrArg _ (funext fun here => ?_)
  generalize closest _ = best
  cases best <;> rfl

theorem mem_closerSteps :
    (there, d) ∈ g.closerSteps distance t goal a here ↔
      there < here ∧ ∃ u, g.step? t d a = some u ∧ distance u goal = some there := by
  simp only [closerSteps, List.mem_filterMap, Option.bind_eq_bind, Option.bind_eq_some_iff,
    Option.ite_none_right_eq_some, Option.some.injEq, Prod.mk.injEq]
  constructor
  · rintro ⟨_, -, u, hu, _, hthere, hcloser, rfl, rfl⟩
    exact ⟨hcloser, u, hu, hthere⟩
  · rintro ⟨hcloser, u, hu, hthere⟩
    exact ⟨d, Direction.mem_all d, u, hu, there, hthere, hcloser, rfl, rfl⟩

/-- A greedy step comes closer. -/
theorem closer_of_stepToward (h : g.stepToward distance t goal a = some d) :
    ∃ u here there, g.step? t d a = some u ∧ distance t goal = some here ∧
      distance u goal = some there ∧ there < here := by
  rw [stepToward_eq, Option.bind_eq_some_iff] at h
  obtain ⟨here, hhere, hchosen⟩ := h
  obtain ⟨⟨there, d'⟩, hbest, rfl⟩ := Option.map_eq_some_iff.1 hchosen
  obtain ⟨hcloser, u, hu, hthere⟩ := mem_closerSteps.1 (mem_of_closest hbest)
  exact ⟨u, here, there, hu, hhere, hthere, hcloser⟩

/-- If some step comes closer there is a greedy step. -/
theorem exists_stepToward {u : TileId} (hhere : distance t goal = some here)
    (hu : g.step? t d a = some u) (hthere : distance u goal = some there) (hcloser : there < here) :
    ∃ d', g.stepToward distance t goal a = some d' := by
  rw [stepToward_eq, hhere, Option.bind_some]
  have hmem := mem_closerSteps.2 ⟨hcloser, u, hu, hthere⟩
  cases hbest : closest (g.closerSteps distance t goal a here) with
  | none =>
    rw [closest_eq_none_iff.1 hbest] at hmem
    cases hmem
  | some best => exact ⟨best.2, rfl⟩

/-- A greedy step goes in an open direction. -/
theorem mem_of_stepToward (h : g.stepToward distance t goal a = some d) :
    d ∈ g.directions t a := by
  obtain ⟨u, -, -, hu, -⟩ := closer_of_stepToward h
  exact mem_directions.2 ⟨u, hu⟩

end MoveGraph

/-! ### Behaviours -/

namespace View

/-- An agent without a kind has no tile either. -/
theorem tileOf_eq_ok_iff : v.tileOf a = .ok t ↔ v.population.tile? a = some t := by
  constructor
  · intro h
    simp only [tileOf] at h
    split at h
    · cases h
    · split at h
      · cases h
      · next ht => rwa [← Except.ok.inj h]
  · exact tileOf_of_tile?

theorem tileOf_eq_error_iff {e : DecisionError} :
    v.tileOf a = .error e ↔
      v.population.kind? a = none ∧ e = .agentNotFound a ∨
        (v.population.kind? a).isSome ∧ v.population.tile? a = none ∧ e = .unplaced a := by
  simp only [tileOf]
  cases v.population.kind? a with
  | none => simp [eq_comm]
  | some k => cases v.population.tile? a <;> simp [eq_comm]

end View

theorem DecisionRule.fromTile_of_error
    {rule : AgentId → View → Memory → TileId → Option Direction × Memory} {e : DecisionError}
    (h : v.tileOf a = .error e) (m : Memory) : fromTile rule a v m = (.error e, m) := by
  simp only [fromTile, h]

namespace Behavior

theorem choice_wanderFrom (a : AgentId) (v : View) (m : Memory) (t : TileId) :
    v.graph.Choice t a (wanderFrom a v m t).1 :=
  MoveGraph.choice_randomMove v.graph t a m.generator

/-- Toward a goal or not, an agent that heads for something makes a choice. -/
theorem choice_headFor (goal : Option TileId) (a : AgentId) (v : View) (m : Memory) (t : TileId) :
    v.graph.Choice t a (headFor goal a v m t).1 := by
  simp only [headFor]
  split
  · next d h =>
    obtain ⟨u, -, hu⟩ := Option.bind_eq_some_iff.1 h
    exact .go (MoveGraph.mem_of_stepToward hu)
  · exact choice_wanderFrom a v m t

/-- Without a tile a standard behaviour fails, and the memory stays as it is. -/
theorem decide_of_error {b : Behavior} (hb : b.isStandard = true) {e : DecisionError}
    (h : v.tileOf a = .error e) (m : Memory) : b.decide a v m = (.error e, m) := by
  cases b with
  | custom rule => cases hb
  | _ => rw [decide, DecisionRule.fromTile_of_error h]

/-- On a tile every standard behaviour but the idle one makes a choice. -/
theorem choice_decide {b : Behavior} (hb : b.isStandard = true) (hidle : b ≠ .idle)
    (h : v.tileOf a = .ok t) (m : Memory) :
    ∃ wish, (b.decide a v m).1 = .ok wish ∧ v.graph.Choice t a wish := by
  cases b with
  | idle => exact absurd rfl hidle
  | wander =>
    rw [decide, DecisionRule.fromTile_of_ok h]
    exact ⟨_, rfl, choice_wanderFrom a v m t⟩
  | pursue =>
    rw [decide, DecisionRule.fromTile_of_ok h]
    exact ⟨_, rfl, choice_headFor _ a v _ t⟩
  | shy rule =>
    rw [decide, DecisionRule.fromTile_of_ok h]
    exact ⟨_, rfl, choice_headFor _ a v _ t⟩
  | custom rule => cases hb

end Behavior

/-! ### Strategies -/

namespace Strategy

variable {s : Strategy}

/-- Of several entries for a kind the last one counts, and without one the others decide as if there
were no entries. -/
theorem behavior?_assignAll (entries : List (AgentKind × Strategy)) (s : Strategy) (k : AgentKind) :
    (assignAll entries s).behavior? k =
      match (entries.filter fun entry => entry.1 = k).getLast? with
      | some entry => entry.2.behavior? k
      | none => s.behavior? k := by
  induction entries using List.reverseRecOn with
  | nil => rfl
  | append_singleton entries entry ih =>
    have hlast : assignAll (entries ++ [entry]) s =
        (assignAll entries s).assign entry.1 entry.2 := by
      simp [assignAll]
    rw [hlast, behavior?, ih, List.filter_append]
    by_cases hk : k = entry.1
    · simp [hk]
    · simp [hk, Ne.symm hk]

/-- Without a tile a strategy of standard behaviours fails, and the memory stays as it is. Whether
the agent is unknown is noticed by the strategy or, at the end of the path, by the behaviour. -/
theorem decide_of_error (hs : s.isStandard = true) {e : DecisionError}
    (h : v.tileOf a = .error e) (m : Memory) : s.decide a v m = (.error e, m) := by
  cases hk : v.population.kind? a with
  | some k =>
    rw [decide_eq_leaf hk]
    exact Behavior.decide_of_error (isStandard_leaf hs k) h m
  | none =>
    cases s with
    | uniform behavior => exact Behavior.decide_of_error hs h m
    | unassigned => exact Behavior.decide_of_error (b := .idle) rfl h m
    | assign rest kind chosen =>
      obtain rfl : .agentNotFound a = e := by simpa [View.tileOf, hk] using h
      simp only [decide, hk]

theorem leaf_eq_idle_iff :
    s.leaf k = .idle ↔ s.behavior? k = none ∨ s.behavior? k = some .idle := by
  rw [leaf]
  cases s.behavior? k <;> simp

/-- On a tile an agent that ends up idle stays, and any other makes a choice. -/
theorem decide_of_tile (hs : s.isStandard = true) (hk : v.population.kind? a = some k)
    (ht : v.tileOf a = .ok t) (m : Memory) :
    ∃ wish, (s.decide a v m).1 = .ok wish ∧
      (s.leaf k = .idle ∧ wish = none ∨ s.leaf k ≠ .idle ∧ v.graph.Choice t a wish) := by
  rw [decide_eq_leaf hk]
  by_cases hidle : s.leaf k = .idle
  · refine ⟨none, ?_, .inl ⟨hidle, rfl⟩⟩
    rw [hidle, Behavior.decide, DecisionRule.fromTile_of_ok ht]
  · obtain ⟨wish, hwish, hchoice⟩ := Behavior.choice_decide (isStandard_leaf hs k) hidle ht m
    exact ⟨wish, hwish, .inr ⟨hidle, hchoice⟩⟩

theorem decide_eq_error_iff (hs : s.isStandard = true) {e : DecisionError} :
    (s.decide a v m).1 = .error e ↔ v.tileOf a = .error e := by
  cases htile : v.tileOf a with
  | error cause =>
    rw [decide_of_error hs htile]
    simp
  | ok t =>
    obtain ⟨k, hk⟩ := Population.exists_kind?
      (Population.lt_count_of_tile? (View.tileOf_eq_ok_iff.1 htile))
    obtain ⟨wish, hwish, -⟩ := decide_of_tile hs hk htile m
    simp [hwish]

/-- Whoever comes to a decision is known and has a tile. -/
theorem exists_tile_of_decide (hs : s.isStandard = true) {wish : Option Direction}
    (h : (s.decide a v m).1 = .ok wish) :
    ∃ k t, v.population.kind? a = some k ∧ v.tileOf a = .ok t ∧
      (s.leaf k = .idle ∧ wish = none ∨ s.leaf k ≠ .idle ∧ v.graph.Choice t a wish) := by
  cases htile : v.tileOf a with
  | error e =>
    rw [decide_of_error hs htile] at h
    cases h
  | ok t =>
    obtain ⟨k, hk⟩ := Population.exists_kind?
      (Population.lt_count_of_tile? (View.tileOf_eq_ok_iff.1 htile))
    obtain ⟨wish', hwish', hchoice⟩ := decide_of_tile hs hk htile m
    obtain rfl : wish' = wish := Except.ok.inj (hwish'.symm.trans h)
    exact ⟨k, t, hk, rfl, hchoice⟩

theorem exists_neighbor_of_decide (hs : s.isStandard = true)
    (h : (s.decide a v m).1 = .ok (some d)) :
    ∃ t u, v.population.tile? a = some t ∧ v.board.neighbor t d = some u ∧
      v.accessible u a = true := by
  obtain ⟨k, t, -, ht, ⟨-, hstays⟩ | ⟨-, hchoice⟩⟩ := exists_tile_of_decide hs h
  · cases hstays
  · obtain ⟨u, hu, hopen⟩ := hchoice.exists_neighbor
    exact ⟨t, u, View.tileOf_eq_ok_iff.1 ht, hu, hopen⟩

theorem decide_eq_none_iff (hs : s.isStandard = true) :
    (s.decide a v m).1 = .ok none ↔
      ∃ k t, v.population.kind? a = some k ∧ v.population.tile? a = some t ∧
        (s.behavior? k = none ∨ s.behavior? k = some .idle ∨
          ∀ d u, v.board.neighbor t d = some u → v.accessible u a = false) := by
  simp only [← or_assoc, ← leaf_eq_idle_iff, ← View.tileOf_eq_ok_iff]
  constructor
  · intro h
    obtain ⟨k, t, hk, ht, ⟨hidle, -⟩ | ⟨-, hchoice⟩⟩ := exists_tile_of_decide hs h
    · exact ⟨k, t, hk, ht, .inl hidle⟩
    · have htrapped := hchoice.eq_none_iff.1 rfl
      exact ⟨k, t, hk, ht, .inr (MoveGraph.directions_eq_nil_iff.1 htrapped)⟩
  · rintro ⟨k, t, hk, ht, hstays⟩
    obtain ⟨wish, hwish, ⟨-, rfl⟩ | ⟨hidle, hchoice⟩⟩ := decide_of_tile hs hk ht m
    · exact hwish
    · -- The agent is not idle, so it stays because no direction is open.
      have hshut := hstays.resolve_left hidle
      obtain rfl : wish = none :=
        hchoice.eq_none_iff.2 (MoveGraph.directions_eq_nil_iff.2 hshut)
      exact hwish

/-- **Decisions are sound and complete.** A strategy made of standard behaviours, however they are
nested, fails exactly for an agent that is unknown or stands nowhere, and then leaves the memory as
it is; a direction that it names leads to a tile that the agent may enter; and it lets the agent
stay exactly if the kind of the agent ends up idle or without a behaviour, or if no direction is
open. -/
theorem decide_sound_complete (hs : s.isStandard = true) (a : AgentId) (v : View) (m : Memory) :
    (∀ e, (s.decide a v m).1 = .error e ↔
      v.population.kind? a = none ∧ e = .agentNotFound a ∨
        (v.population.kind? a).isSome ∧ v.population.tile? a = none ∧ e = .unplaced a) ∧
    (∀ e, (s.decide a v m).1 = .error e → (s.decide a v m).2 = m) ∧
    (∀ d, (s.decide a v m).1 = .ok (some d) →
      ∃ t u, v.population.tile? a = some t ∧ v.board.neighbor t d = some u ∧
        v.accessible u a = true) ∧
    ((s.decide a v m).1 = .ok none ↔
      ∃ k t, v.population.kind? a = some k ∧ v.population.tile? a = some t ∧
        (s.behavior? k = none ∨ s.behavior? k = some .idle ∨
          ∀ d u, v.board.neighbor t d = some u → v.accessible u a = false)) := by
  refine ⟨?_, ?_, fun d => exists_neighbor_of_decide hs, decide_eq_none_iff hs⟩
  · intro e
    rw [decide_eq_error_iff hs, View.tileOf_eq_error_iff]
  · intro e he
    rw [decide_of_error hs ((decide_eq_error_iff hs).1 he)]

/-- A strategy for ghosts inside another one. In it Blinky was idle at first and pursues now. -/
def nested : Strategy :=
  assignAll [(.player, .uniform .idle), (.blinky, assignAll
    [(.blinky, .uniform .idle), (.pinky, .uniform .wander), (.blinky, .uniform .pursue)]
    unassigned)] unassigned

/-- A ghost that was never placed cannot decide; in the ambush Blinky goes east, where it may go,
and Pinky, for whom the outer strategy has no entry, stays. -/
theorem decide_sound_complete_nested :
    nested.isStandard = true ∧
      (nested.decide ⟨1⟩ Game.stray.view (.forAgent 0 ⟨1⟩)).1 = .error (.unplaced ⟨1⟩) ∧
      (nested.decide ⟨1⟩ Game.stray.view (.forAgent 0 ⟨1⟩)).2 = .forAgent 0 ⟨1⟩ ∧
      (nested.decide ⟨1⟩ Game.ambush.view (.forAgent 0 ⟨1⟩)).1 = .ok (some .east) ∧
      (∃ t u, Game.ambush.population.tile? ⟨1⟩ = some t ∧
        Game.ambush.board.neighbor t .east = some u ∧ Game.ambush.view.accessible u ⟨1⟩ = true) ∧
      (nested.decide ⟨2⟩ Game.ambush.view (.forAgent 0 ⟨2⟩)).1 = .ok none := by
  have hs : nested.isStandard = true := rfl
  obtain ⟨hfails, huntouched, -, -⟩ :=
    decide_sound_complete hs ⟨1⟩ Game.stray.view (.forAgent 0 ⟨1⟩)
  obtain ⟨-, -, hlegal, -⟩ := decide_sound_complete hs ⟨1⟩ Game.ambush.view (.forAgent 0 ⟨1⟩)
  obtain ⟨-, -, -, hstays⟩ := decide_sound_complete hs ⟨2⟩ Game.ambush.view (.forAgent 0 ⟨2⟩)
  have hunplaced := (hfails _).2 (.inr ⟨rfl, rfl, rfl⟩)
  have heast : (nested.decide ⟨1⟩ Game.ambush.view (.forAgent 0 ⟨1⟩)).1 = .ok (some .east) := rfl
  exact ⟨hs, hunplaced, huntouched _ hunplaced, heast, hlegal _ heast,
    hstays.2 ⟨.pinky, ⟨2⟩, rfl, rfl, .inl rfl⟩⟩

end Strategy

end MazeChase
