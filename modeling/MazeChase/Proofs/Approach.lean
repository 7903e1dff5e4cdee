import MazeChase.Proofs.Decisions

/-!
# How a goal is approached

The greedy selector looks one step ahead. Of the open directions from which the goal is known to be
closer than it is now it takes the one from which it is closest, and of several such directions the
first in canonical order. Nothing is assumed of the graph and of the distance: a link need not lead
back nor anywhere else, distances may be missing, and a step may change them by any amount.

Still a walk that is made of such steps comes to an end. Distances are numbers, and each step leaves
a smaller one, so there are no more steps than the distance at the beginning says. Where the walk
ends need not be the goal; it is a tile from which no open direction leads closer.

## Main definitions

* `MoveGraph.Nears`, `MoveGraph.Nearest` — directions that lead closer, and the one to take
* `MoveGraph.stepBound` — how many greedy steps there may be
* `MoveGraph.GreedyWalk` — walks that are made of greedy steps

## Main results

* `MoveGraph.stepToward_eq_some_iff` — which direction the greedy selector takes
* `MoveGraph.GreedyWalk.add_stepBound_le` — a walk uses up as much of the distance as it has steps
* `MoveGraph.greedy_choice_and_walks` — the greedy selector is exact, and its walks end

## Main examples

* `MoveGraph.spiral` — a graph with a dead end, a link that leads nowhere else and two equal ways
-/

namespace MazeChase.MoveGraph

section Greedy

variable (g : MoveGraph) (distance : TileId → TileId → Option UInt32) (t goal : TileId)
  (a : AgentId)

/-- Direction `d` leads from tile `t` to an open tile at distance `there` from the goal, and `t` is
farther from it. -/
def Nears (d : Direction) (there : UInt32) : Prop :=
  ∃ here u, distance t goal = some here ∧ g.neighbor t d = some u ∧ g.accessible u a = true ∧
    distance u goal = some there ∧ there < here

/-- Of the directions that lead closer `d` leads closest, and of those that do the first. -/
structure Nearest (d : Direction) (there : UInt32) : Prop where
  nears : g.Nears distance t goal a d there
  least : ∀ d' there', g.Nears distance t goal a d' there' → there ≤ there'
  first : ∀ d', g.Nears distance t goal a d' there → d.ordinal ≤ d'.ordinal

/-- How many greedy steps there may be: as many as the distance says, and none if it is missing. -/
def stepBound : Nat := (distance t goal).elim 0 UInt32.toNat

/-- A walk of some number of greedy steps toward a goal, from one tile to another. -/
inductive GreedyWalk : TileId → Nat → TileId → Prop
  | stay (t : TileId) : GreedyWalk t 0 t
  | step {t u v : TileId} {n : Nat} {d : Direction}
      (hstep : g.stepToward distance t goal a = some d) (hlink : g.neighbor t d = some u)
      (hwalk : GreedyWalk u n v) : GreedyWalk t (n + 1) v

end Greedy

variable {g : MoveGraph} {distance : TileId → TileId → Option UInt32} {t u goal : TileId}
  {a : AgentId} {d d' : Direction} {here there there' : UInt32} {n : Nat}

/-! ### The direction that is taken -/

theorem mem_closerSteps_iff_nears (hhere : distance t goal = some here) :
    (there, d) ∈ g.closerSteps distance t goal a here ↔ g.Nears distance t goal a d there := by
  rw [mem_closerSteps, Nears]
  simp only [step?_eq_some_iff, hhere, Option.some.injEq]
  constructor
  · rintro ⟨hcloser, u, ⟨hu, hopen⟩, hthere⟩
    exact ⟨here, u, rfl, hu, hopen, hthere, hcloser⟩
  · rintro ⟨_, u, rfl, hu, hopen, hthere, hcloser⟩
    exact ⟨hcloser, u, ⟨hu, hopen⟩, hthere⟩

/-- The selector compares the directions in canonical order. -/
theorem pairwise_closerSteps (g : MoveGraph) (distance : TileId → TileId → Option UInt32)
    (t goal : TileId) (a : AgentId) (here : UInt32) :
    (g.closerSteps distance t goal a here).Pairwise fun e e' => e.2.ordinal < e'.2.ordinal := by
  rw [closerSteps, List.pairwise_filterMap]
  refine Direction.pairwise_all.imp fun hlt e he e' he' => ?_
  -- What is found in a direction is listed with that direction.
  have hsecond {d : Direction} {e : UInt32 × Direction} (he : (do
      let u ← g.step? t d a
      let there ← distance u goal
      if there < here then some (there, d) else none) = some e) : e.2 = d := by
    simp only [Option.bind_eq_bind, Option.bind_eq_some_iff, Option.ite_none_right_eq_some] at he
    obtain ⟨_, -, _, -, -, he⟩ := he
    rw [← Option.some.inj he]
  rwa [hsecond he, hsecond he']

theorem Nearest.unique (h : g.Nearest distance t goal a d there)
    (h' : g.Nearest distance t goal a d' there') : d = d' ∧ there = there' := by
  obtain rfl : there = there' :=
    UInt32.le_antisymm (h.least d' there' h'.nears) (h'.least d there h.nears)
  exact ⟨Direction.ordinal_injective
    (Nat.le_antisymm (h.first d' h'.nears) (h'.first d h.nears)), rfl⟩

/-- The greedy selector takes the nearest direction. -/
theorem exists_nearest_of_stepToward (h : g.stepToward distance t goal a = some d) :
    ∃ there, g.Nearest distance t goal a d there := by
  rw [stepToward_eq, Option.bind_eq_some_iff] at h
  obtain ⟨here, hhere, hchosen⟩ := h
  obtain ⟨⟨there, d⟩, hbest, rfl⟩ := Option.map_eq_some_iff.1 hchosen
  obtain ⟨before, after, hsteps, hbefore, hafter⟩ := exists_of_closest hbest
  have hordered := pairwise_closerSteps g distance t goal a here
  -- Whatever leads closer is in the list: before the entry that is chosen, that entry, or after it.
  have hmem (d' : Direction) (there' : UInt32) : g.Nears distance t goal a d' there' ↔
      (there', d') ∈ before ∨ (there', d') = (there, d) ∨ (there', d') ∈ after := by
    rw [← mem_closerSteps_iff_nears hhere, hsteps, List.mem_append, List.mem_cons]
  refine ⟨there, (hmem d there).2 (.inr (.inl rfl)), ?_, ?_⟩
  · intro d' there' hnears
    rcases (hmem d' there').1 hnears with hin | heq | hin
    · exact UInt32.le_of_lt (hbefore _ hin)
    · obtain ⟨rfl, -⟩ := Prod.mk.inj heq
      exact UInt32.le_refl _
    · exact hafter _ hin
  · intro d' hnears
    rw [hsteps, List.pairwise_append, List.pairwise_cons] at hordered
    rcases (hmem d' there).1 hnears with hin | heq | hin
    · exact absurd (hbefore _ hin) (UInt32.lt_irrefl _)
    · obtain ⟨-, rfl⟩ := Prod.mk.inj heq
      exact Nat.le_refl _
    · exact Nat.le_of_lt (hordered.2.1.1 _ hin)

/-- There is a greedy step exactly if some direction leads closer. -/
theorem exists_stepToward_iff :
    (∃ d, g.stepToward distance t goal a = some d) ↔
      ∃ d there, g.Nears distance t goal a d there := by
  constructor
  · rintro ⟨d, hd⟩
    obtain ⟨there, hnearest⟩ := exists_nearest_of_stepToward hd
    exact ⟨d, there, hnearest.nears⟩
  · rintro ⟨d, there, here, u, hhere, hlink, hopen, hthere, hcloser⟩
    exact exists_stepToward hhere (step?_eq_some_iff.2 ⟨hlink, hopen⟩) hthere hcloser

/-- The greedy selector takes a direction exactly if it is the nearest. -/
theorem stepToward_eq_some_iff :
    g.stepToward distance t goal a = some d ↔ ∃ there, g.Nearest distance t goal a d there := by
  refine ⟨exists_nearest_of_stepToward, ?_⟩
  rintro ⟨there, hnearest⟩
  -- Some direction is taken, that one is the nearest, and no two are.
  obtain ⟨d', hd'⟩ := exists_stepToward_iff.2 ⟨d, there, hnearest.nears⟩
  obtain ⟨there', hnearest'⟩ := exists_nearest_of_stepToward hd'
  rw [(hnearest.unique hnearest').1, hd']

/-! ### Walks -/

/-- A greedy step takes the link of its direction and leaves a smaller distance. -/
theorem exists_link_of_stepToward (h : g.stepToward distance t goal a = some d) :
    ∃ u here there, g.neighbor t d = some u ∧ distance t goal = some here ∧
      distance u goal = some there ∧ there < here := by
  obtain ⟨u, here, there, hstep, hhere, hthere, hcloser⟩ := closer_of_stepToward h
  exact ⟨u, here, there, (step?_eq_some_iff.1 hstep).1, hhere, hthere, hcloser⟩

theorem stepBound_lt_of_stepToward (h : g.stepToward distance t goal a = some d)
    (hlink : g.neighbor t d = some u) :
    stepBound distance u goal < stepBound distance t goal := by
  obtain ⟨u', here, there, hlink', hhere, hthere, hcloser⟩ := exists_link_of_stepToward h
  obtain rfl : u = u' := Option.some.inj (hlink.symm.trans hlink')
  rw [stepBound, stepBound, hhere, hthere]
  exact UInt32.lt_iff_toNat_lt.1 hcloser

/-- A walk uses up as much of the distance as it has steps. -/
theorem GreedyWalk.add_stepBound_le (h : g.GreedyWalk distance goal a t n u) :
    n + stepBound distance u goal ≤ stepBound distance t goal := by
  induction h with
  | stay t => exact Nat.le_of_eq (Nat.zero_add _)
  | step hstep hlink _ ih =>
    have hless := stepBound_lt_of_stepToward hstep hlink
    omega

/-- From every tile there is a walk that ends where no greedy step is left. -/
theorem exists_greedyWalk (t : TileId) :
    ∃ n u, g.GreedyWalk distance goal a t n u ∧ g.stepToward distance u goal a = none := by
  -- By induction on the number of steps that there may be, whatever the tile is.
  induction hbound : stepBound distance t goal using Nat.strongRecOn generalizing t with
  | _ bound ih =>
    cases hstep : g.stepToward distance t goal a with
    | none => exact ⟨0, t, .stay t, hstep⟩
    | some d =>
      obtain ⟨u, -, -, hlink, -⟩ := exists_link_of_stepToward hstep
      have hless : stepBound distance u goal < bound :=
        hbound ▸ stepBound_lt_of_stepToward hstep hlink
      obtain ⟨n, v, hwalk, hend⟩ := ih _ hless u rfl
      exact ⟨n + 1, v, .step hstep hlink hwalk, hend⟩

/-- **The greedy selector is exact, and its walks end.** On any graph and with any distance, however
incomplete, it takes a direction exactly if the direction is the nearest, and finds one exactly if
some direction leads closer. Each of its steps leaves a smaller distance. A walk that is made of
them has no more steps than the distance at its beginning says, and from every tile one goes on
until no step is left. -/
theorem greedy_choice_and_walks (g : MoveGraph) (distance : TileId → TileId → Option UInt32)
    (goal : TileId) (a : AgentId) :
    (∀ t d, g.stepToward distance t goal a = some d ↔
      ∃ there, g.Nearest distance t goal a d there) ∧
    (∀ t, (∃ d, g.stepToward distance t goal a = some d) ↔
      ∃ d there, g.Nears distance t goal a d there) ∧
    (∀ t d, g.stepToward distance t goal a = some d →
      ∃ u here there, g.neighbor t d = some u ∧ distance t goal = some here ∧
        distance u goal = some there ∧ there < here) ∧
    (∀ t n u, g.GreedyWalk distance goal a t n u → n ≤ stepBound distance t goal) ∧
    ∀ t, ∃ n u, g.GreedyWalk distance goal a t n u ∧ g.stepToward distance u goal a = none := by
  refine ⟨fun t d => stepToward_eq_some_iff, fun t => exists_stepToward_iff,
    fun t d => exists_link_of_stepToward, ?_, exists_greedyWalk⟩
  intro t n u hwalk
  exact Nat.le_trans (Nat.le_add_right _ _) hwalk.add_stepBound_le

/-- From every tile the east and the west lead one tile on toward tile 0. The south leads nowhere
else, and the north into a dead end. -/
def spiral : MoveGraph where
  neighbor t
    | .north => some ⟨3⟩
    | .south => some t
    | .east => some ⟨t.index - 1⟩
    | .west => some ⟨t.index - 1⟩
  accessible _ _ := true

/-- How far it is to tile 0. From the dead end nobody knows. -/
def spiralDistance (t _goal : TileId) : Option UInt32 :=
  if t.index < 3 then some (.ofNat t.index) else none

/-- Of the two equal ways from tile 2 the first one is taken, there is no third step, and from the
dead end there is none at all. -/
theorem greedy_choice_and_walks_spiral :
    (∃ there, spiral.Nearest spiralDistance ⟨2⟩ ⟨0⟩ ⟨0⟩ .east there) ∧
      spiral.GreedyWalk spiralDistance ⟨0⟩ ⟨0⟩ ⟨2⟩ 2 ⟨0⟩ ∧
      ¬ (∃ u, spiral.GreedyWalk spiralDistance ⟨0⟩ ⟨0⟩ ⟨2⟩ 3 u) ∧
      ¬ ∃ d there, spiral.Nears spiralDistance ⟨3⟩ ⟨0⟩ ⟨0⟩ d there := by
  obtain ⟨hexact, hfound, -, hbound, -⟩ :=
    greedy_choice_and_walks spiral spiralDistance ⟨0⟩ ⟨0⟩
  have heast : spiral.stepToward spiralDistance ⟨2⟩ ⟨0⟩ ⟨0⟩ = some .east := by decide
  have hagain : spiral.stepToward spiralDistance ⟨1⟩ ⟨0⟩ ⟨0⟩ = some .east := by decide
  refine ⟨(hexact _ _).1 heast, .step heast rfl (.step hagain rfl (.stay _)), ?_, ?_⟩
  · rintro ⟨u, hwalk⟩
    exact absurd (hbound _ _ _ hwalk) (by decide)
  · rw [← hfound]
    rintro ⟨d, hd⟩
    cases hd

end MazeChase.MoveGraph
