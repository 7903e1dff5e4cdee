import MazeChase.Proofs.Abort
import MazeChase.Proofs.History
import MazeChase.Proofs.Lineup
import MazeChase.Proofs.Outlook

/-!
# Ticks without crowds

An outline is a game of which only the kinds and the tiles of the agents are known. A tick of an
outline is as plain as can be: everybody decides by where all stood before the tick; then one agent
after the other goes where it wants to go, if there is a tile, the terrain admits it and, under the
rule for ghosts, no other ghost stands there by then; at last whoever is on one tile meets.

A tick of a game does the same. Its crowds are kept up to date between any two moves, but they never
tell more than the tiles do, so the order in which agents arrived somewhere has no say in anything.

## Main definitions

* `Outline`, `Game.outline` — what is left of a game without crowds
* `Lineup.goal?`, `Lineup.moveAll` — one move and all moves of a tick
* `Outline.step` — a tick

## Main results

* `Settled.move_eq` — a wish is settled as the lineup moves
* `settleAll_lineup` — and so are all wishes of a tick
* `Game.step_outline` — the outline of a tick is the tick of the outline
-/

namespace MazeChase

/-! ### Moving by the lineup -/

namespace Lineup

variable (board : Board) (rules : Rules)

/-- The tile to which agent `a` gets in direction `d`, if it may go there. -/
def goal? (l : Lineup) (a : AgentId) (d : Direction) : Option TileId := do
  let here ← l.tile? a
  let there ← board.neighbor here d
  let kind ← l.kind? a
  if board.admits there kind = true ∧
      ¬ (rules.ghostsBlockGhosts = true ∧ kind.isGhost = true ∧ l.ghostBeside there a = true) then
    some there
  else none

/-- The lineup after agent `a` went to a tile. -/
def put (l : Lineup) (a : AgentId) (t : TileId) : Lineup :=
  l.modify a.index fun agent => { agent with tile := some t }

/-- What becomes of the wish of agent `a`. -/
def move (l : Lineup) (a : AgentId) : Option Direction → Lineup × Outcome
  | none => (l, .idle)
  | some d =>
    match l.goal? board rules a d with
    | none => (l, .blocked)
    | some t => (l.put a t, .moved)

/-- What becomes of the wishes of agents `i`, `i + 1`, … one after the other. -/
def moveAll : Nat → List (Option Direction) → Lineup → Lineup × List Outcome
  | _, [], l => (l, [])
  | i, wish :: rest, l =>
    let (l', outcome) := l.move board rules ⟨i⟩ wish
    let (l'', outcomes) := moveAll (i + 1) rest l'
    (l'', outcome :: outcomes)

/-- Why the decision of agent `a` cannot be carried out, if it cannot. -/
def objection? (l : Lineup) (a : AgentId) : Decision → Option GameError
  | .error cause => some (.decision cause)
  | .ok none => none
  | .ok (some _) => if l.tile? a = none then some (.placement (.unplaced a)) else none

end Lineup

/-! ### Outlines -/

/-- A game of which only the kinds and the tiles of the agents are known. -/
structure Outline where
  tick : Tick
  board : Board
  lineup : Lineup
  memories : List Memory
  strategy : Strategy
  rules : Rules
  steering : List (Option Direction)

/-- The outline of a game: its crowds are forgotten, and its schedule, which no tick needs. -/
def Game.outline (g : Game) : Outline where
  tick := g.tick
  board := g.board
  lineup := g.population.lineup
  memories := g.memories
  strategy := g.strategy
  rules := g.rules
  steering := g.steering

namespace Outline

/-- The world before the tick, with everybody arrived in the order of identifiers. -/
def view (o : Outline) : View where
  tick := o.tick
  board := o.board
  population := o.lineup.population o.board.tileCount
  target := o.lineup.target
  rules := o.rules

/-- The decision of agent `a`: the queued direction, or else what the strategy says. -/
def decide (o : Outline) (a : AgentId) (m : Memory) : Option Direction → Decision × Memory
  | some d => (.ok (some d), m)
  | none => o.strategy.decide a o.view m

/-- The decisions of all agents, with the memories that they have afterwards. -/
def decisions (o : Outline) : List (Decision × Memory) :=
  (o.memories.zip o.steering).mapIdx fun i entry => o.decide ⟨i⟩ entry.1 entry.2

/-- Why the tick is called off, if it is: the first objection counts. -/
def fault? (o : Outline) : Option GameError :=
  (o.decisions.map Prod.fst).zipIdx.findSome? fun entry => o.lineup.objection? ⟨entry.2⟩ entry.1

/-- Where everybody wants to go. -/
def wishes (o : Outline) : List (Option Direction) :=
  o.decisions.map fun entry => entry.1.toOption.join

/-- One tick. -/
def step (o : Outline) : Outline × Except GameError Report :=
  let decided := { o with memories := o.decisions.map Prod.snd }
  match o.fault? with
  | some e => (decided, .error e)
  | none =>
    let (lineup, outcomes) := Lineup.moveAll o.board o.rules 0 o.wishes o.lineup
    ({ decided with
        lineup
        tick := ⟨o.tick.count + 1⟩
        steering := List.replicate lineup.length none },
      .ok { outcomes, encounters := lineup.encounters o.tick })

end Outline

variable {board : Board} {rules : Rules} {p q : Population} {a : AgentId} {g h : Game}

/-! ### Approving and moving -/

theorem approve_eq (p : Population) (a : AgentId) (d : Decision) :
    approve p a d =
      match p.lineup.objection? a d with
      | some e => .error e
      | none => .ok d.toOption.join := by
  have htile : p.lineup.tile? a = p.tile? a := rfl
  rcases d with cause | _ | way
  · rfl
  · rfl
  · cases h : p.tile? a <;>
      simp [approve, Population.requireTile, Lineup.objection?, htile, h, Except.toOption]

/-- The first objection is what approval reports, and without one it hands on all wishes. -/
theorem approveAll_eq (p : Population) (i : Nat) (ds : List Decision) :
    approveAll p i ds =
      match (ds.zipIdx i).findSome? fun entry => p.lineup.objection? ⟨entry.2⟩ entry.1 with
      | some e => .error e
      | none => .ok (ds.map fun d => d.toOption.join) := by
  induction ds generalizing i with
  | nil => rfl
  | cons d ds ih =>
    simp only [approveAll, approve_eq, ih, List.zipIdx_cons, List.findSome?_cons]
    cases p.lineup.objection? ⟨i⟩ d with
    | some e => rfl
    | none =>
      cases (ds.zipIdx (i + 1)).findSome? fun entry => p.lineup.objection? ⟨entry.2⟩ entry.1 <;> rfl

/-- A step is open in the graph exactly if the lineup lets the agent go there. -/
theorem step?_movingView (hp : p.Consistent) {here : TileId} (hhere : p.tile? a = some here)
    (d : Direction) :
    (movingView board rules p).graph.step? here d a = p.lineup.goal? board rules a d := by
  have htile : p.lineup.tile? a = some here := hhere
  have hkind : p.lineup.kind? a = p.kind? a := rfl
  have hheld (t : TileId) : (movingView board rules p).heldByGhost t a = p.lineup.ghostBeside t a :=
    heldByGhost_eq_ghostBeside (v := movingView board rules p) hp t a
  apply Option.ext
  intro there
  rw [MoveGraph.step?_eq_some_iff, View.graph_accessible, View.accessible_iff, hheld]
  simp only [Lineup.goal?, htile, hkind, Option.bind_eq_bind, Option.bind_some,
    Option.bind_eq_some_iff, Option.ite_none_right_eq_some, Option.some.injEq]
  constructor
  · rintro ⟨hnext, k, hk, hopen⟩
    exact ⟨there, hnext, k, hk, hopen, rfl⟩
  · rintro ⟨there, hnext, k, hk, hopen, rfl⟩
    exact ⟨hnext, k, hk, hopen⟩

/-- The table of tiles after a move says that the agent is on the new tile, and nothing else new. -/
theorem lineup_occupy {t : TileId} (hq : p.occupy a t = .ok q) : q.lineup = p.lineup.put a t := by
  have ha := (Population.occupy_eq_ok_iff.1 hq).1
  have hput : p.lineup.put a t = (p.setTile a (some t)).lineup := rfl
  rw [hput]
  apply Lineup.ext_views
  · intro b
    exact (Population.kind?_occupy hq).trans Population.kind?_setTile.symm
  · intro b
    exact (Population.tile?_occupy hq).trans (Population.tile?_setTile ha).symm

theorem Settled.move_eq {wish : Option Direction} {o : Outcome}
    (h : Settled board rules p a wish q o) (hp : p.Consistent) :
    p.lineup.move board rules a wish = (q.lineup, o) := by
  -- What decides between the cases is whether the step is open, which both sides see alike.
  cases h with
  | idle => rfl
  | blocked hhere hstep =>
    rw [step?_movingView hp hhere] at hstep
    simp only [Lineup.move, hstep]
  | moved hhere hstep hoccupy =>
    rw [step?_movingView hp hhere] at hstep
    simp only [Lineup.move, hstep, lineup_occupy hoccupy]

/-- The moves of a tick, made with crowds that are updated in between, lead to the same lineup as
without them. -/
theorem settleAll_lineup {i : Nat} {wishes : List (Option Direction)} {outcomes : List Outcome}
    (hp : p.Consistent) (h : settleAll board rules i wishes p = (q, .ok outcomes)) :
    Lineup.moveAll board rules i wishes p.lineup = (q.lineup, outcomes) := by
  induction wishes generalizing i p outcomes with
  | nil =>
    obtain ⟨rfl, rfl⟩ : p = q ∧ [] = outcomes := by simpa [settleAll] using h
    rfl
  | cons wish rest ih =>
    obtain ⟨p', o, os, hsettled, hrest, rfl⟩ := settleAll_cons_eq_ok_iff.1 h
    -- The invariant that carries the induction is that the views agree after every move.
    rw [Lineup.moveAll, hsettled.move_eq hp]
    simp only [ih (hsettled.consistent hp) hrest]

/-! ### The tick of a game and the tick of its outline -/

/-- Before the tick the game and its outline are the same to everybody. -/
theorem Game.Coherent.alike_view (hg : g.Coherent) (a : AgentId) :
    g.outline.view.Alike a g.view := by
  have hwithin : g.population.lineup.Within g.board.tileCount := by
    rw [← hg.tileCount_eq]
    exact hg.consistent.within
  -- The crowds of the two worlds may be ordered differently, but both are asked only for a member.
  have hheld (t : TileId) : g.outline.view.heldByGhost t a = g.view.heldByGhost t a := by
    rw [heldByGhost_eq_ghostBeside (Lineup.consistent_population hwithin),
      heldByGhost_eq_ghostBeside hg.consistent]
    rfl
  have hopen (t : TileId) : g.outline.view.accessible t a = g.view.accessible t a := by
    rw [View.accessible, View.accessible, hheld]
    rfl
  refine ⟨rfl, fun t d => ?_, rfl, rfl⟩
  apply Option.ext
  intro u
  rw [MoveGraph.step?_eq_some_iff, MoveGraph.step?_eq_some_iff, View.graph_accessible,
    View.graph_accessible, hopen]
  rfl

namespace Game

theorem decisions_outline (hg : g.Coherent) (hs : g.strategy.isStandard = true) :
    g.outline.decisions = g.decisions := by
  have hdecide (a : AgentId) (m : Memory) (queued : Option Direction) :
      g.outline.decide a m queued = g.decide a m queued := by
    cases queued with
    | some d => rfl
    | none =>
      change g.strategy.decide a g.outline.view m = g.strategy.decide a g.view m
      exact Strategy.decide_congr (v := g.outline.view) (w := g.view) hs rfl (hg.alike_view a) m
  simp only [Outline.decisions, decisions, hdecide]
  rfl

theorem Coherent.memoriesAfter_eq (hg : g.Coherent) :
    g.memoriesAfter = g.decisions.map Prod.snd := by
  have hlength : g.decisions.length = g.memories.length := by
    simp [decisions, hg.length_memories, hg.length_steering]
  rw [memoriesAfter, hlength, List.drop_length, List.append_nil]

theorem approveAll_outline (hg : g.Coherent) (hs : g.strategy.isStandard = true) :
    approveAll g.population 0 g.proposals =
      match g.outline.fault? with
      | some e => .error e
      | none => .ok g.outline.wishes := by
  rw [approveAll_eq, proposals, ← decisions_outline hg hs, Outline.wishes, List.map_map]
  rfl

theorem step_outline_of_coherent (hg : g.Coherent) (hs : g.strategy.isStandard = true)
    (htick : g.tick.count.toNat + 1 < UInt64.size) :
    (g.step.game.outline, g.step.result) = g.outline.step := by
  have hmemories : g.outline.decisions.map Prod.snd = g.memoriesAfter := by
    rw [decisions_outline hg hs, hg.memoriesAfter_eq]
  have happrove := approveAll_outline hg hs
  cases hfault : g.outline.fault? with
  | some e =>
    simp only [hfault] at happrove
    rw [step_of_error happrove]
    simp only [Outline.step, hfault, hmemories]
    rfl
  | none =>
    simp only [hfault] at happrove
    -- Nothing is called off, so all moves are made and the clock goes on.
    have hroom : g.board.tileCount ≤ g.population.tileCount := Nat.le_of_eq hg.tileCount_eq.symm
    obtain ⟨outcomes, hcarried⟩ := exists_carriedOut hroom happrove
    have hmoves : Lineup.moveAll g.outline.board g.outline.rules 0 g.outline.wishes
        g.outline.lineup = (g.step.game.population.lineup, outcomes) :=
      settleAll_lineup hg.consistent hcarried.settled
    have hlength : g.step.game.population.lineup.length = g.population.count := count_step
    have hnext := Tick.next_of_lt htick
    have htick' : g.step.game.tick = ⟨g.tick.count + 1⟩ := by
      rw [hcarried.tick_eq, hnext]
      rfl
    have houtline : g.step.game.outline = { g.outline with
        tick := ⟨g.tick.count + 1⟩
        lineup := g.step.game.population.lineup
        memories := g.memoriesAfter
        steering := List.replicate g.population.count none } := by
      simp only [outline, htick', hcarried.memories_eq, hcarried.steering_eq, step_board,
        step_rules, step_strategy]
    have hresult : g.step.result =
        .ok ⟨outcomes, g.step.game.population.lineup.encounters g.tick⟩ := by
      rw [hcarried.result_eq, hnext, encountersAt_eq_encounters (consistent_step hg.consistent)]
      rfl
    rw [houtline, hresult]
    simp only [Outline.step, hfault, hmoves, hmemories, hlength]
    rfl

/-- **A tick needs no crowds.** In a game with standard behaviours only, the outline of what a tick
leaves behind and its report, or what went wrong, are those of the tick of the outline. Hence games
in which everybody stands alike have the same tick, in whatever order the agents arrived. -/
theorem step_outline (hg : g.Reachable) (hs : g.strategy.isStandard = true)
    (htick : g.tick.count.toNat + 1 < UInt64.size) :
    (g.step.game.outline, g.step.result) = g.outline.step ∧
      ∀ h : Game, h.Reachable → h.outline = g.outline →
        h.step.game.outline = g.step.game.outline ∧ h.step.result = g.step.result := by
  have hstep := step_outline_of_coherent hg.coherent hs htick
  refine ⟨hstep, fun h hh heq => ?_⟩
  have hstrategy : h.strategy = g.strategy := congrArg Outline.strategy heq
  have htime : h.tick = g.tick := congrArg Outline.tick heq
  have hstep' := step_outline_of_coherent hh.coherent (by rwa [hstrategy]) (by rwa [htime])
  rw [heq, ← hstep] at hstep'
  exact Prod.ext_iff.1 hstep'

/-- Whichever ghost of the ambush comes to the player first, the next tick is the same. -/
theorem step_outline_ambush :
    ambush.strategy.isStandard = true ∧ ambush.tick.count.toNat + 1 < UInt64.size ∧
      (ambush.after [.change (.occupy ⟨1⟩ ⟨1⟩), .change (.occupy ⟨2⟩ ⟨1⟩)]).step.result =
        (ambush.after [.change (.occupy ⟨2⟩ ⟨1⟩), .change (.occupy ⟨1⟩ ⟨1⟩)]).step.result := by
  have htick : ambush.tick.count.toNat + 1 < UInt64.size := by decide
  have hsame := (step_outline
    (g := ambush.after [.change (.occupy ⟨2⟩ ⟨1⟩), .change (.occupy ⟨1⟩ ⟨1⟩)])
    (reachable_ambush.after _) rfl htick).2
  exact ⟨rfl, htick, (hsame _ (reachable_ambush.after _) rfl).2⟩

end Game

end MazeChase
