import MazeChase.Game.Basic

/-!
# One tick of a game

A tick has three phases. First everybody decides, all looking at the world before the tick: a
queued move is taken as it is, and otherwise the strategy decides. Nothing moves unless every
decision came about and everybody who wants to move stands somewhere. Then the moves are made, in
the order of the agents; each is checked against where the agents stand by then, and one that is
no longer possible is dropped. At last the encounters are noted.

A tick tells what happens as a list of events.

## Main definitions

* `Game.decisions` — the first phase: a decision and a memory for each agent
* `approveAll` — whether all decisions may be carried out
* `settle`, `settleAll` — the second phase: one move, and all of them in order
* `Outcome`, `Report` — what became of each decision, and what a tick reports
* `Event` — what an onlooker is told
* `Game.step` — the whole tick

## Main results

* `length_outcomes` — every decision has one outcome
* `Report.moved_add_idle_add_blocked` — the counts of a report sum up to its outcomes
-/

namespace MazeChase

/-- What became of the decision of one agent. -/
inductive Outcome where
  /-- The agent wanted to stay. -/
  | idle
  /-- The agent made its move. -/
  | moved
  /-- The move was no longer possible. -/
  | blocked
deriving DecidableEq, Repr

/-- What happened in one tick. -/
structure Report where
  /-- What became of each decision, by agent. -/
  outcomes : List Outcome
  /-- Who meets whom at the end of the tick. -/
  encounters : List Encounter
deriving DecidableEq, Repr

namespace Report

/-- How many agents made a move. -/
def moved (r : Report) : Nat := r.outcomes.count .moved

/-- How many agents wanted to stay. -/
def idle (r : Report) : Nat := r.outcomes.count .idle

/-- How many moves were no longer possible. -/
def blocked (r : Report) : Nat := r.outcomes.count .blocked

theorem moved_add_idle_add_blocked (r : Report) :
    r.moved + r.idle + r.blocked = r.outcomes.length := by
  simp only [moved, idle, blocked]
  induction r.outcomes with
  | nil => rfl
  | cons o rest ih => cases o <;> simp <;> omega

end Report

/-- What an onlooker is told, in the order in which it happens. -/
inductive Event where
  /-- A tick begins. -/
  | tickStart (tick : Tick)
  /-- A ghost and a player meet. -/
  | encounter (encounter : Encounter)
  /-- A tick ends. -/
  | tickEnd (tick : Tick) (report : Report)
  /-- The board and where everybody stands are recorded. -/
  | snapshot (tick : Tick) (board : Board) (population : Population)
  /-- A full run ends. -/
  | gameEnd (tick : Tick)
deriving DecidableEq

/-! ### Deciding -/

namespace Game

/-- The decision of agent `a` and the memory that it has afterwards. A queued move is taken without
asking the strategy. -/
def decide (g : Game) (a : AgentId) (m : Memory) : Option Direction → Decision × Memory
  | some d => (.ok (some d), m)
  | none => g.strategy.decide a g.view m

/-- The decision and the memory of each agent for which there is a memory and a place in the
queue. -/
def decisions (g : Game) : List (Decision × Memory) :=
  (g.memories.zip g.steering).mapIdx fun i entry => g.decide ⟨i⟩ entry.1 entry.2

/-- The memories after everybody has decided. -/
def memoriesAfter (g : Game) : List Memory :=
  g.decisions.map Prod.snd ++ g.memories.drop g.decisions.length

end Game

/-- Whether the decision of agent `a` may be carried out: it has to be one, and whoever wants to
move has to stand somewhere. -/
def approve (p : Population) (a : AgentId) : Decision → Except GameError (Option Direction)
  | .error e => .error (.decision e)
  | .ok none => .ok none
  | .ok (some d) =>
    match p.requireTile a with
    | .error e => .error (.placement e)
    | .ok _ => .ok (some d)

/-- The wishes of agents `i`, `i + 1`, …, or why the first of them may not be carried out. -/
def approveAll (p : Population) (i : Nat) :
    List Decision → Except GameError (List (Option Direction))
  | [] => .ok []
  | d :: rest => do
    let wish ← approve p ⟨i⟩ d
    let wishes ← approveAll p (i + 1) rest
    return wish :: wishes

/-! ### Moving -/

/-- The world in which a move is checked: everybody where they stand by then. -/
def movingView (board : Board) (rules : Rules) (p : Population) : View :=
  { board, population := p, rules }

/-- The move of agent `a` in direction `d`, if it is still possible. -/
def attempt (board : Board) (rules : Rules) (p : Population) (a : AgentId) (d : Direction) :
    Except PlacementError (Population × Outcome) := do
  let here ← p.requireTile a
  match (movingView board rules p).graph.step? here d a with
  | none => return (p, .blocked)
  | some there => return (← p.occupy a there, .moved)

/-- What becomes of the wish of agent `a`. -/
def settle (board : Board) (rules : Rules) (p : Population) (a : AgentId) :
    Option Direction → Except PlacementError (Population × Outcome)
  | none => .ok (p, .idle)
  | some d => attempt board rules p a d

/-- What becomes of the wishes of agents `i`, `i + 1`, … one after the other. When a move fails the
earlier ones are made all the same. -/
def settleAll (board : Board) (rules : Rules) :
    Nat → List (Option Direction) → Population → Population × Except PlacementError (List Outcome)
  | _, [], p => (p, .ok [])
  | i, wish :: rest, p =>
    match settle board rules p ⟨i⟩ wish with
    | .error e => (p, .error e)
    | .ok (p', outcome) =>
      let (q, outcomes) := settleAll board rules (i + 1) rest p'
      (q, outcomes.map (outcome :: ·))

theorem length_outcomes {board : Board} {rules : Rules} {i : Nat}
    {wishes : List (Option Direction)} {p q : Population} {outcomes : List Outcome}
    (h : settleAll board rules i wishes p = (q, .ok outcomes)) :
    outcomes.length = wishes.length := by
  induction wishes generalizing i p outcomes with
  | nil => simp_all [settleAll]
  | cons wish rest ih =>
    simp only [settleAll] at h
    split at h
    · simp at h
    · next p' outcome _ =>
      simp only [Prod.mk.injEq] at h
      obtain ⟨hq, ho⟩ := h
      cases hrest : (settleAll board rules (i + 1) rest p').2 with
      | error e => simp [hrest, Except.map] at ho
      | ok os =>
        simp only [hrest, Except.map, Except.ok.injEq] at ho
        subst ho
        have hlen := ih (Prod.ext hq hrest)
        simp [hlen]

/-! ### The whole tick -/

/-- What a tick leaves behind: the game after it, what happened, and the report or what went
wrong. -/
structure Turn where
  /-- The game after the tick. -/
  game : Game
  /-- What happened, in order. -/
  events : List Event
  /-- The report of the tick, or what went wrong. -/
  result : Except GameError Report

/-- What an onlooker is told about a tick that succeeds, after its beginning. -/
def closingEvents (config : Schedule) (tick : Tick) (board : Board) (p : Population)
    (report : Report) : List Event :=
  report.encounters.map .encounter ++ [.tickEnd tick report] ++
    if config.isSnapshotTick tick then [.snapshot tick board p] else []

/-- The moves are made after all decisions were approved. -/
def Game.carryOut (g : Game) (wishes : List (Option Direction)) : Turn :=
  let (population, outcomes) := settleAll g.board g.rules 0 wishes g.population
  let after := { g with
    memories := g.memoriesAfter
    steering := List.replicate g.population.count none
    population }
  match outcomes with
  | .error e => ⟨after, [.tickStart g.tick], .error (.placement e)⟩
  | .ok outcomes =>
    let report := { outcomes, encounters := encountersAt g.tick population }
    let events := .tickStart g.tick :: closingEvents g.config g.tick g.board population report
    match g.tick.next with
    | .error f => ⟨after, events, .error (.fault f)⟩
    | .ok tick => ⟨{ after with tick }, events, .ok report⟩

/-- One tick. If a decision is not approved nobody moves, the clock stands still and the queue is
kept; only the memories of those who decided have changed. -/
def Game.step (g : Game) : Turn :=
  match approveAll g.population 0 (g.decisions.map Prod.fst) with
  | .error e => ⟨{ g with memories := g.memoriesAfter }, [.tickStart g.tick], .error e⟩
  | .ok wishes => g.carryOut wishes

end MazeChase
