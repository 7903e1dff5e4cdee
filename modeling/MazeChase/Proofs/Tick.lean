import MazeChase.Game.Run
import MazeChase.Proofs.Moving

/-!
# What a tick can do

A tick either stops at the first decision that is not approved, with nothing but memories changed,
or it carries out the approved wishes. In both cases the board, the rules, the schedule and the
strategy stay as they are, and the population changes only as the settled wishes change it. A run of
ticks changes nothing but what its ticks change.

## Main results

* `Game.step_of_error`, `Game.step_of_ok` — the two ways in which a tick goes
* `Game.step_population_induction` — what every settled wish respects, a tick respects
* `Game.play_induction` — what every tick respects, a run respects
-/

namespace MazeChase.Game

variable {g : Game} {wishes : List (Option Direction)}

/-- What a tick has to approve: the decision of each agent that decides, by identifier. -/
def proposals (g : Game) : List Decision := g.decisions.map Prod.fst

/-- An agent decides if there is a memory for it and a place in the queue. -/
theorem getElem?_proposals {i : Nat} {d : Decision} :
    g.proposals[i]? = some d ↔
      ∃ m queued, g.memories[i]? = some m ∧ g.steering[i]? = some queued ∧
        (g.decide ⟨i⟩ m queued).1 = d := by
  simp only [proposals, decisions, List.getElem?_map, List.getElem?_mapIdx, Option.map_map,
    Option.map_eq_some_iff, Function.comp_apply, Prod.exists, List.getElem?_zip_eq_some, and_assoc]

theorem step_of_error {e : GameError} (h : approveAll g.population 0 g.proposals = .error e) :
    g.step = ⟨{ g with memories := g.memoriesAfter }, [.tickStart g.tick], .error e⟩ := by
  rw [proposals] at h
  simp only [step, h]

theorem step_of_ok (h : approveAll g.population 0 g.proposals = .ok wishes) :
    g.step = g.carryOut wishes := by
  rw [proposals] at h
  simp only [step, h]

/-- A property of what a tick leaves behind holds if it holds in both ways in which a tick goes. -/
theorem step_cases {P : Turn → Prop}
    (failed : ∀ e, approveAll g.population 0 g.proposals = .error e →
      P ⟨{ g with memories := g.memoriesAfter }, [.tickStart g.tick], .error e⟩)
    (carried : ∀ wishes, approveAll g.population 0 g.proposals = .ok wishes →
      P (g.carryOut wishes)) : P g.step := by
  cases h : approveAll g.population 0 g.proposals with
  | error e => rw [step_of_error h]; exact failed e h
  | ok wishes => rw [step_of_ok h]; exact carried wishes h

/-! ### Carrying out -/

theorem carryOut_game (g : Game) (wishes : List (Option Direction)) :
    ∃ tick, (g.carryOut wishes).game =
      { g with
        tick
        population := (settleAll g.board g.rules 0 wishes g.population).1
        memories := g.memoriesAfter
        steering := List.replicate g.population.count none } := by
  simp only [carryOut]
  split
  · -- A move failed. The queue is lost and the earlier moves are made all the same.
    exact ⟨g.tick, rfl⟩
  · cases g.tick.next with
    | error f => exact ⟨g.tick, rfl⟩
    | ok tick => exact ⟨tick, rfl⟩

/-! ### What a tick leaves as it is -/

theorem step_game (g : Game) : ∃ tick population memories steering,
    g.step.game = { g with tick, population, memories, steering } := by
  refine step_cases (P := fun turn => ∃ tick population memories steering,
    turn.game = { g with tick, population, memories, steering }) ?_ ?_
  · intro e _
    exact ⟨g.tick, g.population, g.memoriesAfter, g.steering, rfl⟩
  · intro wishes _
    obtain ⟨tick, h⟩ := carryOut_game g wishes
    exact ⟨tick, _, _, _, h⟩

@[simp] theorem step_config : g.step.game.config = g.config := by
  obtain ⟨_, _, _, _, h⟩ := step_game g
  rw [h]

@[simp] theorem step_board : g.step.game.board = g.board := by
  obtain ⟨_, _, _, _, h⟩ := step_game g
  rw [h]

@[simp] theorem step_rules : g.step.game.rules = g.rules := by
  obtain ⟨_, _, _, _, h⟩ := step_game g
  rw [h]

@[simp] theorem step_strategy : g.step.game.strategy = g.strategy := by
  obtain ⟨_, _, _, _, h⟩ := step_game g
  rw [h]

/-- Whoever decided remembers it, whatever becomes of the tick. -/
@[simp] theorem step_memories : g.step.game.memories = g.memoriesAfter := by
  refine step_cases (P := fun turn => turn.game.memories = g.memoriesAfter) ?_ ?_
  · intro e _
    rfl
  · intro wishes _
    obtain ⟨tick, h⟩ := carryOut_game g wishes
    rw [h]

/-- Either nobody has moved, or the approved wishes were settled in order. -/
theorem step_population (g : Game) :
    g.step.game.population = g.population ∨
      ∃ wishes, approveAll g.population 0 g.proposals = .ok wishes ∧
        g.step.game.population = (settleAll g.board g.rules 0 wishes g.population).1 := by
  cases h : approveAll g.population 0 g.proposals with
  | error e => rw [step_of_error h]; exact .inl rfl
  | ok wishes =>
    obtain ⟨tick, hgame⟩ := carryOut_game g wishes
    rw [step_of_ok h, hgame]
    exact .inr ⟨wishes, rfl, rfl⟩

/-- What any one wish respects a tick respects. -/
theorem step_population_induction {R : Population → Population → Prop} (refl : ∀ p, R p p)
    (trans : ∀ {p q r}, R p q → R q r → R p r)
    (settled : ∀ {p a wish q o}, Settled g.board g.rules p a wish q o → R p q) :
    R g.population g.step.game.population := by
  rcases step_population g with h | ⟨wishes, -, h⟩
  · rw [h]
    exact refl _
  · rw [h]
    exact settleAll_induction refl trans settled 0 wishes g.population

@[simp] theorem kind?_step (a : AgentId) :
    g.step.game.population.kind? a = g.population.kind? a :=
  step_population_induction (R := fun p q => q.kind? a = p.kind? a) (fun _ => rfl)
    (fun h h' => h'.trans h) Settled.kind?_eq

@[simp] theorem count_step : g.step.game.population.count = g.population.count :=
  step_population_induction (R := fun p q => q.count = p.count) (fun _ => rfl)
    (fun h h' => h'.trans h) Settled.count_eq

@[simp] theorem tileCount_step : g.step.game.population.tileCount = g.population.tileCount :=
  step_population_induction (R := fun p q => q.tileCount = p.tileCount) (fun _ => rfl)
    (fun h h' => h'.trans h) Settled.tileCount_eq

theorem consistent_step (h : g.population.Consistent) : g.step.game.population.Consistent :=
  step_population_induction (R := fun p q => p.Consistent → q.Consistent) (fun _ => id)
    (fun h h' => h' ∘ h) Settled.consistent h

/-! ### Many ticks -/

/-- What every tick respects a run respects, however it ends. -/
theorem play_induction {R : Game → Game → Prop} (refl : ∀ g, R g g)
    (trans : ∀ {g h k}, R g h → R h k → R g k) (step : ∀ g, R g g.step.game) (n : Nat) (g : Game) :
    R g (g.play n).game := by
  induction n generalizing g with
  | zero => exact refl g
  | succ n ih =>
    simp only [play]
    split
    · exact step g
    · exact trans (step g) (ih g.step.game)

/-- A full run leaves the game that its ticks leave. -/
theorem playOut_game (g : Game) : g.playOut.game = (g.play g.ticksLeft).game := by
  simp only [playOut]
  split <;> rfl

end MazeChase.Game
