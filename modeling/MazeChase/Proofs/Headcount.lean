import MazeChase.Board.Map
import MazeChase.Proofs.Lookup

/-!
# How many agents have changed tile

The report of a tick counts the agents that made a move, which is meant to be the number of agents
that stand somewhere else than before. Whoever stands somewhere else has made a move indeed. But a
link may lead from a tile back to it, either because it was laid that way or because the board wraps
and is one tile wide, and an agent that takes such a link is counted and stands where it stood.

So the count is too high by the number of those who went round in a circle, and right on every board
on which no tile is its own neighbour.

## Main definitions

* `Game.relocated` — the agents that stand somewhere else after the next tick
* `Game.circled` — the agents that moved and stand where they stood
* `Game.CountsMoves` — what the count of moves says

## Main results

* `Game.counts_moves` — moves are counted, not changes of tile
* `Game.not_moved_eq_relocated` — and the two counts are not always the same

## Main examples

* `Board.carousel`, `Setup.carousel`, `Game.carousel` — a single tile that wraps
-/

namespace MazeChase

variable {board : Board} {rules : Rules} {p q : Population} {a : AgentId} {o : Outcome}
  {wish : Option Direction}

/-! ### One turn -/

/-- Whoever makes no move stays where it is. -/
theorem Settled.tile?_of_ne_moved (h : Settled board rules p a wish q o) (ho : o ≠ .moved) :
    q.tile? a = p.tile? a := by
  cases h with
  | idle => rfl
  | blocked => rfl
  | moved => exact absurd rfl ho

/-- Whoever makes a move takes a link of the board. -/
theorem Settled.exists_link (h : Settled board rules p a wish q .moved) :
    ∃ t d u, p.tile? a = some t ∧ board.neighbor t d = some u ∧ q.tile? a = some u := by
  cases h with
  | @moved d here there _ hhere hstep hoccupy =>
    have hlink : board.neighbor here d = some there := (MoveGraph.step?_eq_some_iff.1 hstep).1
    have harrives : q.tile? a = some there := by
      rw [Population.tile?_occupy hoccupy, if_pos rfl]
    exact ⟨here, d, there, hhere, hlink, harrives⟩

/-- The outcomes of a kind are counted agent by agent. -/
theorem count_outcomes_eq {outcomes : List Outcome} (hlength : outcomes.length = p.count)
    (o : Outcome) :
    outcomes.count o = (p.agentIds.filter fun a => outcomes[a.index]? = some o).length := by
  -- There is one outcome for each agent, so to look all agents up is to go through the list.
  have hentries : outcomes.map some = p.agentIds.map fun a => outcomes[a.index]? := by
    apply List.ext_getElem?
    intro i
    by_cases hi : i < p.count
    · have hlt : i < outcomes.length := hlength ▸ hi
      simp [Population.agentIds, List.getElem?_range hi, List.getElem?_eq_getElem hlt]
    · simp [Population.agentIds, hlength, Nat.not_lt.1 hi]
  calc outcomes.count o
      = (outcomes.map some).countP fun entry => entry = some o := by
        rw [List.count, List.countP_map]
        apply List.countP_congr
        simp
    _ = (p.agentIds.map fun a => outcomes[a.index]?).countP fun entry => entry = some o := by
        rw [hentries]
    _ = (p.agentIds.filter fun a => outcomes[a.index]? = some o).length := by
        rw [List.countP_map, List.countP_eq_length_filter]
        rfl

namespace Game

variable {g : Game} {report : Report}

/-- The agents that stand somewhere else after the next tick. -/
def relocated (g : Game) : List AgentId :=
  g.population.agentIds.filter fun a => g.step.game.population.tile? a ≠ g.population.tile? a

/-- The agents that by a report have made a move, and stand where they stood all the same. -/
def circled (g : Game) (report : Report) : List AgentId :=
  g.population.agentIds.filter fun a =>
    report.outcomes[a.index]? = some .moved ∧ g.step.game.population.tile? a = g.population.tile? a

/-- What becomes of agent `a` in a tick that reports. -/
theorem exists_outcome (hg : g.Coherent) (hok : g.step.result = .ok report)
    (ha : a.index < g.population.count) :
    ∃ o, report.outcomes[a.index]? = some o ∧
      (o ≠ .moved → g.step.game.population.tile? a = g.population.tile? a) ∧
      (o = .moved → ∃ t d u, g.population.tile? a = some t ∧ g.board.neighbor t d = some u ∧
        g.step.game.population.tile? a = some u) := by
  obtain ⟨wishes, hcarried⟩ := exists_carriedOut_of_ok hok
  have hlt : a.index < wishes.length := by
    rwa [length_of_approved hcarried.approved, hg.asked_eq]
  obtain ⟨before, after, o, hattempts⟩ :=
    hcarried.exists_attempts (List.getElem?_eq_getElem hlt)
  rw [← hattempts.midway.later a (Nat.le_refl _), hattempts.tile?_eq]
  refine ⟨o, hattempts.reported report hok, hattempts.settled.tile?_of_ne_moved, ?_⟩
  rintro rfl
  exact hattempts.settled.exists_link

/-- What the count of moves in a report says. -/
structure CountsMoves (g : Game) (report : Report) : Prop where
  /-- It is the number of those who stand somewhere else and of those who went round. -/
  moved_eq : report.moved = g.relocated.length + (g.circled report).length
  /-- Whoever went round took a link from its tile back to it. -/
  loop : ∀ a ∈ g.circled report, ∃ t d, g.population.tile? a = some t ∧
    g.board.neighbor t d = some t
  /-- Where there are no such links it is the number of those who stand somewhere else. -/
  exact : (∀ t d, g.board.neighbor t d ≠ some t) → report.moved = g.relocated.length

/-- **Moves are counted, not changes of tile.** In a tick that succeeds the count of moves is the
number of agents that stand somewhere else than before, and in addition of those that took a link
from a tile back to it. Without such links it is the number of agents that have changed tile. -/
theorem counts_moves (hg : g.Reachable) (hok : g.step.result = .ok report) :
    g.CountsMoves report := by
  have hcoherent : g.Coherent := hg.coherent
  have hlength : report.outcomes.length = g.population.count := by
    rw [length_outcomes_of_ok hok, hcoherent.asked_eq]
  -- Those who moved are cut in two: who stands somewhere else, and who does not.
  have hmoved : report.moved = g.relocated.length + (g.circled report).length := by
    rw [Report.moved, count_outcomes_eq hlength,
      List.length_eq_length_filter_add fun a => g.step.game.population.tile? a ≠
        g.population.tile? a, List.filter_filter, List.filter_filter, relocated, circled]
    congr 2
    · apply List.filter_congr
      intro a ha
      obtain ⟨o, ho, hstays, -⟩ := exists_outcome hcoherent hok (Population.mem_agentIds.1 ha)
      by_cases hsame : g.step.game.population.tile? a = g.population.tile? a
      · simp [hsame]
      · have hm : o = .moved := by
          by_contra hne
          exact hsame (hstays hne)
        simp [ho, hm, hsame]
    · apply List.filter_congr
      intro a _
      simp [and_comm]
  have hloop : ∀ a ∈ g.circled report, ∃ t d, g.population.tile? a = some t ∧
      g.board.neighbor t d = some t := by
    intro a ha
    simp only [circled, List.mem_filter, Population.mem_agentIds, decide_eq_true_eq] at ha
    obtain ⟨hlt, hm, hsame⟩ := ha
    obtain ⟨o, ho, -, hlink⟩ := exists_outcome hcoherent hok hlt
    obtain rfl : o = .moved := Option.some.inj (ho.symm.trans hm)
    obtain ⟨t, d, u, ht, hneighbor, hu⟩ := hlink rfl
    obtain rfl : u = t := Option.some.inj (hu.symm.trans (hsame.trans ht))
    exact ⟨u, d, ht, hneighbor⟩
  refine ⟨hmoved, hloop, fun hnone => ?_⟩
  have hnobody : g.circled report = [] := by
    apply List.eq_nil_iff_forall_not_mem.2
    intro a ha
    obtain ⟨t, d, -, hneighbor⟩ := hloop a ha
    exact hnone t d hneighbor
  rw [hmoved, hnobody, List.length_nil, Nat.add_zero]

end Game

/-! ### A board that turns round -/

/-- A single tile that is its own neighbour on every side. -/
def Board.carousel : Board where
  tiles := [⟨.origin, .floor, .ofFn fun _ => some ⟨0⟩⟩]
  playerSpawns := []
  ghostSpawns := []

/-- A player alone on the carousel. -/
def Setup.carousel : Setup where
  config := {}
  board := .carousel
  population := .ofKinds [.player] 1
  memories := Memory.ofCount 1 0
  strategy := .unassigned
  positions := some [⟨0⟩]

namespace Game

/-- The player is on the carousel and is steered north. -/
def carousel : Game where
  config := {}
  board := .carousel
  population := { agents := [⟨.player, some ⟨0⟩⟩], crowds := #[[⟨0⟩]] }
  memories := Memory.ofCount 1 0
  strategy := .unassigned
  steering := [some .north]

theorem exists_build_carousel :
    ∃ g, Setup.carousel.build = .ok g ∧ g.after [.steer ⟨0⟩ .north] = carousel :=
  ⟨_, rfl, rfl⟩

/-- The player makes a move. -/
theorem step_carousel : ∃ report, carousel.step.result = .ok report ∧ report.moved = 1 :=
  ⟨_, rfl, rfl⟩

/-- The player goes round: one move, and nobody stands somewhere else. -/
theorem counts_moves_carousel :
    carousel.Reachable ∧ ∃ report, carousel.step.result = .ok report ∧ report.moved = 1 ∧
      carousel.relocated = [] ∧ (carousel.circled report).length = 1 := by
  have hreachable : carousel.Reachable := by
    obtain ⟨g, hg, hsteered⟩ := exists_build_carousel
    rw [← hsteered]
    exact (Reachable.build (.ofKinds [.player] 1) hg).after [.steer ⟨0⟩ .north]
  obtain ⟨report, hok, hone⟩ := step_carousel
  have hstays : carousel.relocated = [] := rfl
  have hmoved := (counts_moves hreachable hok).moved_eq
  rw [hone, hstays, List.length_nil, Nat.zero_add] at hmoved
  exact ⟨hreachable, report, hok, hone, hstays, hmoved.symm⟩

/-- Moves are not always as many as changes of tile, although the report is meant to count those:
on the carousel, which is a map of one tile that wraps, one move is reported, and nobody has changed
tile. -/
theorem not_moved_eq_relocated :
    Board.ofRows [['.']] .tunnels = .ok carousel.board ∧
      (∃ report, carousel.step.result = .ok report ∧ report.moved = 1) ∧ carousel.relocated = [] ∧
      ¬ ∀ (s : Setup) (g : Game), s.population.Reachable → s.build = .ok g →
        ∀ cs, (∀ c ∈ cs, c.isPlay = true) → ∀ report, (g.after cs).step.result = .ok report →
          report.moved = (g.after cs).relocated.length := by
  have hstays : carousel.relocated = [] := rfl
  refine ⟨rfl, step_carousel, hstays, fun hmeant => ?_⟩
  obtain ⟨report, hok, hone⟩ := step_carousel
  obtain ⟨g, hg, hsteered⟩ := exists_build_carousel
  have hplay : ∀ c ∈ [Command.steer ⟨0⟩ .north], c.isPlay = true := by decide
  have hequal := hmeant .carousel g (.ofKinds [.player] 1) hg _ hplay report (by rw [hsteered, hok])
  rw [hsteered, hstays, hone] at hequal
  cases hequal

end Game

end MazeChase
