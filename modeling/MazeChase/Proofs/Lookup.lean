import MazeChase.Proofs.Record
import MazeChase.Proofs.Telling

/-!
# Ticks of games whose parts do not fit together

Memories, queue, population and board are parts of their own, and nothing keeps them at sizes that
fit together once a game was set up. A tick reads and writes its tables by place all the same. Some
of these places are looked for, and nothing is done if they are not there; the others are asked for
outright, and would be a fault if they were missing. They are the agents when their kinds are gone
through, and the agent and the two crowds when somebody moves. A tick that checks each of them first
is described here, and it comes to what the tick comes to: none of them is ever missing.

Agents are asked in order as long as there is both a memory and a place in the queue. Each of those
who are asked is counted once in the report, and the others are left alone.

## Main definitions

* `ask` — a place of a table that is asked for outright
* `Game.stepChecked` — a tick that asks for every such place first
* `Game.asked` — how many agents are asked for a decision
* `Game.Accounts` — what a tick does with those who are asked and with those who are not

## Main results

* `Game.stepChecked_eq` — no place is missing
* `Game.every_decision_counted` — ticks account for every decision, whatever the sizes of the parts

## Main examples

* `Game.jumble` — a game whose parts do not fit together
-/

namespace MazeChase

/-- Place `index` is asked for in a table of `length` entries. -/
def ask (length index : Nat) : Except Fault Unit :=
  if index < length then .ok () else .error (.outOfBounds length index)

theorem ask_of_lt {length index : Nat} (h : index < length) : ask length index = .ok () := by
  rw [ask, if_pos h]

/-! ### Places of a population -/

namespace Population

variable {p : Population} {a : AgentId} {t : TileId}

/-- The places of some agents are asked for in order. -/
def askAgents (p : Population) : List AgentId → Except Fault Unit
  | [] => .ok ()
  | a :: rest => do
    ask p.count a.index
    p.askAgents rest

/-- The agents of a kind. All agents are asked for their kinds. -/
def agentsOfKindChecked (p : Population) (k : AgentKind) : Except Fault (List AgentId) := do
  p.askAgents p.agentIds
  return p.agentsOfKind k

/-- An agent moves onto a tile. The agent is asked for its tile, and the crowd that it leaves and
the crowd that it joins are asked for as well. -/
def occupyChecked (p : Population) (a : AgentId) (t : TileId) :
    Except Fault (Except PlacementError Population) :=
  if p.count ≤ a.index then .ok (.error (.agentNotFound a))
  else if p.tileCount ≤ t.index then .ok (.error (.tileOutOfRange t p.tileCount))
  else do
    ask p.count a.index
    match p.tile? a with
    | none =>
      ask p.tileCount t.index
      return .ok (p.arrive a t)
    | some old =>
      if old = t then return .ok p
      else
        ask p.tileCount old.index
        ask p.tileCount t.index
        return .ok ((p.depart a).arrive a t)

/-- The kind and the tile are all that an agent is. -/
theorem agents_ext {q : Population} (hkind : q.kind? a = p.kind? a)
    (htile : q.tile? a = p.tile? a) : q.agents[a.index]? = p.agents[a.index]? := by
  simp only [kind?, tile?] at hkind htile
  rcases hq : q.agents[a.index]? with _ | ⟨k, t⟩ <;>
    rcases hp : p.agents[a.index]? with _ | ⟨k', t'⟩ <;> simp_all

theorem askAgents_eq_ok {as : List AgentId} (h : ∀ a ∈ as, a.index < p.count) :
    p.askAgents as = .ok () := by
  induction as with
  | nil => rfl
  | cons a rest ih =>
    rw [List.forall_mem_cons] at h
    rw [askAgents, ask_of_lt h.1, ih h.2]
    rfl

theorem agentsOfKindChecked_eq (p : Population) (k : AgentKind) :
    p.agentsOfKindChecked k = .ok (p.agentsOfKind k) := by
  rw [agentsOfKindChecked, askAgents_eq_ok fun a ha => mem_agentIds.1 ha]
  rfl

/-- While the two views agree, whoever stands somewhere stands on a tile that has a crowd. -/
theorem occupyChecked_eq (hp : p.Consistent) (a : AgentId) (t : TileId) :
    p.occupyChecked a t = .ok (p.occupy a t) := by
  rw [occupyChecked, occupy]
  split
  · rfl
  · next ha =>
    split
    · rfl
    · next ht =>
      rw [ask_of_lt (Nat.lt_of_not_le ha), ask_of_lt (Nat.lt_of_not_le ht)]
      cases hold : p.tile? a with
      | none =>
        have hdepart : p.depart a = p := by rw [depart, hold]
        rw [if_neg (Option.some_ne_none t).symm, hdepart]
        rfl
      | some old =>
        simp only [Option.some.injEq]
        by_cases hsame : old = t
        · rw [if_pos hsame]
          simp only [hsame, if_true]
          rfl
        · -- Only here a tile is left, and it has a crowd because the two views agree.
          rw [if_neg hsame]
          simp only [hsame, if_false, ask_of_lt (hp.lt_of_tile? hold).2]
          rfl

end Population

/-! ### Moves and ticks -/

section Moves

variable (board : Board) (rules : Rules)

/-- The move of an agent in a direction, with every place of a table asked for first. -/
def attemptChecked (p : Population) (a : AgentId) (d : Direction) :
    Except Fault (Except PlacementError (Population × Outcome)) :=
  match p.requireTile a with
  | .error e => .ok (.error e)
  | .ok here =>
    match (movingView board rules p).graph.step? here d a with
    | none => .ok (.ok (p, .blocked))
    | some there => do
      let moved ← p.occupyChecked a there
      return moved.map fun q => (q, .moved)

/-- What becomes of a wish, with every place of a table asked for first. -/
def settleChecked (p : Population) (a : AgentId) :
    Option Direction → Except Fault (Except PlacementError (Population × Outcome))
  | none => .ok (.ok (p, .idle))
  | some d => attemptChecked board rules p a d

/-- What becomes of the wishes of agents `i`, `i + 1`, …, with every place of a table asked for
first. -/
def settleAllChecked : Nat → List (Option Direction) → Population →
    Except Fault (Population × Except PlacementError (List Outcome))
  | _, [], p => .ok (p, .ok [])
  | i, wish :: rest, p => do
    match ← settleChecked board rules p ⟨i⟩ wish with
    | .error e => return (p, .error e)
    | .ok (p', outcome) =>
      let (q, outcomes) ← settleAllChecked (i + 1) rest p'
      return (q, outcomes.map (outcome :: ·))

variable {board rules} {p : Population}

theorem attemptChecked_eq (hp : p.Consistent) (a : AgentId) (d : Direction) :
    attemptChecked board rules p a d = .ok (attempt board rules p a d) := by
  rw [attemptChecked, attempt]
  cases p.requireTile a with
  | error e => rfl
  | ok here =>
    simp only [bind, Except.bind]
    cases (movingView board rules p).graph.step? here d a with
    | none => rfl
    | some there =>
      simp only [Population.occupyChecked_eq hp]
      cases p.occupy a there <;> rfl

theorem settleChecked_eq (hp : p.Consistent) (a : AgentId) (wish : Option Direction) :
    settleChecked board rules p a wish = .ok (settle board rules p a wish) := by
  cases wish with
  | none => rfl
  | some d => exact attemptChecked_eq hp a d

/-- Every wish is settled in a population whose views agree, for each move leaves such a one. -/
theorem settleAllChecked_eq (hp : p.Consistent) (i : Nat) (wishes : List (Option Direction)) :
    settleAllChecked board rules i wishes p = .ok (settleAll board rules i wishes p) := by
  induction wishes generalizing i p with
  | nil => rfl
  | cons wish rest ih =>
    rw [settleAllChecked, settleAll, settleChecked_eq hp]
    cases hfirst : settle board rules p ⟨i⟩ wish with
    | error e => rfl
    | ok first =>
      obtain ⟨p', o⟩ := first
      have hp' : p'.Consistent := (settle_eq_ok_iff.1 hfirst).consistent hp
      simp only [bind, Except.bind, ih hp' (i + 1)]
      rfl

end Moves

namespace Game

variable {g : Game} {wishes : List (Option Direction)} {report : Report}

/-- What a tick leaves behind when its moves have left a population and some outcomes. -/
def concluded (g : Game) (population : Population)
    (outcomes : Except PlacementError (List Outcome)) : Turn :=
  let after := { g with
    memories := g.memoriesAfter
    steering := List.replicate g.population.count none
    population }
  match outcomes with
  | .error e => ⟨after, [.tickStart g.tick], .error (.placement e)⟩
  | .ok outcomes =>
    let report := { outcomes, encounters := encountersAt g.tick population }
    let events := .tickStart g.tick :: closingEvents g.config g.tick g.board population report
    match g.tick.next with
    | .error f => ⟨after, events, .error (.fault f)⟩
    | .ok tick => ⟨{ after with tick }, events, .ok report⟩

/-- The moves are made and the encounters are noted, with every place of a table asked for first. -/
def carryOutChecked (g : Game) (wishes : List (Option Direction)) : Except Fault Turn := do
  let (population, outcomes) ← settleAllChecked g.board g.rules 0 wishes g.population
  if outcomes.isOk then
    let _players ← population.agentsOfKindChecked .player
  return g.concluded population outcomes

/-- A tick that asks for every place of a table first: players are looked for before everybody
decides and again when the moves are made, and in between every move goes through the tables. -/
def stepChecked (g : Game) : Except Fault Turn := do
  let _players ← g.population.agentsOfKindChecked .player
  match approveAll g.population 0 (g.decisions.map Prod.fst) with
  | .error e => return ⟨{ g with memories := g.memoriesAfter }, [.tickStart g.tick], .error e⟩
  | .ok wishes => g.carryOutChecked wishes

theorem carryOutChecked_eq (hp : g.population.Consistent) (wishes : List (Option Direction)) :
    g.carryOutChecked wishes = .ok (g.carryOut wishes) := by
  rw [carryOutChecked, settleAllChecked_eq hp]
  simp only [bind, Except.bind, Population.agentsOfKindChecked_eq]
  split <;> rfl

/-- No place that a tick asks for is missing. -/
theorem stepChecked_eq (hp : g.population.Consistent) : g.stepChecked = .ok g.step := by
  rw [stepChecked, Population.agentsOfKindChecked_eq, step]
  cases approveAll g.population 0 (g.decisions.map Prod.fst) with
  | error e => rfl
  | ok wishes => exact carryOutChecked_eq hp wishes

/-! ### Who is asked -/

/-- The number of agents that are asked: the first ones, as long as there are a memory and a place
in the queue. -/
def asked (g : Game) : Nat := min g.memories.length g.steering.length

theorem length_decisions (g : Game) : g.decisions.length = g.asked := by
  rw [decisions, List.length_mapIdx, List.length_zip, asked]

theorem length_of_approved (h : approveAll g.population 0 g.proposals = .ok wishes) :
    wishes.length = g.asked := by
  rw [length_of_approveAll h, proposals, List.length_map, length_decisions]

/-- Everybody who is asked has one outcome. -/
theorem length_outcomes_of_ok (h : g.step.result = .ok report) :
    report.outcomes.length = g.asked := by
  obtain ⟨wishes, hcarried⟩ := exists_carriedOut_of_ok h
  rw [length_outcomes hcarried.settled, length_of_approved hcarried.approved]

/-- Who is not asked keeps what it remembers. -/
theorem getElem?_memoriesAfter_of_le {i : Nat} (hi : g.asked ≤ i) :
    g.memoriesAfter[i]? = g.memories[i]? := by
  have hlength : (g.decisions.map Prod.snd).length = g.asked := by
    rw [List.length_map, length_decisions]
  rw [memoriesAfter, List.getElem?_append_right (hlength ▸ hi), List.getElem?_drop, hlength,
    length_decisions, Nat.add_sub_cancel' hi]

/-- Who is not asked stays where it is. -/
theorem tile?_step_of_le {a : AgentId} (ha : g.asked ≤ a.index) :
    g.step.game.population.tile? a = g.population.tile? a := by
  rcases step_population g with h | ⟨wishes, happroved, h⟩
  · rw [h]
  · rw [h]
    apply tile?_settleAll_of_outside
    right
    rwa [length_of_approved happroved, Nat.zero_add]

/-- What a tick does with those who are asked and with those who are not. -/
structure Accounts (g : Game) : Prop where
  /-- Each place of a table that is asked for is there. -/
  in_range : g.stepChecked = .ok g.step
  /-- There is no fault as long as the clock can go on. -/
  no_fault : g.tick.count.toNat + 1 < UInt64.size → ∀ f, g.step.result ≠ .error (.fault f)
  /-- Each agent that is asked is counted once. -/
  counted : ∀ report, g.step.result = .ok report →
    report.moved + report.idle + report.blocked = g.asked
  /-- The queue is empty again, with a place for each agent. -/
  steering_eq : ∀ report, g.step.result = .ok report →
    g.step.game.steering = List.replicate g.step.game.population.count none
  /-- The agents that are not asked are left alone. -/
  agent_eq : ∀ i, g.asked ≤ i → g.step.game.population.agents[i]? = g.population.agents[i]?
  /-- The memories that nobody uses are left alone. -/
  memory_eq : ∀ i, g.asked ≤ i → g.step.game.memories[i]? = g.memories[i]?

/-- A population whose views agree is all that it takes. -/
theorem accounts_of_consistent (hp : g.population.Consistent) : g.Accounts where
  in_range := stepChecked_eq hp
  no_fault htick f hf := absurd ((ends_step g).of_fault hf) (Nat.ne_of_lt htick)
  counted report hok := by rw [report.moved_add_idle_add_blocked, length_outcomes_of_ok hok]
  steering_eq report hok := by
    obtain ⟨wishes, hcarried⟩ := exists_carriedOut_of_ok hok
    rw [hcarried.steering_eq, count_step]
  agent_eq i hi := Population.agents_ext (kind?_step ⟨i⟩) (tile?_step_of_le (a := ⟨i⟩) hi)
  memory_eq i hi := by rw [step_memories, getElem?_memoriesAfter_of_le hi]

/-- In a game whose parts fit together everybody is asked. -/
theorem Coherent.asked_eq (h : g.Coherent) : g.asked = g.population.count := by
  rw [asked, h.length_memories, h.length_steering, Nat.min_self]

/-- **Ticks account for every decision.** With any population that comes about, and with whatever
board, memories and queue, a tick asks for no place that is missing, counts each agent that is asked
once, and leaves the others alone. In every tick of a game that was set up the counts sum up to the
number of agents. -/
theorem every_decision_counted :
    (∀ g : Game, g.population.Reachable → g.Accounts) ∧
    ∀ (s : Setup) (g : Game), s.population.Reachable → s.build = .ok g →
      ∀ cs, ∀ deed ∈ g.record cs, deed.act = .tick →
        ∀ report, deed.game.step.result = .ok report →
          report.moved + report.idle + report.blocked = g.population.count := by
  refine ⟨fun g hp => accounts_of_consistent hp.consistent, ?_⟩
  intro s g hs hg cs deed hdeed _ report hok
  obtain ⟨before, later, hlog⟩ := List.append_of_mem hdeed
  have hleads : g.Leads before deed.game := (hlog ▸ leads_record g cs).split
  have hcoherent : deed.game.Coherent := hleads.coherent (coherent_of_build hs.consistent hg)
  calc report.moved + report.idle + report.blocked
      = deed.game.asked := (accounts_of_consistent hcoherent.consistent).counted report hok
    _ = deed.game.population.count := hcoherent.asked_eq
    _ = g.population.count := hleads.count_eq

/-- A player and a ghost beside each other, and a ghost that was never placed. The board has a tile
that they do not know of, there are two memories for the three, and the queue has a place too
many. -/
def jumble : Game where
  config := {}
  board := .corridor
  population := ((Population.ofKinds [.player, .blinky, .pinky] 2).changed
    (.occupy ⟨0⟩ ⟨1⟩)).changed (.occupy ⟨1⟩ ⟨0⟩)
  memories := Memory.ofCount 2 0
  strategy := .unassigned
  steering := [none, some .west, some .east, some .north]

/-- Two of the jumble are asked, so the ghost that stands nowhere cannot call the tick off. Of the
ambush all three are asked. -/
theorem every_decision_counted_jumble :
    (jumble.population.Reachable ∧ jumble.asked = 2 ∧
      ∃ report, jumble.step.result = .ok report ∧
        report.moved + report.idle + report.blocked = 2 ∧
        jumble.step.game.steering = [none, none, none]) ∧
    ∃ report, ambush.step.result = .ok report ∧
      report.moved + report.idle + report.blocked = 3 := by
  obtain ⟨haccounts, hbuilt⟩ := every_decision_counted
  have hreachable : jumble.population.Reachable :=
    .changed (.changed (.ofKinds [.player, .blinky, .pinky] 2) (.occupy ⟨0⟩ ⟨1⟩)) (.occupy ⟨1⟩ ⟨0⟩)
  have haccount := haccounts jumble hreachable
  refine ⟨⟨hreachable, rfl, _, rfl, haccount.counted _ rfl, ?_⟩, _, rfl, ?_⟩
  · rw [haccount.steering_eq _ rfl, count_step]
    rfl
  · exact hbuilt .ambush ambush (.ofKinds _ _) Setup.build_ambush [.step] ⟨ambush, .tick⟩
      List.mem_cons_self rfl _ rfl

end Game

end MazeChase
