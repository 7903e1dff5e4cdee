import MazeChase.Proofs.Readiness
import MazeChase.Proofs.Record
import MazeChase.Proofs.Telling

/-!
# Orders are neither lost nor followed twice

An order to an agent is a move that is queued for it by steering. Which orders are pending can be
read off the record of what was done to a game: look back to the last tick that made its moves, and
take the last order to the agent that was accepted since. The queue of a game holds just that, at
every moment of every history: before each tick of each run, after ticks that were called off, and
whatever was changed from outside in between.

What a tick does with an agent follows from its place in the queue. An agent with a pending order
follows it, and its strategy has no say: with any other strategy in its place the decision is the
same and the memory stays the same. An agent without one decides by the strategy, in the world as
it is before the tick.

A tick that is called off leaves the queue as it is. A tick that makes its moves attempts what was
ordered in the turn of each agent, so an order comes out as a move or as a move that is blocked, and
nothing else becomes of it. Then the queue is empty; that is so also at the very last tick of the
clock, where the moves are made but there is no next tick.

## Main definitions

* `madeMoves` — ticks that made their moves
* `pendingOrder` — the order that an agent has to follow, as the record tells it
* `Game.KeepsOrders` — a game does with its orders what it should

## Main results

* `pendingOrder_append_singleton` — what one more deed does to the pending orders
* `Game.steering_step`, `Game.steering_perform` — what a tick and what any act does to the queue
* `Game.Leads.steering_eq` — the queue holds the pending orders, all along a record
* `Game.exists_attempts` — a tick that makes its moves attempts what was decided
* `Game.orders_kept` — orders are kept at every moment of every history
-/

namespace MazeChase

/-- Whether a tick that ended like this made its moves. It did if it reports them, and also if
nothing went wrong but that the clock could not go on. -/
def madeMoves : Except GameError Report → Bool
  | .ok _ => true
  | .error (.fault _) => true
  | .error _ => false

namespace Deed

/-- Whether a deed is a tick that made its moves, so that no order from before it is pending. -/
def clears (deed : Deed) : Bool :=
  match deed.act with
  | .tick => madeMoves deed.game.step.result
  | _ => false

/-- The order that a deed gives to agent `a`, if it is accepted. -/
def order? (deed : Deed) (a : AgentId) : Option Direction :=
  match deed.act with
  | .steer b d => if b = a ∧ (deed.game.steer b d).isOk then some d else none
  | _ => none

end Deed

/-- The order to agent `a` that is pending after some deeds: the last one that was accepted since
the last tick that made its moves. -/
def pendingOrder (log : List Deed) (a : AgentId) : Option Direction :=
  (log.reverse.takeWhile fun deed => !deed.clears).findSome? (Deed.order? · a)

variable {log : List Deed} {a b : AgentId} {d : Direction}

/-- A tick that makes its moves leaves nothing pending, an order takes the place of an earlier one,
and anything else leaves pending what was. -/
theorem pendingOrder_append_singleton (log : List Deed) (deed : Deed) (a : AgentId) :
    pendingOrder (log ++ [deed]) a =
      if deed.clears then none else (deed.order? a).or (pendingOrder log a) := by
  simp only [pendingOrder, List.reverse_append, List.reverse_singleton, List.singleton_append,
    List.takeWhile_cons]
  cases deed.clears with
  | true => rfl
  | false =>
    rw [Bool.not_false, if_pos rfl, List.findSome?_cons]
    cases deed.order? a <;> rfl

namespace Game

variable {g h : Game} {e : GameError} {queued : Option Direction}

/-! ### The queue -/

theorem madeMoves_of_ne_fault (h : ∀ f, e ≠ .fault f) : madeMoves (.error e) = false := by
  cases e with
  | fault f => exact absurd rfl (h f)
  | _ => rfl

/-- A tick empties the queue if it makes its moves, and else leaves it as it is. -/
theorem steering_step (hg : g.Coherent) :
    g.step.game.steering =
      if madeMoves g.step.result then List.replicate g.population.count none else g.steering := by
  cases h : approveAll g.population 0 g.proposals with
  | error e =>
    rw [step_of_error h, madeMoves_of_ne_fault (ne_fault_of_approveAll h)]
    rfl
  | ok wishes =>
    obtain ⟨outcomes, hcarried⟩ := exists_carriedOut (Nat.le_of_eq hg.tileCount_eq.symm) h
    have hmade : madeMoves g.step.result = true := by
      rw [hcarried.result_eq]
      cases g.tick.next <;> rfl
    rw [hcarried.steering_eq, if_pos hmade]

theorem steer_eq_error_iff :
    g.steer a d = .error e ↔ g.steering.length ≤ a.index ∧ e = .agentNotFound a := by
  simp only [steer]
  split
  · next hlt => simp [Nat.not_le_of_lt hlt]
  · next hle => simp [Nat.le_of_not_lt hle, eq_comm]

theorem obey_steer_of_le (ha : g.steering.length ≤ a.index) : g.obey (.steer a d) = g := by
  rw [obey_steer, List.set_eq_of_length_le ha]

/-- Every act does to the queue what it does to the pending orders. -/
theorem steering_perform (hg : g.Coherent) (act : Act)
    (hq : g.steering[a.index]? = some queued) :
    (g.perform act).steering[a.index]? =
      some (if (Deed.mk g act).clears then none
        else ((Deed.mk g act).order? a).or queued) := by
  have ha : a.index < g.steering.length := (List.getElem?_eq_some_iff.1 hq).1
  cases act with
  | tick =>
    have hcount : a.index < g.population.count := hg.length_steering ▸ ha
    simp only [perform, Act.command, obey, steering_step hg, Deed.clears, Deed.order?]
    by_cases hmade : madeMoves g.step.result = true
    · simp [hmade, hcount]
    · simp [hmade, hq]
  | steer b d =>
    simp only [perform, Act.command, Deed.clears, Deed.order?, Bool.false_eq_true, if_false]
    by_cases hb : b.index < g.steering.length
    · have hok : (g.steer b d).isOk = true := by
        rw [steer_eq_ok_iff.2 ⟨hb, rfl⟩]
        rfl
      rw [obey_steer, hok]
      by_cases hba : b = a
      · subst hba
        simp [hb]
      · have hne : b.index ≠ a.index := fun h => hba (by cases a; cases b; simp_all)
        simp [hba, List.getElem?_set_ne hne, hq]
    · -- The order is refused, and it is to none of the agents that have a place in the queue.
      have hba : b ≠ a := by
        rintro rfl
        exact hb ha
      rw [obey_steer_of_le (Nat.le_of_not_lt hb)]
      simp [hba, hq]
  | change c => exact hq

/-- All along a record the queue holds the pending orders. -/
theorem Leads.steering_eq (hlog : g.Leads log h) (hg : g.Coherent) (before : List Deed)
    (hq : g.steering[a.index]? = some (pendingOrder before a)) :
    h.steering[a.index]? = some (pendingOrder (before ++ log) a) := by
  -- The deeds before have to stay free: each deed that is done joins them.
  induction hlog generalizing before with
  | nil g => rwa [List.append_nil]
  | @cons g h act log _ ih =>
    have hnext := steering_perform hg act hq
    rw [← pendingOrder_append_singleton] at hnext
    have hlast := ih (hg.obey act.command) _ hnext
    rwa [List.append_assoc, List.singleton_append] at hlast

/-! ### What is done with orders -/

theorem exists_carriedOut_of_madeMoves (hg : g.Coherent) (hmade : madeMoves g.step.result = true) :
    ∃ wishes outcomes, g.CarriedOut wishes outcomes := by
  cases happroved : approveAll g.population 0 g.proposals with
  | error e =>
    rw [step_of_error happroved, madeMoves_of_ne_fault (ne_fault_of_approveAll happroved)] at hmade
    cases hmade
  | ok wishes => exact ⟨wishes, exists_carriedOut (Nat.le_of_eq hg.tileCount_eq.symm) happroved⟩

/-- A tick that makes its moves attempts what each agent has decided. -/
theorem exists_attempts {m : Memory} (hg : g.Coherent) (hmade : madeMoves g.step.result = true)
    (hm : g.memories[a.index]? = some m) (hq : g.steering[a.index]? = some queued) :
    ∃ wish before after o, (g.decide a m queued).1 = .ok wish ∧
      g.Attempts a wish before after o := by
  obtain ⟨wishes, outcomes, hcarried⟩ := exists_carriedOut_of_madeMoves hg hmade
  obtain ⟨wish, hwish, hdecides⟩ := decide_of_approved hcarried.approved hm hq
  obtain ⟨before, after, o, hattempts⟩ := hcarried.exists_attempts hwish
  exact ⟨wish, before, after, o, hdecides, hattempts⟩

/-- A game that was reached by the deeds of a log does with orders what it should. -/
structure KeepsOrders (g : Game) (log : List Deed) : Prop where
  /-- The queue holds the pending order of each agent. -/
  queue : ∀ a : AgentId, a.index < g.population.count →
    g.steering[a.index]? = some (pendingOrder log a)
  /-- Whoever has a pending order follows it in the next tick and keeps its memory, whatever
  strategy there is. -/
  ordered : ∀ (a : AgentId) (d : Direction), a.index < g.population.count →
    pendingOrder log a = some d → ∃ m, g.memories[a.index]? = some m ∧ ∀ s : Strategy,
      ({ g with strategy := s }).decisions[a.index]? = some (.ok (some d), m) ∧
      ({ g with strategy := s }).step.game.memories[a.index]? = some m
  /-- Whoever has none decides by the strategy, in the world before the tick. -/
  free : ∀ a : AgentId, a.index < g.population.count → pendingOrder log a = none →
    ∃ m, g.memories[a.index]? = some m ∧
      g.decisions[a.index]? = some (g.strategy.decide a g.view m) ∧
      g.step.game.memories[a.index]? = some (g.strategy.decide a g.view m).2
  /-- If the tick makes its moves it attempts the order of whoever has one, -/
  attempted : ∀ (a : AgentId) (d : Direction), a.index < g.population.count →
    pendingOrder log a = some d → madeMoves g.step.result = true →
      ∃ before after o, g.Attempts a (some d) before after o
  /-- and what the strategy has decided for whoever has none. -/
  unordered : ∀ a : AgentId, a.index < g.population.count → pendingOrder log a = none →
    madeMoves g.step.result = true → ∃ m wish before after o, g.memories[a.index]? = some m ∧
      (g.strategy.decide a g.view m).1 = .ok wish ∧ g.Attempts a wish before after o
  /-- After a tick that succeeds nothing is queued for anybody. -/
  emptied : ∀ report, g.step.result = .ok report →
    g.step.game.steering = List.replicate g.population.count none
  /-- After a tick that is called off everything is still queued. -/
  kept : ∀ e, g.step.result = .error e → (∀ f, e ≠ .fault f) →
    g.step.game.steering = g.steering
  /-- There is no other way for a tick to end, but at the end of the clock. -/
  fault : ∀ f, g.step.result = .error (.fault f) → g.tick.count.toNat + 1 = UInt64.size
  /-- Changes from outside do not touch the queue. -/
  change : ∀ c, (g.obey (.change c)).steering = g.steering
  /-- An order is refused exactly if there is no such agent, -/
  refused_iff : ∀ a d e, g.steer a d = .error e ↔
    g.population.count ≤ a.index ∧ e = .agentNotFound a
  /-- and then changes nothing. -/
  refused : ∀ a d e, g.steer a d = .error e → g.obey (.steer a d) = g
  /-- An order that is accepted changes nothing but the place of its agent in the queue. -/
  accepted : ∀ (a : AgentId) (d : Direction), a.index < g.population.count →
    g.obey (.steer a d) = { g with steering := g.steering.set a.index (some d) }

theorem keepsOrders_of_coherent (hg : g.Coherent)
    (hqueue : ∀ a : AgentId, a.index < g.population.count →
      g.steering[a.index]? = some (pendingOrder log a)) : g.KeepsOrders log := by
  have hplace (a : AgentId) (ha : a.index < g.population.count) :
      ∃ m, g.memories[a.index]? = some m ∧ g.steering[a.index]? = some (pendingOrder log a) := by
    obtain ⟨m, -, hm, -⟩ := hg.exists_state ha
    exact ⟨m, hm, hqueue a ha⟩
  constructor
  case queue => exact hqueue
  case ordered =>
    intro a d ha hpending
    obtain ⟨m, hm, hq⟩ := hplace a ha
    rw [hpending] at hq
    -- An order is followed without asking the strategy, so any other one may take its place.
    refine ⟨m, hm, fun s => ?_⟩
    rw [step_memories]
    exact ⟨getElem?_decisions (g := { g with strategy := s }) hm hq,
      getElem?_memoriesAfter (g := { g with strategy := s }) hm hq⟩
  case free =>
    intro a ha hpending
    obtain ⟨m, hm, hq⟩ := hplace a ha
    rw [hpending] at hq
    refine ⟨m, hm, getElem?_decisions hm hq, ?_⟩
    rw [step_memories]
    exact getElem?_memoriesAfter hm hq
  case attempted =>
    intro a d ha hpending hmade
    obtain ⟨m, hm, hq⟩ := hplace a ha
    rw [hpending] at hq
    obtain ⟨wish, before, after, o, hdecides, hattempts⟩ := exists_attempts hg hmade hm hq
    obtain rfl : some d = wish := Except.ok.inj hdecides
    exact ⟨before, after, o, hattempts⟩
  case unordered =>
    intro a ha hpending hmade
    obtain ⟨m, hm, hq⟩ := hplace a ha
    rw [hpending] at hq
    obtain ⟨wish, before, after, o, hdecides, hattempts⟩ := exists_attempts hg hmade hm hq
    exact ⟨m, wish, before, after, o, hm, hdecides, hattempts⟩
  case emptied =>
    intro report hreport
    rw [steering_step hg, hreport]
    rfl
  case kept =>
    intro e he hfault
    rw [steering_step hg, he, madeMoves_of_ne_fault hfault]
    rfl
  case fault => exact fun f => (ends_step g).of_fault
  case change => exact fun c => rfl
  case refused_iff =>
    intro a d e
    rw [steer_eq_error_iff, hg.length_steering]
  case refused =>
    intro a d e he
    exact obey_steer_of_le (steer_eq_error_iff.1 he).1
  case accepted =>
    intro a d _
    exact obey_steer g a d

/-- **Orders are neither lost nor followed twice.** At every moment of every history of a game that
was set up, before each single tick of each run as well as at the end, orders are kept as the record
so far has them. -/
theorem orders_kept {s : Setup} (hs : s.population.Reachable) (hg : s.build = .ok g)
    (cs : List Command) :
    g.Leads (g.record cs) (g.after cs) ∧ (g.after cs).KeepsOrders (g.record cs) ∧
      ∀ before deed rest, g.record cs = before ++ deed :: rest →
        deed.game.KeepsOrders before := by
  have hcoherent : g.Coherent := coherent_of_build hs.consistent hg
  have hstart (a : AgentId) (ha : a.index < g.population.count) :
      g.steering[a.index]? = some (pendingOrder [] a) := by
    obtain ⟨-, population, -, -, rfl⟩ := Setup.build_eq_ok_iff.1 hg
    exact List.getElem?_replicate_of_lt ha
  have hkeeps {log : List Deed} {h : Game} (hlog : g.Leads log h) : h.KeepsOrders log := by
    refine keepsOrders_of_coherent (hlog.coherent hcoherent) fun a ha => ?_
    rw [hlog.count_eq] at ha
    exact hlog.steering_eq hcoherent [] (hstart a ha)
  have hrecord := leads_record g cs
  refine ⟨hrecord, hkeeps hrecord, fun before deed rest h => ?_⟩
  rw [h] at hrecord
  exact hkeeps hrecord.split

/-- The player gets two orders, and then Blinky is taken off the board for the time of one tick,
which is called off; an order to somebody who is not there is refused. -/
def interruption : List Command :=
  [.steer ⟨0⟩ .west, .steer ⟨0⟩ .east, .change (.vacate ⟨1⟩), .step, .steer ⟨7⟩ .north,
    .change (.occupy ⟨1⟩ ⟨0⟩)]

/-- After the interruption the second order is still pending, and the next tick follows it and
attempts it. -/
theorem orders_kept_ambush :
    Setup.ambush.population.Reachable ∧ Setup.ambush.build = .ok ambush ∧
      (ambush.after interruption).KeepsOrders (ambush.record interruption) ∧
      pendingOrder (ambush.record interruption) ⟨0⟩ = some .east ∧
      (∃ m, (ambush.after interruption).decisions[0]? = some (.ok (some .east), m)) ∧
      ∃ before after o,
        (ambush.after interruption).Attempts ⟨0⟩ (some .east) before after o := by
  have hreachable : Setup.ambush.population.Reachable := .ofKinds _ _
  have hkeeps := (orders_kept hreachable Setup.build_ambush interruption).2.1
  have hpending : pendingOrder (ambush.record interruption) ⟨0⟩ = some .east := rfl
  have hplayer : 0 < (ambush.after interruption).population.count := by
    rw [(leads_record ambush interruption).count_eq]
    decide
  obtain ⟨m, -, hdecides⟩ := hkeeps.ordered ⟨0⟩ .east hplayer hpending
  have hmade : madeMoves (ambush.after interruption).step.result = true := rfl
  exact ⟨hreachable, Setup.build_ambush, hkeeps, hpending, ⟨m, (hdecides _).1⟩,
    hkeeps.attempted ⟨0⟩ .east hplayer hpending hmade⟩

end Game

end MazeChase
