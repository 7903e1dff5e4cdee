import MazeChase.Proofs.Placement
import MazeChase.Proofs.Tick

/-!
# Histories of populations and games

A population begins with nobody placed and is then changed by agents that move and leave. A game
begins as it was set up, from a population with any such history, and is then played, steered and
changed from outside in any order. What is refused changes nothing.

Everything that can happen to a game keeps its parts in step: the two views of the population agree,
the population was made for the tiles of the board, and every agent has a memory and a place in the
queue.

## Main definitions

* `Population.Change`, `Population.changed`, `Population.Reachable` — histories of a population
* `Command`, `Game.obey`, `Game.after`, `Game.Reachable` — histories of a game
* `Game.Coherent` — the parts of a game fit together

## Main results

* `Population.Reachable.consistent` — the views of a population agree at all times
* `Game.Reachable.coherent` — the parts of a game fit together at all times
* `Game.Coherent.exists_state` — then every agent has a memory and a place in the queue
* `Game.obey_steer` — a queued move writes one place of the queue
* `Game.obey_induction` — what every tick respects, all commands that only play respect

## Main examples

* `Setup.ambush`, `Game.ambush` — two ghosts and a player in a corridor
-/

namespace MazeChase

/-! ### Populations -/

namespace Population

/-- A change of who stands where. -/
inductive Change where
  /-- An agent moves onto a tile. -/
  | occupy (agent : AgentId) (tile : TileId)
  /-- An agent leaves the board. -/
  | vacate (agent : AgentId)
deriving DecidableEq, Repr

/-- The population after a change; one that is refused changes nothing. -/
def changed (p : Population) : Change → Population
  | .occupy a t =>
    match p.occupy a t with
    | .ok q => q
    | .error _ => p
  | .vacate a =>
    match p.vacate a with
    | .ok (_, q) => q
    | .error _ => p

/-- The populations that come about: at first nobody is placed. -/
inductive Reachable : Population → Prop
  | ofKinds (kinds : List AgentKind) (tileCount : Nat) : Reachable (ofKinds kinds tileCount)
  | changed {p : Population} (h : Reachable p) (c : Change) : Reachable (p.changed c)

variable {p q : Population}

theorem changed_induction {P : Population → Prop} (c : Change) (same : P p)
    (occupy : ∀ {a t q}, p.occupy a t = .ok q → P q)
    (vacate : ∀ {a left q}, p.vacate a = .ok (left, q) → P q) : P (p.changed c) := by
  cases c with
  | occupy a t =>
    simp only [changed]
    split
    · next h => exact occupy h
    · exact same
  | vacate a =>
    simp only [changed]
    split
    · next h => exact vacate h
    · exact same

theorem Consistent.changed (h : p.Consistent) (c : Change) : (p.changed c).Consistent :=
  changed_induction c h h.occupy h.vacate

@[simp] theorem count_changed (c : Change) : (p.changed c).count = p.count :=
  changed_induction (P := fun q => q.count = p.count) c rfl count_occupy count_vacate

@[simp] theorem tileCount_changed (c : Change) : (p.changed c).tileCount = p.tileCount :=
  changed_induction (P := fun q => q.tileCount = p.tileCount) c rfl tileCount_occupy
    tileCount_vacate

theorem Reachable.consistent (h : p.Reachable) : p.Consistent := by
  induction h with
  | ofKinds kinds tileCount => exact consistent_ofKinds kinds tileCount
  | changed _ c ih => exact ih.changed c

end Population

/-! ### Games -/

/-- What can happen to a game between its setup and the moment at which it is looked at. -/
inductive Command where
  /-- One tick. -/
  | step
  /-- A number of ticks. -/
  | play (ticks : Nat)
  /-- All ticks that are left in the schedule. -/
  | playOut
  /-- A move is queued. -/
  | steer (agent : AgentId) (direction : Direction)
  /-- Somebody is placed or taken off the board from outside. -/
  | change (change : Population.Change)
deriving DecidableEq, Repr

/-- Whether a command leaves it to the game who stands where. -/
def Command.isPlay : Command → Bool
  | change _ => false
  | _ => true

namespace Game

/-- The game after a command; what fails or is refused leaves what it leaves. -/
def obey (g : Game) : Command → Game
  | .step => g.step.game
  | .play n => (g.play n).game
  | .playOut => g.playOut.game
  | .steer a d =>
    match g.steer a d with
    | .ok h => h
    | .error _ => g
  | .change c => { g with population := g.population.changed c }

/-- The game after some commands in order. -/
def after (g : Game) (cs : List Command) : Game := cs.foldl obey g

@[simp] theorem after_nil (g : Game) : g.after [] = g := rfl

@[simp] theorem after_cons (g : Game) (c : Command) (cs : List Command) :
    g.after (c :: cs) = (g.obey c).after cs := rfl

theorem after_append (g : Game) (cs ds : List Command) :
    g.after (cs ++ ds) = (g.after cs).after ds :=
  List.foldl_append

/-- The games that come about: set up from a population with any history, then given commands. -/
inductive Reachable : Game → Prop
  | build {s : Setup} {g : Game} (hs : s.population.Reachable) (h : s.build = .ok g) : Reachable g
  | obey {g : Game} (h : Reachable g) (c : Command) : Reachable (g.obey c)

/-- The parts of a game fit together. -/
structure Coherent (g : Game) : Prop where
  consistent : g.population.Consistent
  tileCount_eq : g.population.tileCount = g.board.tileCount
  length_memories : g.memories.length = g.population.count
  length_steering : g.steering.length = g.population.count

variable {g h : Game}

theorem steer_eq_ok_iff {a : AgentId} {d : Direction} :
    g.steer a d = .ok h ↔
      a.index < g.steering.length ∧ h = { g with steering := g.steering.set a.index (some d) } := by
  simp only [steer]
  split
  · next hlt => simp [hlt, eq_comm]
  · next hle => simp [hle]

/-- To queue a move writes one place of the queue, or none if there is no such place. -/
theorem obey_steer (g : Game) (a : AgentId) (d : Direction) :
    g.obey (.steer a d) = { g with steering := g.steering.set a.index (some d) } := by
  by_cases ha : a.index < g.steering.length
  · simp only [obey, steer, if_pos ha]
  · rw [List.set_eq_of_length_le (Nat.le_of_not_lt ha)]
    simp only [obey, steer, if_neg ha]

/-- What every tick and every queued move respects, every command respects that only plays. -/
theorem obey_induction {R : Game → Game → Prop} (refl : ∀ g, R g g)
    (trans : ∀ {g h k}, R g h → R h k → R g k) (step : ∀ g, R g g.step.game)
    (steer : ∀ {g a d h}, g.steer a d = .ok h → R g h) {c : Command} (hc : c.isPlay = true)
    (g : Game) : R g (g.obey c) := by
  cases c with
  | step => exact step g
  | play n => exact play_induction refl trans step n g
  | playOut =>
    rw [obey, playOut_game]
    exact play_induction refl trans step _ g
  | steer a d =>
    simp only [obey]
    split
    · next h' => exact steer h'
    · exact refl g
  | change c => cases hc

theorem after_induction {R : Game → Game → Prop} (refl : ∀ g, R g g)
    (trans : ∀ {g h k}, R g h → R h k → R g k) (step : ∀ g, R g g.step.game)
    (steer : ∀ {g a d h}, g.steer a d = .ok h → R g h) {cs : List Command}
    (hcs : ∀ c ∈ cs, c.isPlay = true) (g : Game) : R g (g.after cs) := by
  induction cs generalizing g with
  | nil => exact refl g
  | cons c cs ih =>
    rw [after_cons]
    exact trans (obey_induction refl trans step steer (hcs c List.mem_cons_self) g)
      (ih (fun c' hc' => hcs c' (List.mem_cons_of_mem c hc')) (g.obey c))

theorem length_memoriesAfter (g : Game) : g.memoriesAfter.length = g.memories.length := by
  simp only [memoriesAfter, decisions, List.length_append, List.length_map, List.length_mapIdx,
    List.length_zip, List.length_drop]
  omega

/-- Every agent has a memory and a place in the queue. -/
theorem Coherent.exists_state {a : AgentId} (h : g.Coherent) (ha : a.index < g.population.count) :
    ∃ m queued, g.memories[a.index]? = some m ∧ g.steering[a.index]? = some queued := by
  have hm : a.index < g.memories.length := h.length_memories ▸ ha
  have hq : a.index < g.steering.length := h.length_steering ▸ ha
  exact ⟨_, _, List.getElem?_eq_getElem hm, List.getElem?_eq_getElem hq⟩

theorem Coherent.step (h : g.Coherent) : g.step.game.Coherent where
  consistent := consistent_step h.consistent
  tileCount_eq := by rw [tileCount_step, step_board, h.tileCount_eq]
  length_memories := by
    -- Memories are replaced one by one, never added or dropped, even when the tick fails.
    rw [count_step, step_memories, length_memoriesAfter, h.length_memories]
  length_steering := by
    rw [count_step]
    refine step_cases (P := fun turn => turn.game.steering.length = g.population.count) ?_ ?_
    · intro e _
      exact h.length_steering
    · intro wishes _
      obtain ⟨tick, hgame⟩ := carryOut_game g wishes
      rw [hgame]
      exact List.length_replicate

theorem Coherent.steer {a : AgentId} {d : Direction} (hg : g.Coherent) (h' : g.steer a d = .ok h) :
    h.Coherent := by
  obtain ⟨-, rfl⟩ := steer_eq_ok_iff.1 h'
  exact { hg with length_steering := by simpa using hg.length_steering }

theorem Coherent.obey (h : g.Coherent) (c : Command) : (g.obey c).Coherent := by
  by_cases hc : c.isPlay = true
  · exact obey_induction (R := fun g h => g.Coherent → h.Coherent) (fun _ => id)
      (fun h h' => h' ∘ h) (fun _ => Coherent.step) (fun h' hg => hg.steer h') hc g h
  · cases c with
    | change c => exact {
        consistent := h.consistent.changed c
        tileCount_eq := (Population.tileCount_changed c).trans h.tileCount_eq
        length_memories := h.length_memories.trans (Population.count_changed c).symm
        length_steering := h.length_steering.trans (Population.count_changed c).symm }
    | _ => exact absurd rfl hc

theorem coherent_of_build {s : Setup} (hs : s.population.Consistent) (h : s.build = .ok g) :
    g.Coherent := by
  obtain ⟨hsize, population, hplaced, -, rfl⟩ := Setup.build_eq_ok_iff.1 h
  obtain ⟨hmemories, htiles⟩ := Setup.sizeFault?_eq_none_iff.1 hsize
  exact {
    consistent := Setup.consistent_placed hplaced hs
    tileCount_eq := (Setup.tileCount_placed hplaced).trans htiles
    length_memories := hmemories.trans (Setup.count_placed hplaced).symm
    length_steering := List.length_replicate }

theorem Reachable.coherent (h : g.Reachable) : g.Coherent := by
  induction h with
  | build hs h => exact coherent_of_build hs.consistent h
  | obey _ c ih => exact ih.obey c

theorem Reachable.after (h : g.Reachable) (cs : List Command) : (g.after cs).Reachable := by
  induction cs generalizing g with
  | nil => exact h
  | cons c cs ih => exact ih (h.obey c)

end Game

/-! ### An ambush -/

/-- Three tiles in a row. The player begins in the middle, the ghosts begin at the ends. -/
def Board.corridor : Board where
  tiles := [
    ⟨⟨0, 0⟩, .floor, ⟨none, none, some ⟨1⟩, none⟩⟩,
    ⟨⟨1, 0⟩, .floor, ⟨none, none, some ⟨2⟩, some ⟨0⟩⟩⟩,
    ⟨⟨2, 0⟩, .floor, ⟨none, none, none, some ⟨1⟩⟩⟩]
  playerSpawns := [⟨1⟩]
  ghostSpawns := [⟨0⟩, ⟨2⟩]

/-- A player who stays and two ghosts that pursue it and block each other. -/
def Setup.ambush : Setup where
  config := {}
  board := .corridor
  population := .ofKinds [.player, .blinky, .pinky] 3
  memories := Memory.ofCount 3 0
  strategy := .assign (.uniform .pursue) .player (.uniform .idle)
  rules := { ghostsBlockGhosts := true }

/-- The ambush at its beginning. -/
def Game.ambush : Game where
  config := {}
  board := .corridor
  population := {
    agents := [⟨.player, some ⟨1⟩⟩, ⟨.blinky, some ⟨0⟩⟩, ⟨.pinky, some ⟨2⟩⟩]
    crowds := #[[⟨1⟩], [⟨0⟩], [⟨2⟩]] }
  memories := Memory.ofCount 3 0
  strategy := .assign (.uniform .pursue) .player (.uniform .idle)
  rules := { ghostsBlockGhosts := true }
  steering := [none, none, none]

theorem Setup.build_ambush : Setup.ambush.build = .ok Game.ambush := rfl

theorem Game.reachable_ambush : Game.ambush.Reachable :=
  .build (.ofKinds _ _) Setup.build_ambush

end MazeChase
