import MazeChase.Proofs.History

/-!
# What is done to a game, one act at a time

A command may stand for many ticks: a run goes on until enough are played or one fails. For what is
said of every single tick, commands are taken apart. An act is one tick, one order or one change
from outside; a deed is an act with the game right before it; and the record of some commands is the
list of all deeds that they come to, in order, each tick of each run among them.

A record says how one game became another, and it can be cut anywhere: what was done up to some deed
leads to the game that this deed found.

## Main definitions

* `Act`, `Game.perform`, `Deed` — single acts, and what they find
* `Game.record` — the deeds that some commands come to
* `Game.Leads` — deeds that lead from one game to another

## Main results

* `Game.Leads.append`, `Game.Leads.split` — records are joined and cut
* `Game.leads_record` — the record of some commands leads to the game after them
* `Game.Leads.coherent` — the parts of a game fit together before every deed
-/

namespace MazeChase

/-- One thing that is done to a game. -/
inductive Act where
  /-- One tick is tried. -/
  | tick
  /-- A move is queued. -/
  | steer (agent : AgentId) (direction : Direction)
  /-- Somebody is placed or taken off the board from outside. -/
  | change (change : Population.Change)
deriving DecidableEq, Repr

/-- The command that comes to a single act. -/
def Act.command : Act → Command
  | tick => .step
  | steer a d => .steer a d
  | change c => .change c

/-- An act and the game right before it. -/
structure Deed where
  /-- The game that the act finds. -/
  game : Game
  /-- What is done. -/
  act : Act

namespace Game

/-- The game after one act. -/
def perform (g : Game) (act : Act) : Game := g.obey act.command

/-- The ticks that a run of `n` ticks tries: after one that fails there is no other. -/
def ticks : Nat → Game → List Deed
  | 0, _ => []
  | n + 1, g =>
    ⟨g, .tick⟩ ::
      match g.step.result with
      | .error _ => []
      | .ok _ => ticks n g.step.game

/-- The deeds that a command comes to. -/
def deeds (g : Game) : Command → List Deed
  | .step => [⟨g, .tick⟩]
  | .play n => g.ticks n
  | .playOut => g.ticks g.ticksLeft
  | .steer a d => [⟨g, .steer a d⟩]
  | .change c => [⟨g, .change c⟩]

/-- The deeds that some commands come to, in order. -/
def record (g : Game) : List Command → List Deed
  | [] => []
  | c :: cs => g.deeds c ++ (g.obey c).record cs

/-- The deeds of a log lead from one game to another: each finds the game that the one before it
leaves. -/
inductive Leads : Game → List Deed → Game → Prop
  | nil (g : Game) : Leads g [] g
  | cons {g h : Game} {act : Act} {log : List Deed} (hlog : Leads (g.perform act) log h) :
      Leads g (⟨g, act⟩ :: log) h

variable {g h k : Game} {log log' : List Deed} {act : Act}

namespace Leads

theorem singleton (g : Game) (act : Act) : g.Leads [⟨g, act⟩] (g.perform act) := .cons (.nil _)

theorem append (hgh : g.Leads log h) (hhk : h.Leads log' k) : g.Leads (log ++ log') k := by
  induction hgh with
  | nil g => exact hhk
  | cons _ ih => exact .cons (ih hhk)

/-- What was done before a deed leads to the game that the deed finds. -/
theorem split {deed : Deed} (hlog : g.Leads (log ++ deed :: log') h) : g.Leads log deed.game := by
  induction log generalizing g with
  | nil =>
    cases hlog with
    | cons _ => exact .nil _
  | cons first log ih =>
    cases hlog with
    | cons hrest => exact .cons (ih hrest)

/-- What every single act keeps a log keeps. -/
theorem induction {R : Game → Game → Prop} (refl : ∀ g, R g g)
    (trans : ∀ {g h k}, R g h → R h k → R g k) (perform : ∀ g act, R g (g.perform act))
    (hlog : g.Leads log h) : R g h := by
  induction hlog with
  | nil g => exact refl g
  | cons _ ih => exact trans (perform _ _) ih

theorem coherent (hlog : g.Leads log h) (hg : g.Coherent) : h.Coherent :=
  hlog.induction (R := fun g h => g.Coherent → h.Coherent) (fun _ => id) (fun h h' => h' ∘ h)
    (fun _ act hg => hg.obey act.command) hg

end Leads

theorem leads_ticks (n : Nat) (g : Game) : g.Leads (g.ticks n) (g.play n).game := by
  induction n generalizing g with
  | zero => exact .nil g
  | succ n ih =>
    refine .cons ?_
    simp only [play]
    cases g.step.result with
    | error e => exact .nil _
    | ok report => exact ih g.step.game

theorem leads_deeds (g : Game) (c : Command) : g.Leads (g.deeds c) (g.obey c) := by
  cases c with
  | step => exact .singleton g .tick
  | play n => exact leads_ticks n g
  | playOut =>
    rw [obey, playOut_game]
    exact leads_ticks g.ticksLeft g
  | steer a d => exact .singleton g (.steer a d)
  | change c => exact .singleton g (.change c)

/-- The record of some commands leads to the game that they leave. -/
theorem leads_record (g : Game) (cs : List Command) : g.Leads (g.record cs) (g.after cs) := by
  induction cs generalizing g with
  | nil => exact .nil g
  | cons c cs ih => exact (leads_deeds g c).append (ih (g.obey c))

@[simp] theorem count_perform (g : Game) (act : Act) :
    (g.perform act).population.count = g.population.count := by
  cases act with
  | tick => exact count_step
  | steer a d => rw [perform, Act.command, obey_steer]
  | change c => exact Population.count_changed c

theorem Leads.count_eq (hlog : g.Leads log h) : h.population.count = g.population.count :=
  hlog.induction (R := fun g h => h.population.count = g.population.count) (fun _ => rfl)
    (fun h h' => h'.trans h) count_perform

end Game

end MazeChase
