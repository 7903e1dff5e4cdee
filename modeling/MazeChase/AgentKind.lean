/-!
# Kinds of agents

An agent is the player or one of four ghosts. The kind decides which terrain the agent may enter
and which strategy moves it.

## Main definitions

* `AgentKind` — the player and the four ghosts
* `AgentKind.isPlayer`, `AgentKind.isGhost` — the two sides
* `AgentKind.figure` — how an agent is drawn

## Main results

* `AgentKind.isGhost_iff` — everybody but the player is a ghost
-/

namespace MazeChase

/-- The player, who is pursued, or one of the four ghosts. -/
inductive AgentKind where
  | player
  | blinky
  | pinky
  | inky
  | clyde
deriving DecidableEq, Repr

namespace AgentKind

/-- A kind that is not given is the player. -/
instance : Inhabited AgentKind := ⟨player⟩

/-- The four ghosts in canonical order. -/
def ghosts : List AgentKind := [blinky, pinky, inky, clyde]

/-- Whether the kind is the player. -/
def isPlayer : AgentKind → Bool
  | player => true
  | _ => false

/-- Whether the kind is a ghost. -/
def isGhost (k : AgentKind) : Bool := !k.isPlayer

@[simp] theorem isPlayer_iff {k : AgentKind} : k.isPlayer = true ↔ k = player := by
  cases k <;> simp [isPlayer]

@[simp] theorem isGhost_iff {k : AgentKind} : k.isGhost = true ↔ k ≠ player := by
  simp [isGhost, ← isPlayer_iff]

@[simp] theorem mem_ghosts {k : AgentKind} : k ∈ ghosts ↔ k ≠ player := by
  cases k <;> simp [ghosts]

/-- The place of a kind in the order player, Blinky, Pinky, Inky, Clyde, from 0. -/
def ordinal : AgentKind → Nat
  | player => 0
  | blinky => 1
  | pinky => 2
  | inky => 3
  | clyde => 4

/-- The name of a kind in running text. -/
def name : AgentKind → String
  | player => "player"
  | blinky => "blinky"
  | pinky => "pinky"
  | inky => "inky"
  | clyde => "clyde"

/-- The name of a kind as a constant of the data format. -/
def title : AgentKind → String
  | player => "Player"
  | blinky => "Blinky"
  | pinky => "Pinky"
  | inky => "Inky"
  | clyde => "Clyde"

instance : ToString AgentKind := ⟨name⟩

/-- The character that shows an agent in a drawing: `@` for the player, a ghost's initial. -/
def figure : AgentKind → Char
  | player => '@'
  | blinky => 'B'
  | pinky => 'P'
  | inky => 'I'
  | clyde => 'C'

end AgentKind

end MazeChase
