import MazeChase.Strategy

/-!
# Games

A game is a board, the agents on it with their memories, the strategy that decides for them, and
the moves that are queued by steering. This file holds the state of a game and what can be read
off it between two ticks; setting a game up and playing it have files of their own.

## Main definitions

* `Game` — the state of a game
* `Game.target` — the tile that ghosts chase
* `Encounter`, `encountersAt` — ghosts on the tile of a player
* `Game.steer` — a move queued for the next tick
* `GameError`, `GameError.message` — what can go wrong in a game
-/

namespace MazeChase

/-- What can go wrong while a game is set up or played. -/
inductive GameError where
  /-- There are `got` memories for `expected` agents. -/
  | memoryCount (expected got : Nat)
  /-- There are `got` first positions for `expected` agents. -/
  | positionCount (expected got : Nat)
  /-- The population was made for another number of tiles than the board has. -/
  | tileCount (covered present : Nat)
  /-- The board has no tile on which an agent of the kind begins. -/
  | noSpawn (kind : AgentKind)
  /-- An agent would begin on a tile that does not admit it. -/
  | inaccessibleStart (agent : AgentId) (tile : TileId)
  /-- There is no such agent to steer. -/
  | agentNotFound (agent : AgentId)
  /-- An agent cannot be placed or found. -/
  | placement (cause : PlacementError)
  /-- An agent cannot decide. -/
  | decision (cause : DecisionError)
  /-- The game was driven past its limits. -/
  | fault (cause : Fault)
deriving DecidableEq, Repr

namespace GameError

/-- The text that reports what went wrong. -/
def message : GameError → String
  | memoryCount expected got =>
    s!"agent memories length {got} does not match agent count {expected}"
  | positionCount expected got =>
    s!"initial positions length {got} does not match agent count {expected}"
  | tileCount covered present =>
    s!"game configuration error: agent store covers {covered} tiles but the board has {present}"
  | noSpawn kind => s!"board has no spawn point for {kind}"
  | inaccessibleStart agent tile => s!"agent {agent} cannot start on tile {tile}"
  | agentNotFound agent => s!"agent {agent} not found"
  | placement cause => cause.message
  | decision cause => cause.message
  | fault cause => cause.message

instance : ToString GameError := ⟨message⟩

end GameError

/-- A ghost and a player who stand on one tile at the end of a tick. -/
structure Encounter where
  /-- The tick. -/
  tick : Tick
  /-- Where they meet. -/
  tile : TileId
  /-- The ghost. -/
  ghost : AgentId
  /-- The player. -/
  player : AgentId
deriving DecidableEq, Repr

/-- The ghosts on a tile, ascending. -/
def ghostsOn (p : Population) (t : TileId) : List AgentId :=
  ((p.occupants t).filter p.isGhost).mergeSort fun a b => a.index ≤ b.index

/-- The encounters at a tick, ascending by player and then by ghost. -/
def encountersAt (tick : Tick) (p : Population) : List Encounter :=
  (p.agentsOfKind .player).flatMap fun player =>
    match p.tile? player with
    | none => []
    | some tile => (ghostsOn p tile).map fun ghost => { tick, tile, ghost, player }

/-- The state of a game. -/
structure Game where
  /-- The schedule. -/
  config : Schedule
  /-- The tick that is played next. -/
  tick : Tick := .zero
  /-- The tiles. -/
  board : Board
  /-- The agents and where they stand. -/
  population : Population
  /-- The memory of each agent, by identifier. -/
  memories : List Memory
  /-- Who decides. -/
  strategy : Strategy
  /-- The rules of access. -/
  rules : Rules := {}
  /-- The move queued for each agent, by identifier. -/
  steering : List (Option Direction)

namespace Game

/-- The tile that ghosts chase: the tile of the first player who stands somewhere. -/
def target (g : Game) : Option TileId :=
  (g.population.agentsOfKind .player).findSome? g.population.tile?

/-- The encounters as the agents stand now. -/
def encounters (g : Game) : List Encounter := encountersAt g.tick g.population

/-- The world that all decisions of the next tick look at. -/
def view (g : Game) : View where
  tick := g.tick
  board := g.board
  population := g.population
  target := g.target
  rules := g.rules

/-- A move is queued for the next tick, in place of what the strategy would decide. A later one for
the same agent replaces it. -/
def steer (g : Game) (a : AgentId) (d : Direction) : Except GameError Game :=
  if a.index < g.steering.length then
    .ok { g with steering := g.steering.set a.index (some d) }
  else .error (.agentNotFound a)

end Game

end MazeChase
