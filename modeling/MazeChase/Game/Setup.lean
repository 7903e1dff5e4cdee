import MazeChase.Game.Basic

/-!
# Setting up a game

A game is set up from its parts. The sizes of the parts are checked first, then everybody is
placed, then the places are checked. Without first positions, whoever stands somewhere already
stays there, and the others take the spawn tiles of their side in turn.

## Main definitions

* `Setup` — the parts of a game
* `Setup.placed` — the population with everybody in place
* `Setup.build` — the game, or the first thing that is wrong
-/

namespace MazeChase

/-- The parts of a game. -/
structure Setup where
  /-- The schedule. -/
  config : Schedule
  /-- The tiles. -/
  board : Board
  /-- The agents, some of which may be placed. -/
  population : Population
  /-- The memory of each agent. -/
  memories : List Memory
  /-- Who decides. -/
  strategy : Strategy
  /-- The rules of access. -/
  rules : Rules := {}
  /-- The first position of each agent, if they are given. -/
  positions : Option (List TileId) := none

/-- A placement as a part of a game. -/
def placing (p : Population) (a : AgentId) (t : TileId) : Except GameError Population :=
  (p.occupy a t).mapError .placement

/-- Everybody from agent `i` on is placed on the tiles in order. -/
def placeAll (p : Population) (i : Nat) : List TileId → Except GameError Population
  | [] => .ok p
  | t :: rest => do
    let p' ← placing p ⟨i⟩ t
    placeAll p' (i + 1) rest

/-- The spawn tile whose turn it is after `used` agents of a side were placed. -/
def spawnTile? (spawns : List TileId) (used : Nat) : Option TileId :=
  spawns[used % spawns.length]?

/-- Agents of known kinds are placed on the spawn tiles of their side in turn, after `players`
players and `ghosts` ghosts. -/
def placeAtSpawns (board : Board) :
    List (AgentId × AgentKind) → (players ghosts : Nat) → Population → Except GameError Population
  | [], _, _, p => .ok p
  | (a, k) :: rest, players, ghosts, p =>
    if k.isPlayer then
      match spawnTile? board.playerSpawns players with
      | none => .error (.noSpawn k)
      | some t => do placeAtSpawns board rest (players + 1) ghosts (← placing p a t)
    else
      match spawnTile? board.ghostSpawns ghosts with
      | none => .error (.noSpawn k)
      | some t => do placeAtSpawns board rest players (ghosts + 1) (← placing p a t)

namespace Population

/-- The agents that stand nowhere with their kinds, ascending. -/
def unplaced (p : Population) : List (AgentId × AgentKind) :=
  (p.agentIds.filter fun a => (p.tile? a).isNone).filterMap fun a => (p.kind? a).map (a, ·)

/-- Why agent `a` cannot begin where it stands. -/
def startFault? (p : Population) (board : Board) (a : AgentId) : Option GameError :=
  match p.requireTile a with
  | .error e => some (.placement e)
  | .ok t => if (p.kind? a).any (board.admits t) then none else some (.inaccessibleStart a t)

end Population

namespace Setup

/-- Whether the parts differ in size. -/
def sizeFault? (s : Setup) : Option GameError :=
  if s.memories.length ≠ s.population.count then
    some (.memoryCount s.population.count s.memories.length)
  else if s.population.tileCount ≠ s.board.tileCount then
    some (.tileCount s.population.tileCount s.board.tileCount)
  else none

/-- The population with everybody in place. -/
def placed (s : Setup) : Except GameError Population :=
  match s.positions with
  | some positions =>
    if positions.length ≠ s.population.count then
      .error (.positionCount s.population.count positions.length)
    else placeAll s.population 0 positions
  | none => placeAtSpawns s.board s.population.unplaced 0 0 s.population

/-- The game with nothing played and nothing queued, or the first thing that is wrong. -/
def build (s : Setup) : Except GameError Game :=
  match s.sizeFault? with
  | some e => .error e
  | none => do
    let population ← s.placed
    match population.agentIds.findSome? (population.startFault? s.board) with
    | some e => .error e
    | none => return {
        config := s.config
        board := s.board
        population
        memories := s.memories
        strategy := s.strategy
        rules := s.rules
        steering := List.replicate population.count none }

end Setup

end MazeChase
