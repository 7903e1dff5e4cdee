import MazeChase.Board.Map
import MazeChase.Drawing
import MazeChase.Game.Run
import MazeChase.Game.Setup

/-!
# A demonstration game

One maze, a player who wanders and the four ghosts with their usual characters, for two hundred
ticks. The transcript shows the board at every snapshot and at the end, and the sums of the reports.

## Main definitions

* `Demo.maze` — the map; `=` is a gate that only the player may pass
* `Demo.game` — the game before its first tick
* `Demo.transcript` — what the demonstration prints
-/

namespace MazeChase.Demo

/-- The seed of the game. -/
def seed : UInt64 := 42

/-- The number of ticks. -/
def totalTicks : UInt64 := 200

/-- The number of ticks between two snapshots. -/
def snapshotTicks : UInt64 := 50

/-- The map. -/
def maze : String := "
###############
#P.....#.....G#
#.###.###.###.#
#.#.........#.#
#.#.##=.##..#.#
#...#G...G#...#
#.#.#######.#.#
#.....G.......#
###############
"

/-- The board of the map. -/
def board : Except String Board := (Board.ofText maze .solid).mapError BoardError.message

/-- Everybody behaves as usual, but the player wanders. Clyde's home is the last ghost spawn. -/
def strategy (b : Board) : Except String Strategy :=
  match b.ghostSpawns.getLast? with
  | none => .error "maze has no ghost spawn"
  | some home => .ok ((Strategy.classic home).assign .player (.uniform .wander))

/-- The game before its first tick. -/
def game (b : Board) (s : Strategy) : Except GameError Game :=
  let kinds := .player :: AgentKind.ghosts
  Setup.build {
    config := { seed, totalTicks, snapshotInterval := snapshotTicks }
    board := b
    population := .ofKinds kinds b.tileCount
    memories := Memory.ofCount kinds.length seed
    strategy := s
    rules := { ghostsBlockGhosts := true } }

/-- What is printed about an event: a snapshot is drawn, everything else goes unmentioned. -/
def eventText : Event → Except Fault String
  | .snapshot tick board population => do
    let drawing ← board.draw population
    return s!"--- {tick} ---\n" ++ drawing ++ "\n"
  | _ => .ok ""

/-- How often the player is caught. -/
def caught (events : List Event) : Nat :=
  events.countP fun
    | .encounter _ => true
    | _ => false

/-- The reports of the ticks that ended. -/
def reports (events : List Event) : List Report :=
  events.filterMap fun
    | .tickEnd _ report => some report
    | _ => none

/-- What is printed before the game. -/
def heading (b : Board) : String :=
  let tiles := b.tileCount
  let ghosts := b.ghostSpawns.length
  let oneWay := b.oneWayLinks.length
  let ticks := totalTicks.toNat
  let start := seed.toNat
  "=== maze — ghostnav demo ===\n" ++ s!"Ticks: {ticks}  |  Seed: {start}\n" ++ "\n" ++
    s!"Board: {tiles} tiles, {ghosts} ghost spawns, {oneWay} one-way links\n"

/-- What is printed after the game. -/
def closing (g : Game) (events : List Event) : Except Fault String := do
  let drawing ← g.board.draw g.population
  let tick := g.tick
  let times := caught events
  let moves := (reports events).foldl (fun n report => n + report.moved) 0
  let blocked := (reports events).foldl (fun n report => n + report.blocked) 0
  return "\n" ++ s!"Final board at {tick}:\n" ++ drawing ++ "\n" ++
    s!"Player caught {times} times; {moves} moves, {blocked} blocked.\n"

/-- Everything that the demonstration prints, or why it stops. -/
def transcript : Except String String := do
  let b ← board
  let s ← strategy b
  let g ← (game b s).mapError GameError.message
  let played := g.playOut
  played.result.mapError GameError.message
  let snapshots ← (played.events.mapM eventText).mapError Fault.message
  let ending ← (closing played.game played.events).mapError Fault.message
  return heading b ++ String.join snapshots ++ ending

end MazeChase.Demo
