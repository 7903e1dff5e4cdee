import MazeChase.Game.Turn

/-!
# Playing many ticks

Ticks are played one after the other until enough are played or one fails. A full run plays up to
the last tick of the schedule and then tells that the game is over.

## Main definitions

* `Run` — what is left after some ticks: the game, all events, and what went wrong
* `Game.play` — a number of ticks
* `Game.playOut` — the ticks that are left in the schedule
-/

namespace MazeChase

/-- What some ticks leave behind. -/
structure Run where
  /-- The game after the ticks. -/
  game : Game
  /-- What happened, in order. -/
  events : List Event
  /-- Nothing, or what went wrong in the last tick that was tried. -/
  result : Except GameError Unit

namespace Game

/-- The next `n` ticks, up to the first that fails. -/
def play : Nat → Game → Run
  | 0, g => ⟨g, [], .ok ()⟩
  | n + 1, g =>
    let turn := g.step
    match turn.result with
    | .error e => ⟨turn.game, turn.events, .error e⟩
    | .ok _ =>
      let rest := play n turn.game
      { rest with events := turn.events ++ rest.events }

/-- How many ticks are left in the schedule. -/
def ticksLeft (g : Game) : Nat := g.config.endTick.count.toNat - g.tick.count.toNat

/-- All ticks that are left in the schedule, and then the end of the game. -/
def playOut (g : Game) : Run :=
  let played := g.play g.ticksLeft
  match played.result with
  | .error _ => played
  | .ok _ => { played with events := played.events ++ [.gameEnd played.game.tick] }

end Game

end MazeChase
