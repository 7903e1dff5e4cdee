import MazeChase.Demo

/-!
# The demonstration as a program

The program prints the transcript of the demonstration game.
-/

/-- Prints the transcript, or why there is none. -/
def main : IO UInt32 := do
  match MazeChase.Demo.transcript with
  | .ok text =>
    IO.print text
    return 0
  | .error message =>
    IO.eprintln s!"Error: {message}"
    return 1
