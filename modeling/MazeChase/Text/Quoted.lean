import MazeChase.Text.Unprintable

/-!
# Quoted characters

A character is shown between single quotes. The quote, the backslash and four control characters
have short escapes; any other character without a printed form of its own is given by its code
point in hexadecimal. A double quote stands for itself.

## Main definitions

* `Text.escape` — a character as it stands inside single quotes
* `Text.quote` — the character with its quotes
-/

namespace MazeChase.Text

/-- A character as it is written between single quotes. -/
def escape (c : Char) : List Char :=
  if c = '\x00' then ['\\', '0']
  else if c = '\t' then ['\\', 't']
  else if c = '\r' then ['\\', 'r']
  else if c = '\n' then ['\\', 'n']
  else if c = '\x27' then ['\\', '\x27']
  else if c = '\\' then ['\\', '\\']
  else if isUnprintable c then
    ['\\', 'u', '\x7b'] ++ Nat.toDigits 16 c.toNat ++ ['\x7d']
  else [c]

/-- A character between single quotes. -/
def quote (c : Char) : String := String.ofList ('\x27' :: escape c ++ ['\x27'])

end MazeChase.Text
