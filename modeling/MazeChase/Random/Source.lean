/-!
# Sources of random words

A decision that needs chance draws 64-bit words from a source. What is drawn depends on nothing
but the state of the source, so a game can be replayed word for word.

## Main definitions

* `WordSource` — a type whose values yield a word and a successor
* `Script` — a source that yields listed words, then zeros, and counts what was drawn
* `WordSource.skip` — the source after some words
-/

namespace MazeChase

/-- A type of sources: each yields a 64-bit word and the source that goes on after it. -/
class WordSource (σ : Type) where
  /-- The next word and the source after it. -/
  next : σ → UInt64 × σ

namespace WordSource

variable {σ : Type} [WordSource σ]

/-- The source after `n` words. -/
def skip : Nat → σ → σ
  | 0, s => s
  | n + 1, s => skip n (next s).2

end WordSource

/-- A source with listed words, followed by zeros for ever. -/
structure Script where
  /-- The words still to come. -/
  words : List UInt64
  /-- How many words were drawn so far. -/
  drawn : Nat := 0
deriving DecidableEq, Repr

instance : WordSource Script where
  next s := (s.words.headD 0, ⟨s.words.tail, s.drawn + 1⟩)

end MazeChase
