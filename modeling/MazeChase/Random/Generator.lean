import MazeChase.Fault
import MazeChase.Ident
import MazeChase.Random.Uniform

/-!
# The generator of an agent

Every agent draws from a generator of its own, so the order in which agents decide does not show
in what they draw. The generator is xoshiro256++; its four state words are spread from one 64-bit
seed by a PCG generator with 32-bit output. The seed of agent `a` in a game with seed `g` is
`g xor (a * m)`, where `m` is the 64-bit fraction of the golden ratio.

## Main definitions

* `Generator`, `Generator.next` — the state and one word from it
* `Generator.ofSeed`, `Generator.agentSeed`, `Generator.forAgent` — seeding
* `Generator.below`, `Generator.fill` — a bounded number, a run of bytes
-/

namespace MazeChase

/-- The four state words of an xoshiro256++ generator. -/
structure Generator where
  /-- State word 0. -/
  s0 : UInt64
  /-- State word 1. -/
  s1 : UInt64
  /-- State word 2. -/
  s2 : UInt64
  /-- State word 3. -/
  s3 : UInt64
deriving DecidableEq, Repr

namespace Generator

/-- The word rotated by `k` places to the left. -/
def rotateLeft (v k : UInt64) : UInt64 := (v <<< k) ||| (v >>> (64 - k))

/-- One step: the next word and the generator after it. -/
def next (g : Generator) : UInt64 × Generator :=
  let word := rotateLeft (g.s0 + g.s3) 23 + g.s0
  let s2 := g.s2 ^^^ g.s0
  let s3 := g.s3 ^^^ g.s1
  (word, ⟨g.s0 ^^^ s3, g.s1 ^^^ s2, s2 ^^^ (g.s1 <<< 17), rotateLeft s3 45⟩)

instance : WordSource Generator := ⟨next⟩

/-! ### Seeding -/

/-- One step of the generator that spreads a seed. -/
def spread (s : UInt64) : UInt64 := s * 6364136223846793005 + 11634580027462260723

/-- The 32-bit output of a state of the spreading generator. -/
def spreadWord (s : UInt64) : UInt32 :=
  let x := (((s >>> 18) ^^^ s) >>> 27).toUInt32
  let r := (s >>> 59).toUInt32
  (x >>> r) ||| (x <<< (32 - r))

/-- State word number `i` spread from `seed`: two outputs, the lower half first. -/
def spreadState (seed : UInt64) (i : Nat) : UInt64 :=
  let s := Nat.repeat spread (2 * i + 1) seed
  (spreadWord s).toUInt64 + ((spreadWord (spread s)).toUInt64 <<< 32)

/-- The generator with a 64-bit seed. -/
def ofSeed (seed : UInt64) : Generator :=
  ⟨spreadState seed 0, spreadState seed 1, spreadState seed 2, spreadState seed 3⟩

/-- The 64-bit fraction of the golden ratio, which keeps the seeds of neighbouring agents apart. -/
def mixer : UInt64 := 0x9e3779b97f4a7c15

/-- The seed of agent `a` in a game with seed `g`. -/
def agentSeed (g : UInt64) (a : AgentId) : UInt64 := g ^^^ (UInt64.ofNat a.index * mixer)

/-- The generator with which agent `a` starts a game with seed `g`. -/
def forAgent (g : UInt64) (a : AgentId) : Generator := ofSeed (agentSeed g a)

/-! ### What is drawn -/

/-- The upper half of the next word. -/
def next32 (g : Generator) : UInt32 × Generator :=
  let (word, g') := g.next
  ((word >>> 32).toUInt32, g')

/-- A number below `n`, which must not be 0. -/
def below (n : Nat) (g : Generator) : Except Fault (Nat × Generator) :=
  if n = 0 then .error .emptyRange else .ok (Uniform.below n g)

/-- The lowest `n` bytes of a word, lowest first. -/
def lowBytes (word : UInt64) (n : Nat) : List UInt8 :=
  (List.range n).map fun i => (word >>> UInt64.ofNat (8 * i)).toUInt8

/-- `n` bytes: eight from each word, lowest first. Of an incomplete last word, five bytes or more
come from a whole word, four or fewer from the upper half of one. -/
def fill : Nat → Generator → List UInt8 × Generator
  | 0, g => ([], g)
  | n + 8, g =>
    let (word, g') := g.next
    let (rest, g'') := fill n g'
    (lowBytes word 8 ++ rest, g'')
  | n, g =>
    if 4 < n then
      let (word, g') := g.next
      (lowBytes word n, g')
    else
      let (half, g') := g.next32
      (lowBytes half.toUInt64 n, g')

end Generator

end MazeChase
