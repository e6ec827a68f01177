/-!
# Random numbers

A small generator of 64-bit words with 256 bits of state.  It is seeded by
running a counter through a mixing function, and each step gives a word, from
which truth values, positions and bytes are drawn.

All arithmetic is on words and wraps.
-/

namespace FileConformance

/-- The state of a generator. -/
structure Generator where
  first : UInt64
  second : UInt64
  third : UInt64
  fourth : UInt64
deriving DecidableEq

namespace Generator

/-- Turn a word to the left. -/
def turn (word : UInt64) (amount : UInt64) : UInt64 :=
  (word <<< amount) ||| (word >>> (64 - amount))

/-- Mix the bits of a counter. -/
def mix (counter : UInt64) : UInt64 :=
  let once := (counter ^^^ (counter >>> 30)) * 0xbf58476d1ce4e5b9
  let twice := (once ^^^ (once >>> 27)) * 0x94d049bb133111eb
  twice ^^^ (twice >>> 31)

/-- The state that a seed gives: four mixed counters. -/
def ofSeed (seed : UInt64) : Generator :=
  let stride : UInt64 := 0x9e3779b97f4a7c15
  { first := mix (seed + stride)
    second := mix (seed + 2 * stride)
    third := mix (seed + 3 * stride)
    fourth := mix (seed + 4 * stride) }

/-- The next word. -/
def word (generator : Generator) : UInt64 × Generator :=
  let sum := turn (generator.first + generator.fourth) 23 + generator.first
  let shifted := generator.second <<< 17
  let third := generator.third ^^^ generator.first
  let fourth := generator.fourth ^^^ generator.second
  let second := generator.second ^^^ third
  let first := generator.first ^^^ fourth
  (sum, {
    first, second
    third := third ^^^ shifted
    fourth := turn fourth 45
  })

/-- The upper half of the next word. -/
def half (generator : Generator) : Nat × Generator :=
  let drawn := generator.word
  (drawn.1.toNat / UInt32.size, drawn.2)

/--
A position below a bound.  A half word is stretched over the bound; where the
remainder shows that rounding might favour a position, a second draw settles
whether to take the next one.
-/
def below (bound : Nat) (generator : Generator) : Nat × Generator :=
  let drawn := generator.half
  let high := drawn.1 * bound / UInt32.size
  let low := drawn.1 * bound % UInt32.size
  if UInt32.size - bound < low then
    let again := drawn.2.half
    let carry := low + again.1 * bound / UInt32.size
    (if UInt32.size ≤ carry then high + 1 else high, again.2)
  else (high, drawn.2)

/-- A byte: the lowest eight bits of a half word. -/
def byte (generator : Generator) : UInt8 × Generator :=
  let drawn := generator.half
  (drawn.1.toUInt8, drawn.2)

end Generator

end FileConformance
