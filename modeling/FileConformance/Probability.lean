import FileConformance.Generator

/-!
# Probabilities

What can be drawn with a probability is decided by comparing a random word
with a threshold.  Two probabilities need no word: what never happens, and
what always does.
-/

namespace FileConformance

/-- How likely something is. -/
inductive Probability where
  | never
  /-- It happens if a random word is below the threshold. -/
  | sometimes (threshold : UInt64)
  | always
deriving DecidableEq

namespace Probability

/--
The probability a number gives, if it lies in the closed unit interval.  The
threshold is the number stretched over all words and rounded down.
-/
def ofFloat? (value : Float) : Option Probability :=
  if 0.0 ≤ value && value ≤ 1.0 then
    if value == 0.0 then some .never
    else if value == 1.0 then some .always
    else some (.sometimes (value * 18446744073709551616.0).toUInt64)
  else none

/-- Whether it happens this time. -/
def draw (probability : Probability) (generator : Generator) :
    Bool × Generator :=
  match probability with
  | .never => (false, generator)
  | .always => (true, generator)
  | .sometimes threshold =>
      let drawn := generator.word
      (drawn.1 < threshold, drawn.2)

@[simp]
theorem draw_never (generator : Generator) :
    Probability.never.draw generator = (false, generator) := rfl

@[simp]
theorem draw_always (generator : Generator) :
    Probability.always.draw generator = (true, generator) := rfl

end Probability

end FileConformance
