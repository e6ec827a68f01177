import FileConformance.Abort
import FileConformance.Bytes

/-!
# Expected contents

The content of a test file is a function of its index: a run of consecutive
printable characters, repeated with a fixed period and started at the index.
Nothing has to be stored to check what is read back.
-/

namespace FileConformance

/-- A generator of file contents: `modulus` characters starting at `base`. -/
structure Pattern where
  modulus : UInt8
  base : UInt8
  /-- There is at least one character. -/
  modulus_pos : 0 < modulus.toNat := by decide
  /-- The first character is printable. -/
  printable_base : 0x20 ≤ base.toNat := by decide
  /-- The last character is printable. -/
  printable_top : base.toNat + modulus.toNat ≤ 0x7f := by decide
deriving DecidableEq

namespace Pattern

/-- The characters from the digit zero to the tilde. -/
def standard : Pattern where
  modulus := 79
  base := 48

/-- A pattern, provided that all its characters are printable. -/
def make (modulus base : UInt8) : Except Abort Pattern :=
  if positive : 0 < modulus.toNat then
    if printable : 0x20 ≤ base.toNat ∧
        base.toNat + modulus.toNat ≤ 0x7f then
      .ok {
        modulus, base
        modulus_pos := positive
        printable_base := printable.1
        printable_top := printable.2
      }
    else .error .patternUnprintable
  else .error .patternModulusZero

/--
The byte at an offset of the file with an index.  Both are reduced before they
are added, so the sum of two large words cannot wrap.
-/
def byte (pattern : Pattern) (index offset : UInt64) : UInt8 :=
  let modulus := pattern.modulus.toUInt64
  ((index % modulus + offset % modulus) % modulus).toUInt8 + pattern.base

/-- The first `length` bytes of the file with an index. -/
def fill (pattern : Pattern) (index : UInt64) (length : Nat) : Bytes :=
  (List.range length).map fun offset => pattern.byte index (.ofNat offset)

@[simp]
theorem length_fill (pattern : Pattern) (index : UInt64) (length : Nat) :
    (pattern.fill index length).length = length := by
  simp [fill]

end Pattern

end FileConformance
