import FileConformance.Pattern
import Mathlib.Data.Nat.ModEq

/-!
# The period of contents

A byte of a test file is the first character of the pattern, moved on by index
and offset and reduced by the number of characters.  It is computed in words,
and no step of the computation leaves its word: index and offset can be as large
as words get, since each of them is reduced before they are added.

So the contents of two files agree in every byte or in none.  They agree exactly
if the indices are congruent modulo the number of characters, which are the
files that a harness cannot tell apart.
-/

namespace FileConformance

/-! ## Steps that stay in their word -/

namespace Word

/-- A remainder, unless there is nothing to divide by. -/
def remainder? (value modulus : UInt64) : Option UInt64 :=
  if modulus = 0 then none else some (value % modulus)

/-- A sum of words, unless it is none. -/
def sum? (left right : UInt64) : Option UInt64 :=
  if left.toNat + right.toNat < UInt64.size then some (left + right)
  else none

/-- A word as a byte, unless bits are lost. -/
def byte? (value : UInt64) : Option UInt8 :=
  if value.toNat < UInt8.size then some value.toUInt8 else none

/-- A sum of bytes, unless it is none. -/
def byteSum? (left right : UInt8) : Option UInt8 :=
  if left.toNat + right.toNat < UInt8.size then some (left + right)
  else none

end Word

namespace Pattern

/-- The same steps as for a byte, but given up where one leaves its word. -/
def byteWithin? (pattern : Pattern) (index offset : UInt64) :
    Option UInt8 := do
  let modulus := pattern.modulus.toUInt64
  let first ← Word.remainder? index modulus
  let second ← Word.remainder? offset modulus
  let sum ← Word.sum? first second
  let reduced ← Word.remainder? sum modulus
  let step ← Word.byte? reduced
  Word.byteSum? step pattern.base

variable (pattern : Pattern) (index other offset : UInt64)

/-- The sum of index and offset, both reduced. -/
def reducedSum : UInt64 :=
  index % pattern.modulus.toUInt64 + offset % pattern.modulus.toUInt64

/-- Which of the characters a byte is, as a word. -/
def position : UInt64 :=
  pattern.reducedSum index offset % pattern.modulus.toUInt64

theorem byte_eq :
    pattern.byte index offset =
      (pattern.position index offset).toUInt8 + pattern.base := rfl

theorem toNat_remainder_lt (value : UInt64) :
    (value % pattern.modulus.toUInt64).toNat <
      pattern.modulus.toNat := by
  rw [UInt64.toNat_mod, UInt8.toNat_toUInt64]
  exact Nat.mod_lt _ pattern.modulus_pos

/-- There are few characters, so two remainders add up to a word. -/
theorem toNat_reducedSum :
    (pattern.reducedSum index offset).toNat =
      (index % pattern.modulus.toUInt64).toNat +
        (offset % pattern.modulus.toUInt64).toNat := by
  have first := pattern.toNat_remainder_lt index
  have second := pattern.toNat_remainder_lt offset
  have few := pattern.modulus.toNat_lt
  rw [reducedSum, UInt64.toNat_add]
  exact Nat.mod_eq_of_lt (by omega)

/-- Reducing before adding makes no difference. -/
theorem toNat_position :
    (pattern.position index offset).toNat =
      (index.toNat + offset.toNat) % pattern.modulus.toNat := by
  rw [position, UInt64.toNat_mod, toNat_reducedSum, UInt64.toNat_mod,
    UInt64.toNat_mod, UInt8.toNat_toUInt64, ← Nat.add_mod]

/-- A byte is not behind the last of the characters. -/
theorem base_add_position_lt :
    pattern.base.toNat + (pattern.position index offset).toNat < 0x7f := by
  have below := pattern.toNat_remainder_lt
    (pattern.reducedSum index offset)
  have top := pattern.printable_top
  rw [position]
  omega

theorem toNat_byte_eq_position :
    (pattern.byte index offset).toNat =
      pattern.base.toNat + (pattern.position index offset).toNat := by
  have small := pattern.base_add_position_lt index offset
  rw [byte_eq, UInt8.toNat_add, UInt64.toNat_toUInt8]
  omega

/-- A byte, computed without bounds. -/
theorem toNat_byte :
    (pattern.byte index offset).toNat =
      pattern.base.toNat +
        (index.toNat + offset.toNat) % pattern.modulus.toNat := by
  rw [toNat_byte_eq_position, toNat_position]

/-- No step of the computation leaves its word. -/
theorem byteWithin?_eq :
    pattern.byteWithin? index offset =
      some (pattern.byte index offset) := by
  have small := pattern.base_add_position_lt index offset
  -- One fact for each kind of step, in the order in which they are taken.
  have divided (value : UInt64) :
      Word.remainder? value pattern.modulus.toUInt64 =
        some (value % pattern.modulus.toUInt64) := by
    refine if_neg fun zero => Nat.ne_of_gt pattern.modulus_pos ?_
    rw [← UInt8.toNat_toUInt64, zero, UInt64.toNat_zero]
  have added : Word.sum? (index % pattern.modulus.toUInt64)
      (offset % pattern.modulus.toUInt64) =
        some (pattern.reducedSum index offset) := by
    refine if_pos ?_
    rw [← toNat_reducedSum]
    exact UInt64.toNat_lt_size _
  have cut : Word.byte? (pattern.position index offset) =
      some (pattern.position index offset).toUInt8 := by
    refine if_pos (Nat.lt_trans ?_ (show 0x7f < UInt8.size by decide))
    omega
  have moved : Word.byteSum? (pattern.position index offset).toUInt8
      pattern.base = some (pattern.byte index offset) := by
    refine if_pos (Nat.lt_trans ?_ (show 0x7f < UInt8.size by decide))
    rw [UInt64.toNat_toUInt8]
    omega
  rw [byteWithin?, divided, divided]
  simp only [Option.bind_eq_bind, Option.bind_some, added, divided]
  exact (congrArg (Option.bind · _) cut).trans moved

/-! ## Contents -/

/-- Bytes at one offset agree exactly if the indices are congruent. -/
theorem byte_eq_byte_iff :
    pattern.byte index offset = pattern.byte other offset ↔
      index.toNat ≡ other.toNat [MOD pattern.modulus.toNat] := by
  rw [← UInt8.toNat_inj, toNat_byte, toNat_byte, Nat.add_left_cancel_iff]
  constructor
  · intro same
    exact Nat.ModEq.add_right_cancel' offset.toNat same
  · intro congruent
    exact congruent.add_right offset.toNat

variable {pattern index other}

/-- The byte at an offset within a content. -/
theorem getElem?_fill {length offset : Nat} (within : offset < length) :
    (pattern.fill index length)[offset]? =
      some (pattern.byte index (.ofNat offset)) := by
  rw [fill, List.getElem?_map, List.getElem?_range within]
  rfl

/-- Contents agree in every byte if the indices are congruent. -/
theorem fill_congr
    (congruent : index.toNat ≡ other.toNat [MOD pattern.modulus.toNat])
    (length : Nat) :
    pattern.fill index length = pattern.fill other length := by
  rw [fill, fill]
  refine List.map_congr_left fun offset _ => ?_
  exact (byte_eq_byte_iff pattern index other _).mpr congruent

/-- Contents agree in no byte if the indices are not congruent. -/
theorem getElem?_fill_ne {length offset : Nat}
    (different : ¬index.toNat ≡ other.toNat [MOD pattern.modulus.toNat])
    (within : offset < length) :
    (pattern.fill index length)[offset]? ≠
      (pattern.fill other length)[offset]? := by
  rw [getElem?_fill within, getElem?_fill within]
  intro same
  exact different ((byte_eq_byte_iff pattern index other _).mp
    (Option.some.inj same))

theorem make_eq_ok_iff {modulus base : UInt8} :
    make modulus base = .ok pattern ↔
      pattern.modulus = modulus ∧ pattern.base = base := by
  constructor
  · intro made
    unfold make at made
    split at made
    · split at made
      · cases made
        exact ⟨rfl, rfl⟩
      · cases made
    · cases made
  · rintro ⟨rfl, rfl⟩
    exact (dif_pos pattern.modulus_pos).trans
      (dif_pos ⟨pattern.printable_base, pattern.printable_top⟩)

/--
A pattern is made from its number of characters and its first character.  Its
byte is the first character moved on by the remainder of index and offset, in
unbounded numbers; no step of the computation in words leaves its word, and the
byte is printable.  A content has the length that is asked for and these bytes.
Two contents that are not empty are equal if and only if their indices are
congruent modulo the number of characters, and else they differ at every offset.
-/
theorem contents_exact_and_periodic (pattern : Pattern) :
    (∀ modulus base : UInt8, make modulus base = .ok pattern ↔
        pattern.modulus = modulus ∧ pattern.base = base) ∧
      (∀ index offset : UInt64,
        (pattern.byte index offset).toNat =
            pattern.base.toNat +
              (index.toNat + offset.toNat) % pattern.modulus.toNat ∧
          pattern.byteWithin? index offset =
            some (pattern.byte index offset) ∧
          0x20 ≤ (pattern.byte index offset).toNat ∧
          (pattern.byte index offset).toNat ≤ 0x7e) ∧
      (∀ (index : UInt64) (length : Nat),
        (pattern.fill index length).length = length ∧
          ∀ offset : UInt64, offset.toNat < length →
            (pattern.fill index length)[offset.toNat]? =
              some (pattern.byte index offset)) ∧
      ∀ (index other : UInt64) (length : Nat), 0 < length →
        (pattern.fill index length = pattern.fill other length ↔
            index.toNat ≡ other.toNat [MOD pattern.modulus.toNat]) ∧
          (¬index.toNat ≡ other.toNat [MOD pattern.modulus.toNat] →
            ∀ offset < length,
              (pattern.fill index length)[offset]? ≠
                (pattern.fill other length)[offset]?) := by
  refine ⟨fun _ _ => make_eq_ok_iff, ?_, ?_, ?_⟩
  · intro index offset
    have bounded := pattern.base_add_position_lt index offset
    have first := pattern.printable_base
    refine ⟨toNat_byte pattern index offset,
      byteWithin?_eq pattern index offset, ?_, ?_⟩
    · rw [toNat_byte_eq_position]
      omega
    · rw [toNat_byte_eq_position]
      omega
  · intro index length
    refine ⟨length_fill pattern index length, ?_⟩
    intro offset within
    rw [getElem?_fill within, UInt64.ofNat_toNat]
  · intro index other length positive
    refine ⟨⟨?_, fun congruent => fill_congr congruent length⟩,
      fun different _ within => getElem?_fill_ne different within⟩
    intro same
    by_contra different
    exact getElem?_fill_ne different positive (by rw [same])

/--
The small letters: the sum of the largest index and offset is reduced as a
number and not as a word, and contents repeat after 26 files.
-/
theorem contents_exact_and_periodic_letters :
    let letters : Pattern := { modulus := 26, base := 97 }
    let largest : UInt64 := 0xffffffffffffffff
    make 26 97 = .ok letters ∧
      (letters.byte largest largest).toNat = 97 + 4 ∧
      (largest + largest).toNat % 26 = 14 ∧
      letters.byteWithin? largest largest =
        some (letters.byte largest largest) ∧
      (letters.fill 3 5)[(2 : UInt64).toNat]? =
        some (letters.byte 3 2) ∧
      letters.fill 3 5 = letters.fill 29 5 ∧
      letters.fill 3 5 ≠ letters.fill 4 5 ∧
      (letters.fill 3 5)[4]? ≠ (letters.fill 4 5)[4]? := by
  intro letters largest
  rcases contents_exact_and_periodic letters with
    ⟨made, exact_byte, filled, periodic⟩
  have near : ¬(3 : UInt64).toNat ≡ (4 : UInt64).toNat
      [MOD letters.modulus.toNat] := by decide
  have far : (3 : UInt64).toNat ≡ (29 : UInt64).toNat
      [MOD letters.modulus.toNat] := by decide
  have differ := periodic 3 4 5 (by decide)
  refine ⟨(made 26 97).mpr ⟨rfl, rfl⟩, (exact_byte _ _).1.trans ?_,
    ?_, (exact_byte _ _).2.1, (filled 3 5).2 2 (by decide),
    (periodic 3 29 5 (by decide)).1.mpr far,
    fun same => near (differ.1.mp same), differ.2 near 4 (by decide)⟩
  · decide
  · decide

end Pattern

end FileConformance
