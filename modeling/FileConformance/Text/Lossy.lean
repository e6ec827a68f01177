import FileConformance.Bytes

/-!
# Reading bytes as text, with replacements

Bytes need not be UTF-8.  They are read from the left: a well-formed sequence
gives its character, and each longest beginning of a well-formed sequence that
is not completed, like each byte that begins none, gives one replacement
character.

The reader consumes at least one byte for every character it gives, so it ends
on every input.
-/

namespace FileConformance

namespace Text

/-- What a leading byte promises about the bytes after it. -/
structure SequenceShape where
  /-- How many bytes must follow. -/
  following : Nat
  /-- The least second byte. -/
  low : UInt8
  /-- The greatest second byte. -/
  high : UInt8
  /-- The bits that the leading byte contributes. -/
  bits : Nat

/--
The shape a leading byte announces.  The bounds on the second byte shut out
overlong forms, surrogates and code points beyond the last one.
-/
def sequenceShape? (lead : UInt8) : Option SequenceShape :=
  if lead < 0xc2 then none
  else if lead < 0xe0 then some ⟨1, 0x80, 0xbf, lead.toNat - 0xc0⟩
  else if lead = 0xe0 then some ⟨2, 0xa0, 0xbf, 0⟩
  else if lead = 0xed then some ⟨2, 0x80, 0x9f, 0xd⟩
  else if lead < 0xf0 then some ⟨2, 0x80, 0xbf, lead.toNat - 0xe0⟩
  else if lead = 0xf0 then some ⟨3, 0x90, 0xbf, 0⟩
  else if lead < 0xf4 then some ⟨3, 0x80, 0xbf, lead.toNat - 0xf0⟩
  else if lead = 0xf4 then some ⟨3, 0x80, 0x8f, 4⟩
  else none

/-- The bytes after the lead that fit its shape. -/
def SequenceShape.tail (shape : SequenceShape) : Bytes → Bytes
  | [] => []
  | second :: rest =>
      if shape.low ≤ second && second ≤ shape.high then
        second :: (rest.take (shape.following - 1)).takeWhile fun byte =>
          0x80 ≤ byte && byte ≤ 0xbf
      else []

/-- The character that stands for bytes that are no text. -/
def replacement : Char := '\ufffd'

/--
The first character of a non-empty byte string, and how many bytes after the
first one it uses up.
-/
def firstCharacter (lead : UInt8) (rest : Bytes) : Char × Nat :=
  if lead < 0x80 then (Char.ofNat lead.toNat, 0)
  else
    match sequenceShape? lead with
    | none => (replacement, 0)
    | some shape =>
        let tail := shape.tail rest
        if tail.length = shape.following then
          (Char.ofNat (tail.foldl
            (fun value byte => value * 64 + (byte.toNat - 0x80)) shape.bits),
            tail.length)
        else (replacement, tail.length)

/-- The characters of a byte string, replacements included. -/
def lossy : Bytes → List Char
  | [] => []
  | lead :: rest =>
      let first := firstCharacter lead rest
      first.1 :: lossy (rest.drop first.2)
termination_by bytes => bytes.length
decreasing_by
  simp only [List.length_drop, List.length_cons]
  omega

end Text

end FileConformance
