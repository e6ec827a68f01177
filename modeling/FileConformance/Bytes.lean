/-!
# Byte strings

File contents and file names are finite sequences of bytes.  This module holds
the few operations the harness needs on them: the encoding of a text, reading
and overwriting a region of a content, and copying data to the start of a
caller's buffer.

The length lemmas say how far each operation can stretch a content; every
bound on space and every bound on a buffer rests on them.
-/

namespace FileConformance

/-- A content or a name is a list of bytes. -/
abbrev Bytes := List UInt8

namespace Bytes

/-- The UTF-8 bytes of a text. -/
def ofString (text : String) : Bytes :=
  text.toList.flatMap String.utf8EncodeChar

/-- A run of zero bytes. -/
def zeros (length : Nat) : Bytes :=
  List.replicate length 0

/-- At most `length` bytes of `content`, starting at `offset`. -/
def slice (content : Bytes) (offset length : Nat) : Bytes :=
  (content.drop offset).take length

/--
Put `data` into `content` at `offset`.  A gap between the end of the content
and the offset is filled with zeros, and the bytes on either side of the
written region are kept.
-/
def overwrite (content : Bytes) (offset : Nat) (data : Bytes) : Bytes :=
  content.take offset ++ zeros (offset - content.length) ++ data ++
    content.drop (offset + data.length)

/-- Copy `data` over the start of `buffer`. -/
def place (buffer data : Bytes) : Bytes :=
  data ++ buffer.drop data.length

/-- Flip the bits of `mask` in the byte at `offset`, if there is one. -/
def flip (content : Bytes) (offset : Nat) (mask : UInt8) : Bytes :=
  content.modify offset (· ^^^ mask)

/-! ## Lengths -/

@[simp]
theorem length_zeros (length : Nat) : (zeros length).length = length := by
  simp [zeros]

@[simp]
theorem length_slice (content : Bytes) (offset length : Nat) :
    (content.slice offset length).length =
      min length (content.length - offset) := by
  simp [slice]

theorem length_slice_le (content : Bytes) (offset length : Nat) :
    (content.slice offset length).length ≤ length := by
  simp only [length_slice]
  omega

@[simp]
theorem length_overwrite (content : Bytes) (offset : Nat) (data : Bytes) :
    (content.overwrite offset data).length =
      max content.length (offset + data.length) := by
  simp only [overwrite, List.length_append, List.length_take, length_zeros,
    List.length_drop]
  omega

theorem length_place {buffer data : Bytes}
    (fits : data.length ≤ buffer.length) :
    (buffer.place data).length = buffer.length := by
  simp only [place, List.length_append, List.length_drop]
  omega

@[simp]
theorem length_flip (content : Bytes) (offset : Nat) (mask : UInt8) :
    (content.flip offset mask).length = content.length := by
  simp [flip]

end Bytes

end FileConformance
