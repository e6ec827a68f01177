import FileConformance.Text.Lossy

/-!
# File names

A file name is a byte string without a terminator.  A subsystem counts the
terminator against its limit on names, so a name costs one byte more than it
has.

Test files are numbered: their name is a stem followed by a decimal index.
-/

namespace FileConformance

namespace Name

/-- What a name counts against a limit: its bytes and a terminator. -/
def encodedLength (name : Bytes) : Nat :=
  name.length + 1

/-- The name of a numbered test file. -/
def numbered (stem : String) (index : Nat) : String :=
  stem ++ toString index

/--
A name for diagnostics.  A name of more than 32 bytes is shortened to its
first 16 characters and its length, so that names at a limit do not flood the
output.
-/
def label (name : Bytes) : String :=
  let text := Text.lossy name
  if name.length ≤ 32 then String.ofList text
  else
    String.ofList (text.take 16) ++ "...(" ++ toString name.length ++ " bytes)"

/--
Whether a text can be the stem of test files: it is not empty, and neither a
path separator nor a null byte cuts it into pieces.
-/
def usableStem (stem : String) : Bool :=
  !stem.isEmpty && stem.toList.all fun character =>
    character != '/' && character != '\x00'

end Name

end FileConformance
