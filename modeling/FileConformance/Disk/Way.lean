import FileConformance.Bytes

/-!
# Ways

A location is written with separators between names.  It starts at the topmost
directory if it begins with a separator, and elsewhere otherwise.  Repeated
separators count once; the names for a directory itself and for the one above
it are walked, not cut away, so each directory on the way must be there.
-/

namespace FileConformance

/-- A location, taken apart. -/
structure Location where
  /-- It starts at the topmost directory. -/
  absolute : Bool
  names : List Bytes
  /-- It ends in a separator, and so cannot denote a file to be made. -/
  slash : Bool
  /-- How many bytes it is written with. -/
  length : Nat
deriving DecidableEq

namespace Location

/-- Cut a byte string at separators; empty pieces are dropped. -/
def pieces (text : Bytes) : List Bytes :=
  (text.splitBy fun left right => left != 0x2f && right != 0x2f).filter
    fun piece => !piece.contains 0x2f

/-- Take a written location apart. -/
def ofBytes (text : Bytes) : Location where
  absolute := text.head? == some 0x2f
  names := pieces text
  slash := text.getLast? == some 0x2f
  length := text.length

/-- Take a location apart that is written as a text. -/
def ofString (text : String) : Location :=
  ofBytes (Bytes.ofString text)

/-- What stands behind a separator at the end of a location. -/
def nothing : Bytes := []

/-- The names to walk by, with nothing behind a separator at the end. -/
def way (location : Location) : List Bytes :=
  if location.slash then location.names ++ [nothing] else location.names

end Location

end FileConformance
