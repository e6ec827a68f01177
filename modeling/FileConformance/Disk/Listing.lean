import FileConformance.Disk.Basic
import FileConformance.Text.Lossy

/-!
# Listings

A listing shows everything below a directory: paths, and the contents of
files.  A path has separators between its names and one more at its end if it
denotes a directory.  Links are not followed: the content of a link is the
location it leads to.  Paths and contents are shown as text, and the listing is
in the order of these texts.
-/

namespace FileConformance

namespace Disk

/-- A path as it is shown, with the content unless it denotes a directory. -/
abbrev Line := String × Option String

/-- Bytes as text. -/
def shown (bytes : Bytes) : String :=
  String.ofList (Text.lossy bytes)

/-- The names in a directory, with what they lead to. -/
def names (disk : Disk) (directory : Nat) : List (Bytes × Node) :=
  disk.nodes.toList.filterMap fun entry =>
    if entry.1.directory = directory then some (entry.1.name, entry.2)
    else none

/--
Everything below a directory, after the path that leads there, to a depth that
is given.
-/
def below (disk : Disk) : Nat → Nat → Bytes → List (Bytes × Option Bytes)
  | 0, _, _ => []
  | depth + 1, directory, path =>
      (disk.names directory).flatMap fun entry =>
        match entry.2 with
        | .file file => [(path ++ entry.1, some (disk.content file))]
        | .link target => [(path ++ entry.1, some target)]
        | .directory inner =>
            let within := path ++ entry.1 ++ [0x2f]
            (within, none) :: disk.below depth inner within

/-- Lines are ordered by path, then by content. -/
def linePrecedes (left right : Line) : Bool :=
  (compareLex (compareOn Prod.fst) (compareOn Prod.snd) left right).isLE

/--
Everything below a directory.  No way is longer than there are directories
below the topmost one, each of which has one above it.
-/
def listing (disk : Disk) (directory : Nat) : List Line :=
  let entries := disk.below (disk.parents.size + 1) directory []
  (entries.map fun entry => (shown entry.1, entry.2.map shown)).mergeSort
    linePrecedes

end Disk

end FileConformance
