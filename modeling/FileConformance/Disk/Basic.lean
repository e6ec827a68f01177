import FileConformance.Disk.Way
import FileConformance.SystemError
import Std.Data.ExtTreeMap

/-!
# Directories and files of an operating system

A disk holds directories and regular files.  Both are denoted by number, so
the content of a file outlives its name for as long as somebody holds the
number, and a file can have several names.  A name in a directory leads to
another directory, to a file, or as a symbolic link to a location somewhere
else.  Every directory but the topmost one knows the directory above it.

Links are followed on the way to a name, and at the end of the way by whoever
makes or opens a file there.  A name that is removed is the link itself.

The operations fail the way the file calls of a Linux system do, and a failed
operation changes nothing.
-/

namespace FileConformance

/-- A name in a directory. -/
structure Place where
  directory : Nat
  name : Bytes
deriving DecidableEq

namespace Place

/-- Places are ordered by directory, those of one directory by name. -/
instance : Ord Place where
  compare := compareLex (compareOn Place.directory) (compareOn Place.name)

instance : Std.TransOrd Place :=
  inferInstanceAs (Std.TransCmp
    (compareLex (compareOn Place.directory) (compareOn Place.name)))

instance : Std.LawfulEqOrd Place where
  eq_of_compare {left right} equal := by
    cases left
    cases right
    obtain ⟨directories, names⟩ := compareLex_eq_eq.mp equal
    congr
    · exact Nat.compare_eq_eq.mp directories
    · exact Std.LawfulEqOrd.compare_eq_iff_eq.mp names

end Place

/-- What a name leads to. -/
inductive Node where
  | directory (number : Nat)
  | file (number : Nat)
  /-- A symbolic link: a location, as it is written. -/
  | link (target : Bytes)
deriving DecidableEq

/-- Directories, regular files and symbolic links. -/
structure Disk where
  /-- What the names in each directory lead to. -/
  nodes : Std.ExtTreeMap Place Node compare
  /-- The directory above each directory. -/
  parents : Std.ExtTreeMap Nat Nat compare
  /-- What the files hold. -/
  contents : Std.ExtTreeMap Nat Bytes compare
  /-- The number of the next directory or file; none is used twice. -/
  nextNumber : Nat
deriving DecidableEq

namespace Disk

/-- The longest name a directory can hold, in bytes. -/
def longestName : Nat := 255

/-- The longest path that a call takes, in bytes. -/
def longestPath : Nat := 4095

/-- How many links a way can lead through. -/
def longestChain : Nat := 40

/-- The number of the topmost directory. -/
def topmost : Nat := 0

end Disk

/-- The directory where a location starts that is used in a directory. -/
def Location.origin (location : Location) (working : Nat) : Nat :=
  if location.absolute then Disk.topmost else working

namespace Disk

/-- A disk with nothing on it. -/
def empty : Disk where
  nodes := ∅
  parents := ∅
  contents := ∅
  nextNumber := topmost + 1

/-- The directory above a directory; the topmost one is above itself. -/
def above (disk : Disk) (directory : Nat) : Nat :=
  (disk.parents[directory]?).getD topmost

/-- The content of a file. -/
def content (disk : Disk) (file : Nat) : Bytes :=
  (disk.contents[file]?).getD []

/-! ## Walking -/

/-- The name by which every directory denotes itself. -/
def selfName : Bytes := [0x2e]

/-- The name by which every directory denotes the one above it. -/
def parentName : Bytes := [0x2e, 0x2e]

/-- Where a way ends. -/
inductive Goal where
  | directory (number : Nat)
  | file (number : Nat)
  /-- Nothing is there, but the directory for it is. -/
  | missing (place : Place)
deriving DecidableEq

/--
Walk name by name from a directory.  From a link one goes on as `onward` says,
by the names of the link and those behind it.  Whoever walks to make a file does
not get beyond a last name that a separator follows.
-/
def walk (disk : Disk) (making : Bool)
    (onward : Nat → List Bytes → Except SystemError Goal) (directory : Nat) :
    List Bytes → Except SystemError Goal
  | [] => .ok (.directory directory)
  | name :: rest =>
      if name = Location.nothing ∨ name = selfName then
        disk.walk making onward directory rest
      else if name = parentName then
        disk.walk making onward (disk.above directory) rest
      else if making = true ∧ rest = [Location.nothing] then
        .error .isDirectory
      else if longestName < name.length then .error .nameTooLong
      else
        match disk.nodes[Place.mk directory name]? with
        | some (.directory next) => disk.walk making onward next rest
        | some (.link target) =>
            let location := Location.ofBytes target
            onward (location.origin directory) (location.way ++ rest)
        | some (.file file) =>
            if rest.isEmpty then .ok (.file file) else .error .notDirectory
        | none =>
            if rest.isEmpty then .ok (.missing ⟨directory, name⟩)
            else .error .noEntry

/-- Walk from a directory, through at most so many links. -/
def chase (disk : Disk) (making : Bool) :
    Nat → Nat → List Bytes → Except SystemError Goal
  | 0 => disk.walk making fun _ _ => .error .tooManyLinks
  | links + 1 => disk.walk making (disk.chase making links)

/-- Walk from one directory through others. -/
def enter (disk : Disk) (directory : Nat) (names : List Bytes) :
    Except SystemError Nat := do
  match ← disk.chase false longestChain directory names with
  | .directory reached => return reached
  | .file _ => .error .notDirectory
  | .missing _ => .error .noEntry

/-- Where a name in a directory leads in the end. -/
def goal (disk : Disk) (making : Bool) (place : Place) :
    Except SystemError Goal :=
  match disk.nodes[place]? with
  | some (.directory number) => .ok (.directory number)
  | some (.file file) => .ok (.file file)
  | some (.link target) =>
      let location := Location.ofBytes target
      disk.chase making (longestChain - 1)
        (location.origin place.directory) location.way
  | none => .ok (.missing place)

/-- The place of a name in a directory that is reached by walking. -/
def locate (disk : Disk) (directory : Nat) (way : List Bytes)
    (name : Bytes) : Except SystemError Place := do
  let reached ← disk.enter directory way
  if longestName < name.length then .error .nameTooLong
  else return ⟨reached, name⟩

/-! ## Operations at a place -/

/-- Make a file where a way ends, or empty the one there is. -/
def makeFile (disk : Disk) : Goal → Except SystemError (Nat × Disk)
  | .directory _ => .error .isDirectory
  | .file file =>
      .ok (file, { disk with contents := disk.contents.insert file [] })
  | .missing place =>
      .ok (disk.nextNumber, {
        disk with
        nodes := disk.nodes.insert place (.file disk.nextNumber)
        contents := disk.contents.insert disk.nextNumber []
        nextNumber := disk.nextNumber + 1
      })

/-- Make a file at a place, or empty the one there is; follow links. -/
def createFile (disk : Disk) (place : Place) :
    Except SystemError (Nat × Disk) := do
  let goal ← disk.goal true place
  disk.makeFile goal

/-- The file at a place; follow links. -/
def openFile (disk : Disk) (place : Place) : Except SystemError Nat := do
  match ← disk.goal false place with
  | .directory _ => .error .isDirectory
  | .file file => return file
  | .missing _ => .error .noEntry

/--
Remove the name of a file; its content stays for those who hold it.  A link is
removed as such, and what it leads to stays.
-/
def removeFile (disk : Disk) (place : Place) : Except SystemError Disk :=
  match disk.nodes[place]? with
  | some (.directory _) => .error .isDirectory
  | some _ => .ok { disk with nodes := disk.nodes.erase place }
  | none => .error .noEntry

/-- Make a directory where nothing is. -/
def makeDirectory (disk : Disk) (place : Place) : Except SystemError Disk :=
  match disk.nodes[place]? with
  | some _ => .error .entryExists
  | none => .ok {
      disk with
      nodes := disk.nodes.insert place (.directory disk.nextNumber)
      parents := disk.parents.insert disk.nextNumber place.directory
      nextNumber := disk.nextNumber + 1
    }

/-- Write data into a file; writing nothing changes nothing. -/
def writeFile (disk : Disk) (file offset : Nat) (data : Bytes) : Disk :=
  if data.isEmpty then disk
  else
    { disk with
      contents :=
        disk.contents.insert file ((disk.content file).overwrite offset data) }

end Disk

end FileConformance
