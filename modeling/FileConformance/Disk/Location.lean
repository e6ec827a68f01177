import FileConformance.Disk.Basic

/-!
# Operations at locations

Directories and files can be made at a location that is written down.  A
directory is made by its last name, at which no link is followed; for a file
links are followed to the end.
-/

namespace FileConformance

namespace Location

/-- A location that is too long is refused before anything is looked up. -/
def checkLength (location : Location) : Except SystemError Unit :=
  if Disk.longestPath < location.length then .error .nameTooLong else .ok ()

/-- Whether a name denotes a directory by its place in the tree. -/
def isDots (name : Bytes) : Bool :=
  name == Disk.selfName || name == Disk.parentName

/--
The directories that may have to be made before a location is there: the
location itself, then the ones above it, nearest first.  A name for a directory
itself adds nothing to the way.
-/
def ancestry (location : Location) : List (List Bytes) :=
  let names := location.names
  let trimmed :=
    (names.reverse.dropWhile fun name => name = Disk.selfName).reverse
  let above := (List.range trimmed.length).reverse.map fun count =>
    trimmed.take count
  (names :: above).filter fun way =>
    !way.isEmpty &&
      (way.length = names.length || way.getLast? != some Disk.selfName)

/--
Make the first of some directories; if the way to it is missing, make the
others first.  How one directory is made unless it is there is left open.
Directories that were made stay if a later one cannot be made.
-/
def makeFirst {Effect : Type → Type} [Monad Effect]
    (ensure : List Bytes → Effect (Except SystemError Unit)) :
    List (List Bytes) → Effect (Except SystemError Unit)
  | [] => return .ok ()
  | names :: others => do
      match ← ensure names with
      | .ok () => return .ok ()
      | .error reason =>
          if reason = .noEntry then
            match ← makeFirst ensure others with
            | .ok () => ensure names
            | .error earlier => return .error earlier
          else return .error reason

end Location

namespace Disk

/-- Whether names lead from a directory to a directory. -/
def directoryAt (disk : Disk) (directory : Nat) (names : List Bytes) :
    Bool :=
  match disk.enter directory names with
  | .ok _ => true
  | .error _ => false

/-- Make a directory by the names that lead to it. -/
def makeDirectoryAt (disk : Disk) (directory : Nat) (names : List Bytes) :
    Except SystemError Disk :=
  match names.getLast? with
  | none => .error .entryExists
  | some name =>
      if Location.isDots name then do
        let _ ← disk.enter directory names.dropLast
        .error .entryExists
      else do
        let place ← disk.locate directory names.dropLast name
        disk.makeDirectory place

/-- Make a directory unless it is there. -/
def ensureDirectory (disk : Disk) (directory : Nat) (names : List Bytes) :
    Except SystemError Unit × Disk :=
  match disk.makeDirectoryAt directory names with
  | .ok made => (.ok (), made)
  | .error reason =>
      if disk.directoryAt directory names then (.ok (), disk)
      else (.error reason, disk)

/--
Make a directory and the directories on the way to it.  The disk is given back
also after a failure, because some of them may have been made.
-/
def makeDirectories (disk : Disk) (working : Nat) (location : Location) :
    Except SystemError Unit × Disk :=
  let ensure : List Bytes → StateM Disk (Except SystemError Unit) :=
    fun names disk =>
      disk.ensureDirectory (location.origin working) names
  match location.checkLength with
  | .error reason => (.error reason, disk)
  | .ok () => (Location.makeFirst ensure location.ancestry).run disk

/-- Make a file at a location, or empty the one there is. -/
def createFileAt (disk : Disk) (working : Nat) (location : Location) :
    Except SystemError (Nat × Disk) := do
  location.checkLength
  let goal ← disk.chase true longestChain (location.origin working)
    location.way
  disk.makeFile goal

end Disk

end FileConformance
