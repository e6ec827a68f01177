import FileConformance.Call
import FileConformance.Name
import FileConformance.Pattern

/-!
# The table of test files

The harness tracks a fixed list of test files.  A file's index and name never
change; what moves is its binding, which says whether the harness holds a
handle on it.  Expected contents are computed from the index when needed.
-/

namespace FileConformance

/-- Which handle the harness holds on a file. -/
inductive Binding where
  /-- No create or open has succeeded yet. -/
  | unbound
  /-- The handle of the latest create or open, not yet closed. -/
  | bound (handle : Handle)
  /-- The handle the file was bound to, which has been closed since. -/
  | released (handle : Handle)
deriving DecidableEq

namespace Binding

/-- The live handle, if there is one. -/
def live? : Binding → Option Handle
  | .bound handle => some handle
  | _ => none

/-- Whether there is a live handle. -/
def isBound (binding : Binding) : Bool :=
  binding.live?.isSome

end Binding

/-- A test file. -/
structure TrackedFile where
  index : Nat
  name : String
  binding : Binding
deriving DecidableEq

namespace TrackedFile

/-- The bytes of the file's name. -/
def path (file : TrackedFile) : Bytes :=
  Bytes.ofString file.name

/-- The file, bound to a handle. -/
def bind (file : TrackedFile) (handle : Handle) : TrackedFile :=
  { file with binding := .bound handle }

/-- The file after its live handle was closed. -/
def release (file : TrackedFile) : TrackedFile :=
  match file.binding with
  | .bound handle => { file with binding := .released handle }
  | _ => file

/-- The file after a create or open was answered: a handle binds it. -/
def rebind (file : TrackedFile) (answer : Except CallError Handle) :
    TrackedFile :=
  match answer with
  | .ok handle => file.bind handle
  | .error _ => file

end TrackedFile

/-- The test files, with the rule that gives their contents. -/
structure Table where
  files : List TrackedFile
  pattern : Pattern
  /-- How many bytes each file holds. -/
  bufferLength : Nat
deriving DecidableEq

namespace Table

/-- The first `count` numbered files of a stem, none of them bound. -/
def numbered (stem : String) (count : Nat) (pattern : Pattern)
    (bufferLength : Nat) : Table where
  files := (List.range count).map fun index =>
    { index, name := Name.numbered stem index, binding := .unbound }
  pattern := pattern
  bufferLength := bufferLength

/-- The file at an index. -/
def file? (table : Table) (index : Nat) : Option TrackedFile :=
  table.files[index]?

/-- What the file at an index has to hold; every index has an answer. -/
def expected (table : Table) (index : Nat) : Bytes :=
  table.pattern.fill (.ofNat index) table.bufferLength

/-- How many files have a live handle. -/
def boundCount (table : Table) : Nat :=
  table.files.countP fun file => file.binding.isBound

end Table

end FileConformance
