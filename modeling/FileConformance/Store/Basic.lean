import FileConformance.CallError
import FileConformance.Registry
import FileConformance.Store.Settings

/-!
# The state of a simulated store

A store keeps files in memory.  A name denotes a file by number, so a file can
lose its name and live on for as long as a handle is open on it.

What is written to a file is not durable at once: it waits in a queue, in the
order of the calls, together with the truncations.  The live content of a file
is its durable content with the waiting operations on it applied; flushing a
file makes its live content durable and takes its operations out of the queue.
A crash loses the queue.
-/

namespace FileConformance

/-- An operation on a file's content that is not durable yet. -/
inductive Pending where
  | write (file : Nat) (offset : Nat) (data : Bytes)
  | truncate (file : Nat)
deriving DecidableEq

namespace Pending

/-- The file an operation is on. -/
def file : Pending → Nat
  | .write file _ _ => file
  | .truncate file => file

/-- What an operation makes of a content. -/
def apply : Pending → Bytes → Bytes
  | .write _ offset data, content => content.overwrite offset data
  | .truncate _, _ => []

/-- What operations make of a content, the first one first. -/
def applyAll (operations : List Pending) (content : Bytes) : Bytes :=
  operations.foldl (fun changed operation => operation.apply changed) content

/-- The operations on one file, in their order. -/
def onFile (file : Nat) (operations : List Pending) : List Pending :=
  operations.filter fun operation => operation.file = file

/-- The operations on all other files, in their order. -/
def onOthers (file : Nat) (operations : List Pending) : List Pending :=
  operations.filter fun operation => operation.file ≠ file

end Pending

/-- A file of a store. -/
structure StoredFile where
  /-- The content that a crash leaves. -/
  durable : Bytes
  /-- Whether a name denotes the file. -/
  linked : Bool
  /-- How many handles are open on the file. -/
  openHandles : Nat
deriving DecidableEq

/-- An open handle of a store. -/
structure StoreHandle where
  file : Nat
  /-- The name under which the file was opened. -/
  name : Bytes
  /-- Where the next read or write begins. -/
  position : Nat
deriving DecidableEq

/-- A simulated file subsystem. -/
structure Store where
  settings : StoreSettings
  files : Std.ExtTreeMap Nat StoredFile compare
  names : Std.ExtTreeMap Bytes Nat compare
  /-- Operations that are not durable yet, oldest first. -/
  pending : List Pending
  handles : Registry Handle StoreHandle
  /-- The number of the next handle; no number is used twice. -/
  nextHandle : Nat
  /-- The number of the next file; no number is used twice. -/
  nextFile : Nat
  generator : Generator
  /-- Set once the process has ended. -/
  exitStatus : Option Int32
deriving DecidableEq

namespace Store

/-- Handles zero and one belong to the console. -/
def firstHandle : Nat := 2

/-- A store without files. -/
def fresh (settings : StoreSettings) (generator : Generator) : Store where
  settings := settings
  files := ∅
  names := ∅
  pending := []
  handles := .empty
  nextHandle := firstHandle
  nextFile := 1
  generator := generator
  exitStatus := none

/-- A store without files whose faults follow a seed. -/
def seeded (settings : StoreSettings) (seed : UInt64) : Store :=
  fresh settings (.ofSeed seed)

/-! ## What a store holds -/

/-- The durable content of a file; a file that is not there has none. -/
def durable (store : Store) (file : Nat) : Bytes :=
  ((store.files[file]?).map StoredFile.durable).getD []

/-- The content of a file with the waiting operations on it applied. -/
def live (store : Store) (file : Nat) : Bytes :=
  Pending.applyAll (Pending.onFile file store.pending) (store.durable file)

/-- Whether a name denotes a file. -/
def hasName (store : Store) (name : Bytes) : Bool :=
  store.names.contains name

/-- The live content of the file that a name denotes. -/
def content? (store : Store) (name : Bytes) : Option Bytes :=
  (store.names[name]?).map store.live

/-- What a crash would leave of the file that a name denotes. -/
def durableContent? (store : Store) (name : Bytes) : Option Bytes := do
  let file ← store.names[name]?
  let stored ← store.files[file]?
  return stored.durable

/-- How many handles are open. -/
def openHandles (store : Store) : Nat :=
  store.handles.size

/-- How many operations are not durable yet. -/
def pendingCount (store : Store) : Nat :=
  store.pending.length

/-- How many bytes the live contents of all files take. -/
def usedBytes (store : Store) : Nat :=
  store.files.keys.foldl
    (fun total file => total + (store.live file).length) 0

/-! ## Conditions on calls -/

/-- A store answers calls as long as its process has not ended. -/
def checkAlive (store : Store) : Except CallError Unit :=
  match store.exitStatus with
  | some _ => .error .terminated
  | none => .ok ()

/-- A name is not empty, holds no null, and fits the limit. -/
def checkName (store : Store) (name : Bytes) : Except CallError Unit :=
  if name.isEmpty || name.contains 0 then .error .invalidName
  else if store.settings.nameLimit.bytes < Name.encodedLength name then
    .error (.nameTooLong (Name.encodedLength name)
      store.settings.nameLimit.bytes)
  else .ok ()

/-- One more handle may be opened. -/
def checkHandleLimit (store : Store) : Except CallError Unit :=
  match store.settings.handleLimit with
  | some limit =>
      if limit ≤ store.handles.size then .error .tooManyOpenFiles else .ok ()
  | none => .ok ()

/-- The file that a name denotes. -/
def lookUp (store : Store) (name : Bytes) : Except CallError Nat :=
  match store.names[name]? with
  | some file => .ok file
  | none => .error .notFound

/-- What a handle is open on. -/
def resolve (store : Store) (handle : Handle) :
    Except CallError StoreHandle :=
  match store.handles.find? handle with
  | some opened => .ok opened
  | none => .error (.badHandle handle)

/-- There is room for some more bytes. -/
def checkSpace (store : Store) (growth : Nat) : Except CallError Unit :=
  match store.settings.capacity with
  | some capacity =>
      if 0 < growth ∧ capacity < store.usedBytes + growth then
        .error .noSpace
      else .ok ()
  | none => .ok ()

/-! ## Changes -/

/-- Make the waiting operations on a file durable. -/
def flush (store : Store) (file : Nat) : Store :=
  { store with
    pending := Pending.onOthers file store.pending
    files := store.files.modify file fun stored =>
      { stored with
        durable :=
          Pending.applyAll (Pending.onFile file store.pending)
            stored.durable } }

/-- Drop a file that has neither a name nor a handle. -/
def reclaim (store : Store) (file : Nat) : Store :=
  match store.files[file]? with
  | some stored =>
      if !stored.linked && stored.openHandles == 0 then
        { store with
          files := store.files.erase file
          pending := Pending.onOthers file store.pending }
      else store
  | none => store

/-- Open a new handle on a file. -/
def openHandle (store : Store) (file : Nat) (name : Bytes) :
    Handle × Store :=
  let handle : Handle := ⟨store.nextHandle⟩
  (handle, {
    store with
    nextHandle := store.nextHandle + 1
    files := store.files.modify file fun stored =>
      { stored with openHandles := stored.openHandles + 1 }
    handles := store.handles.insert handle { file, name, position := 0 }
  })

/-- Move a handle on by some bytes. -/
def advance (store : Store) (handle : Handle) (count : Nat) : Store :=
  { store with
    handles := store.handles.adjust handle fun opened =>
      { opened with position := opened.position + count } }

/--
The file that a create opens: the file of that name, which is to be truncated,
or a new one.
-/
def fileToCreate (store : Store) (name : Bytes) : Nat × Store :=
  match store.names[name]? with
  | some file =>
      (file, { store with pending := store.pending ++ [.truncate file] })
  | none =>
      (store.nextFile, {
        store with
        nextFile := store.nextFile + 1
        files := store.files.insert store.nextFile
          { durable := [], linked := true, openHandles := 0 }
        names := store.names.insert name store.nextFile
      })

/-- Let something happen by chance. -/
def chance (store : Store) (probability : Probability) : Bool × Store :=
  let drawn := probability.draw store.generator
  (drawn.1, { store with generator := drawn.2 })

end Store

end FileConformance
