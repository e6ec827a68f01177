import FileConformance.Procedure
import FileConformance.Registry
import FileConformance.Store.Settings

/-!
# A plain file system

The file system a caller has in mind: names denote files, files hold bytes,
and handles have positions.  A call changes the bytes of a file in place and
at once.  There is no queue, no chance and no damage, and a file that cannot
be reached any more is not cleared away.

Calls are checked as a store checks them, in the same order.
-/

namespace FileConformance

/-- An open handle of a plain file system. -/
structure PlainHandle where
  file : Nat
  /-- Where the next read or write begins. -/
  position : Nat
deriving DecidableEq

/-- A file system that changes its files in place. -/
structure Plain where
  nameLimit : NameLimit
  handleLimit : Option Nat
  deleteOpen : DeletePolicy
  names : Std.ExtTreeMap Bytes Nat compare
  contents : Std.ExtTreeMap Nat Bytes compare
  handles : Std.ExtTreeMap Handle PlainHandle compare
  nextHandle : Nat
  nextFile : Nat
  /-- Set once the process has ended. -/
  exitStatus : Option Int32

namespace Plain

/-- A plain file system without files. -/
def fresh (settings : StoreSettings) : Plain where
  nameLimit := settings.nameLimit
  handleLimit := settings.handleLimit
  deleteOpen := settings.deleteOpen
  names := ∅
  contents := ∅
  handles := ∅
  nextHandle := 2
  nextFile := 1
  exitStatus := none

/-- The bytes of the file that a name denotes. -/
def content? (plain : Plain) (name : Bytes) : Option Bytes := do
  let file ← plain.names[name]?
  plain.contents[file]?

/-- Whether a handle is open on a file. -/
def isOpen (plain : Plain) (file : Nat) : Bool :=
  plain.handles.toList.any fun entry => entry.2.file == file

/-! ## Conditions on calls -/

def checkAlive (plain : Plain) : Except CallError Unit :=
  match plain.exitStatus with
  | some _ => .error .terminated
  | none => .ok ()

def checkName (plain : Plain) (name : Bytes) : Except CallError Unit :=
  if name = [] ∨ 0 ∈ name then .error .invalidName
  else if Name.encodedLength name ≤ plain.nameLimit.bytes then .ok ()
  else
    .error (.nameTooLong (Name.encodedLength name) plain.nameLimit.bytes)

def checkHandleLimit (plain : Plain) : Except CallError Unit :=
  match plain.handleLimit with
  | some limit =>
      if plain.handles.size < limit then .ok ()
      else .error .tooManyOpenFiles
  | none => .ok ()

def lookUp (plain : Plain) (name : Bytes) : Except CallError Nat :=
  match plain.names[name]? with
  | some file => .ok file
  | none => .error .notFound

def resolve (plain : Plain) (handle : Handle) :
    Except CallError PlainHandle :=
  match plain.handles[handle]? with
  | some opened => .ok opened
  | none => .error (.badHandle handle)

def admitCreate (plain : Plain) (name : Bytes) :
    Except CallError Unit := do
  plain.checkAlive
  plain.checkName name
  plain.checkHandleLimit

def admitOpen (plain : Plain) (name : Bytes) : Except CallError Nat := do
  plain.checkAlive
  plain.checkName name
  let file ← plain.lookUp name
  plain.checkHandleLimit
  return file

def admitHandle (plain : Plain) (handle : Handle) :
    Except CallError PlainHandle := do
  plain.checkAlive
  plain.resolve handle

def admitDelete (plain : Plain) (name : Bytes) :
    Except CallError Nat := do
  plain.checkAlive
  plain.checkName name
  let file ← plain.lookUp name
  if plain.isOpen file ∧ plain.deleteOpen = .reject then .error .busy
  else return file

/-! ## Calls -/

/-- Empty the file a name denotes, or make an empty one. -/
def fileToCreate (plain : Plain) (name : Bytes) : Nat × Plain :=
  match plain.names[name]? with
  | some file =>
      (file, { plain with contents := plain.contents.insert file [] })
  | none =>
      (plain.nextFile, {
        plain with
        nextFile := plain.nextFile + 1
        names := plain.names.insert name plain.nextFile
        contents := plain.contents.insert plain.nextFile []
      })

/-- Open a handle at the start of a file. -/
def openHandle (plain : Plain) (file : Nat) : Plain :=
  { plain with
    nextHandle := plain.nextHandle + 1
    handles := plain.handles.insert ⟨plain.nextHandle⟩ ⟨file, 0⟩ }

/-- Move a handle on. -/
def advance (plain : Plain) (handle : Handle) (opened : PlainHandle)
    (count : Nat) : Plain :=
  { plain with
    handles := plain.handles.insert handle
      { opened with position := opened.position + count } }

/-- The bytes of a file. -/
def content (plain : Plain) (file : Nat) : Bytes :=
  plain.contents.getD file []

/--
Put data into a file.  A gap between the end of the file and the first byte
written is filled with zeros; writing nothing changes nothing.
-/
def put (plain : Plain) (opened : PlainHandle) (data : Bytes) : Plain :=
  if data = [] then plain
  else
    { plain with
      contents := plain.contents.insert opened.file
        ((plain.content opened.file).overwrite opened.position data) }

/-- A call that fails leaves a file system as it was. -/
def refuse {Value : Type} (plain : Plain) (reason : CallError) :
    Reply Plain (Except CallError Value) :=
  ⟨.error reason, plain, []⟩

def create (plain : Plain) (name : Bytes) :
    Reply Plain (Except CallError Handle) :=
  match plain.admitCreate name with
  | .error reason => plain.refuse reason
  | .ok () =>
      let (file, prepared) := plain.fileToCreate name
      ⟨.ok ⟨prepared.nextHandle⟩, prepared.openHandle file, []⟩

def openFile (plain : Plain) (name : Bytes) :
    Reply Plain (Except CallError Handle) :=
  match plain.admitOpen name with
  | .error reason => plain.refuse reason
  | .ok file => ⟨.ok ⟨plain.nextHandle⟩, plain.openHandle file, []⟩

def close (plain : Plain) (handle : Handle) :
    Reply Plain (Except CallError Unit) :=
  match plain.admitHandle handle with
  | .error reason => plain.refuse reason
  | .ok _ =>
      ⟨.ok (), { plain with handles := plain.handles.erase handle }, []⟩

/-- Read at a handle into a buffer, whose other bytes are kept. -/
def read (plain : Plain) (handle : Handle) (buffer : Bytes) :
    Reply Plain (Received buffer.length) :=
  match plain.admitHandle handle with
  | .error reason => ⟨.refused reason buffer, plain, []⟩
  | .ok opened =>
      let data :=
        (plain.content opened.file).slice opened.position buffer.length
      ⟨⟨.ok data.length, buffer.place data,
          Bytes.length_place (Bytes.length_slice_le _ _ _)⟩,
        plain.advance handle opened data.length, []⟩

def write (plain : Plain) (handle : Handle) (data : Bytes) :
    Reply Plain (Except CallError Nat) :=
  match plain.admitHandle handle with
  | .error reason => plain.refuse reason
  | .ok opened =>
      ⟨.ok data.length,
        (plain.put opened data).advance handle opened data.length, []⟩

def delete (plain : Plain) (name : Bytes) :
    Reply Plain (Except CallError Unit) :=
  match plain.admitDelete name with
  | .error reason => plain.refuse reason
  | .ok _ => ⟨.ok (), { plain with names := plain.names.erase name }, []⟩

/-- End the process, which gives every handle back. -/
def exit (plain : Plain) (code : Int32) : Reply Plain Unit :=
  match plain.exitStatus with
  | some _ => ⟨(), plain, []⟩
  | none =>
      ⟨(), { plain with handles := ∅, exitStatus := some code }, []⟩

/-- A plain file system answers calls. -/
def subsystem : Subsystem Plain where
  respond
    | .create name, plain => plain.create name
    | .openFile name, plain => plain.openFile name
    | .close handle, plain => plain.close handle
    | .read handle buffer, plain => plain.read handle buffer
    | .write handle data, plain => plain.write handle data
    | .delete name, plain => plain.delete name
    | .exit code, plain => plain.exit code

end Plain

/-! ## Sequences of calls -/

namespace Subsystem

variable {State : Type}

/-- The calls of a sequence with their answers. -/
def exchanges (subsystem : Subsystem State) :
    List Call → State → List Exchange
  | [], _ => []
  | request :: rest, state =>
      ⟨request, (subsystem.respond request state).answer⟩ ::
        subsystem.exchanges rest (subsystem.respond request state).state

/-- The state after a sequence of calls. -/
def after (subsystem : Subsystem State) (calls : List Call)
    (state : State) : State :=
  calls.foldl
    (fun reached request => (subsystem.respond request reached).state) state

end Subsystem

end FileConformance
