import FileConformance.Disk.Listing
import FileConformance.Procedure

/-!
# The files of one directory as a subsystem

The file calls of an operating system, confined to one directory: every name
is a single path component below it.  The operating system applies its own
limits, one on names and one on whole paths, and follows a symbolic link that
has the name, also out of the directory.

The way to the directory is walked once, so no link in the directory itself may
be on it.  The directory need not be there.  Then every call that looks a name
up fails for the reason for which the directory cannot be reached.

Handles are numbered here, so a handle that was closed is never handed out
again and a second close is always noticed.
-/

namespace FileConformance

/-- An open file of a directory. -/
structure OpenFile where
  file : Nat
  /-- Where the next read or write begins. -/
  position : Nat
deriving DecidableEq

/-- The files of one directory, and the handles on them. -/
structure Directory where
  disk : Disk
  /-- The directory, or why it cannot be reached. -/
  root : Except SystemError Nat
  /-- How many bytes precede the name in the path of a file. -/
  leading : Nat
  handles : Std.ExtTreeMap Handle OpenFile compare
  /-- The number of the next handle; no number is used twice. -/
  nextHandle : Nat

namespace Directory

/-- A directory of a disk, without open handles. -/
def fresh (disk : Disk) (root : Except SystemError Nat) (leading : Nat) :
    Directory where
  disk := disk
  root := root
  leading := leading
  handles := ∅
  nextHandle := 2

/-- Whether a name is a single path component. -/
def isComponent (name : Bytes) : Bool :=
  !name.isEmpty && name != Disk.selfName && name != Disk.parentName &&
    !name.contains 0x2f && !name.contains 0

/-- The place that the operating system finds for a name. -/
def place (directory : Directory) (name : Bytes) :
    Except SystemError Place := do
  if Disk.longestPath < directory.leading + name.length then
    .error .nameTooLong
  else
    let root ← directory.root
    directory.disk.locate root [] name

/-- The place of a name below the root. -/
def locate (directory : Directory) (name : Bytes) : Except CallError Place :=
  if isComponent name then
    (directory.place name).mapError CallError.ofSystem
  else .error .invalidName

/-- A failed call: nothing changes, and nothing is reported. -/
def refuse {Value : Type} (directory : Directory) (reason : CallError) :
    Reply Directory (Except CallError Value) :=
  ⟨.error reason, directory, []⟩

/-- Open a new handle on a file of a disk. -/
def openHandle (directory : Directory) (disk : Disk) (file : Nat) :
    Handle × Directory :=
  let handle : Handle := ⟨directory.nextHandle⟩
  (handle, {
    directory with
    disk
    handles := directory.handles.insert handle { file, position := 0 }
    nextHandle := directory.nextHandle + 1
  })

/-- Make a file below the root. -/
def makeFile (directory : Directory) (name : Bytes) :
    Except CallError (Nat × Disk) := do
  let place ← directory.locate name
  (directory.disk.createFile place).mapError CallError.ofSystem

/-- Create a file, or empty the one there is, and open it. -/
def create (directory : Directory) (name : Bytes) :
    Reply Directory (Except CallError Handle) :=
  match directory.makeFile name with
  | .error reason => directory.refuse reason
  | .ok (file, disk) =>
      let (handle, opened) := directory.openHandle disk file
      ⟨.ok handle, opened, [.created name handle]⟩

/-- The file of a name below the root. -/
def findFile (directory : Directory) (name : Bytes) :
    Except CallError Nat := do
  let place ← directory.locate name
  (directory.disk.openFile place).mapError CallError.ofSystem

/-- Open a file that exists. -/
def openFile (directory : Directory) (name : Bytes) :
    Reply Directory (Except CallError Handle) :=
  match directory.findFile name with
  | .error reason => directory.refuse reason
  | .ok file =>
      let (handle, opened) := directory.openHandle directory.disk file
      ⟨.ok handle, opened, [.opened name handle]⟩

/-- What a handle is open on. -/
def resolve (directory : Directory) (handle : Handle) :
    Except CallError OpenFile :=
  match directory.handles[handle]? with
  | some opened => .ok opened
  | none => .error (.badHandle handle)

/-- Close a handle. -/
def close (directory : Directory) (handle : Handle) :
    Reply Directory (Except CallError Unit) :=
  match directory.resolve handle with
  | .error reason => directory.refuse reason
  | .ok _ =>
      ⟨.ok (), { directory with handles := directory.handles.erase handle },
        [.closed none handle]⟩

/-- Move a handle on by some bytes. -/
def advance (directory : Directory) (handle : Handle) (count : Nat) :
    Directory :=
  { directory with
    handles := directory.handles.modify handle fun opened =>
      { opened with position := opened.position + count } }

/-- Read at a handle's position into a buffer. -/
def read (directory : Directory) (handle : Handle) (buffer : Bytes) :
    Reply Directory (Received buffer.length) :=
  match directory.resolve handle with
  | .error reason => ⟨.refused reason buffer, directory, []⟩
  | .ok opened =>
      let data :=
        (directory.disk.content opened.file).slice opened.position
          buffer.length
      ⟨⟨.ok data.length, buffer.place data,
          Bytes.length_place (Bytes.length_slice_le _ _ _)⟩,
        directory.advance handle data.length,
        [.received handle data.length]⟩

/-- Write at a handle's position. -/
def write (directory : Directory) (handle : Handle) (data : Bytes) :
    Reply Directory (Except CallError Nat) :=
  match directory.resolve handle with
  | .error reason => directory.refuse reason
  | .ok opened =>
      let disk := directory.disk.writeFile opened.file opened.position data
      ⟨.ok data.length, { directory with disk }.advance handle data.length,
        [.written handle data.length]⟩

/-- Remove a file below the root. -/
def takeFile (directory : Directory) (name : Bytes) :
    Except CallError Disk := do
  let place ← directory.locate name
  (directory.disk.removeFile place).mapError CallError.ofSystem

/-- Delete a name. -/
def delete (directory : Directory) (name : Bytes) :
    Reply Directory (Except CallError Unit) :=
  match directory.takeFile name with
  | .error reason => directory.refuse reason
  | .ok disk =>
      ⟨.ok (), { directory with disk }, [.deleted name none]⟩

/-- How many handles are open. -/
def openHandles (directory : Directory) : Nat :=
  directory.handles.size

/-- Everything below the root, if the root is a directory. -/
def listing (directory : Directory) : List Disk.Line :=
  match directory.root with
  | .ok root => directory.disk.listing root
  | .error _ => []

/--
A directory answers calls.  The end of a process is not its affair, so it goes
on answering afterwards.
-/
def subsystem : Subsystem Directory where
  respond
    | .create name, directory => directory.create name
    | .openFile name, directory => directory.openFile name
    | .close handle, directory => directory.close handle
    | .read handle buffer, directory => directory.read handle buffer
    | .write handle data, directory => directory.write handle data
    | .delete name, directory => directory.delete name
    | .exit _, directory => ⟨(), directory, []⟩

end Directory

end FileConformance
