import FileConformance.Procedure
import FileConformance.Store.Basic

/-!
# The calls of a simulated store

Each call first finds out whether it is admitted, in a fixed order of
conditions, and only then changes the store: a call that fails leaves the
store as it was, except that a draw for an input or output error has moved the
generator on.
-/

namespace FileConformance

namespace Store

/-- A failed call: nothing is reported. -/
def refuse {Value : Type} (store : Store) (reason : CallError) :
    Reply Store (Except CallError Value) :=
  ⟨.error reason, store, []⟩

/-! ## Creating and opening -/

/-- Whether a create is admitted. -/
def admitCreate (store : Store) (name : Bytes) : Except CallError Unit := do
  store.checkAlive
  store.checkName name
  store.checkHandleLimit

/-- Create a file, or empty the one there is, and open it. -/
def create (store : Store) (name : Bytes) :
    Reply Store (Except CallError Handle) :=
  match store.admitCreate name with
  | .error reason => store.refuse reason
  | .ok () =>
      let (file, prepared) := store.fileToCreate name
      let (handle, opened) := prepared.openHandle file name
      ⟨.ok handle, opened, [.created name handle]⟩

/-- The file an open is admitted to. -/
def admitOpen (store : Store) (name : Bytes) : Except CallError Nat := do
  store.checkAlive
  store.checkName name
  let file ← store.lookUp name
  store.checkHandleLimit
  return file

/-- Open a file that exists. -/
def openFile (store : Store) (name : Bytes) :
    Reply Store (Except CallError Handle) :=
  match store.admitOpen name with
  | .error reason => store.refuse reason
  | .ok file =>
      let (handle, opened) := store.openHandle file name
      ⟨.ok handle, opened, [.opened name handle]⟩

/-! ## Closing -/

/-- What a live store's handle is open on. -/
def admitHandle (store : Store) (handle : Handle) :
    Except CallError StoreHandle := do
  store.checkAlive
  store.resolve handle

/-- Give up a handle: flush its file, and drop the file if it is orphaned. -/
def surrender (store : Store) (handle : Handle) (file : Nat) : Store :=
  let flushed :=
    { store with handles := store.handles.remove handle }.flush file
  { flushed with
    files := flushed.files.modify file fun stored =>
      { stored with openHandles := stored.openHandles - 1 } }.reclaim file

/-- Close a handle. -/
def close (store : Store) (handle : Handle) :
    Reply Store (Except CallError Unit) :=
  match store.admitHandle handle with
  | .error reason => store.refuse reason
  | .ok opened =>
      ⟨.ok (), store.surrender handle opened.file,
        [.closed (some opened.name) handle]⟩

/-! ## Reading -/

/-- A wrong byte in what a read hands back. -/
structure Damage where
  /-- Which of the bytes read is wrong. -/
  place : Nat
  /-- Which of its bits are flipped; at least one is. -/
  mask : UInt8
deriving DecidableEq

/-- Whether a read of some bytes is damaged, and how. -/
def drawDamage (store : Store) (count : Nat) : Option Damage × Store :=
  if count = 0 then (none, store)
  else
    let (damaged, drawn) := store.chance store.settings.corruption
    if damaged then
      let (place, later) := drawn.generator.below count
      let (mask, last) := later.byte
      (some ⟨place, if mask = 0 then 1 else mask⟩,
        { drawn with generator := last })
    else (none, drawn)

/-- A buffer after a read placed some data in it, with or without damage. -/
def deliver (buffer data : Bytes) (damage : Option Damage) : Bytes :=
  match damage with
  | none => buffer.place data
  | some wrong => (buffer.place data).flip wrong.place wrong.mask

theorem length_deliver {buffer data : Bytes} {damage : Option Damage}
    (fits : data.length ≤ buffer.length) :
    (deliver buffer data damage).length = buffer.length := by
  cases damage with
  | none => exact Bytes.length_place fits
  | some wrong =>
      simp only [deliver, Bytes.length_flip]
      exact Bytes.length_place fits

/-- The events of a read. -/
def readEvents (handle : Handle) (position count : Nat)
    (damage : Option Damage) : List CallEvent :=
  (damage.map fun wrong =>
    .corrupted handle (position + wrong.place)).toList ++
  [.received handle count]

/-- Read at a handle's position into a buffer. -/
def read (store : Store) (handle : Handle) (buffer : Bytes) :
    Reply Store (Received buffer.length) :=
  match store.admitHandle handle with
  | .error reason => ⟨.refused reason buffer, store, []⟩
  | .ok opened =>
      let (failed, drawn) := store.chance store.settings.inputOutputError
      if failed then ⟨.refused .inputOutput buffer, drawn, []⟩
      else
        let data :=
          (drawn.live opened.file).slice opened.position buffer.length
        let (damage, after) := drawn.drawDamage data.length
        ⟨⟨.ok data.length, deliver buffer data damage,
            length_deliver (Bytes.length_slice_le _ _ _)⟩,
          after.advance handle data.length,
          readEvents handle opened.position data.length damage⟩

/-! ## Writing -/

/-- By how much a write makes a file longer. -/
def growth (store : Store) (opened : StoreHandle) (data : Bytes) : Nat :=
  opened.position + data.length - (store.live opened.file).length

/-- Queue data for a handle's file, and move the handle on. -/
def append (store : Store) (handle : Handle) (opened : StoreHandle)
    (data : Bytes) : Store :=
  let queued :=
    if data.isEmpty then store
    else
      { store with
        pending :=
          store.pending ++ [.write opened.file opened.position data] }
  queued.advance handle data.length

/-- Write at a handle's position. -/
def write (store : Store) (handle : Handle) (data : Bytes) :
    Reply Store (Except CallError Nat) :=
  match store.admitHandle handle with
  | .error reason => store.refuse reason
  | .ok opened =>
      let (failed, drawn) := store.chance store.settings.inputOutputError
      if failed then drawn.refuse .inputOutput
      else
        match drawn.checkSpace (drawn.growth opened data) with
        | .error reason => drawn.refuse reason
        | .ok () =>
            let (synced, after) :=
              (drawn.append handle opened data).chance store.settings.sync
            ⟨.ok data.length,
              if synced then after.flush opened.file else after,
              [.written handle data.length]⟩

/-! ## Deleting -/

/-- The number of handles that are open on a file. -/
def handlesOn (store : Store) (file : Nat) : Nat :=
  ((store.files[file]?).map StoredFile.openHandles).getD 0

/-- The file that a delete is admitted to take the name of. -/
def admitDelete (store : Store) (name : Bytes) : Except CallError Nat := do
  store.checkAlive
  store.checkName name
  let file ← store.lookUp name
  if 0 < store.handlesOn file ∧ store.settings.deleteOpen = .reject then
    .error .busy
  else return file

/-- Take a name from its file, and drop the file if it is orphaned. -/
def unlink (store : Store) (name : Bytes) (file : Nat) : Store :=
  { store with
    names := store.names.erase name
    files := store.files.modify file fun stored =>
      { stored with linked := false } }.reclaim file

/-- Delete a name. -/
def delete (store : Store) (name : Bytes) :
    Reply Store (Except CallError Unit) :=
  match store.admitDelete name with
  | .error reason => store.refuse reason
  | .ok file =>
      ⟨.ok (), store.unlink name file,
        [.deleted name (some (store.handlesOn file))]⟩

/-! ## Ending and crashing -/

/-- Close handles in order. -/
def closeAll : List Handle → Store → Reply Store Unit
  | [], store => ⟨(), store, []⟩
  | handle :: rest, store =>
      let closed := store.close handle
      let others := closeAll rest closed.state
      ⟨(), others.state, closed.events ++ others.events⟩

/-- End the process: every handle is closed, and then no call is answered. -/
def exit (store : Store) (code : Int32) : Reply Store Unit :=
  match store.exitStatus with
  | some _ => ⟨(), store, []⟩
  | none =>
      let closed := closeAll store.handles.keys store
      ⟨(), { closed.state with exitStatus := some code },
        closed.events ++ [.exited code]⟩

/--
Lose power: what is not durable is gone, and so are all handles and the files
without a name.  Afterwards the store answers calls again.
-/
def crash (store : Store) : Reply Store Unit :=
  ⟨(), {
      store with
      pending := []
      handles := .empty
      files := (store.files.filter fun _ stored => stored.linked).map
        fun _ stored => { stored with openHandles := 0 }
      exitStatus := none
    },
    [.crashed store.pending.length store.handles.size]⟩

/-- A store answers calls. -/
def subsystem : Subsystem Store where
  respond
    | .create name, store => store.create name
    | .openFile name, store => store.openFile name
    | .close handle, store => store.close handle
    | .read handle buffer, store => store.read handle buffer
    | .write handle data, store => store.write handle data
    | .delete name, store => store.delete name
    | .exit code, store => store.exit code

end Store

end FileConformance
