import FileConformance.Directory
import FileConformance.Proofs.Handles.Ledger
import FileConformance.Proofs.Plain.Basic

/-!
# The handles of a directory

A directory treats handles as a store does, with one difference: the end of the
process is not its affair.  A create or an open that succeeds issues the next
handle, a close that succeeds gives one back, and nothing else touches them,
whatever is on the disk and whether or not the directory can be reached.

From that a directory honours the ledger of its calls.
-/

namespace FileConformance

namespace Directory

variable {directory : Directory}

/-! ## What calls do to the handles -/

/-- A create fails and changes nothing, or opens the next handle. -/
theorem create_handles (directory : Directory) (name : Bytes) :
    (∃ reason, directory.create name = directory.refuse reason) ∨
      ∃ file disk,
        (directory.create name).answer = .ok ⟨directory.nextHandle⟩ ∧
        (directory.create name).state =
          (directory.openHandle disk file).2 := by
  unfold create
  split
  · rename_i reason _
    exact Or.inl ⟨reason, rfl⟩
  · rename_i file disk _
    exact Or.inr ⟨file, disk, rfl, rfl⟩

/-- An open fails and changes nothing, or opens the next handle. -/
theorem openFile_handles (directory : Directory) (name : Bytes) :
    (∃ reason, directory.openFile name = directory.refuse reason) ∨
      ∃ file disk,
        (directory.openFile name).answer = .ok ⟨directory.nextHandle⟩ ∧
        (directory.openFile name).state =
          (directory.openHandle disk file).2 := by
  unfold openFile
  split
  · rename_i reason _
    exact Or.inl ⟨reason, rfl⟩
  · rename_i file _
    exact Or.inr ⟨file, directory.disk, rfl, rfl⟩

theorem resolve_eq_ok_iff {handle : Handle} {opened : OpenFile} :
    directory.resolve handle = .ok opened ↔
      directory.handles[handle]? = some opened := by
  unfold resolve
  split
  · rename_i found present
    rw [present, Except.ok.injEq, Option.some.injEq]
  · rename_i missing
    rw [missing]
    simp

theorem resolve_of_missing {handle : Handle}
    (missing : directory.handles[handle]? = none) :
    directory.resolve handle = .error (.badHandle handle) := by
  rw [resolve, missing]

/-- The handles that are open stay open when one of them moves. -/
theorem isSome_advance (directory : Directory) (handle other : Handle)
    (count : Nat) :
    ((directory.advance handle count).handles[other]?).isSome =
      (directory.handles[other]?).isSome := by
  rw [advance, Std.ExtTreeMap.getElem?_modify]
  split
  · rename_i same
    rw [Option.isSome_map, Std.LawfulEqOrd.eq_of_compare same]
  · rfl

/-! ## The ledger of a directory -/

/-- A ledger says of the handles what the directory knows of them. -/
def Tallies (directory : Directory) (ledger : Ledger) : Prop :=
  ledger.Fits directory.nextHandle
    (fun handle => (directory.handles[handle]?).isSome) false

/-- What a caller sees of calls. -/
def incidents (directory : Directory) (calls : List Call) :
    List Incident :=
  (subsystem.exchanges calls directory).map .exchange

namespace Tallies

variable {ledger : Ledger}

theorem fresh (disk : Disk) (root : Except SystemError Nat)
    (leading : Nat) :
    (Directory.fresh disk root leading).Tallies .blank :=
  .keep .blank fun handle => by simp [Directory.fresh]

theorem issue (tallies : directory.Tallies ledger) (disk : Disk)
    (file : Nat) :
    (directory.openHandle disk file).2.Tallies
      (ledger.issue ⟨directory.nextHandle⟩) := by
  refine Ledger.Fits.issue tallies ?_
  intro handle
  rw [openHandle, Std.ExtTreeMap.getElem?_insert]
  by_cases same : (⟨directory.nextHandle⟩ : Handle) = handle
  · simp [same]
  · simp [same, Ne.symm same]

theorem giveBack (tallies : directory.Tallies ledger) (handle : Handle) :
    Tallies { directory with handles := directory.handles.erase handle }
      (ledger.giveBack handle) := by
  refine Ledger.Fits.giveBack tallies ?_
  intro other
  rw [Std.ExtTreeMap.getElem?_erase]
  by_cases same : handle = other
  · simp [same]
  · simp [same, Ne.symm same]

/-- A call is written down as what it does. -/
theorem respond (tallies : directory.Tallies ledger) {request : Call}
    (running : request.kind ≠ .exit) :
    (subsystem.respond request directory).state.Tallies
      (ledger.enter (.exchange
        ⟨request, (subsystem.respond request directory).answer⟩)) := by
  cases request with
  | create name =>
      show (directory.create name).state.Tallies (ledger.enter
        (.exchange ⟨.create name, (directory.create name).answer⟩))
      rcases create_handles directory name with
        ⟨reason, same⟩ | ⟨file, disk, answered, opened⟩
      · rw [same]
        exact tallies
      · rw [answered, opened]
        exact tallies.issue disk file
  | openFile name =>
      show (directory.openFile name).state.Tallies (ledger.enter
        (.exchange ⟨.openFile name, (directory.openFile name).answer⟩))
      rcases openFile_handles directory name with
        ⟨reason, same⟩ | ⟨file, disk, answered, opened⟩
      · rw [same]
        exact tallies
      · rw [answered, opened]
        exact tallies.issue disk file
  | close handle =>
      show (directory.close handle).state.Tallies (ledger.enter
        (.exchange ⟨.close handle, (directory.close handle).answer⟩))
      unfold close
      split
      · exact tallies
      · exact tallies.giveBack handle
  | read handle buffer =>
      show (directory.read handle buffer).state.Tallies ledger
      unfold read
      split
      · exact tallies
      · exact tallies.keep fun other =>
          isSome_advance directory handle other _
  | write handle data =>
      show (directory.write handle data).state.Tallies ledger
      unfold write
      split
      · exact tallies
      · exact tallies.keep fun other =>
          isSome_advance _ handle other data.length
  | delete name =>
      show (directory.delete name).state.Tallies ledger
      unfold delete
      split
      · exact tallies
      · exact tallies
  | exit code => exact absurd rfl running

/-- Calls are written down as what they do. -/
theorem after (tallies : directory.Tallies ledger) {calls : List Call}
    (running : ∀ request ∈ calls, request.kind ≠ .exit) :
    (subsystem.after calls directory).Tallies
      (ledger.enterAll (directory.incidents calls)) := by
  induction calls generalizing directory ledger with
  | nil => exact tallies
  | cons request rest ih =>
      rw [List.forall_mem_cons] at running
      exact ih (tallies.respond running.1) running.2

end Tallies

/-! ### What the ledger says of calls on handles -/

variable {request : Call} {handle : Handle}

/-- A call on a handle that is not open is told so. -/
theorem failure?_of_missing (on : request.handle? = some handle)
    (missing : directory.handles[handle]? = none) :
    request.failure? (subsystem.respond request directory).answer =
      some (.badHandle handle) := by
  have refused := resolve_of_missing missing
  cases request with
  | create name => cases on
  | openFile name => cases on
  | delete name => cases on
  | exit code => cases on
  | close other =>
      cases on
      show Call.failure? (.close handle) (directory.close handle).answer =
        some (.badHandle handle)
      rw [close, refused]
      rfl
  | read other buffer =>
      cases on
      show Call.failure? (.read handle buffer)
        (directory.read handle buffer).answer = some (.badHandle handle)
      rw [read, refused]
      rfl
  | write other data =>
      cases on
      show Call.failure? (.write handle data)
        (directory.write handle data).answer = some (.badHandle handle)
      rw [write, refused]
      rfl

/-- No call on an open handle fails. -/
theorem failure?_of_open (on : request.handle? = some handle)
    (isOpen : (directory.handles[handle]?).isSome = true) :
    request.failure? (subsystem.respond request directory).answer =
      none := by
  rcases Option.isSome_iff_exists.mp isOpen with ⟨opened, found⟩
  have resolved := resolve_eq_ok_iff.mpr found
  cases request with
  | create name => cases on
  | openFile name => cases on
  | delete name => cases on
  | exit code => cases on
  | close other =>
      cases on
      show Call.failure? (.close handle) (directory.close handle).answer =
        none
      rw [close, resolved]
      rfl
  | read other buffer =>
      cases on
      show Call.failure? (.read handle buffer)
        (directory.read handle buffer).answer = none
      rw [read, resolved]
      rfl
  | write other data =>
      cases on
      show Call.failure? (.write handle data)
        (directory.write handle data).answer = none
      rw [write, resolved]
      rfl

/-- A directory honours a ledger that tells what it knows of its handles. -/
theorem Tallies.honoured {ledger : Ledger}
    (tallies : directory.Tallies ledger) :
    ledger.Honoured subsystem directory where
  issued_eq := tallies.issued_eq
  recognised := by
    intro request handle on isOpen bad failed
    rw [tallies.isOpen_eq] at isOpen
    rw [failure?_of_open on isOpen] at failed
    cases failed
  refused := by
    intro request handle on closed
    rw [tallies.isOpen_eq, Option.isSome_eq_false_iff,
      Option.isNone_iff_eq_none] at closed
    rw [failure?_of_missing on closed, Ledger.refusal, tallies.ended_eq]
    rfl

end Directory

end FileConformance
