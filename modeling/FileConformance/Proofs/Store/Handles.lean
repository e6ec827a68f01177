import FileConformance.Proofs.Handles.Ledger
import FileConformance.Proofs.Store.WellFormed

/-!
# The handles of a store

Of everything a call does to a store, little concerns the handles.  A create or
an open that succeeds issues the next handle under a name, a close that succeeds
gives one back, the end of the process and a crash leave none, and nothing else
touches them.  This holds of every store, whatever its faults and limits.

From that a store honours the ledger of its incidents.
-/

namespace FileConformance

namespace Store

/-- The name under which a handle is open, if it is open. -/
def nameOf? (store : Store) (handle : Handle) : Option Bytes :=
  (store.handles.find? handle).map StoreHandle.name

/-- The handles and the process are as they were. -/
structure SameHandles (store later : Store) : Prop where
  nameOf?_eq : ∀ handle, later.nameOf? handle = store.nameOf? handle
  nextHandle_eq : later.nextHandle = store.nextHandle
  exitStatus_eq : later.exitStatus = store.exitStatus

/-- The next handle was issued under a name. -/
structure IssuesHandle (name : Bytes) (store later : Store) : Prop where
  nameOf?_eq : ∀ handle, later.nameOf? handle =
    if ⟨store.nextHandle⟩ = handle then some name
    else store.nameOf? handle
  nextHandle_eq : later.nextHandle = store.nextHandle + 1
  exitStatus_eq : later.exitStatus = store.exitStatus

/-- A handle was given back. -/
structure GivesBack (handle : Handle) (store later : Store) : Prop where
  nameOf?_eq : ∀ other, later.nameOf? other =
    if handle = other then none else store.nameOf? other
  nextHandle_eq : later.nextHandle = store.nextHandle
  exitStatus_eq : later.exitStatus = store.exitStatus

namespace SameHandles

variable {store middle later : Store}

theorem refl (store : Store) : SameHandles store store where
  nameOf?_eq := fun _ => rfl
  nextHandle_eq := rfl
  exitStatus_eq := rfl

theorem trans (first : SameHandles store middle)
    (second : SameHandles middle later) : SameHandles store later where
  nameOf?_eq := fun handle =>
    (second.nameOf?_eq handle).trans (first.nameOf?_eq handle)
  nextHandle_eq := second.nextHandle_eq.trans first.nextHandle_eq
  exitStatus_eq := second.exitStatus_eq.trans first.exitStatus_eq

/-- A handle may move: it keeps the name under which it was opened. -/
theorem advance (store : Store) (handle : Handle) (count : Nat) :
    SameHandles store (store.advance handle count) where
  nameOf?_eq := by
    intro other
    rw [nameOf?, Store.advance, Registry.find?_adjust]
    split
    · rw [Option.map_map]
      rfl
    · rfl
  nextHandle_eq := rfl
  exitStatus_eq := rfl

theorem append (store : Store) (handle : Handle) (opened : StoreHandle)
    (data : Bytes) :
    SameHandles store (store.append handle opened data) := by
  have moved := advance store handle data.length
  rw [append_eq]
  exact ⟨moved.nameOf?_eq, rfl, rfl⟩

theorem writtenBack (store : Store) (sync : Probability) (file : Nat) :
    SameHandles store (store.writtenBack sync file) := by
  rw [Store.writtenBack]
  split
  · exact ⟨fun _ => rfl, rfl, rfl⟩
  · exact ⟨fun _ => rfl, rfl, rfl⟩

end SameHandles

variable {store : Store}

/-! ## Calls on names -/

theorem openHandle_issues (store : Store) (file : Nat) (name : Bytes) :
    IssuesHandle name store (store.openHandle file name).2 where
  nameOf?_eq := by
    intro handle
    rw [nameOf?, openHandle, Registry.find?_insert]
    split
    · rfl
    · rfl
  nextHandle_eq := rfl
  exitStatus_eq := rfl

/-- A create fails and changes nothing, or issues the next handle. -/
theorem create_handles (store : Store) (name : Bytes) :
    (∃ reason, store.create name = store.refuse reason) ∨
      (store.exitStatus = none ∧
        (store.create name).answer = .ok ⟨store.nextHandle⟩ ∧
        IssuesHandle name store (store.create name).state) := by
  cases admitted : store.admitCreate name with
  | error reason => exact Or.inl ⟨reason, create_of_refused admitted⟩
  | ok _ =>
      right
      have same : SameHandles store (store.fileToCreate name).2 := by
        rw [fileToCreate_eq]
        exact ⟨fun _ => rfl, rfl, rfl⟩
      have issues := openHandle_issues (store.fileToCreate name).2
        (store.fileToCreate name).1 name
      rw [create_of_admitted admitted, same.nextHandle_eq]
      refine ⟨(admitCreate_eq_ok_iff.mp admitted).1, rfl, ?_, ?_, ?_⟩
      · intro handle
        rw [issues.nameOf?_eq, same.nextHandle_eq, same.nameOf?_eq]
      · rw [issues.nextHandle_eq, same.nextHandle_eq]
      · rw [issues.exitStatus_eq, same.exitStatus_eq]

/-- An open fails and changes nothing, or issues the next handle. -/
theorem openFile_handles (store : Store) (name : Bytes) :
    (∃ reason, store.openFile name = store.refuse reason) ∨
      (store.exitStatus = none ∧
        (store.openFile name).answer = .ok ⟨store.nextHandle⟩ ∧
        IssuesHandle name store (store.openFile name).state) := by
  cases admitted : store.admitOpen name with
  | error reason => exact Or.inl ⟨reason, openFile_of_refused admitted⟩
  | ok file =>
      right
      rw [openFile_of_admitted admitted]
      exact ⟨(admitOpen_eq_ok_iff.mp admitted).1, rfl,
        openHandle_issues store file name⟩

/-- Deleting a name leaves the handles on its file alone. -/
theorem delete_handles (store : Store) (name : Bytes) :
    SameHandles store (store.delete name).state := by
  cases admitted : store.admitDelete name with
  | error reason =>
      rw [delete_of_refused admitted]
      exact .refl store
  | ok file =>
      rw [delete_of_admitted admitted]
      dsimp only
      rw [unlink_eq]
      exact ⟨fun _ => rfl, rfl, rfl⟩

/-! ## Calls on handles -/

/-- A handle that is open is admitted while the process runs. -/
theorem exists_admitHandle (alive : store.exitStatus = none)
    {handle : Handle} (isOpen : (store.nameOf? handle).isSome = true) :
    ∃ opened, store.admitHandle handle = .ok opened := by
  rw [nameOf?, Option.isSome_map, Option.isSome_iff_exists] at isOpen
  rcases isOpen with ⟨opened, found⟩
  exact ⟨opened, admitHandle_eq_ok_iff.mpr ⟨alive, found⟩⟩

/-- Why a handle that is not open is refused. -/
theorem admitHandle_of_missing {handle : Handle}
    (missing : store.nameOf? handle = none) :
    store.admitHandle handle =
      .error (if store.exitStatus.isSome then .terminated
        else .badHandle handle) := by
  rw [nameOf?, Option.map_eq_none_iff] at missing
  simp only [admitHandle, checkAlive, resolve, missing]
  cases store.exitStatus with
  | none => rfl
  | some code => rfl

theorem close_admitted {handle : Handle} {opened : StoreHandle}
    (admitted : store.admitHandle handle = .ok opened) :
    (store.close handle).answer = .ok () ∧
      GivesBack handle store (store.close handle).state := by
  rw [close_of_admitted admitted, surrender_eq]
  refine ⟨rfl, ?_, rfl, rfl⟩
  intro other
  rw [nameOf?, Registry.find?_remove]
  split
  · rfl
  · rfl

/-- A close fails and changes nothing, or gives its handle back. -/
theorem close_handles (store : Store) (handle : Handle) :
    (∃ reason, store.close handle = store.refuse reason) ∨
      ((store.close handle).answer = .ok () ∧
        GivesBack handle store (store.close handle).state) := by
  cases admitted : store.admitHandle handle with
  | error reason => exact Or.inl ⟨reason, close_of_refused admitted⟩
  | ok opened => exact Or.inr (close_admitted admitted)

/-- A handle that is open can be closed while the process runs. -/
theorem close_open (alive : store.exitStatus = none) {handle : Handle}
    {name : Bytes} (isOpen : store.nameOf? handle = some name) :
    (store.close handle).answer = .ok () ∧
      GivesBack handle store (store.close handle).state := by
  rcases exists_admitHandle alive (Option.isSome_of_eq_some isOpen) with
    ⟨opened, admitted⟩
  exact close_admitted admitted

/-- A handle that is not open cannot be closed. -/
theorem close_missing (alive : store.exitStatus = none) {handle : Handle}
    (missing : store.nameOf? handle = none) :
    store.close handle = store.refuse (.badHandle handle) := by
  apply close_of_refused
  rw [admitHandle_of_missing missing, alive]
  rfl

theorem read_handles (store : Store) (handle : Handle) (buffer : Bytes) :
    SameHandles store (store.read handle buffer).state := by
  rcases exists_read_eq store handle buffer with
    ⟨generator, same | ⟨opened, count, _, same⟩⟩
  · rw [same]
    exact ⟨fun _ => rfl, rfl, rfl⟩
  · have drawn : SameHandles store { store with generator } :=
      ⟨fun _ => rfl, rfl, rfl⟩
    rw [same]
    exact drawn.trans (.advance _ handle count)

theorem write_handles (store : Store) (handle : Handle) (data : Bytes) :
    SameHandles store (store.write handle data).state := by
  have drawn : SameHandles store store.drawn :=
    ⟨fun _ => rfl, rfl, rfl⟩
  cases admitted : store.admitHandle handle with
  | error reason =>
      rw [write_of_refused data admitted]
      exact .refl store
  | ok opened =>
      cases failed : (store.chance store.settings.inputOutputError).1 with
      | true =>
          rw [write_of_failed data admitted failed]
          exact drawn
      | false =>
          cases room :
            store.drawn.checkSpace (store.drawn.growth opened data) with
          | error reason =>
              rw [write_of_full admitted failed room]
              exact drawn
          | ok _ =>
              rw [write_of_admitted admitted failed room]
              exact (drawn.trans (.append _ handle opened data)).trans
                (.writtenBack _ _ _)

/-! ## The end of the process -/

/-- A process that has ended holds no handles. -/
def Vacant (store : Store) : Prop :=
  store.exitStatus.isSome = true → ∀ handle, store.nameOf? handle = none

/-- Closing handles in order issues none. -/
theorem nextHandle_closeAll (handles : List Handle) (store : Store) :
    (closeAll handles store).state.nextHandle = store.nextHandle := by
  induction handles generalizing store with
  | nil => rfl
  | cons handle rest ih =>
      rw [closeAll, ih]
      rcases close_handles store handle with ⟨reason, same⟩ | ⟨_, given⟩
      · rw [same]
        rfl
      · exact given.nextHandle_eq

theorem nextHandle_exit (store : Store) (code : Int32) :
    (store.exit code).state.nextHandle = store.nextHandle := by
  unfold exit
  split
  · rfl
  · exact nextHandle_closeAll store.handles.keys store

/-- After the end of the process no handle is open. -/
theorem nameOf?_exit (vacant : store.Vacant) (code : Int32)
    (handle : Handle) : (store.exit code).state.nameOf? handle = none := by
  unfold exit
  split
  · rename_i ended status
    apply vacant
    rw [status]
    rfl
  · rename_i alive
    rw [nameOf?, Option.map_eq_none_iff]
    exact Registry.size_eq_zero_iff.mp (size_closeAll_keys alive) handle

theorem exitStatus_exit (store : Store) (code : Int32) :
    (store.exit code).state.exitStatus.isSome = true := by
  unfold exit
  split
  · rename_i ended status
    rw [status]
    rfl
  · rfl

/-! ## The ledger of a store -/

/-- What a caller sees of an action. -/
def incident (store : Store) : Action → Incident
  | .call request =>
      .exchange ⟨request, (subsystem.respond request store).answer⟩
  | .crash => .crash

/-- What a caller sees of a run. -/
def incidents (store : Store) : List Action → List Incident
  | [] => []
  | action :: rest =>
      store.incident action :: (store.act action).incidents rest

/-- A ledger says of the handles what the store knows of them. -/
structure Tallies (store : Store) (ledger : Ledger) : Prop where
  fits : ledger.Fits store.nextHandle
    (fun handle => (store.nameOf? handle).isSome) store.exitStatus.isSome
  vacant : store.Vacant

namespace Tallies

variable {ledger : Ledger}

theorem fresh (settings : StoreSettings) (generator : Generator) :
    (Store.fresh settings generator).Tallies .blank where
  fits := .keep .blank fun handle => by
    simp [nameOf?, Store.fresh]
  vacant := by
    intro impossible
    cases impossible

/-! ### What actions do to the ledger -/

theorem same {later : Store} (tallies : store.Tallies ledger)
    (kept : SameHandles store later) : later.Tallies ledger := by
  have fits : ledger.Fits store.nextHandle
      (fun handle => (later.nameOf? handle).isSome)
      store.exitStatus.isSome :=
    tallies.fits.keep fun handle => by rw [kept.nameOf?_eq]
  rw [← kept.nextHandle_eq, ← kept.exitStatus_eq] at fits
  refine ⟨fits, ?_⟩
  intro ended handle
  rw [kept.exitStatus_eq] at ended
  rw [kept.nameOf?_eq]
  exact tallies.vacant ended handle

theorem issue {name : Bytes} {later : Store}
    (tallies : store.Tallies ledger) (alive : store.exitStatus = none)
    (issues : IssuesHandle name store later) :
    later.Tallies (ledger.issue ⟨store.nextHandle⟩) := by
  have fits : (ledger.issue ⟨store.nextHandle⟩).Fits
      (store.nextHandle + 1)
      (fun handle => (later.nameOf? handle).isSome)
      store.exitStatus.isSome := by
    apply tallies.fits.issue
    intro handle
    rw [issues.nameOf?_eq]
    by_cases same : (⟨store.nextHandle⟩ : Handle) = handle
    · simp [same]
    · simp [same, Ne.symm same]
  rw [← issues.nextHandle_eq, ← issues.exitStatus_eq] at fits
  refine ⟨fits, ?_⟩
  intro ended
  rw [issues.exitStatus_eq, alive] at ended
  cases ended

theorem giveBack {handle : Handle} {later : Store}
    (tallies : store.Tallies ledger)
    (given : GivesBack handle store later) :
    later.Tallies (ledger.giveBack handle) := by
  have fits : (ledger.giveBack handle).Fits store.nextHandle
      (fun other => (later.nameOf? other).isSome)
      store.exitStatus.isSome := by
    apply tallies.fits.giveBack
    intro other
    rw [given.nameOf?_eq]
    by_cases same : handle = other
    · simp [same]
    · simp [same, Ne.symm same]
  rw [← given.nextHandle_eq, ← given.exitStatus_eq] at fits
  refine ⟨fits, ?_⟩
  intro ended other
  rw [given.exitStatus_eq] at ended
  rw [given.nameOf?_eq, tallies.vacant ended, ite_self]

theorem exit (tallies : store.Tallies ledger) (code : Int32) :
    (store.exit code).state.Tallies (ledger.vacate true) := by
  have gone := nameOf?_exit tallies.vacant code
  have fits : (ledger.vacate true).Fits store.nextHandle
      (fun handle => ((store.exit code).state.nameOf? handle).isSome)
      true := by
    apply tallies.fits.vacate
    intro handle
    rw [gone]
    rfl
  rw [← nextHandle_exit store code] at fits
  refine ⟨?_, fun _ => gone⟩
  rw [exitStatus_exit]
  exact fits

theorem crash (tallies : store.Tallies ledger) :
    store.crash.state.Tallies (ledger.vacate false) := by
  have gone : ∀ handle, store.crash.state.nameOf? handle = none := by
    intro handle
    rw [nameOf?, Store.crash, Registry.find?_empty, Option.map_none]
  refine ⟨tallies.fits.vacate fun handle => ?_, fun _ => gone⟩
  rw [gone]
  rfl

/-- An action is written down as what it does. -/
theorem act (tallies : store.Tallies ledger) (action : Action) :
    (store.act action).Tallies (ledger.enter (store.incident action)) := by
  cases action with
  | crash => exact tallies.crash
  | call request =>
      cases request with
      | create name =>
          show (store.create name).state.Tallies (ledger.enter
            (.exchange ⟨.create name, (store.create name).answer⟩))
          rcases create_handles store name with
            ⟨reason, same⟩ | ⟨alive, answered, issues⟩
          · rw [same]
            exact tallies
          · rw [answered]
            exact tallies.issue alive issues
      | openFile name =>
          show (store.openFile name).state.Tallies (ledger.enter
            (.exchange ⟨.openFile name, (store.openFile name).answer⟩))
          rcases openFile_handles store name with
            ⟨reason, same⟩ | ⟨alive, answered, issues⟩
          · rw [same]
            exact tallies
          · rw [answered]
            exact tallies.issue alive issues
      | close handle =>
          show (store.close handle).state.Tallies (ledger.enter
            (.exchange ⟨.close handle, (store.close handle).answer⟩))
          rcases close_handles store handle with
            ⟨reason, same⟩ | ⟨answered, given⟩
          · rw [same]
            exact tallies
          · rw [answered]
            exact tallies.giveBack given
      | read handle buffer =>
          exact tallies.same (read_handles store handle buffer)
      | write handle data =>
          exact tallies.same (write_handles store handle data)
      | delete name => exact tallies.same (delete_handles store name)
      | exit code => exact tallies.exit code

/-- A run is written down as what it does. -/
theorem after (tallies : store.Tallies ledger) (actions : List Action) :
    (store.after actions).Tallies
      (ledger.enterAll (store.incidents actions)) := by
  induction actions generalizing store ledger with
  | nil => exact tallies
  | cons action rest ih => exact ih (tallies.act action)

end Tallies

/-! ### What the ledger says of calls on handles -/

variable {request : Call} {handle : Handle}

/-- A call on a handle that is not admitted fails for that reason. -/
theorem failure?_of_refused {reason : CallError}
    (on : request.handle? = some handle)
    (refused : store.admitHandle handle = .error reason) :
    request.failure? (subsystem.respond request store).answer =
      some reason := by
  cases request with
  | create name => cases on
  | openFile name => cases on
  | delete name => cases on
  | exit code => cases on
  | close other =>
      cases on
      show Call.failure? (.close handle) (store.close handle).answer =
        some reason
      rw [close_of_refused refused]
      rfl
  | read other buffer =>
      cases on
      show Call.failure? (.read handle buffer)
        (store.read handle buffer).answer = some reason
      simp only [read, refused]
      rfl
  | write other data =>
      cases on
      show Call.failure? (.write handle data)
        (store.write handle data).answer = some reason
      rw [write_of_refused data refused]
      rfl

/-- The only reason for which space is refused. -/
theorem eq_noSpace_of_checkSpace {growth : Nat} {reason : CallError}
    (full : store.checkSpace growth = .error reason) :
    reason = .noSpace := by
  unfold checkSpace at full
  split at full
  · split at full
    · cases full
      rfl
    · cases full
  · cases full

/-- A call on an admitted handle fails by chance or for want of space. -/
theorem failure?_of_admitted {opened : StoreHandle} {reason : CallError}
    (on : request.handle? = some handle)
    (admitted : store.admitHandle handle = .ok opened)
    (failed : request.failure? (subsystem.respond request store).answer =
      some reason) :
    reason = .inputOutput ∨ reason = .noSpace := by
  cases request with
  | create name => cases on
  | openFile name => cases on
  | delete name => cases on
  | exit code => cases on
  | close other =>
      cases on
      replace failed : Call.failure? (.close handle)
        (store.close handle).answer = some reason := failed
      rw [close_of_admitted admitted] at failed
      cases failed
  | read other buffer =>
      cases on
      replace failed : Call.failure? (.read handle buffer)
        (store.read handle buffer).answer = some reason := failed
      simp only [read, admitted] at failed
      split at failed
      · cases failed
        exact Or.inl rfl
      · cases failed
  | write other data =>
      cases on
      replace failed : Call.failure? (.write handle data)
        (store.write handle data).answer = some reason := failed
      cases chance : (store.chance store.settings.inputOutputError).1 with
      | true =>
          rw [write_of_failed data admitted chance] at failed
          cases failed
          exact Or.inl rfl
      | false =>
          cases room :
            store.drawn.checkSpace (store.drawn.growth opened data) with
          | error full =>
              rw [write_of_full admitted chance room] at failed
              cases failed
              exact Or.inr (eq_noSpace_of_checkSpace room)
          | ok _ =>
              rw [write_of_admitted admitted chance room] at failed
              cases failed

/-- A store honours a ledger that tells what it knows of its handles. -/
theorem Tallies.honoured {ledger : Ledger}
    (tallies : store.Tallies ledger) :
    ledger.Honoured subsystem store where
  issued_eq := tallies.fits.issued_eq
  recognised := by
    intro request handle on isOpen bad failed
    rw [tallies.fits.isOpen_eq] at isOpen
    have alive : store.exitStatus = none := by
      rw [← Option.not_isSome_iff_eq_none]
      intro ended
      rw [tallies.vacant ended] at isOpen
      cases isOpen
    rcases exists_admitHandle alive isOpen with ⟨opened, admitted⟩
    rcases failure?_of_admitted on admitted failed with same | same
    · cases same
    · cases same
  refused := by
    intro request handle on closed
    rw [tallies.fits.isOpen_eq, Option.isSome_eq_false_iff,
      Option.isNone_iff_eq_none] at closed
    rw [failure?_of_refused on (admitHandle_of_missing closed),
      Ledger.refusal, tallies.fits.ended_eq]

end Store

end FileConformance
