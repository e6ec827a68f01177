import FileConformance.Proofs.Scenario.RoundTrips
import FileConformance.Proofs.Store.Handles

/-!
# Test files and a store stay in step

The table says of each test file which handle the harness holds on it, and the
store says which handles are open and under which names.  Nobody compares the
two, and any call may fail.  Still they agree: a file is bound to a handle that
is open under its name, and a file that was released to one that is not open.

A visit concerns handles under one name only, and it never brings back a number
that was used, so a visit of one file keeps the others in step.
-/

namespace FileConformance

open Store

/-! ## Handles under some names -/

namespace Store

/-- The process runs, and open handles are behind the next one. -/
structure Orderly (store : Store) : Prop where
  alive : store.exitStatus = none
  issued : ∀ {handle : Handle} {name : Bytes},
    store.nameOf? handle = some name → handle.number < store.nextHandle

theorem Orderly.fresh (settings : StoreSettings) (generator : Generator) :
    (Store.fresh settings generator).Orderly where
  alive := rfl
  issued := by
    intro handle name isOpen
    simp [nameOf?, Store.fresh] at isOpen

/--
From one orderly store to another, no handle changed but those that are open
under some names and those that had not been issued.
-/
structure Confined (names : List Bytes) (store later : Store) : Prop where
  orderly : later.Orderly
  kept : ∀ {handle : Handle}, handle.number < store.nextHandle →
    (∀ name ∈ names, store.nameOf? handle ≠ some name) →
      later.nameOf? handle = store.nameOf? handle
  nextHandle_le : store.nextHandle ≤ later.nextHandle

namespace Confined

variable {names : List Bytes} {name : Bytes} {store middle later : Store}

theorem of_same (orderly : store.Orderly)
    (same : SameHandles store later) : Confined names store later where
  orderly := by
    constructor
    · rw [same.exitStatus_eq]
      exact orderly.alive
    · intro handle other isOpen
      rw [same.nameOf?_eq] at isOpen
      rw [same.nextHandle_eq]
      exact orderly.issued isOpen
  kept := fun _ _ => same.nameOf?_eq _
  nextHandle_le := Nat.le_of_eq same.nextHandle_eq.symm

theorem refl (orderly : store.Orderly) : Confined names store store :=
  of_same orderly (.refl store)

theorem of_issues (orderly : store.Orderly)
    (issues : IssuesHandle name store later) :
    Confined names store later where
  orderly := by
    constructor
    · rw [issues.exitStatus_eq]
      exact orderly.alive
    · intro handle other isOpen
      rw [issues.nextHandle_eq]
      rw [issues.nameOf?_eq] at isOpen
      split at isOpen
      · rename_i same
        rw [← same]
        exact Nat.lt_succ_self store.nextHandle
      · exact Nat.lt_succ_of_lt (orderly.issued isOpen)
  kept := by
    intro handle below _
    have old : (⟨store.nextHandle⟩ : Handle) ≠ handle := by
      rintro rfl
      exact Nat.lt_irrefl _ below
    rw [issues.nameOf?_eq, if_neg old]
  nextHandle_le := by
    rw [issues.nextHandle_eq]
    exact Nat.le_succ store.nextHandle

theorem of_givesBack {handle : Handle} (orderly : store.Orderly)
    (isOpen : store.nameOf? handle = some name)
    (given : GivesBack handle store later) :
    Confined [name] store later where
  orderly := by
    constructor
    · rw [given.exitStatus_eq]
      exact orderly.alive
    · intro other otherName otherOpen
      rw [given.nextHandle_eq]
      rw [given.nameOf?_eq] at otherOpen
      split at otherOpen
      · cases otherOpen
      · exact orderly.issued otherOpen
  kept := by
    intro other _ apart
    have different : handle ≠ other := by
      rintro rfl
      exact apart name (List.mem_singleton_self name) isOpen
    rw [given.nameOf?_eq, if_neg different]
  nextHandle_le := Nat.le_of_eq given.nextHandle_eq.symm

/-- Two changes under the same names together are one. -/
theorem trans (first : Confined names store middle)
    (second : Confined names middle later) : Confined names store later where
  orderly := second.orderly
  kept := by
    intro handle below apart
    have same := first.kept below apart
    rw [← same]
    apply second.kept (Nat.lt_of_lt_of_le below first.nextHandle_le)
    rw [same]
    exact apart
  nextHandle_le := Nat.le_trans first.nextHandle_le second.nextHandle_le

end Confined

end Store

/-! ## Files in step -/

theorem Binding.eq_bound_of_live? {binding : Binding} {handle : Handle}
    (live : binding.live? = some handle) : binding = .bound handle := by
  cases binding with
  | unbound => cases live
  | bound other =>
      cases live
      rfl
  | released other => cases live

namespace TrackedFile

/-- What the table says of a file's handle is what the store says of it. -/
structure InStep (file : TrackedFile) (store : Store) : Prop where
  /-- A bound handle is open under the name of the file. -/
  bound : ∀ {handle : Handle}, file.binding = .bound handle →
    store.nameOf? handle = some file.path
  /-- A released handle is not open. -/
  released : ∀ {handle : Handle}, file.binding = .released handle →
    store.nameOf? handle = none
  /-- Nor will it be opened again. -/
  spent : ∀ {handle : Handle}, file.binding = .released handle →
    handle.number < store.nextHandle

namespace InStep

variable {file : TrackedFile} {store later : Store} {handle : Handle}
  {names : List Bytes}

theorem of_unbound (unbound : file.binding = .unbound) (store : Store) :
    file.InStep store where
  bound := by
    intro handle bound
    rw [unbound] at bound
    cases bound
  released := by
    intro handle released
    rw [unbound] at released
    cases released
  spent := by
    intro handle released
    rw [unbound] at released
    cases released

theorem of_bind (isOpen : store.nameOf? handle = some file.path) :
    (file.bind handle).InStep store where
  bound := by
    rintro _ ⟨⟩
    exact isOpen
  released := nofun
  spent := nofun

theorem of_release (bound : file.binding = .bound handle)
    (closed : store.nameOf? handle = none)
    (below : handle.number < store.nextHandle) :
    file.release.InStep store := by
  rw [release_of_bound bound]
  constructor
  · exact nofun
  · rintro _ ⟨⟩
    exact closed
  · rintro _ ⟨⟩
    exact below

/-- A file is kept in step by what happens under other names. -/
theorem of_confined (inStep : file.InStep store) (orderly : store.Orderly)
    (confined : Confined names store later) (apart : file.path ∉ names) :
    file.InStep later where
  bound := by
    intro handle bound
    have isOpen := inStep.bound bound
    rw [confined.kept (orderly.issued isOpen)]
    · exact isOpen
    · rw [isOpen]
      rintro _ among ⟨⟩
      exact apart among
  released := by
    intro handle released
    have closed := inStep.released released
    rw [confined.kept (inStep.spent released)]
    · exact closed
    · rw [closed]
      exact nofun
  spent := fun released =>
    Nat.lt_of_lt_of_le (inStep.spent released) confined.nextHandle_le

/-- A file is kept in step by what leaves all handles as they are. -/
theorem of_same (inStep : file.InStep store)
    (same : SameHandles store later) : file.InStep later where
  bound := fun bound =>
    (same.nameOf?_eq _).trans (inStep.bound bound)
  released := fun released =>
    (same.nameOf?_eq _).trans (inStep.released released)
  spent := fun released =>
    Nat.lt_of_lt_of_eq (inStep.spent released) same.nextHandle_eq.symm

end InStep

end TrackedFile

/-- A visit keeps to the name of its file, and keeps the file in step. -/
structure Keeps (file : TrackedFile) (store : Store) (moved : TrackedFile)
    (later : Store) : Prop where
  index_eq : moved.index = file.index
  name_eq : moved.name = file.name
  confined : Confined [file.path] store later
  inStep : moved.InStep later

namespace Keeps

variable {file moved last : TrackedFile} {store middle later : Store}

theorem of_same (orderly : store.Orderly) (inStep : file.InStep store)
    (same : SameHandles store later) : Keeps file store file later where
  index_eq := rfl
  name_eq := rfl
  confined := .of_same orderly same
  inStep := inStep.of_same same

theorem trans (first : Keeps file store moved middle)
    (second : Keeps moved middle last later) :
    Keeps file store last later where
  index_eq := second.index_eq.trans first.index_eq
  name_eq := second.name_eq.trans first.name_eq
  confined := by
    have path_eq := TrackedFile.path_eq_of_name_eq first.name_eq
    have confined := second.confined
    rw [path_eq] at confined
    exact first.confined.trans confined
  inStep := second.inStep

end Keeps

/-! ## Calls for a file -/

section

variable {file : TrackedFile} {store : Store}

theorem create_keeps (orderly : store.Orderly)
    (inStep : file.InStep store) :
    Keeps file store (file.rebind (store.create file.path).answer)
      (store.create file.path).state := by
  rcases create_handles store file.path with
    ⟨reason, same⟩ | ⟨_, answered, issues⟩
  · rw [same]
    exact .of_same orderly inStep (.refl store)
  · rw [answered]
    refine ⟨rfl, rfl, .of_issues orderly issues, .of_bind ?_⟩
    rw [issues.nameOf?_eq, if_pos rfl]

theorem openFile_keeps (orderly : store.Orderly)
    (inStep : file.InStep store) :
    Keeps file store (file.rebind (store.openFile file.path).answer)
      (store.openFile file.path).state := by
  rcases openFile_handles store file.path with
    ⟨reason, same⟩ | ⟨_, answered, issues⟩
  · rw [same]
    exact .of_same orderly inStep (.refl store)
  · rw [answered]
    refine ⟨rfl, rfl, .of_issues orderly issues, .of_bind ?_⟩
    rw [issues.nameOf?_eq, if_pos rfl]

theorem delete_keeps (orderly : store.Orderly)
    (inStep : file.InStep store) (name : Bytes) :
    Keeps file store file (store.delete name).state :=
  .of_same orderly inStep (delete_handles store name)

theorem write_keeps (orderly : store.Orderly)
    (inStep : file.InStep store) (handle : Handle) (data : Bytes) :
    Keeps file store file (store.write handle data).state :=
  .of_same orderly inStep (write_handles store handle data)

theorem read_keeps (orderly : store.Orderly)
    (inStep : file.InStep store) (handle : Handle) (buffer : Bytes) :
    Keeps file store file (store.read handle buffer).state :=
  .of_same orderly inStep (read_handles store handle buffer)

/-- A bound handle can be closed. -/
theorem close_bound (orderly : store.Orderly)
    (inStep : file.InStep store) {handle : Handle}
    (bound : file.binding = .bound handle) :
    (store.close handle).answer = .ok () ∧
      Keeps file store file.release (store.close handle).state := by
  have isOpen := inStep.bound bound
  rcases close_open orderly.alive isOpen with ⟨answered, given⟩
  refine ⟨answered, ?_, ?_, .of_givesBack orderly isOpen given, ?_⟩
  · rw [TrackedFile.release_of_bound bound]
  · rw [TrackedFile.release_of_bound bound]
  · refine .of_release bound ?_ ?_
    · rw [given.nameOf?_eq, if_pos rfl]
    · rw [given.nextHandle_eq]
      exact orderly.issued isOpen

/-- A released handle cannot be closed, and nothing happens. -/
theorem close_released (orderly : store.Orderly)
    (inStep : file.InStep store) {handle : Handle}
    (released : file.binding = .released handle) :
    store.close handle = store.refuse (.badHandle handle) :=
  close_missing orderly.alive (inStep.released released)

end

/-! ## Visits -/

/-- A visit of a file in step ends and keeps the file in step. -/
def KeepsInStep (visit : TrackedFile → Procedure Visit) : Prop :=
  ∀ {file : TrackedFile} {store : Store}, store.Orderly →
    file.InStep store →
      (visit file).Yields Store.subsystem store fun made later =>
        Keeps file store made.file later

namespace Bulk

theorem close_keepsInStep (expectation : Expectation) :
    KeepsInStep (close expectation) := by
  intro file store orderly inStep
  unfold close
  split
  · rename_i handle bound
    rcases close_bound orderly inStep bound with ⟨answered, keeps⟩
    apply Procedure.yields_one_call
    show Keeps file store
      (if (store.close handle).answer.isOk then file.release else file)
      (store.close handle).state
    rw [answered]
    exact keeps
  · rename_i handle released
    have same := close_released orderly inStep released
    apply Procedure.yields_one_call
    show Keeps file store file (store.close handle).state
    rw [same]
    exact .of_same orderly inStep (.refl store)
  · exact Procedure.yields_pure (.of_same orderly inStep (.refl store))

theorem visit_keepsInStep (call : BulkCall) (expectation : Expectation) :
    KeepsInStep (visit call expectation) := by
  intro file store orderly inStep
  cases call with
  | create =>
      exact Procedure.yields_one_call (create_keeps orderly inStep)
  | openFile =>
      exact Procedure.yields_one_call (openFile_keeps orderly inStep)
  | close => exact close_keepsInStep expectation orderly inStep
  | delete =>
      exact Procedure.yields_one_call
        (delete_keeps orderly inStep file.path)

end Bulk

namespace RoundTrip

variable {file : TrackedFile} {store : Store}

theorem readBack_keeps (orderly : store.Orderly)
    (inStep : file.InStep store) (expected : Bytes) (handle : Handle) :
    (readBack expected file handle).Yields Store.subsystem store
      fun made later => Keeps file store made.file later := by
  have keeps := read_keeps orderly inStep handle
    (Bytes.zeros expected.length)
  apply Procedure.yields_bind
  apply Procedure.yields_request
  split
  · exact Procedure.yields_pure keeps
  · rename_i count counted
    have fits := count_read_le counted
    rw [Bytes.length_zeros] at fits
    rw [if_pos fits]
    exact Procedure.yields_pure keeps

theorem reopen_keeps (orderly : store.Orderly)
    (inStep : file.InStep store) (expected : Bytes) :
    (reopen expected file).Yields Store.subsystem store
      fun made later => Keeps file store made.file later := by
  have opened := openFile_keeps orderly inStep
  apply Procedure.yields_bind
  apply Procedure.yields_request
  split
  · rename_i reason answered
    replace answered : (store.openFile file.path).answer =
      .error reason := answered
    rw [answered] at opened
    exact Procedure.yields_pure opened
  · rename_i handle answered
    replace answered : (store.openFile file.path).answer =
      .ok handle := answered
    rw [answered] at opened
    apply (readBack_keeps opened.confined.orderly opened.inStep
      expected handle).mono
    intro made later keeps
    exact opened.trans keeps

/-- Wherever a round trip stops, its file is in step. -/
theorem visit_keepsInStep (expected : TrackedFile → Bytes) :
    KeepsInStep fun file => visit (expected file) file := by
  intro file store orderly inStep
  dsimp only [visit]
  split
  · exact Procedure.yields_pure (.of_same orderly inStep (.refl store))
  · rename_i handle live
    have bound := Binding.eq_bound_of_live? live
    have written := write_keeps orderly inStep handle (expected file)
    apply Procedure.yields_bind
    apply Procedure.yields_request
    split
    · exact Procedure.yields_pure written
    · split
      · rcases close_bound written.confined.orderly written.inStep bound
          with ⟨answered, closed⟩
        apply Procedure.yields_bind
        apply Procedure.yields_request
        split
        · rename_i reason refused
          cases answered.symm.trans refused
        · apply (reopen_keeps closed.confined.orderly closed.inStep
            (expected file)).mono
          intro made later keeps
          exact written.trans (closed.trans keeps)
      · exact Procedure.yields_pure written

end RoundTrip

end FileConformance
