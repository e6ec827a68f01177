import FileConformance.Proofs.Procedure.Ensures
import FileConformance.Scenario
import Mathlib.Data.List.Forall2

/-!
# What steps keep to

A step makes calls and reports nothing itself; what is reported is reported when
its checks are recorded.  Whatever is answered, a visit takes no name but that
of its file, a probe none but the two on either side of the limit, and no step
ends the process.  The names of the files never change.
-/

namespace FileConformance

open Procedure

/-- A call that takes no name but these, and does not end the process. -/
structure Call.Within (names : List Bytes) (request : Call) : Prop where
  returns : request.kind ≠ .exit
  name_mem : ∀ name, request.name? = some name → name ∈ names

namespace Call

variable {names : List Bytes} {request : Call}

theorem Within.mono (within : request.Within names) {more : List Bytes}
    (subset : names ⊆ more) : request.Within more where
  returns := within.returns
  name_mem := fun name taken => subset (within.name_mem name taken)

theorem within_of_name {name : Bytes} (taken : request.name? = some name)
    (member : name ∈ names) : request.Within names where
  returns := by
    cases request <;> simp_all [name?, kind]
  name_mem := by
    intro other same
    rw [taken, Option.some.injEq] at same
    exact same ▸ member

theorem within_close (handle : Handle) : (close handle).Within names where
  returns := nofun
  name_mem := nofun

theorem within_read (handle : Handle) (buffer : Bytes) :
    (read handle buffer).Within names where
  returns := nofun
  name_mem := nofun

theorem within_write (handle : Handle) (data : Bytes) :
    (write handle data).Within names where
  returns := nofun
  name_mem := nofun

end Call

namespace Procedure

/-- A procedure reports nothing itself and takes no names but these. -/
def KeepsTo {Result : Type} (names : List Bytes)
    (described : Result → Prop) (procedure : Procedure Result) : Prop :=
  procedure.Ensures fun exchanges events result =>
    (∀ exchange ∈ exchanges, exchange.call.Within names) ∧
      events = [] ∧ described result

variable {Result Next : Type} {names : List Bytes}

theorem keepsTo_pure {result : Result} {described : Result → Prop}
    (holds : described result) :
    (pure result : Procedure Result).KeepsTo names described :=
  ensures_pure ⟨List.forall_mem_nil _, rfl, holds⟩

theorem keepsTo_abort {reason : Abort} {described : Result → Prop} :
    (Procedure.abort reason).KeepsTo names described :=
  trivial

theorem keepsTo_request_bind {request : Call}
    {continuation : request.Answer → Procedure Next}
    {described : Next → Prop} (within : request.Within names)
    (rest : ∀ answer, (continuation answer).KeepsTo names described) :
    (Procedure.request request >>= continuation).KeepsTo names
      described := by
  refine ensures_request_bind fun answer => ?_
  refine (rest answer).mono ?_
  rintro exchanges events result ⟨others, silent, holds⟩
  exact ⟨List.forall_mem_cons.mpr ⟨within, others⟩, silent, holds⟩

theorem keepsTo_bind {procedure : Procedure Result}
    {continuation : Result → Procedure Next}
    {described : Next → Prop}
    (keeps : procedure.KeepsTo names fun result =>
      (continuation result).KeepsTo names described) :
    (procedure >>= continuation).KeepsTo names described := by
  refine ensures_bind (keeps.mono ?_)
  rintro exchanges events result ⟨first, silent, rest⟩
  refine rest.mono ?_
  rintro others later next ⟨second, silentToo, holds⟩
  refine ⟨?_, ?_, holds⟩
  · exact List.forall_mem_append.mpr ⟨first, second⟩
  · rw [silent, silentToo, List.append_nil]

theorem KeepsTo.mono {procedure : Procedure Result}
    {described weaker : Result → Prop} {more : List Bytes}
    (keeps : procedure.KeepsTo names described) (subset : names ⊆ more)
    (follows : ∀ result, described result → weaker result) :
    procedure.KeepsTo more weaker := by
  refine Ensures.mono keeps ?_
  rintro exchanges events result ⟨within, silent, holds⟩
  exact ⟨fun exchange member => (within exchange member).mono subset,
    silent, follows result holds⟩

end Procedure

/-! ## Visits -/

/-- A visit leaves a file its index and its name. -/
structure TrackedFile.Same (file moved : TrackedFile) : Prop where
  index_eq : moved.index = file.index
  name_eq : moved.name = file.name

namespace TrackedFile

variable {file : TrackedFile}

theorem Same.path_eq {moved : TrackedFile} (same : file.Same moved) :
    moved.path = file.path := by
  rw [path, path, same.name_eq]

theorem Same.refl (file : TrackedFile) : file.Same file := ⟨rfl, rfl⟩

theorem same_bind (file : TrackedFile) (handle : Handle) :
    file.Same (file.bind handle) := ⟨rfl, rfl⟩

theorem same_rebind (file : TrackedFile)
    (answer : Except CallError Handle) : file.Same (file.rebind answer) := by
  cases answer with
  | error reason => exact .refl file
  | ok handle => exact same_bind file handle

theorem same_release (file : TrackedFile) : file.Same file.release := by
  unfold release
  split
  · exact ⟨rfl, rfl⟩
  · exact .refl file

end TrackedFile

/-- A visit keeps to the name of its file, and leaves it its name. -/
def KeepsToFile (visit : TrackedFile → Procedure Visit) : Prop :=
  ∀ file, (visit file).KeepsTo [file.path] fun made =>
    file.Same made.file

namespace Bulk

/-- A close takes no name at all. -/
theorem close_keepsTo (expectation : Expectation) {names : List Bytes}
    (file : TrackedFile) :
    (close expectation file).KeepsTo names fun made =>
      file.Same made.file := by
  unfold close
  split
  · refine keepsTo_request_bind (Call.within_close _) fun answer => ?_
    refine keepsTo_pure ?_
    dsimp only
    split
    · exact file.same_release
    · exact .refl file
  · refine keepsTo_request_bind (Call.within_close _) fun answer => ?_
    exact keepsTo_pure (.refl file)
  · exact keepsTo_pure (.refl file)

theorem visit_keepsToFile (call : BulkCall) (expectation : Expectation) :
    KeepsToFile (visit call expectation) := by
  intro file
  have member := List.mem_singleton_self file.path
  cases call with
  | create =>
      exact keepsTo_request_bind (Call.within_of_name rfl member)
        fun answer => keepsTo_pure (file.same_rebind answer)
  | openFile =>
      exact keepsTo_request_bind (Call.within_of_name rfl member)
        fun answer => keepsTo_pure (file.same_rebind answer)
  | close => exact close_keepsTo expectation file
  | delete =>
      exact keepsTo_request_bind (Call.within_of_name rfl member)
        fun _ => keepsTo_pure (.refl file)

end Bulk

namespace RoundTrip

variable {names : List Bytes} {expected : Bytes}
  {start file : TrackedFile}

theorem readBack_keepsTo (handle : Handle) (same : start.Same file) :
    (readBack expected file handle).KeepsTo names fun made =>
      start.Same made.file := by
  refine keepsTo_request_bind (Call.within_read _ _) fun received => ?_
  split
  · exact keepsTo_pure same
  · split
    · exact keepsTo_pure same
    · exact keepsTo_abort

theorem reopen_keepsTo (same : start.Same file)
    (member : file.path ∈ names) :
    (reopen expected file).KeepsTo names fun made =>
      start.Same made.file := by
  refine keepsTo_request_bind (Call.within_of_name rfl member)
    fun answer => ?_
  split
  · exact keepsTo_pure same
  · exact readBack_keepsTo _ ⟨same.index_eq, same.name_eq⟩

theorem closeWritten_keepsTo (handle : Handle) (same : start.Same file)
    (member : file.path ∈ names) :
    (closeWritten expected file handle).KeepsTo names fun made =>
      start.Same made.file := by
  refine keepsTo_request_bind (Call.within_close _) fun answer => ?_
  have released := file.same_release
  split
  · exact keepsTo_pure same
  · refine reopen_keepsTo ⟨?_, ?_⟩ ?_
    · rw [released.index_eq, same.index_eq]
    · rw [released.name_eq, same.name_eq]
    · rw [released.path_eq]
      exact member

theorem visit_keepsToFile (expected : TrackedFile → Bytes) :
    KeepsToFile fun file => visit (expected file) file := by
  intro file
  have member := List.mem_singleton_self file.path
  dsimp only
  unfold visit
  split
  · exact keepsTo_pure (.refl file)
  · refine keepsTo_request_bind (Call.within_write _ _) fun answer => ?_
    split
    · exact keepsTo_pure (.refl file)
    · split
      · exact closeWritten_keepsTo _ (.refl file) member
      · exact keepsTo_pure (.refl file)

end RoundTrip

/-! ## Steps -/

/-- The names of the files of a table. -/
def Table.paths (table : Table) : List Bytes :=
  table.files.map TrackedFile.path

/-- The names on either side of a limit. -/
def NameLimit.probed (limit : NameLimit) : List Bytes :=
  [limit.longestAccepted, limit.shortestRejected]

namespace Walk

variable {visit : TrackedFile → Procedure Visit}

theorem files_keepsTo {names : List Bytes} {tracked : List TrackedFile}
    (keeps : ∀ file ∈ tracked, (visit file).KeepsTo names fun made =>
      file.Same made.file) :
    (files visit tracked).KeepsTo names
      fun made => List.Forall₂ TrackedFile.Same tracked
        (made.map Visit.file) := by
  induction tracked with
  | nil => exact keepsTo_pure .nil
  | cons file rest ih =>
      rw [List.forall_mem_cons] at keeps
      rw [files_cons]
      refine keepsTo_bind (keeps.1.mono (List.Subset.refl _) ?_)
      intro first same
      refine keepsTo_bind ((ih keeps.2).mono (List.Subset.refl _) ?_)
      exact fun others rest => keepsTo_pure (.cons same rest)

theorem table_keepsTo {names : List Bytes} {tracked : Table}
    (keeps : ∀ file ∈ tracked.files, (visit file).KeepsTo names
      fun made => file.Same made.file) :
    (Walk.table visit tracked).KeepsTo names fun result =>
      List.Forall₂ TrackedFile.Same tracked.files result.2.files :=
  keepsTo_bind ((files_keepsTo keeps).mono (List.Subset.refl _)
    fun _ same => keepsTo_pure same)

/-- A walk keeps to the names of its files if every visit does. -/
theorem table_keepsToPaths (keeps : KeepsToFile visit) (tracked : Table) :
    (Walk.table visit tracked).KeepsTo tracked.paths fun result =>
      List.Forall₂ TrackedFile.Same tracked.files result.2.files := by
  refine table_keepsTo fun file member => (keeps file).mono ?_ ?_
  · rintro _ named
    rw [List.mem_singleton.mp named]
    exact List.mem_map_of_mem member
  · exact fun _ same => same

end Walk

theorem Boundary.probe_keepsTo {names : List Bytes} (call : BoundaryCall)
    {name : Bytes} (member : name ∈ names) (expectation : Expectation) :
    (probe call name expectation).KeepsTo names fun _ => True := by
  cases call with
  | create =>
      exact keepsTo_request_bind (Call.within_of_name rfl member)
        fun _ => keepsTo_pure trivial
  | openFile =>
      exact keepsTo_request_bind (Call.within_of_name rfl member)
        fun _ => keepsTo_pure trivial
  | delete =>
      exact keepsTo_request_bind (Call.within_of_name rfl member)
        fun _ => keepsTo_pure trivial

/-- A step keeps to the names of the table and those that are probed. -/
theorem Step.perform_keepsTo (limit : NameLimit) (step : Step)
    (table : Table) :
    (step.perform limit table).KeepsTo (table.paths ++ limit.probed)
      fun result =>
        List.Forall₂ TrackedFile.Same table.files result.2.files := by
  cases step with
  | bulk call expectation =>
      exact (Walk.table_keepsToPaths
        (Bulk.visit_keepsToFile call expectation) table).mono
          (List.subset_append_left _ _) fun _ same => same
  | roundTrip =>
      exact (Walk.table_keepsToPaths
        (RoundTrip.visit_keepsToFile fun file => table.expected file.index)
        table).mono (List.subset_append_left _ _) fun _ same => same
  | boundary call =>
      have unmoved :
          List.Forall₂ TrackedFile.Same table.files table.files :=
        List.forall₂_same.mpr fun file _ => .refl file
      have accepted : limit.longestAccepted ∈ table.paths ++ limit.probed :=
        List.mem_append_right _ List.mem_cons_self
      have rejected : limit.shortestRejected ∈
          table.paths ++ limit.probed :=
        List.mem_append_right _
          (List.mem_cons_of_mem _ (List.mem_singleton_self _))
      refine keepsTo_bind (keepsTo_bind ?_)
      refine (Boundary.probe_keepsTo call accepted _).mono
        (List.Subset.refl _) fun first _ => keepsTo_bind ?_
      refine (Boundary.probe_keepsTo call rejected _).mono
        (List.Subset.refl _) fun second _ => ?_
      exact keepsTo_pure (keepsTo_pure unmoved)

end FileConformance
