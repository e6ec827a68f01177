import FileConformance.Proofs.Scenario.Standing
import FileConformance.Proofs.Scenario.Steadfast

/-!
# What a visit of a bulk step comes to

A visit makes one call for one test file.  For each call this module says when
the check of the visit passes on a running store, and how the file stands and
what has become of the store if it does.
-/

namespace FileConformance

open Store

/-! ## Checks -/

namespace Check

variable {Value : Type} {operation : Operation} {target : String}
  {handle : Option Handle} {answer : Except CallError Value}

/-- A call that is expected to succeed passes if it succeeds. -/
theorem isFailure_ofAnswer_success :
    (ofAnswer operation target .success handle answer).isFailure =
      !answer.isOk := by
  cases answer <;> rfl

/-- A call that is expected to fail passes if it fails. -/
theorem isFailure_ofAnswer_failure :
    (ofAnswer operation target .failure handle answer).isFailure =
      answer.isOk := by
  cases answer <;> rfl

end Check

/-- A check passes under a condition, and what follows if it does. -/
structure Judged (check : Check) (condition : Prop) (result : Prop) :
    Prop where
  passes_iff : check.isFailure = false ↔ condition
  result : condition → result

namespace Judged

variable {Value : Type} {operation : Operation} {target : String}
  {handle : Option Handle} {answer : Except CallError Value}
  {condition result : Prop}

theorem of_success (met : condition → answer.isOk = true ∧ result)
    (unmet : ¬condition → answer.isOk = false) :
    Judged (.ofAnswer operation target .success handle answer)
      condition result := by
  constructor
  · rw [Check.isFailure_ofAnswer_success]
    constructor
    · intro passed
      by_contra missed
      rw [unmet missed] at passed
      cases passed
    · intro holds
      rw [(met holds).1]
      rfl
  · intro holds
    exact (met holds).2

/-- A call that must be refused passes unless it is admitted. -/
theorem of_refusal (met : condition → answer.isOk = false ∧ result)
    (unmet : ¬condition → answer.isOk = true) :
    Judged (.ofAnswer operation target .failure handle answer)
      condition result := by
  constructor
  · rw [Check.isFailure_ofAnswer_failure]
    constructor
    · intro passed
      by_contra missed
      rw [unmet missed] at passed
      cases passed
    · intro holds
      exact (met holds).1
  · intro holds
    exact (met holds).2

theorem of_failure (refused : answer.isOk = false) (holds : result) :
    Judged (.ofAnswer operation target .failure handle answer)
      True result := by
  apply of_refusal
  · intro _
    exact ⟨refused, holds⟩
  · intro impossible
    exact (impossible trivial).elim

/-- A detail does not change a verdict. -/
theorem withDetail {check : Check} (judged : Judged check condition result)
    (detail : String) :
    Judged (check.withDetail detail) condition result where
  passes_iff := judged.passes_iff
  result := judged.result

/-- What is known anyway is no condition. -/
theorem of_known {check : Check} (judged : Judged check condition result)
    (known : condition) : Judged check True result where
  passes_iff := judged.passes_iff.trans (iff_true_intro known)
  result := fun _ => judged.result known

theorem mono {check : Check} {weaker : Prop}
    (judged : Judged check condition result)
    (follows : condition → result → weaker) :
    Judged check condition weaker where
  passes_iff := judged.passes_iff
  result := fun holds => follows holds (judged.result holds)

end Judged

/-- A visit keeps to its file: everything else is left alone. -/
structure Carried (rules : StoreSettings) (file : TrackedFile)
    (store : Store) (visit : Visit) (later : Store) : Prop
    extends Follows rules [file.path] store later where
  index_eq : visit.file.index = file.index
  name_eq : visit.file.name = file.name

namespace Bulk

variable {rules : StoreSettings} {store : Store}

/-! ## Creating and opening -/

/-- A file is bound to the handle that was opened under its name. -/
theorem rebind_of_opens {file : TrackedFile} {number : Nat}
    {reply : Reply Store (Except CallError Handle)}
    (opens : Opens rules file.path store number reply) :
    file.rebind reply.answer = file.bind ⟨store.nextHandle⟩ := by
  rw [opens.answer_eq]
  rfl

/-- A file is blank if it was opened and there is nothing in it. -/
theorem blank_of_opens {file : TrackedFile} {number : Nat}
    {reply : Reply Store (Except CallError Handle)}
    (opens : Opens rules file.path store number reply)
    (empty : reply.state.live number = []) :
    (file.rebind reply.answer).Blank reply.state := by
  rw [rebind_of_opens opens]
  exact ⟨⟨store.nextHandle⟩, number, rfl, opens.found, opens.named, empty⟩

theorem carried_of_opens {file : TrackedFile} {number : Nat}
    {reply : Reply Store (Except CallError Handle)}
    (opens : Opens rules file.path store number reply) (check : Check) :
    Carried rules file store ⟨check, file.rebind reply.answer⟩
      reply.state := by
  rw [rebind_of_opens opens]
  exact ⟨opens.toFollows, rfl, rfl⟩

theorem create_yields (running : Running rules store)
    (file : TrackedFile) :
    (create .success file).Yields Store.subsystem store
      fun visit later =>
        Judged visit.check
          (rules.Accepts file.path ∧ rules.HasRoom store.handles.size)
          (Carried rules file store visit later ∧
            later.handles.size = store.handles.size + 1 ∧
            visit.file.Blank later ∧
            (store.usedBytes = 0 → later.usedBytes = 0)) := by
  apply Procedure.yields_one_call
  apply Judged.of_success
  · rintro ⟨accepted, room⟩
    rcases running.create_opens accepted room with
      ⟨number, opens, empty, unused⟩
    exact ⟨opens.isOk, carried_of_opens opens _, opens.size_eq,
      blank_of_opens opens empty, unused⟩
  · intro refused
    rcases running.create_refused refused with ⟨reason, same⟩
    show (store.create file.path).answer.isOk = false
    rw [same]
    rfl

theorem openFile_yields (running : Running rules store)
    {file : TrackedFile} (named : file.Named store) :
    (openFile .success file).Yields Store.subsystem store
      fun visit later =>
        Judged visit.check
          (rules.Accepts file.path ∧ rules.HasRoom store.handles.size)
          (Carried rules file store visit later ∧
            later.handles.size = store.handles.size + 1 ∧
            visit.file.Named later ∧ visit.file.Holding later) := by
  rcases named with ⟨number, named⟩
  apply Procedure.yields_one_call
  apply Judged.of_success
  · rintro ⟨accepted, room⟩
    have opens := (running.openFile_opens accepted named room).1
    have attached : (file.rebind
        (store.openFile file.path).answer).Attached
        (store.openFile file.path).state := by
      rw [rebind_of_opens opens]
      exact ⟨⟨store.nextHandle⟩, ⟨number, file.path, 0⟩, rfl,
        opens.found, rfl, opens.named⟩
    exact ⟨opens.isOk, carried_of_opens opens _, opens.size_eq,
      attached.named, attached.holding⟩
  · intro refused
    have inadmissible : ∀ other, ¬(rules.Accepts file.path ∧
        store.names[file.path]? = some other ∧
          rules.HasRoom store.handles.size) := by
      rintro other ⟨accepted, _, room⟩
      exact refused ⟨accepted, room⟩
    rcases running.openFile_refused inadmissible with ⟨reason, same⟩
    show (store.openFile file.path).answer.isOk = false
    rw [same]
    rfl

/-- A file without its name cannot be opened, and nothing happens. -/
theorem openFile_yields_unnamed (running : Running rules store)
    {file : TrackedFile} (unnamed : file.Unnamed store) :
    (openFile .failure file).Yields Store.subsystem store
      fun visit later =>
        Judged visit.check True (later = store ∧ visit.file = file) := by
  have inadmissible : ∀ other, ¬(rules.Accepts file.path ∧
      store.names[file.path]? = some other ∧
        rules.HasRoom store.handles.size) := by
    rintro other ⟨_, named, _⟩
    rw [unnamed] at named
    cases named
  rcases running.openFile_refused inadmissible with ⟨reason, same⟩
  apply Procedure.yields_one_call
  show Judged (.ofAnswer .openFile file.name .failure
    (store.openFile file.path).answer.toOption
    (store.openFile file.path).answer) True
      ((store.openFile file.path).state = store ∧
        file.rebind (store.openFile file.path).answer = file)
  rw [same]
  exact Judged.of_failure rfl ⟨rfl, rfl⟩

/-! ## Closing -/

theorem close_yields (running : Running rules store)
    {file : TrackedFile} (holding : file.Holding store) :
    (close .success file).Yields Store.subsystem store
      fun visit later =>
        Judged visit.check True
          (Carried rules file store visit later ∧
            later.handles.size + 1 = store.handles.size ∧
            later.names = store.names ∧ visit.file.Released later) := by
  rcases holding with ⟨handle, opened, bound, found, under⟩
  have closes := running.close_closes found
  have released : (if (store.close handle).answer.isOk then file.release
      else file) = { file with binding := .released handle } := by
    rw [if_pos closes.isOk, TrackedFile.release, bound]
  have kept : Follows rules [file.path] store
      (store.close handle).state := by
    rw [← under]
    exact closes.toFollows
  rw [close, bound]
  apply Procedure.yields_one_call
  apply Judged.of_success
  · intro _
    refine ⟨closes.isOk, ?_, closes.size_eq, closes.names_kept, ?_⟩
    · show Carried rules file store
        ⟨_, if (store.close handle).answer.isOk then file.release
          else file⟩ (store.close handle).state
      rw [released]
      exact ⟨kept, rfl, rfl⟩
    · show (if (store.close handle).answer.isOk then file.release
        else file).Released (store.close handle).state
      rw [released]
      exact ⟨handle, rfl, closes.gone, closes.number_issued⟩
  · intro impossible
    exact (impossible trivial).elim

/-- A second close is refused, and nothing happens. -/
theorem close_yields_released (running : Running rules store)
    (expectation : Expectation) {file : TrackedFile}
    (released : file.Released store) :
    (close expectation file).Yields Store.subsystem store
      fun visit later =>
        Judged visit.check True (later = store ∧ visit.file = file) := by
  rcases released with ⟨handle, bound, missing, _⟩
  rcases running.close_refused missing with ⟨reason, same⟩
  rw [close, bound]
  apply Procedure.yields_one_call
  apply Judged.withDetail
  show Judged (.ofAnswer .close file.name .failure (some handle)
    (store.close handle).answer) True
      ((store.close handle).state = store ∧ file = file)
  rw [same]
  exact Judged.of_failure rfl ⟨rfl, rfl⟩

/-! ## Deleting -/

theorem delete_yields (running : Running rules store)
    {file : TrackedFile} {number : Nat}
    (accepted : rules.Accepts file.path)
    (named : store.names[file.path]? = some number) :
    (delete .success file).Yields Store.subsystem store
      fun visit later =>
        Judged visit.check
          (rules.deleteOpen = .reject → store.handlesOn number = 0)
          (Carried rules file store visit later ∧ visit.file = file ∧
            later.handles = store.handles ∧
            later.nextHandle = store.nextHandle ∧
            file.Unnamed later) := by
  apply Procedure.yields_one_call
  apply Judged.of_success
  · intro idle
    have deletes := running.delete_deletes accepted named idle
    exact ⟨deletes.isOk, ⟨deletes.toFollows, rfl, rfl⟩, rfl,
      deletes.handles_eq, deletes.nextHandle_eq, deletes.unnamed⟩
  · intro busy
    have inadmissible : ∀ other, ¬(rules.Accepts file.path ∧
        store.names[file.path]? = some other ∧
          (rules.deleteOpen = .reject →
            store.handlesOn other = 0)) := by
      rintro other ⟨_, otherNamed, idle⟩
      rw [named] at otherNamed
      cases otherNamed
      exact busy idle
    rcases running.delete_refused inadmissible with ⟨reason, same⟩
    show (store.delete file.path).answer.isOk = false
    rw [same]
    rfl

/-! ## All visits -/

/-- A bulk visit makes one call at most, and never gives up. -/
theorem visit_total (call : BulkCall) (expectation : Expectation)
    (file : TrackedFile) (store : Store) :
    (visit call expectation file).Yields Store.subsystem store
      fun _ _ => True :=
  (visit_steadfast call expectation file).yields Store.honest store

end Bulk

end FileConformance
