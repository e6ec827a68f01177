import FileConformance.Store.Basic

/-!
# Replaying the queue

What a file holds is its durable content with the waiting operations on it
replayed.  Replaying is a fold, so the operations of a longer queue are
replayed one part after the other, and the operations on one file do not see
those on another.
-/

namespace FileConformance

namespace Pending

@[simp]
theorem applyAll_nil (content : Bytes) : applyAll [] content = content := rfl

theorem applyAll_append (earlier later : List Pending) (content : Bytes) :
    applyAll (earlier ++ later) content =
      applyAll later (applyAll earlier content) := by
  rw [applyAll, List.foldl_append]
  rfl

theorem onFile_append (file : Nat) (earlier later : List Pending) :
    onFile file (earlier ++ later) =
      onFile file earlier ++ onFile file later := by
  rw [onFile, List.filter_append]
  rfl

theorem onFile_singleton (file : Nat) (operation : Pending) :
    onFile file [operation] =
      if operation.file = file then [operation] else [] := by
  by_cases same : operation.file = file <;> simp [onFile, same]

theorem mem_onOthers {file : Nat} {operation : Pending}
    {operations : List Pending} :
    operation ∈ onOthers file operations ↔
      operation ∈ operations ∧ operation.file ≠ file := by
  simp [onOthers]

/-- A file without waiting operations has none to replay. -/
theorem onFile_eq_nil {file : Nat} {operations : List Pending}
    (none_on : ∀ operation ∈ operations, operation.file ≠ file) :
    onFile file operations = [] := by
  rw [onFile, List.filter_eq_nil_iff]
  intro operation member
  simpa using none_on operation member

/-- No operation on a file is left among those on the others. -/
@[simp]
theorem onFile_onOthers_self (file : Nat) (operations : List Pending) :
    onFile file (onOthers file operations) = [] :=
  onFile_eq_nil fun _ member => (mem_onOthers.mp member).2

/-- The operations on another file are all kept. -/
theorem onFile_onOthers {file other : Nat} (different : file ≠ other)
    (operations : List Pending) :
    onFile other (onOthers file operations) = onFile other operations := by
  rw [onFile, onOthers, List.filter_filter]
  congr 1
  funext operation
  by_cases same : operation.file = other
  · simp [same, Ne.symm different]
  · simp [same]

/-- Only a truncation makes a file shorter. -/
theorem length_le_applyAll {operations : List Pending}
    (growing : ∀ file, .truncate file ∉ operations) (content : Bytes) :
    content.length ≤ (applyAll operations content).length := by
  induction operations generalizing content with
  | nil => exact Nat.le_refl content.length
  | cons operation rest ih =>
      have first : content.length ≤ (operation.apply content).length := by
        cases operation with
        | write file offset data =>
            rw [apply, Bytes.length_overwrite]
            exact Nat.le_max_left _ _
        | truncate file => exact (growing file List.mem_cons_self).elim
      have later := ih
        (fun file member => growing file (List.mem_cons_of_mem _ member))
        (operation.apply content)
      exact Nat.le_trans first later

end Pending

end FileConformance
