import FileConformance.Proofs.Store.Bystanders

/-!
# Flushing files

Flushing a file moves its waiting operations from the queue into its durable
content.  Nobody who reads can tell: every file holds what it held, and the
operations on the other files wait as before.

After several files were flushed, a file is durable as it is held if it is among
them, and as durable as it was if not.  Neither the order in which they were
flushed nor how often each of them was leaves a trace, so the two stores are the
same.
-/

namespace FileConformance

namespace Store

variable {store : Store} {file : Nat}

/-! ## One file -/

theorem mem_files_flush (store : Store) (file other : Nat) :
    other ∈ (store.flush file).files ↔ other ∈ store.files := by
  rw [flush, Std.ExtTreeMap.mem_modify]

/-- Flushing a file that is there changes for no file what it holds. -/
theorem live_flush_of_present (present : file ∈ store.files)
    (other : Nat) : (store.flush file).live other = store.live other := by
  by_cases same : file = other
  · exact live_flush (same ▸ present)
  · exact (Undisturbed.flush store same).live_eq

/-! ## Several files -/

/-- Flush files, one after the other. -/
def flushAll (store : Store) (files : List Nat) : Store :=
  files.foldl flush store

theorem flushAll_cons (store : Store) (file : Nat) (rest : List Nat) :
    store.flushAll (file :: rest) = (store.flush file).flushAll rest := rfl

/-- Flushing touches the files and the queue only. -/
theorem flushAll_eq (store : Store) (files : List Nat) :
    store.flushAll files =
      { store with
        files := (store.flushAll files).files
        pending := (store.flushAll files).pending } := by
  induction files generalizing store with
  | nil => rfl
  | cons file rest ih =>
      rw [flushAll_cons]
      exact ih (store.flush file)

/-- What waits afterwards is what waited on other files. -/
theorem pending_flushAll (store : Store) (files : List Nat) :
    (store.flushAll files).pending =
      store.pending.filter fun operation => operation.file ∉ files := by
  induction files generalizing store with
  | nil => exact (List.filter_eq_self.mpr (by simp)).symm
  | cons file rest ih =>
      rw [flushAll_cons, ih]
      simp only [flush, Pending.onOthers, List.filter_filter,
        List.mem_cons, not_or, Bool.decide_and]
      congr 1
      funext operation
      exact Bool.and_comm _ _

/-- Each of the flushed files keeps what it holds, and all of it is durable. -/
theorem getElem?_files_flushAll (store : Store) (files : List Nat)
    (other : Nat) :
    (store.flushAll files).files[other]? =
      if other ∈ files then
        (store.files[other]?).map fun stored =>
          { stored with durable := store.live other }
      else store.files[other]? := by
  induction files generalizing store with
  | nil => rfl
  | cons file rest ih =>
      rw [flushAll_cons, ih, getElem?_files_flush]
      by_cases same : file = other
      · subst same
        -- The file may be among the rest as well: a second time it finds what
        -- it holds durable already.
        cases found : store.files[file]? with
        | none => simp
        | some stored =>
            have kept : (store.flush file).live file = store.live file :=
              live_flush (mem_files_iff.mpr ⟨stored, found⟩)
            simp [kept]
      · have kept := (Undisturbed.flush store same).live_eq
        simp [same, Ne.symm same, kept]

/-- Neither the order nor repetition matters. -/
theorem flushAll_congr {first second : List Nat}
    (same : ∀ file, file ∈ first ↔ file ∈ second) :
    store.flushAll first = store.flushAll second := by
  have files : (store.flushAll first).files =
      (store.flushAll second).files := by
    apply Std.ExtTreeMap.ext_getElem?
    intro other
    rw [getElem?_files_flushAll, getElem?_files_flushAll]
    simp only [same]
  have pending : (store.flushAll first).pending =
      (store.flushAll second).pending := by
    rw [pending_flushAll, pending_flushAll]
    simp only [same]
  rw [flushAll_eq store first, flushAll_eq store second, files, pending]

theorem live_flushAll {files : List Nat}
    (present : ∀ file ∈ files, file ∈ store.files) (other : Nat) :
    (store.flushAll files).live other = store.live other := by
  induction files generalizing store with
  | nil => rfl
  | cons file rest ih =>
      rw [List.forall_mem_cons] at present
      rw [flushAll_cons, ih, live_flush_of_present present.1]
      intro later member
      exact (mem_files_flush store file later).mpr
        (present.2 later member)

theorem durable_flushAll {files : List Nat}
    (present : ∀ file ∈ files, file ∈ store.files) (other : Nat) :
    (store.flushAll files).durable other =
      if other ∈ files then store.live other else store.durable other := by
  rw [durable, getElem?_files_flushAll]
  split
  · rename_i flushed
    rcases mem_files_iff.mp (present other flushed) with ⟨stored, found⟩
    rw [found]
    rfl
  · rfl

/--
Flushing a file that is there leaves what every file holds as it is.  Nothing
waits on the file any more, all of it is durable, and what waits on others is
kept in its order.  Files that are flushed in another order, or more than once,
come out the same: each of them is durable as it is held.
-/
theorem flush_keeps_contents (present : file ∈ store.files) :
    (∀ other, (store.flush file).live other = store.live other) ∧
      (∀ operation ∈ (store.flush file).pending,
        operation.file ≠ file) ∧
      (store.flush file).pending =
        store.pending.filter (fun operation => operation.file ≠ file) ∧
      (store.flush file).durable file = store.live file ∧
      (∀ other, other ≠ file →
        (store.flush file).durable other = store.durable other) ∧
      ∀ first second : List Nat,
        (∀ flushed ∈ first, flushed ∈ store.files) →
        (∀ flushed, flushed ∈ first ↔ flushed ∈ second) →
          store.flushAll first = store.flushAll second ∧
            ∀ other,
              (store.flushAll first).live other = store.live other ∧
                (store.flushAll first).durable other =
                  if other ∈ first then store.live other
                  else store.durable other := by
  refine ⟨live_flush_of_present present, ?_, rfl,
    durable_flush_self present, ?_, ?_⟩
  · intro operation waiting
    exact (Pending.mem_onOthers.mp waiting).2
  · intro other different
    exact durable_flush_of_ne store different.symm
  · intro first second there same
    exact ⟨flushAll_congr same, fun other =>
      ⟨live_flushAll there other, durable_flushAll there other⟩⟩

/--
Writes to two files and a truncation wait in turns: the first file is flushed
alone, and both are flushed in either order.
-/
theorem flush_keeps_contents_in_turns :
    let store := (fresh {} (.ofSeed 0)).after
      [.call (.create [97]), .call (.create [98]),
        .call (.write ⟨2⟩ [1, 2]), .call (.write ⟨3⟩ [3]),
        .call (.create [97]), .call (.write ⟨3⟩ [4]),
        .call (.write ⟨2⟩ [5])]
    1 ∈ store.files ∧ 2 ∈ store.files ∧
      store.pending =
        [.write 1 0 [1, 2], .write 2 0 [3], .truncate 1, .write 2 1 [4],
          .write 1 2 [5]] ∧
      (store.flush 1).pending = [.write 2 0 [3], .write 2 1 [4]] ∧
      (store.flush 1).durable 1 = [0, 0, 5] ∧
      (store.flush 1).durable 2 = [] ∧
      (store.flush 1).live 2 = [3, 4] ∧
      store.flushAll [1, 2] = store.flushAll [2, 1, 2] ∧
      (store.flushAll [2, 1, 2]).durable 1 = [0, 0, 5] ∧
      (store.flushAll [2, 1, 2]).durable 2 = [3, 4] := by
  intro store
  have first : 1 ∈ store.files := by decide +kernel
  have second : 2 ∈ store.files := by decide +kernel
  have waiting : store.pending =
      [.write 1 0 [1, 2], .write 2 0 [3], .truncate 1, .write 2 1 [4],
        .write 1 2 [5]] := by decide +kernel
  have heldFirst : store.live 1 = [0, 0, 5] := by decide +kernel
  have heldSecond : store.live 2 = [3, 4] := by decide +kernel
  have durableSecond : store.durable 2 = [] := by decide +kernel
  rcases flush_keeps_contents first with
    ⟨live, _, pending, durable, others, order⟩
  have both : ∀ file : Nat, file ∈ [1, 2] ↔ file ∈ [2, 1, 2] := by
    intro file
    simp only [List.mem_cons, List.not_mem_nil, or_false]
    omega
  rcases order [1, 2] [2, 1, 2] (by simp [first, second]) both with
    ⟨same, all⟩
  refine ⟨first, second, waiting, ?_, ?_, ?_, ?_, same, ?_, ?_⟩
  · rw [pending, waiting]
    decide
  · rw [durable, heldFirst]
  · rw [others 2 (by decide), durableSecond]
  · rw [live, heldSecond]
  · rw [← same, (all 1).2, if_pos (by decide), heldFirst]
  · rw [← same, (all 2).2, if_pos (by decide), heldSecond]

end Store

end FileConformance
