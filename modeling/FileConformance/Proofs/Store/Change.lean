import FileConformance.Proofs.Store.Replay
import FileConformance.Store.Calls

/-!
# What changes do to a store

The calls of a store are put together from a few changes: flushing a file,
reclaiming it, opening, moving and surrendering a handle, queueing data and
unlinking a name.  For each change this module says which fields it leaves
alone, what is found in the table of files afterwards, and what the files hold.

No change but a truncation or a queued write alters what a file holds: flushing
moves bytes from the queue to the durable side, and reclaiming drops a file that
nothing leads to.
-/

namespace FileConformance

/-- The file, unless neither a name nor a handle leads to it. -/
def StoredFile.unlessOrphaned (stored : StoredFile) : Option StoredFile :=
  if !stored.linked && stored.openHandles == 0 then none else some stored

namespace Store

/-! ## What is found -/

theorem getElem?_modify (files : Std.ExtTreeMap Nat StoredFile compare)
    (file other : Nat) (change : StoredFile → StoredFile) :
    (files.modify file change)[other]? =
      if file = other then (files[other]?).map change
      else files[other]? := by
  rw [Std.ExtTreeMap.getElem?_modify]
  simp only [Std.LawfulEqOrd.compare_eq_iff_eq]
  split
  · rename_i same
    rw [same]
  · rfl

/-- What is found after a change of one file was found before. -/
theorem exists_of_getElem?_modify
    {files : Std.ExtTreeMap Nat StoredFile compare} {file other : Nat}
    {change : StoredFile → StoredFile} {later : StoredFile}
    (found : (files.modify file change)[other]? = some later) :
    ∃ stored, files[other]? = some stored ∧
      later = if file = other then change stored else stored := by
  rw [getElem?_modify] at found
  split at found
  · rename_i same
    rw [Option.map_eq_some_iff] at found
    rcases found with ⟨stored, before, rfl⟩
    exact ⟨stored, before, (if_pos same).symm⟩
  · rename_i different
    exact ⟨later, found, (if_neg different).symm⟩

theorem mem_files_iff {store : Store} {file : Nat} :
    file ∈ store.files ↔
      ∃ stored, store.files[file]? = some stored := by
  rw [Std.ExtTreeMap.mem_iff_isSome_getElem?, Option.isSome_iff_exists]

theorem durable_of_found {store : Store} {file : Nat} {stored : StoredFile}
    (found : store.files[file]? = some stored) :
    store.durable file = stored.durable := by
  simp [durable, found]

theorem durable_of_missing {store : Store} {file : Nat}
    (missing : store.files[file]? = none) :
    store.durable file = [] := by
  simp [durable, missing]

/-- Two stores that agree on a file and its operations agree on its content. -/
theorem live_congr {left right : Store} {file : Nat}
    (durable : left.durable file = right.durable file)
    (pending : Pending.onFile file left.pending =
      Pending.onFile file right.pending) :
    left.live file = right.live file := by
  rw [live, live, durable, pending]

/-- A file without waiting operations holds what is durable. -/
theorem live_of_settled {store : Store} {file : Nat}
    (settled : Pending.onFile file store.pending = []) :
    store.live file = store.durable file := by
  rw [live, settled, Pending.applyAll_nil]

/-! ## Flushing -/

/-- A flushed file keeps what it holds, and all of it is durable. -/
theorem getElem?_files_flush (store : Store) (file other : Nat) :
    (store.flush file).files[other]? =
      if file = other then
        (store.files[other]?).map fun stored =>
          { stored with durable := store.live other }
      else store.files[other]? := by
  simp only [flush, getElem?_modify]
  split
  · rename_i same
    subst same
    cases found : store.files[file]? with
    | none => rfl
    | some stored => simp [live, durable_of_found found]
  · rfl

theorem durable_flush_self {store : Store} {file : Nat}
    (present : file ∈ store.files) :
    (store.flush file).durable file = store.live file := by
  rcases mem_files_iff.mp present with ⟨stored, found⟩
  simp [durable, getElem?_files_flush, found]

theorem durable_flush_of_ne (store : Store) {file other : Nat}
    (different : file ≠ other) :
    (store.flush file).durable other = store.durable other := by
  simp [durable, getElem?_files_flush, different]

/-- Flushing never changes what is read. -/
theorem live_flush {store : Store} {file other : Nat}
    (present : other ∈ store.files) :
    (store.flush file).live other = store.live other := by
  by_cases same : file = other
  · subst same
    rw [← durable_flush_self present]
    exact live_of_settled (Pending.onFile_onOthers_self file store.pending)
  · exact live_congr (durable_flush_of_ne store same)
      (Pending.onFile_onOthers same store.pending)

/-! ## Reclaiming -/

/-- Reclaiming touches the files and the queue only. -/
theorem reclaim_eq (store : Store) (file : Nat) :
    store.reclaim file =
      { store with
        files := (store.reclaim file).files
        pending := (store.reclaim file).pending } := by
  unfold reclaim
  split
  · split <;> rfl
  · rfl

theorem getElem?_files_reclaim (store : Store) (file other : Nat) :
    (store.reclaim file).files[other]? =
      if file = other then
        (store.files[other]?).bind StoredFile.unlessOrphaned
      else store.files[other]? := by
  unfold reclaim
  split
  · rename_i stored found
    by_cases same : file = other
    · subst same
      by_cases orphaned :
          (!stored.linked && stored.openHandles == 0) = true
      · simp [orphaned, found, StoredFile.unlessOrphaned]
      · simp [orphaned, found, StoredFile.unlessOrphaned]
    · split
      · simp [Std.ExtTreeMap.getElem?_erase, same]
      · rfl
  · rename_i missing
    by_cases same : file = other
    · subst same
      simp [missing]
    · simp [same]

/-- Reclaiming one file leaves the operations on the others. -/
theorem onFile_pending_reclaim (store : Store) {file other : Nat}
    (different : file ≠ other) :
    Pending.onFile other (store.reclaim file).pending =
      Pending.onFile other store.pending := by
  unfold reclaim
  split
  · split
    · exact Pending.onFile_onOthers different store.pending
    · rfl
  · rfl

/-- If a file is still there after being reclaimed, nothing happened. -/
theorem reclaim_of_present {store : Store} {file : Nat}
    (present : file ∈ (store.reclaim file).files) :
    store.reclaim file = store := by
  unfold reclaim at present ⊢
  split
  · rename_i stored found
    rw [found] at present
    split
    · rename_i orphaned
      simp [orphaned] at present
    · rfl
  · rfl

theorem durable_reclaim {store : Store} {file other : Nat}
    (present : other ∈ (store.reclaim file).files) :
    (store.reclaim file).durable other = store.durable other := by
  by_cases same : file = other
  · subst same
    rw [reclaim_of_present present]
  · simp [durable, getElem?_files_reclaim, same]

/-- A file that is still there holds what it held. -/
theorem live_reclaim {store : Store} {file other : Nat}
    (present : other ∈ (store.reclaim file).files) :
    (store.reclaim file).live other = store.live other := by
  by_cases same : file = other
  · subst same
    rw [reclaim_of_present present]
  · exact live_congr (durable_reclaim present)
      (onFile_pending_reclaim store same)

/-! ## Opening and moving handles -/

theorem getElem?_files_openHandle (store : Store) (file : Nat)
    (name : Bytes) (other : Nat) :
    (store.openHandle file name).2.files[other]? =
      if file = other then
        (store.files[other]?).map fun stored =>
          { stored with openHandles := stored.openHandles + 1 }
      else store.files[other]? := by
  rw [openHandle, getElem?_modify]

theorem durable_openHandle (store : Store) (file : Nat) (name : Bytes)
    (other : Nat) :
    (store.openHandle file name).2.durable other =
      store.durable other := by
  simp only [durable, getElem?_files_openHandle]
  split
  · rw [Option.map_map]
    rfl
  · rfl

/-- Opening a handle on a file changes no content. -/
theorem live_openHandle (store : Store) (file : Nat) (name : Bytes)
    (other : Nat) :
    (store.openHandle file name).2.live other = store.live other :=
  live_congr (durable_openHandle store file name other) rfl

/-! ## Truncating and creating -/

theorem fileToCreate_of_named {store : Store} {name : Bytes} {file : Nat}
    (named : store.names[name]? = some file) :
    store.fileToCreate name =
      (file, { store with pending := store.pending ++ [.truncate file] }) := by
  simp [fileToCreate, named]

theorem fileToCreate_of_free {store : Store} {name : Bytes}
    (free : store.names[name]? = none) :
    store.fileToCreate name =
      (store.nextFile, {
        store with
        nextFile := store.nextFile + 1
        files := store.files.insert store.nextFile
          { durable := [], linked := true, openHandles := 0 }
        names := store.names.insert name store.nextFile
      }) := by
  simp [fileToCreate, free]

/-- The name to create denotes the file to create. -/
theorem names_fileToCreate_self (store : Store) (name : Bytes) :
    (store.fileToCreate name).2.names[name]? =
      some (store.fileToCreate name).1 := by
  cases named : store.names[name]? with
  | some file =>
      rw [fileToCreate_of_named named]
      exact named
  | none =>
      rw [fileToCreate_of_free named]
      exact Std.ExtTreeMap.getElem?_insert_self

/-- Creating changes neither the handles nor what is asked of them. -/
theorem fileToCreate_eq (store : Store) (name : Bytes) :
    (store.fileToCreate name).2 =
      { store with
        files := (store.fileToCreate name).2.files
        names := (store.fileToCreate name).2.names
        pending := (store.fileToCreate name).2.pending
        nextFile := (store.fileToCreate name).2.nextFile } := by
  cases named : store.names[name]? with
  | some file => rw [fileToCreate_of_named named]
  | none => rw [fileToCreate_of_free named]

/-- What is queued is replayed last. -/
theorem live_queue (store : Store) (operation : Pending) (other : Nat) :
    { store with pending := store.pending ++ [operation] }.live other =
      if operation.file = other then operation.apply (store.live other)
      else store.live other := by
  simp only [live, Pending.onFile_append, Pending.onFile_singleton,
    Pending.applyAll_append]
  split <;> rfl

/-! ## Queueing data -/

theorem append_eq (store : Store) (handle : Handle) (opened : StoreHandle)
    (data : Bytes) :
    store.append handle opened data =
      { store with
        pending := (store.append handle opened data).pending
        handles := store.handles.adjust handle fun opened =>
          { opened with position := opened.position + data.length } } := by
  unfold append
  split <;> rfl

theorem pending_append (store : Store) (handle : Handle)
    (opened : StoreHandle) (data : Bytes) :
    (store.append handle opened data).pending =
      if data = [] then store.pending
      else store.pending ++ [.write opened.file opened.position data] := by
  simp only [append, List.isEmpty_iff]
  split <;> rfl

/-- Queued data overwrites what the handle's file holds at its position. -/
theorem live_append (store : Store) (handle : Handle)
    (opened : StoreHandle) (data : Bytes) (other : Nat) :
    (store.append handle opened data).live other =
      if opened.file = other ∧ data ≠ [] then
        (store.live other).overwrite opened.position data
      else store.live other := by
  by_cases empty : data = []
  · rw [if_neg fun both => both.2 empty]
    refine live_congr ?_ ?_
    · rw [append_eq]
      rfl
    · rw [pending_append, if_pos empty]
  · have queued : (store.append handle opened data).live other =
        { store with
          pending := store.pending ++
            [Pending.write opened.file opened.position data] }.live other := by
      refine live_congr ?_ ?_
      · rw [append_eq]
        rfl
      · rw [pending_append, if_neg empty]
    rw [queued, live_queue]
    by_cases same : opened.file = other <;>
      simp [Pending.file, Pending.apply, empty, same]

/-! ## Surrendering a handle -/

theorem surrender_eq (store : Store) (handle : Handle) (file : Nat) :
    store.surrender handle file =
      { store with
        handles := store.handles.remove handle
        files := (store.surrender handle file).files
        pending := (store.surrender handle file).pending } := by
  rw [surrender, reclaim_eq]
  rfl

theorem getElem?_files_surrender (store : Store) (handle : Handle)
    (file other : Nat) :
    (store.surrender handle file).files[other]? =
      if file = other then
        (store.files[other]?).bind fun stored =>
          StoredFile.unlessOrphaned
            { stored with
              durable := store.live other
              openHandles := stored.openHandles - 1 }
      else store.files[other]? := by
  have flushed := getElem?_files_flush
    { store with handles := store.handles.remove handle } file other
  simp only [surrender, getElem?_files_reclaim, getElem?_modify]
  rw [flushed]
  split
  · cases store.files[other]? <;> rfl
  · rfl

/-- What is left after a handle was surrendered was there. -/
theorem mem_files_of_surrender {store : Store} {handle : Handle}
    {file other : Nat}
    (present : other ∈ (store.surrender handle file).files) :
    other ∈ store.files := by
  rw [mem_files_iff, getElem?_files_surrender] at present
  rw [mem_files_iff]
  grind

/-- Nothing waits on a file after one of its handles was surrendered. -/
theorem onFile_pending_surrender_self (store : Store) (handle : Handle)
    (file : Nat) :
    Pending.onFile file (store.surrender handle file).pending = [] := by
  simp only [surrender, reclaim]
  split
  · split <;> simp [flush]
  · simp [flush]

theorem durable_surrender_of_ne (store : Store) (handle : Handle)
    {file other : Nat} (different : file ≠ other) :
    (store.surrender handle file).durable other = store.durable other := by
  simp [durable, getElem?_files_surrender, different]

/-- A file that is still there holds what it held. -/
theorem live_surrender {store : Store} {handle : Handle}
    {file other : Nat}
    (present : other ∈ (store.surrender handle file).files) :
    (store.surrender handle file).live other = store.live other := by
  have before := mem_files_of_surrender present
  have flushed : (({ store with
      handles := store.handles.remove handle }).flush file).live other =
      store.live other :=
    live_flush before
  rw [surrender, live_reclaim present, ← flushed]
  refine live_congr ?_ rfl
  simp only [durable, getElem?_modify]
  split
  · rw [Option.map_map]
    rfl
  · rfl

/-! ## Unlinking a name -/

theorem unlink_eq (store : Store) (name : Bytes) (file : Nat) :
    store.unlink name file =
      { store with
        names := store.names.erase name
        files := (store.unlink name file).files
        pending := (store.unlink name file).pending } := by
  rw [unlink, reclaim_eq]

theorem getElem?_files_unlink (store : Store) (name : Bytes)
    (file other : Nat) :
    (store.unlink name file).files[other]? =
      if file = other then
        (store.files[other]?).bind fun stored =>
          StoredFile.unlessOrphaned { stored with linked := false }
      else store.files[other]? := by
  simp only [unlink, getElem?_files_reclaim, getElem?_modify]
  split
  · cases store.files[other]? <;> rfl
  · rfl

/-- What is left after a name was taken from a file was there. -/
theorem mem_files_of_unlink {store : Store} {name : Bytes}
    {file other : Nat}
    (present : other ∈ (store.unlink name file).files) :
    other ∈ store.files := by
  rw [mem_files_iff, getElem?_files_unlink] at present
  rw [mem_files_iff]
  grind

theorem durable_unlink {store : Store} {name : Bytes} {file other : Nat}
    (present : other ∈ (store.unlink name file).files) :
    (store.unlink name file).durable other = store.durable other := by
  rw [unlink, durable_reclaim present]
  simp only [durable, getElem?_modify]
  split
  · rw [Option.map_map]
    rfl
  · rfl

/-- A file that is still there holds what it held. -/
theorem live_unlink {store : Store} {name : Bytes} {file other : Nat}
    (present : other ∈ (store.unlink name file).files) :
    (store.unlink name file).live other = store.live other := by
  rw [unlink, live_reclaim present]
  refine live_congr ?_ rfl
  rw [← durable_unlink present, unlink, durable_reclaim present]

/-! ## Crashing -/

theorem getElem?_files_crash (store : Store) (file : Nat) :
    store.crash.state.files[file]? =
      ((store.files[file]?).filter StoredFile.linked).map fun stored =>
        { stored with openHandles := 0 } := by
  simp only [crash, Std.ExtTreeMap.getElem?_map,
    Std.ExtTreeMap.getElem?_filter']

/-- A crash leaves a linked file, without its handles. -/
theorem getElem?_files_crash_of_linked {store : Store} {file : Nat}
    {stored : StoredFile} (found : store.files[file]? = some stored)
    (linked : stored.linked = true) :
    store.crash.state.files[file]? =
      some { stored with openHandles := 0 } := by
  rw [getElem?_files_crash, found, Option.filter_some_pos linked]
  rfl

/-- What a crash leaves was linked before. -/
theorem exists_linked_of_crash {store : Store} {file : Nat}
    {later : StoredFile}
    (found : store.crash.state.files[file]? = some later) :
    ∃ stored, store.files[file]? = some stored ∧ stored.linked = true ∧
      later = { stored with openHandles := 0 } := by
  rw [getElem?_files_crash, Option.map_eq_some_iff] at found
  rcases found with ⟨stored, filtered, rfl⟩
  rw [Option.filter_eq_some_iff] at filtered
  exact ⟨stored, filtered.1, filtered.2, rfl⟩

/-- A file that a crash leaves keeps its durable content. -/
theorem durable_crash {store : Store} {file : Nat}
    (present : file ∈ store.crash.state.files) :
    store.crash.state.durable file = store.durable file := by
  rcases mem_files_iff.mp present with ⟨later, found⟩
  rcases exists_linked_of_crash found with ⟨stored, before, _, rfl⟩
  rw [durable_of_found found, durable_of_found before]

/-- After a crash nothing waits, so a file holds what is durable. -/
theorem live_crash {store : Store} {file : Nat}
    (present : file ∈ store.crash.state.files) :
    store.crash.state.live file = store.durable file :=
  (live_of_settled rfl).trans (durable_crash present)

end Store

end FileConformance
