import FileConformance.Proofs.Scenario.InStep
import FileConformance.Proofs.Scenario.Walks
import FileConformance.Step

/-!
# The table stays in step with a store

Whatever steps are done in whatever order on a fresh table and a fresh store,
and whatever fails on the way, every test file is in step with the store
afterwards.  So no two files share a handle, and closing all files closes the
bound handles and is refused the released ones.
-/

namespace FileConformance

open Store

/-! ## Walks -/

namespace Walk

variable {visit : TrackedFile → Procedure Visit} {stem : String}
  {start : Nat} {tracked : List TrackedFile} {store : Store}

/-- What a walk through files in step comes to. -/
structure KeptInStep (stem : String) (start : Nat)
    (tracked : List TrackedFile) (store : Store)
    (moved : List TrackedFile) (later : Store) : Prop where
  orderly : later.Orderly
  numbered : Numbered stem start moved
  length_eq : moved.length = tracked.length
  inStep : ∀ file ∈ moved, file.InStep later
  /-- A file that was not visited is in step if it was. -/
  others : ∀ {other : TrackedFile},
    other.path ∉ tracked.map TrackedFile.path → other.InStep store →
      other.InStep later

theorem files_keepInStep (keeps : KeepsInStep visit)
    (numbered : Numbered stem start tracked) (orderly : store.Orderly)
    (inStep : ∀ file ∈ tracked, file.InStep store) :
    (files visit tracked).Yields Store.subsystem store fun made later =>
      KeptInStep stem start tracked store (made.map Visit.file) later := by
  induction numbered generalizing store with
  | nil =>
      exact Procedure.yields_pure
        ⟨orderly, .nil, rfl, List.forall_mem_nil _, fun _ before => before⟩
  | @cons start file rest index_eq name_eq later ih =>
      have path_eq : file.path =
          Bytes.ofString (Name.numbered stem start) := by
        rw [TrackedFile.path, name_eq]
      have distinct : file.path ∉ rest.map TrackedFile.path := by
        rw [path_eq]
        exact later.path_notMem (Nat.lt_succ_self start)
      rw [List.forall_mem_cons] at inStep
      rw [files_cons]
      apply Procedure.yields_bind
      apply (keeps orderly inStep.1).mono
      intro first middle kept
      have waiting : ∀ other ∈ rest, other.InStep middle := by
        intro other member
        apply (inStep.2 other member).of_confined orderly kept.confined
        rw [List.mem_singleton]
        intro same
        apply distinct
        rw [← same]
        exact List.mem_map_of_mem member
      apply Procedure.yields_bind
      apply (ih kept.confined.orderly waiting).mono
      intro others last result
      apply Procedure.yields_pure
      constructor
      · exact result.orderly
      · exact .cons (kept.index_eq.trans index_eq)
          (kept.name_eq.trans name_eq) result.numbered
      · rw [List.map_cons, List.length_cons, result.length_eq,
          List.length_cons]
      · rw [List.map_cons, List.forall_mem_cons]
        -- The visits after the first are of files with other names.
        refine ⟨result.others ?_ kept.inStep, result.inStep⟩
        rw [TrackedFile.path_eq_of_name_eq kept.name_eq]
        exact distinct
      · intro other outside before
        rw [List.map_cons, List.mem_cons, not_or] at outside
        apply result.others outside.2
        apply before.of_confined orderly kept.confined
        rw [List.mem_singleton]
        exact outside.1

end Walk

/-! ## Closing all files -/

/-- The call that closes a file, with the answer of a store in step. -/
def TrackedFile.closing? (file : TrackedFile) : Option Exchange :=
  match file.binding with
  | .bound handle => some ⟨.close handle, .ok ()⟩
  | .released handle => some ⟨.close handle, .error (.badHandle handle)⟩
  | .unbound => none

namespace Bulk

theorem close_exchanges {file : TrackedFile} {store : Store}
    (orderly : store.Orderly) (inStep : file.InStep store)
    (expectation : Expectation) :
    ((close expectation file).run Store.subsystem store).exchanges =
      file.closing?.toList := by
  cases binding : file.binding with
  | unbound =>
      rw [close, TrackedFile.closing?, binding]
      rfl
  | bound handle =>
      rw [close, TrackedFile.closing?, binding]
      show [Exchange.mk (.close handle) (store.close handle).answer] = _
      rw [(close_bound orderly inStep binding).1]
      rfl
  | released handle =>
      rw [close, TrackedFile.closing?, binding]
      show [Exchange.mk (.close handle) (store.close handle).answer] = _
      rw [close_released orderly inStep binding]
      rfl

end Bulk

namespace Walk

/-- The files are closed in order. -/
theorem files_close_exchanges {stem : String} {start : Nat}
    {tracked : List TrackedFile} {store : Store}
    (numbered : Numbered stem start tracked) (orderly : store.Orderly)
    (inStep : ∀ file ∈ tracked, file.InStep store)
    (expectation : Expectation) :
    ((files (Bulk.close expectation) tracked).run Store.subsystem
        store).exchanges =
      tracked.filterMap TrackedFile.closing? := by
  induction numbered generalizing store with
  | nil => rfl
  | @cons start file rest index_eq name_eq later ih =>
      rw [List.forall_mem_cons] at inStep
      rcases Bulk.close_keepsInStep expectation orderly inStep.1 with
        ⟨first, ended, kept⟩
      have waiting : ∀ other ∈ rest, other.InStep
          ((Bulk.close expectation file).run Store.subsystem
            store).state := by
        intro other member
        apply (inStep.2 other member).of_confined orderly kept.confined
        rw [List.mem_singleton]
        intro same
        apply later.path_notMem (Nat.lt_succ_self start)
        rw [← name_eq, ← TrackedFile.path, ← same]
        exact List.mem_map_of_mem member
      rcases files_keepInStep (Bulk.close_keepsInStep expectation) later
        kept.confined.orderly waiting with ⟨others, endedToo, _⟩
      rw [files_cons, Procedure.exchanges_bind ended,
        Procedure.exchanges_bind endedToo,
        Bulk.close_exchanges orderly inStep.1,
        ih kept.confined.orderly waiting, List.filterMap_cons]
      cases file.closing? with
      | none => exact List.append_nil _
      | some exchange => exact congrArg (exchange :: ·) (List.append_nil _)

end Walk

/-! ## Tables -/

/-- All test files of a table are in step with a store. -/
structure Table.InStep (stem : String) (count : Nat) (table : Table)
    (store : Store) : Prop where
  orderly : store.Orderly
  numbered : Numbered stem 0 table.files
  length_eq : table.files.length = count
  inStep : ∀ file ∈ table.files, file.InStep store

namespace Boundary

/-- A probe may open a handle, but changes none. -/
theorem probe_confined {store : Store} (orderly : store.Orderly)
    (call : BoundaryCall) (name : Bytes) (expectation : Expectation) :
    (probe call name expectation).Yields Store.subsystem store
      fun _ later => Confined [] store later := by
  cases call with
  | create =>
      apply Procedure.yields_one_call
      show Confined [] store (store.create name).state
      rcases create_handles store name with ⟨reason, same⟩ | ⟨_, _, issues⟩
      · rw [same]
        exact .refl orderly
      · exact .of_issues orderly issues
  | openFile =>
      apply Procedure.yields_one_call
      show Confined [] store (store.openFile name).state
      rcases openFile_handles store name with
        ⟨reason, same⟩ | ⟨_, _, issues⟩
      · rw [same]
        exact .refl orderly
      · exact .of_issues orderly issues
  | delete =>
      exact Procedure.yields_one_call
        (.of_same orderly (delete_handles store name))

end Boundary

namespace Table

variable {stem : String} {count : Nat} {table : Table} {store : Store}

theorem InStep.fresh (settings : StoreSettings) (generator : Generator)
    (stem : String) (count : Nat) (pattern : Pattern)
    (bufferLength : Nat) :
    (Table.numbered stem count pattern bufferLength).InStep stem count
      (Store.fresh settings generator) where
  orderly := .fresh settings generator
  numbered := by
    rw [Table.numbered, List.range_eq_range']
    exact .of_range stem 0 count
  length_eq := by rw [Table.numbered, List.length_map, List.length_range]
  inStep := by
    intro file member
    rcases List.mem_map.mp member with ⟨index, _, rfl⟩
    exact .of_unbound rfl _

theorem InStep.probed {later : Store}
    (inStep : table.InStep stem count store)
    (kept : Confined [] store later) : table.InStep stem count later where
  orderly := kept.orderly
  numbered := inStep.numbered
  length_eq := inStep.length_eq
  inStep := fun file member =>
    (inStep.inStep file member).of_confined inStep.orderly kept
      List.not_mem_nil

/-- A visit that keeps files in step keeps a table in step. -/
theorem InStep.walk (inStep : table.InStep stem count store)
    {visit : TrackedFile → Procedure Visit} (keeps : KeepsInStep visit) :
    (Walk.table visit table).Yields Store.subsystem store
      fun outcome later => outcome.2.InStep stem count later := by
  apply Procedure.yields_bind
  apply (Walk.files_keepInStep keeps inStep.numbered inStep.orderly
    inStep.inStep).mono
  intro made later result
  exact Procedure.yields_pure ⟨result.orderly, result.numbered,
    result.length_eq.trans inStep.length_eq, result.inStep⟩

/-- A step keeps a table in step. -/
theorem InStep.perform (inStep : table.InStep stem count store)
    (limit : NameLimit) (step : Step) :
    (step.perform limit table).Yields Store.subsystem store
      fun outcome later => outcome.2.InStep stem count later := by
  cases step with
  | bulk call expectation =>
      exact inStep.walk (Bulk.visit_keepsInStep call expectation)
  | roundTrip =>
      exact inStep.walk
        (RoundTrip.visit_keepsInStep fun file => table.expected file.index)
  | boundary call =>
      apply Procedure.yields_bind
      apply Procedure.yields_bind
      apply (Boundary.probe_confined inStep.orderly call _ .success).mono
      intro first middle kept
      have between := inStep.probed kept
      apply Procedure.yields_bind
      apply (Boundary.probe_confined between.orderly call _
        .failure).mono
      intro second later keptToo
      apply Procedure.yields_pure
      exact Procedure.yields_pure (between.probed keptToo)

/-- Do steps in order, each with a limit on names of its own. -/
def undergo (table : Table) : List (NameLimit × Step) → Procedure Table
  | [] => return table
  | (limit, step) :: rest => do
      let (_, next) ← step.perform limit table
      next.undergo rest

/-- Any steps keep a table in step. -/
theorem InStep.undergo (inStep : table.InStep stem count store)
    (steps : List (NameLimit × Step)) :
    (table.undergo steps).Yields Store.subsystem store
      fun later store => later.InStep stem count store := by
  induction steps generalizing table store with
  | nil => exact Procedure.yields_pure inStep
  | cons first rest ih =>
      apply Procedure.yields_bind
      apply (inStep.perform first.1 first.2).mono
      intro outcome later result
      exact ih result

/-! ### What follows -/

/-- No two files are bound to one handle. -/
theorem InStep.eq_of_bound (inStep : table.InStep stem count store)
    {left right : TrackedFile} (member : left ∈ table.files)
    (memberToo : right ∈ table.files) {handle : Handle}
    (bound : left.binding = .bound handle)
    (boundToo : right.binding = .bound handle) : left = right := by
  apply inStep.numbered.eq_of_path_eq member memberToo
  have isOpen := (inStep.inStep left member).bound bound
  rw [(inStep.inStep right memberToo).bound boundToo] at isOpen
  exact (Option.some.inj isOpen).symm

/-- Closing all files closes what is bound and is refused what is released. -/
theorem InStep.closeAll_exchanges (inStep : table.InStep stem count store)
    (limit : NameLimit) (expectation : Expectation) :
    (((Step.bulk .close expectation).perform limit table).run
        Store.subsystem store).exchanges =
      table.files.filterMap TrackedFile.closing? := by
  rcases Walk.files_keepInStep (Bulk.close_keepsInStep expectation)
    inStep.numbered inStep.orderly inStep.inStep with ⟨made, ended, _⟩
  show ((Walk.files (Bulk.close expectation) table.files >>= _).run
    Store.subsystem store).exchanges = _
  rw [Procedure.exchanges_bind ended, Walk.files_close_exchanges
    inStep.numbered inStep.orderly inStep.inStep]
  exact List.append_nil _

end Table

/--
Any steps on a fresh table and a fresh store of any settings come to an end, and
afterwards the table is in step with the store: a bound handle is open under
the name of its file, a released handle is not open, and no two files share a
handle.  So closing all files is answered as the bindings say.
-/
theorem table_inStep_after_steps (settings : StoreSettings)
    (generator : Generator) (stem : String) (count : Nat)
    (pattern : Pattern) (bufferLength : Nat)
    (steps : List (NameLimit × Step)) :
    ((Table.numbered stem count pattern bufferLength).undergo
      steps).Yields Store.subsystem (Store.fresh settings generator)
        fun table store =>
          table.files.length = count ∧ Numbered stem 0 table.files ∧
          (∀ file ∈ table.files, ∀ handle,
            (file.binding = .bound handle →
              store.nameOf? handle = some file.path) ∧
            (file.binding = .released handle →
              store.nameOf? handle = none)) ∧
          (∀ left ∈ table.files, ∀ right ∈ table.files, ∀ handle,
            left.binding = .bound handle →
              right.binding = .bound handle → left = right) ∧
          ∀ limit expectation,
            (((Step.bulk .close expectation).perform limit table).run
                Store.subsystem store).exchanges =
              table.files.filterMap TrackedFile.closing? := by
  have start := Table.InStep.fresh settings generator stem count pattern
    bufferLength
  apply (start.undergo steps).mono
  intro table store inStep
  refine ⟨inStep.length_eq, inStep.numbered, ?_, ?_,
    inStep.closeAll_exchanges⟩
  · intro file member handle
    have here := inStep.inStep file member
    exact ⟨here.bound, here.released⟩
  · intro left member right memberToo handle bound boundToo
    exact inStep.eq_of_bound member memberToo bound boundToo

end FileConformance
