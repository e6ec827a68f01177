import FileConformance.Proofs.Store.WellFormed

/-!
# What calls leave alone

A caller that keeps to a few names leaves all other names alone: they denote
the same files with the same contents, the handles that were opened under them
stay where they are, and a handle that was closed stays closed.

Being left alone is transitive, so a sequence of calls leaves alone what each
of them leaves alone.
-/

namespace FileConformance

namespace Store

/-- From one store to a later one, only what is under some names changed. -/
structure Spares (names : List Bytes) (store later : Store) : Prop where
  /-- Other names denote what they denoted. -/
  names_eq : ∀ {other : Bytes}, other ∉ names →
    later.names[other]? = store.names[other]?
  /-- Handles that were opened under other names are where they were. -/
  find?_eq : ∀ {handle : Handle} {opened : StoreHandle},
    opened.name ∉ names → store.handles.find? handle = some opened →
      later.handles.find? handle = some opened
  /-- A number that was given back is not issued again. -/
  find?_none : ∀ {handle : Handle}, handle.number < store.nextHandle →
    store.handles.find? handle = none →
      later.handles.find? handle = none
  nextHandle_le : store.nextHandle ≤ later.nextHandle
  /-- Files under other names hold what they held. -/
  live_eq : ∀ {other : Bytes} {file : Nat}, other ∉ names →
    store.names[other]? = some file → later.live file = store.live file

namespace Spares

variable {names : List Bytes} {store middle later : Store}

theorem refl (names : List Bytes) (store : Store) :
    Spares names store store where
  names_eq := fun _ => rfl
  find?_eq := fun _ found => found
  find?_none := fun _ missing => missing
  nextHandle_le := Nat.le_refl store.nextHandle
  live_eq := fun _ _ => rfl

theorem trans {others : List Bytes} (first : Spares names store middle)
    (second : Spares others middle later) :
    Spares (names ++ others) store later := by
  constructor
  · intro other outside
    rw [List.mem_append, not_or] at outside
    exact (second.names_eq outside.2).trans (first.names_eq outside.1)
  · intro handle opened outside found
    rw [List.mem_append, not_or] at outside
    exact second.find?_eq outside.2 (first.find?_eq outside.1 found)
  · intro handle issued missing
    exact second.find?_none
      (Nat.lt_of_lt_of_le issued first.nextHandle_le)
      (first.find?_none issued missing)
  · exact Nat.le_trans first.nextHandle_le second.nextHandle_le
  · intro other file outside named
    rw [List.mem_append, not_or] at outside
    have still : middle.names[other]? = some file := by
      rw [first.names_eq outside.1]
      exact named
    exact (second.live_eq outside.2 still).trans
      (first.live_eq outside.1 named)

/-- Two calls on one name together change only what is under it. -/
theorem again {name : Bytes} (first : Spares [name] store middle)
    (second : Spares [name] middle later) : Spares [name] store later := by
  have both := first.trans second
  have same : ∀ {other : Bytes}, other ∉ [name] →
      other ∉ [name] ++ [name] := by
    intro other outside
    rw [List.mem_append, not_or]
    exact ⟨outside, outside⟩
  exact {
    names_eq := fun outside => both.names_eq (same outside)
    find?_eq := fun outside => both.find?_eq (same outside)
    find?_none := both.find?_none
    nextHandle_le := both.nextHandle_le
    live_eq := fun outside => both.live_eq (same outside) }

end Spares

/-! ## Writing back -/

/-- Writing a file back touches the files, the queue and the generator only. -/
theorem writtenBack_eq (store : Store) (sync : Probability)
    (file : Nat) :
    store.writtenBack sync file =
      { store with
        files := (store.writtenBack sync file).files
        pending := (store.writtenBack sync file).pending
        generator := (store.writtenBack sync file).generator } := by
  rw [writtenBack]
  split <;> rfl

theorem mem_files_writtenBack (store : Store) (sync : Probability)
    (file other : Nat) :
    other ∈ (store.writtenBack sync file).files ↔
      other ∈ store.files := by
  rw [writtenBack]
  split
  · rw [flush, Std.ExtTreeMap.mem_modify]
    rfl
  · rfl

theorem live_writtenBack {store : Store} {sync : Probability}
    {file other : Nat} (present : other ∈ store.files) :
    (store.writtenBack sync file).live other = store.live other := by
  rw [writtenBack]
  split
  · have there : other ∈ (store.chance sync).2.files := present
    exact live_flush there
  · rfl

/-! ## Changes -/

namespace WellFormed

variable {store : Store}

/-- A file with a name is there. -/
theorem present_of_named (wf : store.WellFormed) {name : Bytes}
    {file : Nat} (named : store.names[name]? = some file) :
    file ∈ store.files := by
  rcases wf.named_linked named with ⟨stored, found, _⟩
  exact mem_files_iff.mpr ⟨stored, found⟩

theorem fileToCreate_spares (wf : store.WellFormed) (name : Bytes) :
    Spares [name] store (store.fileToCreate name).2 := by
  cases named : store.names[name]? with
  | some file =>
      rw [fileToCreate_of_named named]
      refine { Spares.refl [name] store with live_eq := ?_ }
      intro other found outside otherNamed
      rw [live_queue]
      have different : file ≠ found := by
        rintro rfl
        apply outside
        rw [wf.name_unique otherNamed named]
        exact List.mem_singleton_self name
      exact if_neg different
  | none =>
      rw [fileToCreate_of_free named]
      refine {
        Spares.refl [name] store with
        names_eq := ?_
        live_eq := ?_ }
      · intro other outside
        rw [List.mem_singleton] at outside
        simp [Std.ExtTreeMap.getElem?_insert, Ne.symm outside]
      · intro other file _ otherNamed
        have old : store.nextFile ≠ file := by
          have issued := wf.file_issued (wf.present_of_named otherNamed)
          omega
        have kept := wf.live_fileToCreate name file
        rw [fileToCreate_of_free named, if_neg old] at kept
        exact kept

theorem openHandle_spares (wf : store.WellFormed) (file : Nat)
    (name : Bytes) :
    Spares [name] store (store.openHandle file name).2 := by
  constructor
  · intro other _
    rfl
  · intro handle opened _ found
    have old : (⟨store.nextHandle⟩ : Handle) ≠ handle := by
      rintro rfl
      rw [wf.nextHandle_unused] at found
      cases found
    rw [Store.openHandle, Registry.find?_insert, if_neg old]
    exact found
  · intro handle issued missing
    have old : (⟨store.nextHandle⟩ : Handle) ≠ handle := by
      rintro rfl
      exact Nat.lt_irrefl _ issued
    rw [Store.openHandle, Registry.find?_insert, if_neg old]
    exact missing
  · exact Nat.le_succ store.nextHandle
  · intro other found _ _
    exact live_openHandle store file name found

theorem surrender_spares (wf : store.WellFormed) {handle : Handle}
    {opened : StoreHandle}
    (found : store.handles.find? handle = some opened) :
    Spares [opened.name] store (store.surrender handle opened.file) := by
  have later := wf.surrender found
  constructor
  · intro other _
    rw [surrender_eq]
  · intro other held outside holding
    have different : handle ≠ other := by
      rintro rfl
      rw [found] at holding
      cases holding
      exact outside (List.mem_singleton_self opened.name)
    rw [surrender_eq, Registry.find?_remove, if_neg different]
    exact holding
  · intro other _ missing
    rw [surrender_eq, Registry.find?_remove]
    split
    · rfl
    · exact missing
  · rw [surrender_eq]
  · intro other file _ named
    apply live_surrender
    apply later.present_of_named
    rw [surrender_eq]
    exact named

theorem unlink_spares (wf : store.WellFormed) {name : Bytes} {file : Nat}
    (named : store.names[name]? = some file) :
    Spares [name] store (store.unlink name file) := by
  have later := wf.unlink named
  have kept : ∀ {other : Bytes}, other ∉ [name] →
      (store.unlink name file).names[other]? = store.names[other]? := by
    intro other outside
    rw [List.mem_singleton] at outside
    rw [unlink_eq]
    simp [Std.ExtTreeMap.getElem?_erase, Ne.symm outside]
  constructor
  · exact kept
  · intro handle opened _ found
    rw [unlink_eq]
    exact found
  · intro handle _ missing
    rw [unlink_eq]
    exact missing
  · rw [unlink_eq]
  · intro other found outside otherNamed
    apply live_unlink
    apply later.present_of_named
    rw [kept outside]
    exact otherNamed

theorem advance_spares {handle : Handle} {opened : StoreHandle}
    (found : store.handles.find? handle = some opened) (count : Nat) :
    Spares [opened.name] store (store.advance handle count) := by
  refine {
    Spares.refl [opened.name] store with
    find?_eq := ?_
    find?_none := ?_
    live_eq := fun _ _ => rfl }
  · intro other held outside holding
    have different : handle ≠ other := by
      rintro rfl
      rw [found] at holding
      cases holding
      exact outside (List.mem_singleton_self opened.name)
    rw [Store.advance, Registry.find?_adjust, if_neg different]
    exact holding
  · intro other _ missing
    rw [Store.advance, Registry.find?_adjust, missing]
    split <;> rfl

theorem append_spares (wf : store.WellFormed) {handle : Handle}
    {opened : StoreHandle}
    (found : store.handles.find? handle = some opened)
    (named : store.names[opened.name]? = some opened.file)
    (data : Bytes) :
    Spares [opened.name] store (store.append handle opened data) := by
  have moved := advance_spares found data.length
  rw [append_eq]
  refine { moved with live_eq := ?_ }
  intro other file outside otherNamed
  have different : opened.file ≠ file := by
    rintro rfl
    apply outside
    rw [wf.name_unique otherNamed named]
    exact List.mem_singleton_self opened.name
  rw [← append_eq, live_append, if_neg fun both => different both.1]

theorem writtenBack (wf : store.WellFormed) (sync : Probability)
    (file : Nat) : WellFormed (store.writtenBack sync file) := by
  have drawn : WellFormed (store.chance sync).2 :=
    wf.transition (.draw _)
  rw [Store.writtenBack]
  split
  · exact drawn.flush file
  · exact drawn

theorem writtenBack_spares (wf : store.WellFormed) (names : List Bytes)
    (sync : Probability) (file : Nat) :
    Spares names store (store.writtenBack sync file) := by
  have kept := Spares.refl names store
  rw [writtenBack_eq]
  refine { kept with live_eq := ?_ }
  intro other found _ named
  rw [← writtenBack_eq]
  exact live_writtenBack (wf.present_of_named named)

end WellFormed

end Store

end FileConformance
