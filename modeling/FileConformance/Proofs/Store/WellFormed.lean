import FileConformance.Proofs.Store.Transition

/-!
# The shape of a store

Names, files, handles and the queue of a store are kept in separate places and
changed separately.  A store is well-formed if they fit together: names and
linked files correspond, every file counts the handles that are open on it,
and nothing refers to a file that is gone.

Every transition keeps a store well-formed, so every run does.
-/

namespace FileConformance

namespace Store

/-- How many handles are open on a file. -/
def openCount (store : Store) (file : Nat) : Nat :=
  store.handles.count fun opened => opened.file == file

/-- The parts of a store refer to one another rightly. -/
structure Coherent (store : Store) : Prop where
  /-- A name denotes a file that is there and linked. -/
  named_linked : ∀ {name : Bytes} {file : Nat},
    store.names[name]? = some file →
      ∃ stored, store.files[file]? = some stored ∧ stored.linked = true
  /-- Two names never denote the same file. -/
  name_unique : ∀ {left right : Bytes} {file : Nat},
    store.names[left]? = some file →
      store.names[right]? = some file → left = right
  /-- A linked file has a name. -/
  linked_named : ∀ {file : Nat} {stored : StoredFile},
    store.files[file]? = some stored → stored.linked = true →
      ∃ name : Bytes, store.names[name]? = some file
  /-- A file counts the handles that are open on it. -/
  openHandles_eq : ∀ {file : Nat} {stored : StoredFile},
    store.files[file]? = some stored →
      stored.openHandles = store.openCount file
  /-- A handle is open on a file that is there. -/
  handle_present : ∀ {handle : Handle} {opened : StoreHandle},
    store.handles.find? handle = some opened →
      opened.file ∈ store.files
  /-- An operation waits on a file that is there. -/
  pending_present : ∀ operation ∈ store.pending,
    operation.file ∈ store.files
  /-- The handles were issued one after the other, behind the console's. -/
  handle_issued : ∀ {handle : Handle} {opened : StoreHandle},
    store.handles.find? handle = some opened →
      firstHandle ≤ handle.number ∧ handle.number < store.nextHandle
  /-- No handle of the console will be issued. -/
  firstHandle_le : firstHandle ≤ store.nextHandle
  /-- The files were numbered one after the other. -/
  file_issued : ∀ {file : Nat}, file ∈ store.files →
    file < store.nextFile
  /-- There are no more handles than the limit allows. -/
  within_limit : ∀ {limit : Nat},
    store.settings.handleLimit = some limit →
      store.handles.size ≤ limit

/-- A store is well-formed if it is coherent and keeps no orphans. -/
structure WellFormed (store : Store) : Prop extends Coherent store where
  /-- A file that is there has a name or an open handle. -/
  linked_or_open : ∀ {file : Nat} {stored : StoredFile},
    store.files[file]? = some stored →
      stored.linked = true ∨ 0 < stored.openHandles

namespace Coherent

variable {store : Store}

/-! ## What is not in use -/

/-- The number of the next file is not in use. -/
theorem nextFile_unused (coherent : store.Coherent) :
    store.files[store.nextFile]? = none := by
  rw [← Option.not_isSome_iff_eq_none,
    ← Std.ExtTreeMap.mem_iff_isSome_getElem?]
  exact fun present => Nat.lt_irrefl _ (coherent.file_issued present)

/-- The number of the next handle is not in use. -/
theorem nextHandle_unused (coherent : store.Coherent) :
    store.handles.find? ⟨store.nextHandle⟩ = none := by
  rw [← Option.not_isSome_iff_eq_none, Option.isSome_iff_exists]
  rintro ⟨opened, found⟩
  exact Nat.lt_irrefl _ (coherent.handle_issued found).2

/-- No handle is open on a file that is not there. -/
theorem openCount_of_missing (coherent : store.Coherent) {file : Nat}
    (missing : store.files[file]? = none) :
    store.openCount file = 0 := by
  rw [openCount, ← Nat.le_zero, ← Nat.not_lt, Registry.count_pos_iff]
  rintro ⟨handle, opened, found, same⟩
  have present := coherent.handle_present found
  rw [eq_of_beq same, mem_files_iff, missing] at present
  rcases present with ⟨_, impossible⟩
  cases impossible

/-! ## Changes of one part -/

/-- Neither the generator nor the end of the process matters. -/
theorem update (coherent : store.Coherent) (generator : Generator)
    (exitStatus : Option Int32) :
    Coherent { store with generator, exitStatus } where
  named_linked := coherent.named_linked
  name_unique := coherent.name_unique
  linked_named := coherent.linked_named
  openHandles_eq := coherent.openHandles_eq
  handle_present := coherent.handle_present
  pending_present := coherent.pending_present
  handle_issued := coherent.handle_issued
  firstHandle_le := coherent.firstHandle_le
  file_issued := coherent.file_issued
  within_limit := coherent.within_limit

/-- Operations may be queued on files that are there. -/
theorem queue (coherent : store.Coherent) {operation : Pending}
    (present : operation.file ∈ store.files) :
    Coherent { store with pending := store.pending ++ [operation] } where
  named_linked := coherent.named_linked
  name_unique := coherent.name_unique
  linked_named := coherent.linked_named
  openHandles_eq := coherent.openHandles_eq
  handle_present := coherent.handle_present
  pending_present := by
    intro other member
    rcases List.mem_append.mp member with waiting | queued
    · exact coherent.pending_present other waiting
    · rw [List.mem_singleton.mp queued]
      exact present
  handle_issued := coherent.handle_issued
  firstHandle_le := coherent.firstHandle_le
  file_issued := coherent.file_issued
  within_limit := coherent.within_limit

/-- A handle may move. -/
theorem advance (coherent : store.Coherent) (handle : Handle)
    (count : Nat) : Coherent (store.advance handle count) := by
  have found : ∀ {other : Handle} {moved : StoreHandle},
      (store.advance handle count).handles.find? other = some moved →
        ∃ opened, store.handles.find? other = some opened ∧
          opened.file = moved.file := by
    intro other moved lookup
    rw [Store.advance, Registry.find?_adjust] at lookup
    split at lookup
    · rw [Option.map_eq_some_iff] at lookup
      rcases lookup with ⟨opened, before, rfl⟩
      exact ⟨opened, before, rfl⟩
    · exact ⟨moved, lookup, rfl⟩
  exact {
    named_linked := coherent.named_linked
    name_unique := coherent.name_unique
    linked_named := coherent.linked_named
    openHandles_eq := by
      intro file stored there
      have counted : (store.advance handle count).openCount file =
          store.openCount file :=
        Registry.count_adjust fun _ => rfl
      rw [counted]
      exact coherent.openHandles_eq there
    handle_present := by
      intro other moved lookup
      rcases found lookup with ⟨opened, before, same⟩
      rw [← same]
      exact coherent.handle_present before
    pending_present := coherent.pending_present
    handle_issued := by
      intro other moved lookup
      rcases found lookup with ⟨opened, before, _⟩
      exact coherent.handle_issued before
    firstHandle_le := coherent.firstHandle_le
    file_issued := coherent.file_issued
    within_limit := coherent.within_limit }

/--
Handles and one file may change together, as long as the file stays linked or
unlinked and goes on counting the handles that are open on it.
-/
theorem modify (coherent : store.Coherent) {file : Nat}
    {change : StoredFile → StoredFile} {pending : List Pending}
    {handles : Registry Handle StoreHandle} {nextHandle : Nat}
    (linked : ∀ stored, (change stored).linked = stored.linked)
    (counted : ∀ {other : Nat} {stored : StoredFile},
      store.files[other]? = some stored →
        (if file = other then change stored else stored).openHandles =
          handles.count fun opened => opened.file == other)
    (present : ∀ {handle : Handle} {opened : StoreHandle},
      handles.find? handle = some opened → opened.file ∈ store.files)
    (waiting : ∀ operation ∈ pending, operation ∈ store.pending)
    (issued : ∀ {handle : Handle} {opened : StoreHandle},
      handles.find? handle = some opened →
        firstHandle ≤ handle.number ∧ handle.number < nextHandle)
    (first : firstHandle ≤ nextHandle)
    (limited : ∀ {limit : Nat},
      store.settings.handleLimit = some limit → handles.size ≤ limit) :
    Coherent {
      store with
      files := store.files.modify file change
      pending, handles, nextHandle } := by
  have kept : ∀ {other : Nat},
      other ∈ store.files.modify file change ↔ other ∈ store.files := by
    intro other
    rw [Std.ExtTreeMap.mem_modify]
  exact {
    named_linked := by
      intro name other named
      rcases coherent.named_linked named with ⟨stored, before, wasLinked⟩
      rw [getElem?_modify, before]
      split
      · exact ⟨change stored, rfl, (linked stored).trans wasLinked⟩
      · exact ⟨stored, rfl, wasLinked⟩
    name_unique := coherent.name_unique
    linked_named := by
      intro other later there isLinked
      rcases exists_of_getElem?_modify there with ⟨stored, before, rfl⟩
      refine coherent.linked_named before ?_
      split at isLinked
      · rw [← linked stored]
        exact isLinked
      · exact isLinked
    openHandles_eq := by
      intro other later there
      rcases exists_of_getElem?_modify there with ⟨stored, before, rfl⟩
      exact counted before
    handle_present := fun lookup => kept.mpr (present lookup)
    pending_present := fun operation member =>
      kept.mpr (coherent.pending_present operation
        (waiting operation member))
    handle_issued := issued
    firstHandle_le := first
    file_issued := fun there => coherent.file_issued (kept.mp there)
    within_limit := limited }

/-- A file may be made under a free name. -/
theorem createFile (coherent : store.Coherent) {name : Bytes}
    (free : store.names[name]? = none) :
    Coherent {
      store with
      nextFile := store.nextFile + 1
      files := store.files.insert store.nextFile
        { durable := [], linked := true, openHandles := 0 }
      names := store.names.insert name store.nextFile } := by
  have unused := coherent.nextFile_unused
  have unnamed : ∀ {other : Bytes},
      store.names[other]? ≠ some store.nextFile := by
    intro other named
    rcases coherent.named_linked named with ⟨stored, found, _⟩
    rw [unused] at found
    cases found
  exact {
    named_linked := by
      intro other file named
      simp only [Std.ExtTreeMap.getElem?_insert,
        Std.LawfulEqOrd.compare_eq_iff_eq] at named ⊢
      split at named
      · cases named
        simp
      · rcases coherent.named_linked named with ⟨stored, found, linked⟩
        have old : store.nextFile ≠ file := by
          rintro rfl
          exact unnamed named
        exact ⟨stored, by rw [if_neg old]; exact found, linked⟩
    name_unique := by
      intro left right file leftNamed rightNamed
      simp only [Std.ExtTreeMap.getElem?_insert,
        Std.LawfulEqOrd.compare_eq_iff_eq] at leftNamed rightNamed
      split at leftNamed <;> split at rightNamed
      · rename_i leftSame rightSame
        exact leftSame.symm.trans rightSame
      · cases leftNamed
        exact (unnamed rightNamed).elim
      · cases rightNamed
        exact (unnamed leftNamed).elim
      · exact coherent.name_unique leftNamed rightNamed
    linked_named := by
      intro file stored found linked
      simp only [Std.ExtTreeMap.getElem?_insert,
        Std.LawfulEqOrd.compare_eq_iff_eq] at found ⊢
      split at found
      · rename_i same
        exact ⟨name, by simp [same]⟩
      · rcases coherent.linked_named found linked with ⟨other, named⟩
        have different : name ≠ other := by
          rintro rfl
          rw [free] at named
          cases named
        exact ⟨other, by rw [if_neg different]; exact named⟩
    openHandles_eq := by
      intro file stored found
      simp only [Std.ExtTreeMap.getElem?_insert,
        Std.LawfulEqOrd.compare_eq_iff_eq] at found
      split at found
      · rename_i same
        subst same
        cases found
        exact (coherent.openCount_of_missing unused).symm
      · exact coherent.openHandles_eq found
    handle_present := fun found =>
      Std.ExtTreeMap.mem_insert.mpr (Or.inr (coherent.handle_present found))
    pending_present := fun operation waiting =>
      Std.ExtTreeMap.mem_insert.mpr
        (Or.inr (coherent.pending_present operation waiting))
    handle_issued := coherent.handle_issued
    firstHandle_le := coherent.firstHandle_le
    file_issued := by
      intro file present
      rcases Std.ExtTreeMap.mem_insert.mp present with same | old
      · rw [← Std.LawfulEqOrd.compare_eq_iff_eq.mp same]
        exact Nat.lt_succ_self store.nextFile
      · exact Nat.lt_succ_of_lt (coherent.file_issued old)
    within_limit := coherent.within_limit }

/-- A name may be taken from its file. -/
theorem dropName (coherent : store.Coherent) {name : Bytes} {file : Nat}
    (named : store.names[name]? = some file) :
    Coherent {
      store with
      names := store.names.erase name
      files := store.files.modify file fun stored =>
        { stored with linked := false } } := by
  have lookup : ∀ {other : Bytes} {found : Nat},
      (store.names.erase name)[other]? = some found ↔
        name ≠ other ∧ store.names[other]? = some found := by
    intro other found
    simp only [Std.ExtTreeMap.getElem?_erase,
      Std.LawfulEqOrd.compare_eq_iff_eq]
    split
    · rename_i same
      simp [same]
    · rename_i different
      simp [different]
  have kept : ∀ {other : Nat},
      (other ∈ store.files.modify file fun stored =>
        { stored with linked := false }) ↔ other ∈ store.files := by
    intro other
    rw [Std.ExtTreeMap.mem_modify]
  exact {
    named_linked := by
      intro other found named'
      rcases lookup.mp named' with ⟨different, before⟩
      rcases coherent.named_linked before with ⟨stored, there, linked⟩
      have unlike : file ≠ found := by
        rintro rfl
        exact different (coherent.name_unique named before)
      rw [getElem?_modify, if_neg unlike]
      exact ⟨stored, there, linked⟩
    name_unique := fun leftNamed rightNamed =>
      coherent.name_unique (lookup.mp leftNamed).2 (lookup.mp rightNamed).2
    linked_named := by
      intro other later there linked
      rcases exists_of_getElem?_modify there with ⟨stored, before, rfl⟩
      split at linked
      · cases linked
      · rename_i unlike
        rcases coherent.linked_named before linked with ⟨found, still⟩
        refine ⟨found, lookup.mpr ⟨?_, still⟩⟩
        rintro rfl
        rw [named] at still
        exact unlike (Option.some.inj still)
    openHandles_eq := by
      intro other later there
      rcases exists_of_getElem?_modify there with ⟨stored, before, rfl⟩
      refine Eq.trans ?_ (coherent.openHandles_eq before)
      split <;> rfl
    handle_present := fun found => kept.mpr (coherent.handle_present found)
    pending_present := fun operation waiting =>
      kept.mpr (coherent.pending_present operation waiting)
    handle_issued := coherent.handle_issued
    firstHandle_le := coherent.firstHandle_le
    file_issued := fun there => coherent.file_issued (kept.mp there)
    within_limit := coherent.within_limit }

/-! ## Changes that keep or reclaim a file -/

/-- Flushing a file moves bytes only. -/
theorem flush (coherent : store.Coherent) (file : Nat) :
    Coherent (store.flush file) := by
  refine coherent.modify (fun _ => rfl) ?_ coherent.handle_present ?_
    coherent.handle_issued coherent.firstHandle_le coherent.within_limit
  · intro other stored there
    refine Eq.trans ?_ (coherent.openHandles_eq there)
    split <;> rfl
  · exact fun operation member => (Pending.mem_onOthers.mp member).1

/-- A handle may be opened on a file that is there. -/
theorem openHandle (coherent : store.Coherent) {file : Nat}
    (present : file ∈ store.files)
    (room : store.settings.HasRoom store.handles.size) (name : Bytes) :
    Coherent (store.openHandle file name).2 := by
  have unused := coherent.nextHandle_unused
  have found : ∀ {handle : Handle} {opened : StoreHandle},
      (store.handles.insert ⟨store.nextHandle⟩
        { file, name, position := 0 }).find? handle = some opened →
      handle = ⟨store.nextHandle⟩ ∧ opened = ⟨file, name, 0⟩ ∨
        store.handles.find? handle = some opened := by
    intro handle opened lookup
    rw [Registry.find?_insert] at lookup
    split at lookup
    · rename_i same
      exact Or.inl ⟨same.symm, (Option.some.inj lookup).symm⟩
    · exact Or.inr lookup
  refine coherent.modify (fun _ => rfl) ?_ ?_ (fun _ waiting => waiting) ?_
    (Nat.le_succ_of_le coherent.firstHandle_le) ?_
  · intro other stored there
    rw [Registry.count_insert unused]
    have counted := coherent.openHandles_eq there
    rw [openCount] at counted
    rw [← counted]
    by_cases same : file = other <;> simp [same]
  · intro handle opened lookup
    rcases found lookup with ⟨_, rfl⟩ | before
    · exact present
    · exact coherent.handle_present before
  · intro handle opened lookup
    rcases found lookup with ⟨rfl, _⟩ | before
    · exact ⟨coherent.firstHandle_le, Nat.lt_succ_self store.nextHandle⟩
    · rcases coherent.handle_issued before with ⟨low, high⟩
      exact ⟨low, Nat.lt_succ_of_lt high⟩
  · intro limit limited
    rw [Registry.size_insert unused]
    exact room limit limited

/-- A handle may be taken from its file. -/
theorem dropHandle (coherent : store.Coherent) {handle : Handle}
    {opened : StoreHandle}
    (found : store.handles.find? handle = some opened) :
    Coherent {
      store with
      handles := store.handles.remove handle
      files := store.files.modify opened.file fun stored =>
        { stored with openHandles := stored.openHandles - 1 } } := by
  have before : ∀ {other : Handle} {still : StoreHandle},
      (store.handles.remove handle).find? other = some still →
        store.handles.find? other = some still := by
    intro other still lookup
    rw [Registry.find?_remove] at lookup
    split at lookup
    · cases lookup
    · exact lookup
  refine coherent.modify (fun _ => rfl) ?_
    (fun lookup => coherent.handle_present (before lookup))
    (fun _ waiting => waiting)
    (fun lookup => coherent.handle_issued (before lookup))
    coherent.firstHandle_le ?_
  · intro other stored there
    have counted := coherent.openHandles_eq there
    rw [openCount, ← Registry.count_remove found] at counted
    by_cases same : opened.file = other
    · simp only [same, beq_self_eq_true, if_true] at counted ⊢
      omega
    · simp only [same, beq_eq_false_iff_ne.mpr same, if_false,
        Bool.false_eq_true] at counted ⊢
      omega
  · intro limit limited
    have within := coherent.within_limit limited
    have smaller := Registry.size_remove found
    omega

/-- An orphan may go, with the operations that wait on it. -/
theorem eraseOrphan (coherent : store.Coherent) {file : Nat}
    {stored : StoredFile} (found : store.files[file]? = some stored)
    (unlinked : stored.linked = false) (unopened : stored.openHandles = 0) :
    Coherent {
      store with
      files := store.files.erase file
      pending := Pending.onOthers file store.pending } := by
  have lookup : ∀ {other : Nat} {kept : StoredFile},
      (store.files.erase file)[other]? = some kept ↔
        file ≠ other ∧ store.files[other]? = some kept := by
    intro other kept
    simp only [Std.ExtTreeMap.getElem?_erase,
      Std.LawfulEqOrd.compare_eq_iff_eq]
    split
    · rename_i same
      simp [same]
    · rename_i different
      simp [different]
  have member : ∀ {other : Nat}, other ∈ store.files.erase file ↔
      file ≠ other ∧ other ∈ store.files := by
    intro other
    simp [Std.ExtTreeMap.mem_erase]
  exact {
    named_linked := by
      intro name other named
      rcases coherent.named_linked named with ⟨kept, there, linked⟩
      refine ⟨kept, lookup.mpr ⟨?_, there⟩, linked⟩
      rintro rfl
      rw [found] at there
      cases there
      rw [unlinked] at linked
      cases linked
    name_unique := coherent.name_unique
    linked_named := fun there linked =>
      coherent.linked_named (lookup.mp there).2 linked
    openHandles_eq := fun there =>
      coherent.openHandles_eq (lookup.mp there).2
    handle_present := by
      intro handle opened holding
      refine member.mpr ⟨?_, coherent.handle_present holding⟩
      rintro rfl
      have counted := coherent.openHandles_eq found
      rw [unopened, openCount] at counted
      refine Nat.ne_of_lt ?_ counted
      exact Registry.count_pos_iff.mpr
        ⟨handle, opened, holding, beq_self_eq_true opened.file⟩
    pending_present := by
      intro operation waiting
      rcases Pending.mem_onOthers.mp waiting with ⟨old, different⟩
      exact member.mpr ⟨different.symm,
        coherent.pending_present operation old⟩
    handle_issued := coherent.handle_issued
    firstHandle_le := coherent.firstHandle_le
    file_issued := fun there => coherent.file_issued (member.mp there).2
    within_limit := coherent.within_limit }

/--
Reclaiming a file of a coherent store makes the store well-formed, if no other
file is an orphan.
-/
theorem reclaim (coherent : store.Coherent) {file : Nat}
    (others : ∀ {other : Nat} {stored : StoredFile}, file ≠ other →
      store.files[other]? = some stored →
        stored.linked = true ∨ 0 < stored.openHandles) :
    WellFormed (store.reclaim file) := by
  have kept : ∀ {other : Nat} {stored : StoredFile},
      (store.reclaim file).files[other]? = some stored →
        stored.linked = true ∨ 0 < stored.openHandles := by
    intro other stored there
    rw [getElem?_files_reclaim] at there
    split at there
    · rw [Option.bind_eq_some_iff] at there
      rcases there with ⟨before, _, survives⟩
      rw [StoredFile.unlessOrphaned,
        Option.ite_none_left_eq_some] at survives
      rcases survives with ⟨needed, same⟩
      cases same
      simp only [Bool.and_eq_true, Bool.not_eq_true', beq_iff_eq,
        not_and] at needed
      by_cases linked : stored.linked = true
      · exact Or.inl linked
      · rw [Bool.not_eq_true] at linked
        exact Or.inr (Nat.pos_of_ne_zero (needed linked))
    · rename_i different
      exact others different there
  refine ⟨?_, kept⟩
  cases found : store.files[file]? with
  | none =>
      have same : store.reclaim file = store := by
        simp [Store.reclaim, found]
      rw [same]
      exact coherent
  | some stored =>
      by_cases orphaned : (!stored.linked && stored.openHandles == 0) = true
      · have erased : store.reclaim file =
            { store with
              files := store.files.erase file
              pending := Pending.onOthers file store.pending } := by
          simp [Store.reclaim, found, orphaned]
        simp only [Bool.and_eq_true, Bool.not_eq_true',
          beq_iff_eq] at orphaned
        rw [erased]
        exact coherent.eraseOrphan found orphaned.1 orphaned.2
      · have same : store.reclaim file = store := by
          simp [Store.reclaim, found, orphaned]
        rw [same]
        exact coherent

end Coherent

/-- Exactly the names that exist have a live content. -/
theorem isSome_content? (store : Store) (name : Bytes) :
    (store.content? name).isSome = store.hasName name := by
  rw [content?, hasName, Option.isSome_map,
    Std.ExtTreeMap.contains_eq_isSome_getElem?]

namespace WellFormed

variable {store : Store}

theorem fresh (settings : StoreSettings) (generator : Generator) :
    WellFormed (Store.fresh settings generator) where
  named_linked := by simp [Store.fresh]
  name_unique := by simp [Store.fresh]
  linked_named := by simp [Store.fresh]
  openHandles_eq := by simp [Store.fresh]
  linked_or_open := by simp [Store.fresh]
  handle_present := by simp [Store.fresh]
  pending_present := by simp [Store.fresh]
  handle_issued := by simp [Store.fresh]
  firstHandle_le := Nat.le_refl firstHandle
  file_issued := by simp [Store.fresh]
  within_limit := fun _ => Nat.zero_le _

/-! ## What transitions keep -/

theorem queue (wf : store.WellFormed) {operation : Pending}
    (present : operation.file ∈ store.files) :
    WellFormed { store with pending := store.pending ++ [operation] } :=
  ⟨wf.toCoherent.queue present, wf.linked_or_open⟩

theorem openHandle (wf : store.WellFormed) {file : Nat}
    (present : file ∈ store.files)
    (room : store.settings.HasRoom store.handles.size) (name : Bytes) :
    WellFormed (store.openHandle file name).2 := by
  refine ⟨wf.toCoherent.openHandle present room name, ?_⟩
  intro other later there
  rcases exists_of_getElem?_modify there with ⟨stored, before, rfl⟩
  split
  · exact Or.inr (Nat.succ_pos stored.openHandles)
  · exact wf.linked_or_open before

/-- Creating truncates a file or makes one. -/
theorem fileToCreate (wf : store.WellFormed) (name : Bytes) :
    WellFormed (store.fileToCreate name).2 := by
  cases named : store.names[name]? with
  | some file =>
      rw [fileToCreate_of_named named]
      rcases wf.named_linked named with ⟨stored, found, _⟩
      exact WellFormed.queue wf
        (show (Pending.truncate file).file ∈ store.files from
          mem_files_iff.mpr ⟨stored, found⟩)
  | none =>
      rw [fileToCreate_of_free named]
      refine ⟨wf.toCoherent.createFile named, ?_⟩
      intro other stored there
      simp only [Std.ExtTreeMap.getElem?_insert,
        Std.LawfulEqOrd.compare_eq_iff_eq] at there
      split at there
      · cases there
        exact Or.inl rfl
      · exact wf.linked_or_open there

/-- The file to create is there. -/
theorem fileToCreate_present (wf : store.WellFormed) (name : Bytes) :
    (store.fileToCreate name).1 ∈ (store.fileToCreate name).2.files := by
  cases named : store.names[name]? with
  | some file =>
      rw [fileToCreate_of_named named]
      rcases wf.named_linked named with ⟨stored, found, _⟩
      exact mem_files_iff.mpr ⟨stored, found⟩
  | none =>
      rw [fileToCreate_of_free named]
      exact Std.ExtTreeMap.mem_insert_self

/-- Creating adds no file but the one to create. -/
theorem mem_files_fileToCreate (wf : store.WellFormed) (name : Bytes)
    (other : Nat) :
    other ∈ (store.fileToCreate name).2.files ↔
      (store.fileToCreate name).1 = other ∨ other ∈ store.files := by
  cases named : store.names[name]? with
  | some file =>
      rw [fileToCreate_of_named named]
      constructor
      · exact Or.inr
      · rintro (rfl | old)
        · rcases wf.named_linked named with ⟨stored, found, _⟩
          exact mem_files_iff.mpr ⟨stored, found⟩
        · exact old
  | none =>
      rw [fileToCreate_of_free named]
      simp [Std.ExtTreeMap.mem_insert]

/-- The file to create is empty, and the others hold what they held. -/
theorem live_fileToCreate (wf : store.WellFormed) (name : Bytes)
    (other : Nat) :
    (store.fileToCreate name).2.live other =
      if (store.fileToCreate name).1 = other then []
      else store.live other := by
  cases named : store.names[name]? with
  | some file =>
      rw [fileToCreate_of_named named, live_queue]
      rfl
  | none =>
      rw [fileToCreate_of_free named]
      dsimp only
      split
      · rename_i same
        subst same
        have unqueued :
            Pending.onFile store.nextFile store.pending = [] := by
          rw [Pending.onFile_eq_nil]
          intro operation waiting same
          have issued := wf.file_issued
            (wf.pending_present operation waiting)
          omega
        simp [live, durable, unqueued]
      · rename_i different
        refine live_congr ?_ rfl
        simp [durable, Std.ExtTreeMap.getElem?_insert, different]

/-- Surrendering a handle may leave an orphan, which is reclaimed. -/
theorem surrender (wf : store.WellFormed) {handle : Handle}
    {opened : StoreHandle}
    (found : store.handles.find? handle = some opened) :
    WellFormed (store.surrender handle opened.file) := by
  refine ((wf.toCoherent.flush opened.file).dropHandle found).reclaim ?_
  intro other later different there
  rcases exists_of_getElem?_modify there with ⟨flushed, middle, rfl⟩
  rcases exists_of_getElem?_modify middle with ⟨stored, before, rfl⟩
  simp only [if_neg different]
  exact wf.linked_or_open before

theorem advance (wf : store.WellFormed) (handle : Handle) (count : Nat) :
    WellFormed (store.advance handle count) :=
  ⟨wf.toCoherent.advance handle count, wf.linked_or_open⟩

theorem append (wf : store.WellFormed) {handle : Handle}
    {opened : StoreHandle}
    (found : store.handles.find? handle = some opened) (data : Bytes) :
    WellFormed (store.append handle opened data) := by
  unfold Store.append
  split
  · exact wf.advance handle data.length
  · have queued := WellFormed.queue wf
      (show (Pending.write opened.file opened.position data).file ∈
        store.files from wf.handle_present found)
    exact queued.advance handle data.length

theorem flush (wf : store.WellFormed) (file : Nat) :
    WellFormed (store.flush file) := by
  refine ⟨wf.toCoherent.flush file, ?_⟩
  intro other later there
  rcases exists_of_getElem?_modify there with ⟨stored, before, rfl⟩
  have kept := wf.linked_or_open before
  split
  · exact kept
  · exact kept

/-- Unlinking a name may leave an orphan, which is reclaimed. -/
theorem unlink (wf : store.WellFormed) {name : Bytes} {file : Nat}
    (named : store.names[name]? = some file) :
    WellFormed (store.unlink name file) := by
  refine (wf.toCoherent.dropName named).reclaim ?_
  intro other later different there
  rcases exists_of_getElem?_modify there with ⟨stored, before, rfl⟩
  simp only [if_neg different]
  exact wf.linked_or_open before

theorem crash (wf : store.WellFormed) :
    WellFormed store.crash.state where
  named_linked := by
    intro name file named
    rcases wf.named_linked named with ⟨stored, there, linked⟩
    exact ⟨{ stored with openHandles := 0 },
      getElem?_files_crash_of_linked there linked, linked⟩
  name_unique := wf.name_unique
  linked_named := by
    intro file later there linked
    rcases exists_linked_of_crash there with ⟨stored, before, _, rfl⟩
    exact wf.linked_named before linked
  openHandles_eq := by
    intro file later there
    rcases exists_linked_of_crash there with ⟨stored, _, _, rfl⟩
    rfl
  linked_or_open := by
    intro file later there
    rcases exists_linked_of_crash there with ⟨stored, _, linked, rfl⟩
    exact Or.inl linked
  handle_present := by simp [Store.crash]
  pending_present := by simp [Store.crash]
  handle_issued := by simp [Store.crash]
  firstHandle_le := wf.firstHandle_le
  file_issued := by
    intro file there
    rcases mem_files_iff.mp there with ⟨later, found⟩
    rcases exists_linked_of_crash found with ⟨stored, before, _⟩
    exact wf.file_issued (mem_files_iff.mpr ⟨stored, before⟩)
  within_limit := fun _ => Nat.zero_le _

/-- Every transition keeps a store well-formed. -/
theorem transition {later : Store} (wf : store.WellFormed)
    (changed : Transition store later) : WellFormed later := by
  cases changed with
  | draw generator =>
      exact ⟨wf.toCoherent.update generator store.exitStatus,
        wf.linked_or_open⟩
  | @create name admitted =>
      have room := (admitCreate_eq_ok_iff.mp admitted).2.2
      refine (wf.fileToCreate name).openHandle
        (wf.fileToCreate_present name) ?_ name
      rw [fileToCreate_eq]
      exact room
  | openFile admitted =>
      rcases admitOpen_eq_ok_iff.mp admitted with ⟨_, _, named, room⟩
      rcases wf.named_linked named with ⟨stored, found, _⟩
      exact wf.openHandle (mem_files_iff.mpr ⟨stored, found⟩) room _
  | close admitted =>
      exact wf.surrender (admitHandle_eq_ok_iff.mp admitted).2
  | advance count admitted =>
      exact wf.advance _ count
  | append admitted room =>
      exact wf.append (admitHandle_eq_ok_iff.mp admitted).2 _
  | flush admitted =>
      exact wf.flush _
  | unlink admitted =>
      exact wf.unlink (admitDelete_eq_ok_iff.mp admitted).2.2.1
  | finish code vacant =>
      exact ⟨wf.toCoherent.update store.generator (some code),
        wf.linked_or_open⟩
  | crash =>
      exact wf.crash

theorem evolves {later : Store} (wf : store.WellFormed)
    (evolved : Evolves store later) : WellFormed later :=
  evolved.induction transition wf

/-- A run keeps a store well-formed. -/
theorem after (wf : store.WellFormed) (actions : List Action) :
    WellFormed (store.after actions) :=
  wf.evolves (after_evolves store actions)

/-! ## What follows -/

/-- A linked file has one name and no other. -/
theorem existsUnique_name (wf : store.WellFormed) {file : Nat}
    {stored : StoredFile} (found : store.files[file]? = some stored)
    (linked : stored.linked = true) :
    ∃! name : Bytes, store.names[name]? = some file := by
  rcases wf.linked_named found linked with ⟨name, named⟩
  refine ⟨name, named, ?_⟩
  intro other otherNamed
  exact wf.name_unique otherNamed named

/-- The file of an open handle counts at least that handle. -/
theorem openHandles_pos (wf : store.WellFormed) {handle : Handle}
    {opened : StoreHandle}
    (found : store.handles.find? handle = some opened) :
    ∃ stored, store.files[opened.file]? = some stored ∧
      0 < stored.openHandles := by
  rcases mem_files_iff.mp (wf.handle_present found) with ⟨stored, there⟩
  refine ⟨stored, there, ?_⟩
  rw [wf.openHandles_eq there, openCount, Registry.count_pos_iff]
  exact ⟨handle, opened, found, beq_self_eq_true opened.file⟩

/-- A file that is there can be reached by a name or by a handle. -/
theorem reachable (wf : store.WellFormed) {file : Nat}
    (present : file ∈ store.files) :
    (∃ name : Bytes, store.names[name]? = some file) ∨
      ∃ handle opened, store.handles.find? handle = some opened ∧
        opened.file = file := by
  rcases mem_files_iff.mp present with ⟨stored, found⟩
  rcases wf.linked_or_open found with linked | isOpen
  · exact Or.inl (wf.linked_named found linked)
  · right
    rw [wf.openHandles_eq found, openCount,
      Registry.count_pos_iff] at isOpen
    rcases isOpen with ⟨handle, opened, holding, same⟩
    exact ⟨handle, opened, holding, eq_of_beq same⟩

/-- A linked file is one that a name denotes. -/
theorem isSome_filter_linked_iff (wf : store.WellFormed) {file : Nat} :
    ((store.files[file]?).filter StoredFile.linked).isSome ↔
      ∃ name : Bytes, store.names[name]? = some file := by
  rw [Option.isSome_iff_exists]
  constructor
  · rintro ⟨stored, kept⟩
    rw [Option.filter_eq_some_iff] at kept
    exact wf.linked_named kept.1 kept.2
  · rintro ⟨name, named⟩
    rcases wf.named_linked named with ⟨stored, found, linked⟩
    rw [found, Option.filter_some_pos linked]
    exact ⟨stored, rfl⟩

/-- A crash leaves the files that a name denotes. -/
theorem mem_files_crash_iff (wf : store.WellFormed) {file : Nat} :
    file ∈ store.crash.state.files ↔
      ∃ name : Bytes, store.names[name]? = some file := by
  rw [Std.ExtTreeMap.mem_iff_isSome_getElem?, getElem?_files_crash,
    Option.isSome_map, wf.isSome_filter_linked_iff]

/-- The durable content of a name is that of the file it denotes. -/
theorem durableContent?_eq (wf : store.WellFormed) (name : Bytes) :
    store.durableContent? name =
      (store.names[name]?).map store.durable := by
  rw [durableContent?]
  cases named : store.names[name]? with
  | none => rfl
  | some file =>
      rcases wf.named_linked named with ⟨stored, found, _⟩
      simp [found, durable_of_found found]

/-- Exactly the names that exist have a durable content. -/
theorem isSome_durableContent? (wf : store.WellFormed) (name : Bytes) :
    (store.durableContent? name).isSome = store.hasName name := by
  rw [wf.durableContent?_eq, hasName, Option.isSome_map,
    Std.ExtTreeMap.contains_eq_isSome_getElem?]

end WellFormed

/--
Whatever is done to a store that was made without files, its parts fit
together: it is well-formed, a linked file has one name, closing a handle has
a handle to count down, no file is out of reach, and a name has contents
exactly if it exists.
-/
theorem wellFormed_after_fresh (settings : StoreSettings)
    (generator : Generator) (actions : List Action) :
    let store := (fresh settings generator).after actions
    store.WellFormed ∧
      (∀ limit : Nat, settings.handleLimit = some limit →
        store.handles.size ≤ limit) ∧
      (∀ (file : Nat) (stored : StoredFile),
        store.files[file]? = some stored → stored.linked = true →
          ∃! name : Bytes, store.names[name]? = some file) ∧
      (∀ (handle : Handle) (opened : StoreHandle),
        store.handles.find? handle = some opened →
          ∃ stored, store.files[opened.file]? = some stored ∧
            0 < stored.openHandles) ∧
      (∀ file ∈ store.files,
        (∃ name : Bytes, store.names[name]? = some file) ∨
          ∃ handle opened, store.handles.find? handle = some opened ∧
            opened.file = file) ∧
      ∀ name : Bytes,
        (store.content? name).isSome = store.hasName name ∧
          (store.durableContent? name).isSome = store.hasName name := by
  intro store
  have wf : store.WellFormed :=
    (WellFormed.fresh settings generator).after actions
  refine ⟨wf, ?_, ?_, ?_, ?_, ?_⟩
  · intro limit limited
    have same : store.settings = settings :=
      settings_after (fresh settings generator) actions
    rw [← same] at limited
    exact wf.within_limit limited
  · intro file stored found linked
    exact wf.existsUnique_name found linked
  · intro handle opened found
    exact wf.openHandles_pos found
  · intro file present
    exact wf.reachable present
  · intro name
    exact ⟨isSome_content? store name,
      wf.isSome_durableContent? name⟩

end Store

end FileConformance
