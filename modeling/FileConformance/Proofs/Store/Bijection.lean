import FileConformance.Proofs.Store.Backing
import FileConformance.Proofs.Store.Bystanders
import FileConformance.Proofs.Store.Space

/-!
# Stores that refuse to delete open files

A file loses its name only by being deleted.  A store that refuses to delete a
file with open handles therefore never keeps a file without its name: names and
files correspond one to one, and every handle is open on what the name denotes
under which it was opened.

So the names of the open handles tell which deletes will be refused, and a
delete that is not refused gives back its file with all its bytes at once.
-/

namespace FileConformance

namespace Store

/-- Every file has its name. -/
def AllLinked (store : Store) : Prop :=
  ∀ (file : Nat) (stored : StoredFile),
    store.files[file]? = some stored → stored.linked = true

/-- Every handle is open on what its name denotes. -/
def HandlesNamed (store : Store) : Prop :=
  ∀ (handle : Handle) (opened : StoreHandle),
    store.handles.find? handle = some opened →
      store.names[opened.name]? = some opened.file

/-- Every name that exists is one the settings accept. -/
def NamesAccepted (store : Store) : Prop :=
  ∀ (name : Bytes) (file : Nat),
    store.names[name]? = some file → store.settings.Accepts name

/-- A well-formed store that never parts a file from its name. -/
structure Anchored (store : Store) : Prop extends WellFormed store where
  rejects : store.settings.deleteOpen = .reject
  all_linked : store.AllLinked
  handles_named : store.HandlesNamed
  names_accepted : store.NamesAccepted

/-- A handle is open that was opened under a name. -/
def OpenedUnder (store : Store) (name : Bytes) : Prop :=
  ∃ handle opened, store.handles.find? handle = some opened ∧
    opened.name = name

/-- From one store to a later one, a name went, and its file with it. -/
structure Freed (name : Bytes) (file : Nat) (store later : Store) :
    Prop where
  name_gone : later.names[name]? = none
  file_gone : file ∉ later.files
  /-- Nothing waits on the file any more. -/
  queue_clear : Pending.onFile file later.pending = []
  /-- The space that the file took is free. -/
  usedBytes_eq :
    later.usedBytes + (store.live file).length = store.usedBytes

variable {store : Store}

/-! ## Files with their names -/

namespace AllLinked

/-- What changes a file but not its name leaves all files their names. -/
theorem of_getElem? {later : Store} (linked : store.AllLinked)
    (kept : ∀ {file : Nat} {changed : StoredFile},
      later.files[file]? = some changed →
        ∃ stored, store.files[file]? = some stored ∧
          changed.linked = stored.linked) : later.AllLinked := by
  intro file changed found
  rcases kept found with ⟨stored, before, same⟩
  rw [same]
  exact linked file stored before

theorem openHandle (linked : store.AllLinked) (file : Nat)
    (name : Bytes) : (store.openHandle file name).2.AllLinked := by
  refine linked.of_getElem? fun {other changed} found => ?_
  rw [getElem?_files_openHandle] at found
  split at found
  · rcases Option.map_eq_some_iff.mp found with ⟨stored, before, rfl⟩
    exact ⟨stored, before, rfl⟩
  · exact ⟨changed, found, rfl⟩

theorem flush (linked : store.AllLinked) (file : Nat) :
    (store.flush file).AllLinked := by
  refine linked.of_getElem? fun {other changed} found => ?_
  rw [getElem?_files_flush] at found
  split at found
  · rcases Option.map_eq_some_iff.mp found with ⟨stored, before, rfl⟩
    exact ⟨stored, before, rfl⟩
  · exact ⟨changed, found, rfl⟩

theorem fileToCreate (linked : store.AllLinked) (name : Bytes) :
    (store.fileToCreate name).2.AllLinked := by
  intro file stored found
  cases named : store.names[name]? with
  | some other =>
      rw [fileToCreate_of_named named] at found
      exact linked file stored found
  | none =>
      simp only [fileToCreate_of_free named, Std.ExtTreeMap.getElem?_insert,
        Std.LawfulEqOrd.compare_eq_iff_eq] at found
      split at found
      · cases found
        rfl
      · exact linked file stored found

/-- A file with its name outlasts its handles. -/
theorem surrender (linked : store.AllLinked) (handle : Handle)
    (file : Nat) : (store.surrender handle file).AllLinked := by
  refine linked.of_getElem? fun {other changed} found => ?_
  rw [getElem?_files_surrender] at found
  split at found
  · rcases Option.bind_eq_some_iff.mp found with ⟨stored, before, kept⟩
    rw [StoredFile.unlessOrphaned, Option.ite_none_left_eq_some] at kept
    exact ⟨stored, before, by rw [← Option.some.inj kept.2]⟩
  · exact ⟨changed, found, rfl⟩

/-- With its name goes a file without handles. -/
theorem unlink (linked : store.AllLinked) {name : Bytes} {file : Nat}
    (idle : store.handlesOn file = 0) : (store.unlink name file).AllLinked := by
  refine linked.of_getElem? fun {other changed} found => ?_
  rw [getElem?_files_unlink] at found
  split at found
  · rename_i same
    subst same
    rcases Option.bind_eq_some_iff.mp found with ⟨stored, before, kept⟩
    rw [handlesOn, before] at idle
    rw [StoredFile.unlessOrphaned, Option.ite_none_left_eq_some] at kept
    exact (kept.1 (by simpa using idle)).elim
  · exact ⟨changed, found, rfl⟩

theorem crash (linked : store.AllLinked) : store.crash.state.AllLinked := by
  refine linked.of_getElem? fun found => ?_
  rcases exists_linked_of_crash found with ⟨stored, before, _, rfl⟩
  exact ⟨stored, before, rfl⟩

end AllLinked

/-! ## Handles on what their names denote -/

namespace HandlesNamed

theorem fileToCreate (named : store.HandlesNamed) (name : Bytes) :
    (store.fileToCreate name).2.HandlesNamed := by
  intro handle opened found
  rw [fileToCreate_eq] at found
  have before := named handle opened found
  by_cases same : name = opened.name
  · rw [same, fileToCreate_of_named before]
    exact before
  · rw [names_fileToCreate_of_ne store
      fun equal => same (Option.some.inj equal)]
    exact before

theorem openHandle (named : store.HandlesNamed) {name : Bytes}
    {file : Nat} (denoted : store.names[name]? = some file) :
    (store.openHandle file name).2.HandlesNamed := by
  intro handle opened found
  rw [Store.openHandle, Registry.find?_insert] at found
  split at found
  · cases found
    exact denoted
  · exact named handle opened found

theorem surrender (named : store.HandlesNamed) (handle : Handle)
    (file : Nat) : (store.surrender handle file).HandlesNamed := by
  intro other opened found
  rw [surrender_eq, Registry.find?_remove] at found
  rw [surrender_eq]
  split at found
  · cases found
  · exact named other opened found

theorem advance (named : store.HandlesNamed) (handle : Handle)
    (count : Nat) : (store.advance handle count).HandlesNamed := by
  intro other moved found
  rw [Store.advance, Registry.find?_adjust] at found
  split at found
  · rcases Option.map_eq_some_iff.mp found with ⟨opened, before, rfl⟩
    exact named other opened before
  · exact named other moved found

theorem append (named : store.HandlesNamed) (handle : Handle)
    (opened : StoreHandle) (data : Bytes) :
    (store.append handle opened data).HandlesNamed := by
  have moved := named.advance handle data.length
  rw [append_eq]
  exact moved

/-- No handle is left that was opened under a name without handles. -/
theorem unlink (named : store.HandlesNamed) (wf : store.WellFormed)
    {name : Bytes} {file : Nat}
    (denoted : store.names[name]? = some file)
    (idle : store.handlesOn file = 0) :
    (store.unlink name file).HandlesNamed := by
  intro handle opened found
  rw [unlink_eq] at found ⊢
  have before := named handle opened found
  have different : name ≠ opened.name := by
    rintro rfl
    rw [denoted] at before
    have held := handlesOn_pos wf
      ⟨handle, opened, found, (Option.some.inj before).symm⟩
    exact Nat.ne_of_gt held idle
  simpa [Std.ExtTreeMap.getElem?_erase, different] using before

end HandlesNamed

/-! ## Acceptable names -/

namespace NamesAccepted

theorem fileToCreate (accepted : store.NamesAccepted) {name : Bytes}
    (acceptable : store.settings.Accepts name) :
    (store.fileToCreate name).2.NamesAccepted := by
  intro other file named
  have same : (store.fileToCreate name).2.settings = store.settings := by
    rw [fileToCreate_eq]
  rw [same]
  by_cases created : name = other
  · rw [← created]
    exact acceptable
  · rw [names_fileToCreate_of_ne store
      fun equal => created (Option.some.inj equal)] at named
    exact accepted other file named

theorem unlink (accepted : store.NamesAccepted) (name : Bytes)
    (file : Nat) : (store.unlink name file).NamesAccepted := by
  intro other found named
  rw [unlink_eq] at named ⊢
  simp only [Std.ExtTreeMap.getElem?_erase,
    Std.LawfulEqOrd.compare_eq_iff_eq] at named
  split at named
  · cases named
  · exact accepted other found named

end NamesAccepted

/-! ## Runs -/

namespace Anchored

theorem fresh {settings : StoreSettings}
    (rejects : settings.deleteOpen = .reject) (generator : Generator) :
    (Store.fresh settings generator).Anchored where
  toWellFormed := WellFormed.fresh settings generator
  rejects := rejects
  all_linked := by simp [AllLinked, Store.fresh]
  handles_named := by simp [HandlesNamed, Store.fresh]
  names_accepted := by simp [NamesAccepted, Store.fresh]

/-- Every transition keeps a store anchored. -/
theorem transition {later : Store} (anchored : store.Anchored)
    (changed : Transition store later) : later.Anchored := by
  have wf := anchored.toWellFormed
  have linked := anchored.all_linked
  have named := anchored.handles_named
  have accepted := anchored.names_accepted
  have rejects : later.settings.deleteOpen = .reject := by
    rw [changed.settings_eq]
    exact anchored.rejects
  have kept :
      later.AllLinked ∧ later.HandlesNamed ∧ later.NamesAccepted := by
    cases changed with
    | draw generator => exact ⟨linked, named, accepted⟩
    | @create name admitted =>
        have acceptable := (admitCreate_eq_ok_iff.mp admitted).2.1
        exact ⟨(linked.fileToCreate name).openHandle _ name,
          (named.fileToCreate name).openHandle
            (names_fileToCreate_self store name),
          accepted.fileToCreate acceptable⟩
    | openFile admitted =>
        have denoted := (admitOpen_eq_ok_iff.mp admitted).2.2.1
        exact ⟨linked.openHandle _ _, named.openHandle denoted, accepted⟩
    | @close handle opened admitted =>
        refine ⟨linked.surrender handle opened.file,
          named.surrender handle opened.file, ?_⟩
        rw [surrender_eq]
        exact accepted
    | advance count admitted =>
        exact ⟨linked, named.advance _ count, accepted⟩
    | @append handle opened data admitted room =>
        refine ⟨?_, named.append handle opened data, ?_⟩
        · rw [append_eq]
          exact linked
        · rw [append_eq]
          exact accepted
    | flush admitted =>
        exact ⟨linked.flush _, named, accepted⟩
    | unlink admitted =>
        rcases admitDelete_eq_ok_iff.mp admitted with
          ⟨_, _, denoted, idle⟩
        have unheld := idle anchored.rejects
        exact ⟨linked.unlink unheld, named.unlink wf denoted unheld,
          accepted.unlink _ _⟩
    | finish code vacant => exact ⟨linked, named, accepted⟩
    | crash =>
        refine ⟨linked.crash, ?_, accepted⟩
        intro handle opened found
        cases found.symm.trans (Registry.find?_empty handle)
  exact ⟨wf.transition changed, rejects, kept.1, kept.2.1, kept.2.2⟩

/-- A run keeps a store anchored. -/
theorem after (anchored : store.Anchored) (actions : List Action) :
    (store.after actions).Anchored :=
  (after_evolves store actions).induction transition anchored

/-! ## Names that are in use -/

/-- The name of a file with handles is the name they were opened under. -/
theorem handlesOn_pos_iff (anchored : store.Anchored) {name : Bytes}
    {file : Nat} (denoted : store.names[name]? = some file) :
    0 < store.handlesOn file ↔ store.OpenedUnder name := by
  have wf := anchored.toWellFormed
  constructor
  · intro positive
    rcases wf.named_linked denoted with ⟨stored, found, _⟩
    rw [handlesOn, found, Option.map_some, Option.getD_some,
      wf.openHandles_eq found, openCount, Registry.count_pos_iff] at positive
    rcases positive with ⟨handle, opened, there, same⟩
    have named := anchored.handles_named handle opened there
    rw [eq_of_beq same] at named
    exact ⟨handle, opened, there, wf.name_unique named denoted⟩
  · rintro ⟨handle, opened, there, rfl⟩
    have named := anchored.handles_named handle opened there
    rw [denoted] at named
    exact handlesOn_pos wf
      ⟨handle, opened, there, (Option.some.inj named).symm⟩

/-- A live store has only one reason not to delete a name that exists. -/
theorem admitDelete_eq (anchored : store.Anchored)
    (alive : store.exitStatus = none) {name : Bytes} {file : Nat}
    (denoted : store.names[name]? = some file) :
    store.admitDelete name =
      if 0 < store.handlesOn file then .error .busy else .ok file := by
  have acceptable := anchored.names_accepted name file denoted
  have living : store.checkAlive = .ok () :=
    checkAlive_eq_ok_iff.mpr alive
  have named : store.checkName name = .ok () :=
    checkName_eq_ok_iff.mpr acceptable
  have found := lookUp_eq_ok_iff.mpr denoted
  simp only [admitDelete, living, named, found, anchored.rejects, and_true]
  rfl

/-- With its name, a file without handles goes with all that it held. -/
theorem unlink_frees (anchored : store.Anchored) {name : Bytes}
    {file : Nat} (denoted : store.names[name]? = some file)
    (idle : store.handlesOn file = 0) :
    Freed name file store (store.unlink name file) := by
  have wf := anchored.toWellFormed
  rcases wf.named_linked denoted with ⟨stored, found, _⟩
  have unheld : stored.openHandles = 0 := by
    rw [handlesOn, found] at idle
    exact idle
  have missing : (store.unlink name file).files[file]? = none := by
    rw [getElem?_files_unlink, if_pos rfl, found]
    simp [StoredFile.unlessOrphaned, unheld]
  have gone : file ∉ (store.unlink name file).files := by
    rw [mem_files_iff, missing]
    rintro ⟨_, impossible⟩
    cases impossible
  have others : ∀ other, other ∈ (store.unlink name file).files ↔
      other ≠ file ∧ other ∈ store.files := by
    intro other
    by_cases same : file = other
    · subst same
      simp [gone]
    · rw [mem_files_iff, getElem?_files_unlink, if_neg same, mem_files_iff]
      simp [Ne.symm same]
  refine ⟨?_, gone, ?_, ?_⟩
  · rw [unlink_eq]
    exact Std.ExtTreeMap.getElem?_erase_self
  · apply Pending.onFile_eq_nil
    intro operation waiting same
    have present := (wf.unlink denoted).pending_present operation waiting
    rw [same] at present
    exact gone present
  · exact usedBytes_of_dropped (mem_files_iff.mpr ⟨stored, found⟩) others
      fun other there => live_unlink there

/-- A delete is refused as long as the name's file is in use. -/
theorem delete_busy_iff (anchored : store.Anchored)
    (alive : store.exitStatus = none) {name : Bytes} {file : Nat}
    (denoted : store.names[name]? = some file) :
    (store.delete name).answer = .error .busy ↔ store.OpenedUnder name := by
  rw [← anchored.handlesOn_pos_iff denoted]
  have admission := anchored.admitDelete_eq alive denoted
  split at admission
  · rename_i busy
    rw [delete_of_refused admission]
    exact iff_of_true rfl busy
  · rename_i idle
    rw [delete_of_admitted admission]
    simp [idle]

/-- A delete that is not refused frees the file. -/
theorem delete_frees (anchored : store.Anchored)
    (alive : store.exitStatus = none) {name : Bytes} {file : Nat}
    (denoted : store.names[name]? = some file)
    (unused : ¬store.OpenedUnder name) :
    (store.delete name).answer = .ok () ∧
      Freed name file store (store.delete name).state := by
  rw [← anchored.handlesOn_pos_iff denoted] at unused
  have admission := anchored.admitDelete_eq alive denoted
  rw [if_neg unused] at admission
  rw [delete_of_admitted admission]
  exact ⟨rfl, anchored.unlink_frees denoted (Nat.eq_zero_of_not_pos unused)⟩

end Anchored

/--
Whatever is done to a store that was made without files and refuses to delete
open files, crashes and the end of its process included, names and files
correspond one to one, and every handle is open on the file of the name under
which it was opened.  So a live store refuses to delete a name exactly as long
as a handle is open that was opened under it, and else frees the file with all
its bytes.
-/
theorem rejecting_bijection_after_fresh {settings : StoreSettings}
    (rejects : settings.deleteOpen = .reject) (generator : Generator)
    (actions : List Action) :
    let store := (fresh settings generator).after actions
    (∀ file ∈ store.files, ∃! name : Bytes,
      store.names[name]? = some file) ∧
      (∀ (name : Bytes) (file : Nat), store.names[name]? = some file →
        file ∈ store.files) ∧
      (∀ (file : Nat) (stored : StoredFile),
        store.files[file]? = some stored → stored.linked = true) ∧
      (∀ (handle : Handle) (opened : StoreHandle),
        store.handles.find? handle = some opened →
          store.names[opened.name]? = some opened.file) ∧
      ∀ (name : Bytes) (file : Nat), store.names[name]? = some file →
        store.exitStatus = none →
          ((store.delete name).answer = .error .busy ↔
            store.OpenedUnder name) ∧
          (¬store.OpenedUnder name →
            (store.delete name).answer = .ok () ∧
              Freed name file store (store.delete name).state) := by
  intro store
  have anchored : store.Anchored := (Anchored.fresh rejects generator).after
    actions
  have wf := anchored.toWellFormed
  refine ⟨?_, ?_, anchored.all_linked, anchored.handles_named, ?_⟩
  · intro file there
    rcases mem_files_iff.mp there with ⟨stored, found⟩
    exact wf.existsUnique_name found (anchored.all_linked file stored found)
  · intro name file denoted
    rcases wf.named_linked denoted with ⟨stored, found, _⟩
    exact mem_files_iff.mpr ⟨stored, found⟩
  · intro name file denoted alive
    exact ⟨anchored.delete_busy_iff alive denoted,
      anchored.delete_frees alive denoted⟩

/-- After a crash one of two files is opened again, and the other deleted. -/
theorem rejecting_bijection_after_fresh_crash :
    let settings : StoreSettings := { deleteOpen := .reject }
    let actions : List Action :=
      [.call (.create [97]), .call (.create [98]),
        .call (.write ⟨3⟩ [5, 6]), .call (.close ⟨3⟩), .crash,
        .call (.openFile [97])]
    let store := (fresh settings (.ofSeed 0)).after actions
    settings.deleteOpen = .reject ∧
      (∃! name : Bytes, store.names[name]? = some 2) ∧
      (store.delete [97]).answer = .error .busy ∧
      (store.delete [98]).answer = .ok () ∧
      Freed [98] 2 store (store.delete [98]).state ∧
      store.usedBytes = 2 ∧
      (store.delete [98]).state.usedBytes = 0 := by
  intro settings actions store
  have main := rejecting_bijection_after_fresh
    (show settings.deleteOpen = .reject from rfl) (.ofSeed 0) actions
  have alive : store.exitStatus = none := by decide +kernel
  have first : store.names[([97] : Bytes)]? = some 1 := by decide +kernel
  have second : store.names[([98] : Bytes)]? = some 2 := by decide +kernel
  have there : 2 ∈ store.files := by decide +kernel
  have reopened : store.handles.find? ⟨4⟩ = some ⟨1, [97], 0⟩ := by
    decide +kernel
  have deleted : (store.delete [98]).answer ≠ .error .busy := by
    decide +kernel
  have used : store.usedBytes = 2 := by decide +kernel
  have left : (store.delete [98]).state.usedBytes = 0 := by decide +kernel
  have unique := main.1 2 there
  have deletes := main.2.2.2.2
  have busy := (deletes [97] 1 first alive).1.mpr ⟨_, _, reopened, rfl⟩
  have unused : ¬store.OpenedUnder [98] := fun opened =>
    deleted ((deletes [98] 2 second alive).1.mpr opened)
  have frees := (deletes [98] 2 second alive).2 unused
  exact ⟨rfl, unique, busy, frees.1, frees.2, used, left⟩

end Store

end FileConformance
