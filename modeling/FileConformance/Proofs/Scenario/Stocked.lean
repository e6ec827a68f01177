import FileConformance.Proofs.Scenario.Turns
import FileConformance.Proofs.Store.Durability
import FileConformance.Proofs.Store.Settled

/-!
# What test files hold between steps

Bulk steps only ever empty test files, and a round trip writes one content
through a handle that was opened on the file and moved at most once, behind that
content.  So between steps a test file holds its content once, twice or not at
all, and its handle stands at its start or right behind the first.

If the name of a file is deleted then nothing is said of it: there is no way
back to it but through its old handle, and as soon as the name is created again
the file is bound to a handle on the new one.
-/

namespace FileConformance

open Store

namespace Bytes

/-- Some data once, twice or not at all. -/
inductive Repeats (data : Bytes) : Bytes → Prop where
  | absent : Repeats data []
  | once : Repeats data data
  | twice : Repeats data (data ++ data)

/-- Writing the data at a position gives it once or twice. -/
structure Poised (data content : Bytes) (position : Nat) : Prop where
  repeats : Repeats data content
  placed : position = 0 ∨
    position = data.length ∧ data.length ≤ content.length

variable {data content : Bytes} {position : Nat}

theorem overwrite_zero (content data : Bytes) :
    content.overwrite 0 data = data ++ content.drop data.length := by
  simp [overwrite, zeros]

theorem Poised.le_length (poised : Poised data content position) :
    position ≤ content.length := by
  rcases poised.placed with rfl | ⟨rfl, inside⟩
  · exact Nat.zero_le _
  · exact inside

theorem Poised.overwrite (poised : Poised data content position) :
    content.overwrite position data = data ∨
      content.overwrite position data = data ++ data := by
  rcases poised.placed with rfl | ⟨rfl, inside⟩
  · rw [overwrite_zero]
    cases poised.repeats with
    | absent => simp
    | once => simp
    | twice => simp
  · cases poised.repeats with
    | absent =>
        have empty : data = [] :=
          List.eq_nil_of_length_eq_zero (Nat.le_zero.mp inside)
        simp [empty, Bytes.overwrite, zeros]
    | once => simp [Bytes.overwrite, zeros]
    | twice => simp [Bytes.overwrite, zeros]

/-- Data is all there is if it begins at the start and nothing is behind it. -/
theorem overwrite_eq_iff :
    content.overwrite position data = data ↔
      position = 0 ∧ content.length ≤ data.length := by
  constructor
  · intro same
    have length := congrArg List.length same
    rw [length_overwrite] at length
    omega
  · rintro ⟨rfl, within⟩
    rw [overwrite_zero, List.drop_eq_nil_of_le within, List.append_nil]

end Bytes

namespace TrackedFile

/-- If its name exists, a file holds what steps leave, and so does its handle. -/
structure Stocked (expected : Bytes) (file : TrackedFile) (store : Store) :
    Prop where
  inStep : file.InStep store
  repeats : ∀ {number : Nat}, store.names[file.path]? = some number →
    expected.Repeats (store.live number)
  /-- The bound handle is open on what the name denotes. -/
  poised : ∀ {number : Nat} {handle : Handle} {opened : StoreHandle},
    store.names[file.path]? = some number →
      file.binding = .bound handle →
      store.handles.find? handle = some opened →
        opened.file = number ∧
          expected.Poised (store.live number) opened.position

variable {expected : Bytes} {file : TrackedFile} {store : Store}

theorem Stocked.of_unbound (unbound : file.binding = .unbound)
    (unnamed : store.names[file.path]? = none) :
    file.Stocked expected store where
  inStep := .of_unbound unbound store
  repeats := fun named => nomatch unnamed.symm.trans named
  poised := fun named => nomatch unnamed.symm.trans named

/-- A file without a live handle need only hold what steps leave. -/
theorem Stocked.of_unheld (inStep : file.InStep store)
    (unheld : ∀ handle, file.binding ≠ .bound handle)
    (repeats : ∀ {number : Nat}, store.names[file.path]? = some number →
      expected.Repeats (store.live number)) :
    file.Stocked expected store where
  inStep := inStep
  repeats := repeats
  poised := fun _ bound => (unheld _ bound).elim

theorem Stocked.of_unnamed (inStep : file.InStep store)
    (unnamed : store.names[file.path]? = none) :
    file.Stocked expected store where
  inStep := inStep
  repeats := fun named => nomatch unnamed.symm.trans named
  poised := fun named => nomatch unnamed.symm.trans named

/-- A file is bound to a handle on what its name denotes. -/
theorem Stocked.of_bound {handle : Handle} {number position : Nat}
    (bound : file.binding = .bound handle)
    (named : store.names[file.path]? = some number)
    (found : store.handles.find? handle =
      some ⟨number, file.path, position⟩)
    (poised : expected.Poised (store.live number) position) :
    file.Stocked expected store where
  inStep := by
    have same : file.bind handle = file := by
      rw [TrackedFile.bind, ← bound]
    rw [← same]
    exact .of_bind (by rw [nameOf?, found]; rfl)
  repeats := by
    intro other namedToo
    cases named.symm.trans namedToo
    exact poised.repeats
  poised := by
    intro other handleToo opened namedToo boundToo foundToo
    cases named.symm.trans namedToo
    cases bound.symm.trans boundToo
    cases found.symm.trans foundToo
    exact ⟨rfl, poised⟩

theorem stocked_lasts (expected : TrackedFile → Bytes) :
    Lasts fun file => file.Stocked (expected file) := by
  intro file store later names outside spares stocked
  have inStep := stocked.inStep
  have names_eq := spares.names_eq outside
  have named : ∀ {number : Nat},
      later.names[file.path]? = some number →
        store.names[file.path]? = some number :=
    fun there => names_eq.symm.trans there
  refine ⟨inStep_lasts outside spares inStep, ?_, ?_⟩
  · intro number there
    rw [spares.live_eq outside (named there)]
    exact stocked.repeats (named there)
  · intro number handle opened there bound found
    rcases Option.map_eq_some_iff.mp (inStep.bound bound) with
      ⟨held, holding, under⟩
    have kept := spares.find?_eq (by rw [under]; exact outside) holding
    cases kept.symm.trans found
    rw [spares.live_eq outside (named there)]
    exact stocked.poised (named there) bound holding

end TrackedFile

/-! ## Calls for a file -/

namespace Store

variable {rules : StoreSettings} {store : Store}

theorem Running.orderly (running : Running rules store) :
    store.Orderly where
  alive := running.alive
  issued := by
    intro handle name isOpen
    rcases Option.map_eq_some_iff.mp isOpen with ⟨opened, found, _⟩
    exact (running.handle_issued found).2

end Store

/-- A visit keeps to its file and leaves it stocked. -/
structure Leaves (rules : StoreSettings) (expected : Bytes)
    (file : TrackedFile) (store : Store) (moved : TrackedFile)
    (later : Store) : Prop where
  isolates : Isolates rules [file.path] store later
  same : file.Same moved
  stocked : moved.Stocked expected later

namespace Leaves

variable {rules : StoreSettings} {expected : Bytes}
  {file moved last : TrackedFile} {store middle later : Store}

theorem refl (sound : Sound rules store)
    (stocked : file.Stocked expected store) :
    Leaves rules expected file store file store :=
  ⟨.refl sound _, .refl file, stocked⟩

/-- A visit may begin with some calls on its file. -/
theorem after (leaves : Leaves rules expected moved middle last later)
    (first : Isolates rules [file.path] store middle)
    (same : file.Same moved) :
    Leaves rules expected file store last later where
  isolates := by
    have second := leaves.isolates
    rw [same.path_eq] at second
    exact first.again second
  same := ⟨leaves.same.index_eq.trans same.index_eq,
    leaves.same.name_eq.trans same.name_eq⟩
  stocked := leaves.stocked

end Leaves

namespace Bulk

variable {rules : StoreSettings} {expected : Bytes} {file : TrackedFile}
  {store : Store}

/-- A new handle is at the start of its file. -/
theorem stocked_of_opens {number : Nat}
    {reply : Reply Store (Except CallError Handle)}
    (opens : Opens rules file.path store number reply)
    (repeats : expected.Repeats (reply.state.live number)) :
    (file.rebind reply.answer).Stocked expected reply.state := by
  rw [rebind_of_opens opens]
  exact .of_bound rfl opens.named opens.found ⟨repeats, .inl rfl⟩

theorem create_leaves (sound : Sound rules store)
    (stocked : file.Stocked expected store) :
    Leaves rules expected file store
      (file.rebind (store.create file.path).answer)
      (store.create file.path).state := by
  refine ⟨sound.isolates_of_name (.create file.path) rfl,
    file.same_rebind _, ?_⟩
  by_cases admissible : rules.Accepts file.path ∧
      rules.HasRoom store.handles.size
  · rcases sound.toRunning.create_opens admissible.1 admissible.2 with
      ⟨number, opens, empty, _⟩
    apply stocked_of_opens opens
    rw [empty]
    exact .absent
  · rcases sound.toRunning.create_refused admissible with ⟨reason, same⟩
    rw [same]
    exact stocked

theorem openFile_leaves (sound : Sound rules store)
    (stocked : file.Stocked expected store) :
    Leaves rules expected file store
      (file.rebind (store.openFile file.path).answer)
      (store.openFile file.path).state := by
  refine ⟨sound.isolates_of_name (.openFile file.path) rfl,
    file.same_rebind _, ?_⟩
  by_cases admissible : ∃ number, rules.Accepts file.path ∧
      store.names[file.path]? = some number ∧
        rules.HasRoom store.handles.size
  · rcases admissible with ⟨number, accepted, named, room⟩
    rcases sound.toRunning.openFile_opens accepted named room with
      ⟨opens, kept, _⟩
    apply stocked_of_opens opens
    rw [kept]
    exact stocked.repeats named
  · rcases sound.toRunning.openFile_refused
      (not_exists.mp admissible) with ⟨reason, same⟩
    rw [same]
    exact stocked

/-- A file whose handle is closed is not bound to it any more. -/
theorem close_leaves (sound : Sound rules store)
    (stocked : file.Stocked expected store) {handle : Handle}
    (bound : file.binding = .bound handle) :
    Leaves rules expected file store file.release
      (store.close handle).state := by
  have isOpen := stocked.inStep.bound bound
  rcases Option.map_eq_some_iff.mp isOpen with ⟨opened, found, _⟩
  have closes := sound.toRunning.close_closes found
  have kept := (close_bound sound.toRunning.orderly stocked.inStep
    bound).2
  refine ⟨sound.isolates_of_handle (.close handle) rfl isOpen,
    file.same_release, .of_unheld kept.inStep ?_ ?_⟩
  · rw [TrackedFile.release_of_bound bound]
    exact nofun
  · intro number named
    rw [file.same_release.path_eq, closes.names_kept] at named
    rw [sound.toRunning.live_close found named]
    exact stocked.repeats named

theorem delete_leaves (sound : Sound rules store)
    (stocked : file.Stocked expected store) :
    Leaves rules expected file store file
      (store.delete file.path).state := by
  refine ⟨sound.isolates_of_name (.delete file.path) rfl, .refl file, ?_⟩
  cases admitted : store.admitDelete file.path with
  | error reason =>
      rw [delete_of_refused admitted]
      exact stocked
  | ok number =>
      have kept := stocked.inStep.of_same (delete_handles store file.path)
      exact .of_unnamed kept
        (unnamed_of_deleted (by rw [delete_of_admitted admitted]))

/-- Whatever a bulk visit comes to, its file stays stocked. -/
theorem visit_leaves (sound : Sound rules store)
    (stocked : file.Stocked expected store) (call : BulkCall)
    (expectation : Expectation) :
    (visit call expectation file).Yields Store.subsystem store
      fun made later =>
        Leaves rules expected file store made.file later := by
  cases call with
  | create =>
      exact Procedure.yields_one_call (create_leaves sound stocked)
  | openFile =>
      exact Procedure.yields_one_call (openFile_leaves sound stocked)
  | delete =>
      exact Procedure.yields_one_call (delete_leaves sound stocked)
  | close =>
      show (close expectation file).Yields Store.subsystem store _
      unfold close
      split
      · rename_i handle bound
        have answered := (close_bound sound.toRunning.orderly
          stocked.inStep bound).1
        apply Procedure.yields_one_call
        show Leaves rules expected file store
          (if (store.close handle).answer.isOk then file.release
            else file) (store.close handle).state
        rw [answered]
        exact close_leaves sound stocked bound
      · rename_i handle released
        apply Procedure.yields_one_call
        show Leaves rules expected file store file
          (store.close handle).state
        rw [close_released sound.toRunning.orderly stocked.inStep released]
        exact .refl sound stocked
      · exact Procedure.yields_pure (.refl sound stocked)

end Bulk

end FileConformance
