import FileConformance.Proofs.Scenario.Stocked

/-!
# What a round trip leaves in its file

A round trip through a stocked file writes its content at the start or right
behind the first one.  Whatever was read back is then the content, for it is
read from the start.  So the check does not tell whether the file holds its
content once or twice: it passes exactly if the name of the file exists and can
be opened and the data fits, and then all that the file holds is durable.
-/

namespace FileConformance

open Store

namespace Bytes

/-- The content is read back, whatever is behind it. -/
theorem slice_of_written {expected content : Bytes}
    (written : content = expected ∨ content = expected ++ expected) :
    content.slice 0 expected.length = expected := by
  rcases written with rfl | rfl
  · exact slice_all _
  · rw [slice, List.drop_zero, List.take_left]

/-- After it was read the handle is right behind it. -/
theorem poised_of_written {expected content : Bytes}
    (written : content = expected ∨ content = expected ++ expected) :
    expected.Poised content expected.length := by
  rcases written with rfl | rfl
  · exact ⟨.once, .inr ⟨rfl, Nat.le_refl _⟩⟩
  · refine ⟨.twice, .inr ⟨rfl, ?_⟩⟩
    rw [List.length_append]
    exact Nat.le_add_right _ _

end Bytes

namespace Store.Running

variable {rules : StoreSettings} {store : Store} {handle : Handle}
  {opened : StoreHandle}

/-- Closing a handle makes durable what its file holds. -/
theorem durable_close_self (running : Running rules store)
    (found : store.handles.find? handle = some opened) :
    (store.close handle).state.durable opened.file =
      (store.close handle).state.live opened.file := by
  have admitted := running.admitHandle_iff.mpr found
  rw [close_of_admitted admitted]
  exact (live_of_settled
    (onFile_pending_surrender_self store handle opened.file)).symm

end Store.Running

namespace TrackedFile

/-- The file that a name denotes holds its content once or twice. -/
def Written (expected : Bytes) (file : TrackedFile) (store : Store) :
    Prop :=
  ∀ number, store.names[file.path]? = some number →
    store.live number = expected ∨
      store.live number = expected ++ expected

/-- What the name of a file denotes can be opened, and holds a content. -/
def Offers (rules : StoreSettings) (file : TrackedFile) (store : Store)
    (content : Bytes) : Prop :=
  rules.Accepts file.path ∧ ∃ number,
    store.names[file.path]? = some number ∧ store.live number = content

/--
The bound handle of a file is open on what its name denotes, the name can be
opened, and the data fits: writing it will leave a content.
-/
def Delivers (rules : StoreSettings) (expected : Bytes)
    (file : TrackedFile) (store : Store) (content : Bytes) : Prop :=
  ∃ handle opened, file.binding = .bound handle ∧
    store.handles.find? handle = some opened ∧
    rules.Accepts file.path ∧
    store.names[file.path]? = some opened.file ∧
    rules.HasSpace store.usedBytes (store.growth opened expected) ∧
    (store.live opened.file).overwrite opened.position expected = content

end TrackedFile

namespace RoundTrip

variable {rules : StoreSettings} {expected : Bytes} {file : TrackedFile}
  {store : Store} {handle : Handle}

/--
What is left of a trip for which some contents are on offer: it passes if there
is one, and then the file holds it.
-/
structure Made (rules : StoreSettings) (expected : Bytes)
    (file : TrackedFile) (store : Store) (offered : Bytes → Prop)
    (made : Visit) (later : Store) : Prop where
  leaves : Leaves rules expected file store made.file later
  passes_iff : made.check.outcome = .pass ↔ ∃ content, offered content
  holds : ∀ content, offered content →
    made.file.binding.isBound = true ∧
      later.content? file.path = some content ∧
      later.durableContent? file.path = some content

namespace Made

variable {moved : TrackedFile} {middle later : Store}
  {offered before : Bytes → Prop} {made : Visit}

/-- A trip may be cut short. -/
theorem of_stopped (leaves : Leaves rules expected file store moved later)
    (stage : Stage) (passed : Option Handle) (reason : Option CallError)
    (nothing : ∀ content, ¬offered content) :
    Made rules expected file store offered
      ⟨stopped file stage passed reason, moved⟩ later where
  leaves := leaves
  passes_iff := iff_of_false nofun
    fun ⟨content, offers⟩ => nothing content offers
  holds := fun content offers => (nothing content offers).elim

/-- A trip may begin with some calls on its file. -/
theorem after (rest : Made rules expected moved middle offered made later)
    (first : Isolates rules [file.path] store middle)
    (same : file.Same moved)
    (offers_iff : ∀ content, before content ↔ offered content) :
    Made rules expected file store before made later where
  leaves := rest.leaves.after first same
  passes_iff := by
    rw [rest.passes_iff]
    exact exists_congr fun content => (offers_iff content).symm
  holds := by
    intro content offers
    rw [← same.path_eq]
    exact rest.holds content ((offers_iff content).mp offers)

end Made

theorem outcome_compared_self (file : TrackedFile) (handle : Handle)
    (content : Bytes) :
    (compared file handle content content).outcome = .pass := by
  have same : firstDifference? content content = none :=
    differenceFrom_eq_none_iff.mpr rfl
  rw [compared, same]

/-! ## One call after the other -/

theorem readBack_made (sound : Sound rules store)
    (faultless : rules.Faultless) {number : Nat}
    (bound : file.binding = .bound handle)
    (found : store.handles.find? handle = some ⟨number, file.path, 0⟩)
    (named : store.names[file.path]? = some number)
    (whole : store.live number = expected ∨
      store.live number = expected ++ expected)
    (durable : store.durable number = store.live number) :
    (readBack expected file handle).Yields Store.subsystem store
      (Made rules expected file store (store.live number = ·)) := by
  let buffer := Bytes.zeros expected.length
  have data := Bytes.slice_of_written whole
  have moved : (store.read handle buffer).state =
      store.advance handle expected.length := by
    have admitted := sound.toRunning.admitHandle_iff.mpr found
    rw [← sound.settings_eq] at faultless
    rw [← Bytes.length_zeros expected.length] at data
    rw [read_of_faultless faultless admitted buffer]
    exact congrArg
      (fun data => store.advance handle (List.length data)) data
  have isolates := sound.isolates_of_handle (.read handle buffer) rfl
    (show store.nameOf? handle = some file.path by rw [nameOf?, found]; rfl)
  have stocked : file.Stocked expected (store.read handle buffer).state := by
    rw [moved]
    refine .of_bound bound named ?_ (Bytes.poised_of_written whole)
    rw [advance, Registry.find?_adjust, if_pos rfl, found, Option.map_some,
      Nat.zero_add]
  apply (readBack_compares sound.toRunning faultless found data).mono
  rintro visit later ⟨rfl, rfl⟩
  refine ⟨⟨isolates, .refl file, stocked⟩, ?_, ?_⟩
  · exact iff_of_true (outcome_compared_self file handle expected)
      ⟨_, rfl⟩
  · rintro content rfl
    refine ⟨by rw [Binding.isBound, bound]; rfl, ?_, ?_⟩
    · rw [content?, moved]
      exact congrArg (Option.map _) named
    · have wf : (store.read handle buffer).state.WellFormed :=
        isolates.toWellFormed
      rw [wf.durableContent?_eq, moved, ← durable]
      exact congrArg (Option.map _) named

/-- A file whose name denotes a content offers just that. -/
theorem offers_iff {number : Nat} (accepted : rules.Accepts file.path)
    (named : store.names[file.path]? = some number) (content : Bytes) :
    file.Offers rules store content ↔ store.live number = content := by
  constructor
  · rintro ⟨_, other, there, rfl⟩
    cases named.symm.trans there
    rfl
  · exact fun holds => ⟨accepted, number, named, holds⟩

theorem reopen_made (sound : Sound rules store)
    (faultless : rules.Faultless) (inStep : file.InStep store)
    (unheld : ∀ handle, file.binding ≠ .bound handle)
    (room : rules.HasRoom store.handles.size)
    (written : file.Written expected store)
    (durable : ∀ number, store.names[file.path]? = some number →
      store.durable number = store.live number) :
    (reopen expected file).Yields Store.subsystem store
      (Made rules expected file store (file.Offers rules store)) := by
  apply Procedure.yields_bind
  apply Procedure.yields_request
  by_cases admissible : ∃ number, rules.Accepts file.path ∧
      store.names[file.path]? = some number ∧
        rules.HasRoom store.handles.size
  · rcases admissible with ⟨number, accepted, named, _⟩
    rcases sound.toRunning.openFile_opens accepted named room with
      ⟨opens, kept, _⟩
    have admitted := sound.toRunning.admitOpen_iff.mpr
      ⟨accepted, named, room⟩
    have isolates := sound.isolates_of_name (.openFile file.path) rfl
    have whole := written number named
    have durableToo : (store.openFile file.path).state.durable number =
        (store.openFile file.path).state.live number := by
      rw [kept, ← durable number named, openFile_of_admitted admitted]
      exact durable_openHandle store number file.path number
    rw [← kept] at whole
    have bound : (file.bind ⟨store.nextHandle⟩).binding =
        .bound ⟨store.nextHandle⟩ := rfl
    have rest := readBack_made isolates.toSound faultless bound
      opens.found opens.named whole durableToo
    have answered : (Store.subsystem.respond (.openFile file.path)
        store).answer = .ok ⟨store.nextHandle⟩ :=
      opens.answer_eq
    rw [answered]
    apply rest.mono
    intro made later trip
    refine trip.after isolates (file.same_bind _) fun content => ?_
    show file.Offers rules store content ↔
      (store.openFile file.path).state.live number = content
    rw [kept]
    exact offers_iff accepted named content
  · rcases sound.toRunning.openFile_refused (not_exists.mp admissible)
      with ⟨reason, refused⟩
    replace refused : Store.subsystem.respond (.openFile file.path) store =
        store.refuse reason := refused
    rw [refused]
    apply Procedure.yields_pure
    refine .of_stopped (.refl sound (.of_unheld inStep unheld ?_)) .reopen
      none _ ?_
    · intro number named
      rcases written number named with once | twice
      · rw [once]
        exact .once
      · rw [twice]
        exact .twice
    · rintro content ⟨accepted, number, named, _⟩
      exact admissible ⟨number, accepted, named, room⟩

theorem closeWritten_made (sound : Sound rules store)
    (faultless : rules.Faultless) (inStep : file.InStep store)
    (bound : file.binding = .bound handle) {opened : StoreHandle}
    (found : store.handles.find? handle = some opened)
    (written : file.Written expected store)
    (leads : ∀ number, store.names[file.path]? = some number →
      opened.file = number) :
    (closeWritten expected file handle).Yields Store.subsystem store
      (Made rules expected file store (file.Offers rules store)) := by
  have closes := sound.toRunning.close_closes found
  have isolates := sound.isolates_of_handle (.close handle) rfl
    (inStep.bound bound)
  have kept := (close_bound sound.toRunning.orderly inStep bound).2.inStep
  have path_eq := file.same_release.path_eq
  have before : ∀ {number : Nat},
      (store.close handle).state.names[file.release.path]? = some number →
        store.names[file.path]? = some number := by
    intro number named
    rw [path_eq, closes.names_kept] at named
    exact named
  have unheld : ∀ other, file.release.binding ≠ .bound other := by
    rw [TrackedFile.release_of_bound bound]
    exact nofun
  -- The handle that was given back makes room for the next one.
  have room : rules.HasRoom (store.close handle).state.handles.size := by
    intro limit limited
    rw [← sound.settings_eq] at limited
    have within := sound.within_limit limited
    rw [← closes.size_eq] at within
    exact within
  have writtenToo :
      file.release.Written expected (store.close handle).state := by
    intro number named
    rw [sound.toRunning.live_close found (before named)]
    exact written number (before named)
  have durable : ∀ number,
      (store.close handle).state.names[file.release.path]? = some number →
        (store.close handle).state.durable number =
          (store.close handle).state.live number := by
    intro number named
    rw [← leads number (before named)]
    exact sound.toRunning.durable_close_self found
  have answered : (Store.subsystem.respond (.close handle)
      store).answer = .ok () :=
    closes.answer_eq
  apply Procedure.yields_bind
  apply Procedure.yields_request
  rw [answered]
  apply (reopen_made isolates.toSound faultless kept unheld room writtenToo
    durable).mono
  intro made later trip
  refine trip.after isolates file.same_release fun content => ?_
  rw [TrackedFile.Offers, TrackedFile.Offers, path_eq]
  refine and_congr_right fun _ => exists_congr fun number => ?_
  rw [show (Store.subsystem.respond (.close handle) store).state.names =
    store.names from closes.names_kept]
  refine and_congr_right fun named => ?_
  rw [show (Store.subsystem.respond (.close handle) store).state.live
    number = store.live number from
      sound.toRunning.live_close found named]

section

variable (sound : Sound rules store) (faultless : rules.Faultless)
  (stocked : file.Stocked expected store)
  (bound : file.binding = .bound handle) {opened : StoreHandle}
  (found : store.handles.find? handle = some opened)

include sound faultless stocked bound found

/-- Data that fits is written, and the rest of the trip decides. -/
theorem visit_made_of_space
    (space : rules.HasSpace store.usedBytes
      (store.growth opened expected)) :
    (visit expected file).Yields Store.subsystem store
      (Made rules expected file store
        (file.Delivers rules expected store)) := by
  have puts := sound.toRunning.write_puts faultless found space
  have isolates := sound.isolates_of_handle (.write handle expected)
    rfl (stocked.inStep.bound bound)
  have kept := stocked.inStep.of_same (write_handles store handle expected)
  have before : ∀ {number : Nat},
      (store.write handle expected).state.names[file.path]? =
        some number → store.names[file.path]? = some number := by
    intro number named
    rw [puts.names_kept] at named
    exact named
  have content : ∀ {number : Nat},
      store.names[file.path]? = some number → opened.file = number ∧
        (store.write handle expected).state.live number =
          (store.live opened.file).overwrite opened.position expected := by
    intro number named
    rcases stocked.poised named bound found with ⟨rfl, poised⟩
    exact ⟨rfl, puts.live_opened (.inr poised.le_length)⟩
  have written :
      file.Written expected (store.write handle expected).state := by
    intro number named
    rcases stocked.poised (before named) bound found with ⟨same, poised⟩
    rw [(content (before named)).2, same]
    exact poised.overwrite
  have live : file.binding.live? = some handle := by
    rw [bound]
    rfl
  have answered : (Store.subsystem.respond (.write handle expected)
      store).answer = .ok expected.length :=
    puts.answer_eq
  rw [visit, live]
  apply Procedure.yields_bind
  apply Procedure.yields_request
  rw [answered]
  dsimp only
  rw [if_pos rfl]
  apply (closeWritten_made isolates.toSound faultless kept bound
    puts.found written
    fun number named => (content (before named)).1).mono
  intro made later trip
  refine trip.after isolates (.refl file) fun given => ?_
  constructor
  · rintro ⟨other, held, boundToo, foundToo, accepted, named, _, rfl⟩
    cases bound.symm.trans boundToo
    cases found.symm.trans foundToo
    refine ⟨accepted, opened.file, ?_, (content named).2⟩
    exact (congrArg (·[file.path]?) puts.names_kept).trans named
  · rintro ⟨accepted, number, named, rfl⟩
    have there := before named
    refine ⟨handle, opened, bound, found, accepted, ?_, space, ?_⟩
    · rw [(content there).1]
      exact there
    · exact (content there).2.symm

/-- Data that does not fit is refused, and nothing is offered. -/
theorem visit_made_of_full
    (full : ¬rules.HasSpace store.usedBytes
      (store.growth opened expected)) :
    (visit expected file).Yields Store.subsystem store
      (Made rules expected file store
        (file.Delivers rules expected store)) := by
  rcases sound.toRunning.write_refused faultless found full with
    ⟨reason, refused⟩
  have live : file.binding.live? = some handle := by
    rw [bound]
    rfl
  replace refused : Store.subsystem.respond (.write handle expected) store =
      store.refuse reason := refused
  rw [visit, live]
  apply Procedure.yields_bind
  apply Procedure.yields_request
  rw [refused]
  apply Procedure.yields_pure
  refine .of_stopped (.refl sound stocked) .write _ _ ?_
  rintro content ⟨other, held, boundToo, foundToo, _, _, fits, _⟩
  cases bound.symm.trans boundToo
  cases found.symm.trans foundToo
  exact full fits

end

/-- What a round trip through a stocked file comes to. -/
theorem visit_made (sound : Sound rules store)
    (faultless : rules.Faultless) (stocked : file.Stocked expected store) :
    (visit expected file).Yields Store.subsystem store
      (Made rules expected file store
        (file.Delivers rules expected store)) := by
  cases live : file.binding.live? with
  | none =>
      rw [visit, live]
      apply Procedure.yields_pure
      refine .of_stopped (.refl sound stocked) .notBound none none ?_
      rintro content ⟨handle, _, bound, _⟩
      rw [bound] at live
      cases live
  | some handle =>
      have bound := Binding.eq_bound_of_live? live
      rcases Option.map_eq_some_iff.mp (stocked.inStep.bound bound) with
        ⟨opened, found, _⟩
      by_cases space : rules.HasSpace store.usedBytes
          (store.growth opened expected)
      · exact visit_made_of_space sound faultless stocked bound found space
      · exact visit_made_of_full sound faultless stocked bound found space

end RoundTrip

end FileConformance
