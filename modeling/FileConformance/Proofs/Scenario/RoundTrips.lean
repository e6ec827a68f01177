import FileConformance.Proofs.Scenario.Visits
import FileConformance.RoundTrip

/-!
# What a round trip comes to

On a store without faults an empty file passes its round trip exactly if its
content still fits.  What was written is what is read back: closing and opening
again moves no content, and the comparison of a content with itself finds no
difference.
-/

namespace FileConformance

open Store

namespace Bytes

/-- Reading a whole content gives the content. -/
theorem slice_all (content : Bytes) :
    content.slice 0 content.length = content := by
  rw [slice, List.drop_zero, List.take_length]

theorem take_place (buffer data : Bytes) :
    (buffer.place data).take data.length = data := by
  rw [place, List.take_left]

theorem overwrite_nil (data : Bytes) : overwrite [] 0 data = data := by
  simp [overwrite, zeros]

end Bytes

namespace Carried

variable {rules : StoreSettings} {file moved : TrackedFile}
  {store middle later : Store} {visit : Visit}

/-- A visit may begin with some calls on its file. -/
theorem after (carried : Carried rules moved middle visit later)
    (first : Follows rules [file.path] store middle)
    (index_eq : moved.index = file.index)
    (name_eq : moved.name = file.name) :
    Carried rules file store visit later := by
  have path_eq : moved.path = file.path := by
    rw [TrackedFile.path, name_eq, TrackedFile.path]
  have second := carried.toFollows
  rw [path_eq] at second
  exact {
    first.again second with
    index_eq := carried.index_eq.trans index_eq
    name_eq := carried.name_eq.trans name_eq }

end Carried

namespace TrackedFile

theorem release_of_bound {file : TrackedFile} {handle : Handle}
    (bound : file.binding = .bound handle) :
    file.release = { file with binding := .released handle } := by
  rw [release, bound]

end TrackedFile

namespace RoundTrip

/-- No difference is found between equal contents, and only there. -/
theorem differenceFrom_eq_none_iff {offset : Nat}
    {expected actual : Bytes} :
    differenceFrom offset expected actual = none ↔ expected = actual := by
  induction expected generalizing offset actual with
  | nil =>
      cases actual with
      | nil => exact iff_of_true rfl rfl
      | cons byte rest => exact iff_of_false nofun nofun
  | cons byte rest ih =>
      cases actual with
      | nil => exact iff_of_false nofun nofun
      | cons other others =>
          rw [differenceFrom, List.cons.injEq]
          split
          · rename_i same
            rw [ih]
            exact (and_iff_right same).symm
          · rename_i different
            exact iff_of_false nofun fun same => different same.1

theorem isFailure_compared_iff {file : TrackedFile} {handle : Handle}
    {expected actual : Bytes} :
    (compared file handle expected actual).isFailure = false ↔
      expected = actual := by
  rw [← @differenceFrom_eq_none_iff 0, ← firstDifference?,
    compared]
  cases firstDifference? expected actual with
  | none => exact iff_of_true rfl rfl
  | some offset => exact iff_of_false nofun nofun

theorem compared_self (file : TrackedFile) (handle : Handle)
    (content : Bytes) :
    (compared file handle content content).isFailure = false :=
  isFailure_compared_iff.mpr rfl

variable {rules : StoreSettings} {store : Store} {file : TrackedFile}
  {handle : Handle} {number : Nat} {expected : Bytes}

/-- The visit passes, and the file is as it was but for what was written. -/
structure Passed (rules : StoreSettings) (file : TrackedFile)
    (store : Store) (visit : Visit) (later : Store) : Prop
    extends Carried rules file store visit later where
  passes : visit.check.isFailure = false
  attached : visit.file.Attached later

/-- What was written is read back whole, and compared with itself. -/
theorem readBack_compares (running : Running rules store)
    (faultless : rules.Faultless) {opened : StoreHandle}
    (found : store.handles.find? handle = some opened)
    (whole : (store.live opened.file).slice opened.position
      expected.length = expected) :
    (readBack expected file handle).Yields Store.subsystem store
      fun visit later =>
        visit = ⟨compared file handle expected expected, file⟩ ∧
          later =
            (store.read handle (Bytes.zeros expected.length)).state := by
  have reads := (running.read_reads faultless
    (Bytes.zeros expected.length) found).1
  have data : (store.live opened.file).slice opened.position
      (Bytes.zeros expected.length).length = expected := by
    rw [Bytes.length_zeros]
    exact whole
  have counted : (Store.subsystem.respond (.read handle
      (Bytes.zeros expected.length)) store).answer.count =
        .ok expected.length := by
    show (store.read handle (Bytes.zeros expected.length)).answer.count =
      .ok expected.length
    rw [reads.count_eq]
    exact congrArg (fun data => Except.ok (List.length data)) data
  have received : (Store.subsystem.respond (.read handle
      (Bytes.zeros expected.length)) store).answer.buffer.take
        expected.length = expected := by
    show (store.read handle (Bytes.zeros
      expected.length)).answer.buffer.take expected.length = expected
    rw [reads.buffer_eq, data, Bytes.take_place]
  apply Procedure.yields_bind
  apply Procedure.yields_request
  rw [counted]
  dsimp only
  rw [if_pos (Nat.le_refl _), received]
  exact Procedure.yields_pure ⟨rfl, rfl⟩

theorem readBack_yields (running : Running rules store)
    (faultless : rules.Faultless)
    (bound : file.binding = .bound handle)
    (found : store.handles.find? handle = some ⟨number, file.path, 0⟩)
    (named : store.names[file.path]? = some number)
    (content : store.live number = expected) :
    (readBack expected file handle).Yields Store.subsystem store
      fun visit later =>
        Passed rules file store visit later ∧
          later.handles.size = store.handles.size ∧
          later.usedBytes = store.usedBytes := by
  rcases running.read_reads faultless (Bytes.zeros expected.length)
    found with ⟨reads, position, moved⟩
  have whole : (store.live number).slice 0 expected.length = expected := by
    rw [content, Bytes.slice_all]
  apply (readBack_compares running faultless found whole).mono
  rintro visit later ⟨rfl, rfl⟩
  have still : (store.read handle (Bytes.zeros
      expected.length)).state.names[file.path]? = some number := by
    rw [reads.names_kept]
    exact named
  refine ⟨?_, reads.size_eq, reads.usedBytes_eq⟩
  exact {
    reads.toFollows with
    index_eq := rfl
    name_eq := rfl
    passes := compared_self file handle expected
    attached := ⟨handle, _, bound, moved, rfl, still⟩ }

theorem reopen_yields (running : Running rules store)
    (faultless : rules.Faultless)
    (accepted : rules.Accepts file.path)
    (room : rules.HasRoom store.handles.size)
    (named : store.names[file.path]? = some number)
    (content : store.live number = expected) :
    (reopen expected file).Yields Store.subsystem store
      fun visit later =>
        Passed rules file store visit later ∧
          later.handles.size = store.handles.size + 1 ∧
          later.usedBytes = store.usedBytes := by
  rcases running.openFile_opens accepted named room with
    ⟨opens, kept, used⟩
  have bound : (file.bind ⟨store.nextHandle⟩).binding =
      .bound ⟨store.nextHandle⟩ :=
    rfl
  have rest := readBack_yields opens.toRunning faultless bound opens.found
    opens.named (kept.trans content)
  have answered : (Store.subsystem.respond (.openFile file.path)
      store).answer = .ok ⟨store.nextHandle⟩ :=
    opens.answer_eq
  apply Procedure.yields_bind
  apply Procedure.yields_request
  rw [answered]
  apply rest.mono
  rintro visit later ⟨passed, size, same⟩
  refine ⟨?_, size.trans opens.size_eq, same.trans used⟩
  exact {
    passed.toCarried.after opens.toFollows rfl rfl with
    passes := passed.passes
    attached := passed.attached }

theorem closeWritten_yields (running : Running rules store)
    (faultless : rules.Faultless)
    (accepted : rules.Accepts file.path) {opened : StoreHandle}
    (bound : file.binding = .bound handle)
    (found : store.handles.find? handle = some opened)
    (under : opened.name = file.path)
    (named : store.names[file.path]? = some opened.file)
    (content : store.live opened.file = expected) :
    (closeWritten expected file handle).Yields Store.subsystem store
      fun visit later =>
        Passed rules file store visit later ∧
          later.handles.size = store.handles.size ∧
          later.usedBytes = store.usedBytes := by
  have closes := running.close_closes found
  rcases running.close_contents found named with ⟨kept, used⟩
  have release := TrackedFile.release_of_bound bound
  have index_eq : file.release.index = file.index := by rw [release]
  have name_eq : file.release.name = file.name := by rw [release]
  have path_eq : file.release.path = file.path := by
    rw [TrackedFile.path, name_eq, TrackedFile.path]
  have first : Follows rules [file.path] store
      (store.close handle).state := by
    rw [← under]
    exact closes.toFollows
  -- The handle that was given back makes room for the next one.
  have room : rules.HasRoom (store.close handle).state.handles.size := by
    intro limit limited
    rw [← running.settings_eq] at limited
    have within := running.within_limit limited
    rw [← closes.size_eq] at within
    exact within
  have still : (store.close handle).state.names[file.release.path]? =
      some opened.file := by
    rw [closes.names_kept, path_eq]
    exact named
  rw [← path_eq] at accepted
  have rest := reopen_yields closes.toRunning faultless accepted room
    still (kept.trans content)
  have answered : (Store.subsystem.respond (.close handle)
      store).answer = .ok () :=
    closes.answer_eq
  apply Procedure.yields_bind
  apply Procedure.yields_request
  rw [answered]
  apply rest.mono
  rintro visit later ⟨passed, size, same⟩
  refine ⟨?_, size.trans closes.size_eq, same.trans used⟩
  exact {
    passed.toCarried.after first index_eq name_eq with
    passes := passed.passes
    attached := passed.attached }

/-- An empty file passes if and only if its content fits. -/
theorem visit_yields (running : Running rules store)
    (faultless : rules.Faultless)
    (accepted : rules.Accepts file.path) (blank : file.Blank store)
    (nonempty : expected ≠ []) :
    (visit expected file).Yields Store.subsystem store
      fun visit later =>
        Judged visit.check
          (rules.HasSpace store.usedBytes expected.length)
          (Carried rules file store visit later ∧
            later.handles.size = store.handles.size ∧
            later.usedBytes = store.usedBytes + expected.length ∧
            visit.file.Attached later) := by
  rcases blank with ⟨handle, number, bound, found, named, empty⟩
  have growth : store.growth ⟨number, file.path, 0⟩ expected =
      expected.length := by
    rw [Store.growth, empty]
    exact Nat.zero_add expected.length
  have live : file.binding.live? = some handle := by
    rw [bound]
    rfl
  rw [visit, live]
  apply Procedure.yields_bind
  apply Procedure.yields_request
  by_cases space : rules.HasSpace store.usedBytes expected.length
  · have writes := running.write_writes faultless nonempty found named
      (by rw [growth]; exact space)
    have still : (store.write handle expected).state.names[file.path]? =
        some number := by
      rw [writes.names_kept]
      exact named
    have content : (store.write handle expected).state.live number =
        expected := by
      have written := writes.live_opened
      dsimp only at written
      rw [written, empty, Bytes.overwrite_nil]
    have rest := closeWritten_yields writes.toRunning faultless accepted
      bound writes.found rfl still content
    have answered : (Store.subsystem.respond (.write handle expected)
        store).answer = .ok expected.length :=
      writes.answer_eq
    have used := writes.usedBytes_eq
    rw [growth] at used
    rw [answered]
    dsimp only
    rw [if_pos rfl]
    apply rest.mono
    rintro visit later ⟨passed, size, same⟩
    constructor
    · exact iff_of_true passed.passes space
    · intro _
      exact ⟨passed.toCarried.after writes.toFollows rfl rfl,
        size.trans writes.size_eq, same.trans used, passed.attached⟩
  · have full : ¬rules.HasSpace store.usedBytes
        (store.growth ⟨number, file.path, 0⟩ expected) := by
      rw [growth]
      exact space
    rcases running.write_refused faultless found full with
      ⟨reason, refused⟩
    have answered : (Store.subsystem.respond (.write handle expected)
        store).answer = .error reason := by
      show (store.write handle expected).answer = .error reason
      rw [refused]
      rfl
    rw [answered]
    apply Procedure.yields_pure
    constructor
    · exact iff_of_false Bool.noConfusion space
    · intro met
      exact (space met).elim

/-- A round trip never gives up, whatever store it is on. -/
theorem visit_total (expected : Bytes) (file : TrackedFile)
    (store : Store) :
    (visit expected file).Yields Store.subsystem store
      fun _ _ => True :=
  (visit_steadfast expected file).yields Store.honest store

end RoundTrip

end FileConformance
