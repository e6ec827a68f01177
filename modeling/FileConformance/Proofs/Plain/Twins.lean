import FileConformance.Proofs.Plain.Refinement
import FileConformance.Proofs.Procedure.Abreast
import FileConformance.Proofs.Store.Damage
import FileConformance.Proofs.Store.Space

/-!
# Two stores behind one plain file system

Stores that look like the same plain file system have the same names, handles
and files, and their files hold the same, whenever each of them makes its files
durable.  So they have the same space left, and no call but a read can tell them
apart, even if one of them damages every read.

A damaged read counts the same bytes.  It hands back one wrong byte and leaves
no trace in the store.
-/

namespace FileConformance

namespace Mirrors

variable {plain : Plain} {store other : Store}

/-- A handle of one store is open in the other, on the same file. -/
theorem exists_twin (mirrors : Mirrors plain store)
    (mirrorsToo : Mirrors plain other) {handle : Handle}
    {opened : StoreHandle}
    (found : store.handles.find? handle = some opened) :
    ∃ twin, other.handles.find? handle = some twin ∧
      twin.plain = opened.plain := by
  have held := mirrorsToo.handle handle
  rw [mirrors.handle, found, Option.map_some, eq_comm] at held
  exact Option.map_eq_some_iff.mp held

/-- What can be reached in one store can be reached in the other. -/
theorem mem_files (mirrors : Mirrors plain store)
    (mirrorsToo : Mirrors plain other) (wf : store.WellFormed)
    (wfToo : other.WellFormed) {file : Nat}
    (present : file ∈ store.files) : file ∈ other.files := by
  rcases wf.reachable present with
    ⟨name, named⟩ | ⟨handle, opened, found, rfl⟩
  · rw [← mirrors.names, mirrorsToo.names] at named
    rcases wfToo.named_linked named with ⟨stored, there, _⟩
    exact Store.mem_files_iff.mpr ⟨stored, there⟩
  · rcases mirrors.exists_twin mirrorsToo found with
      ⟨twin, foundToo, same⟩
    have sameFile : twin.file = opened.file :=
      congrArg PlainHandle.file same
    rw [← sameFile]
    exact wfToo.handle_present foundToo

theorem mem_files_iff (mirrors : Mirrors plain store)
    (mirrorsToo : Mirrors plain other) (wf : store.WellFormed)
    (wfToo : other.WellFormed) (file : Nat) :
    file ∈ store.files ↔ file ∈ other.files :=
  ⟨mirrors.mem_files mirrorsToo wf wfToo,
    mirrorsToo.mem_files mirrors wfToo wf⟩

theorem live_eq (mirrors : Mirrors plain store)
    (mirrorsToo : Mirrors plain other) {file : Nat}
    (present : file ∈ store.files) (there : file ∈ other.files) :
    store.live file = other.live file := by
  rw [← mirrors.content_eq present, mirrorsToo.content_eq there]

/-- Both stores take the same space. -/
theorem usedBytes_eq (mirrors : Mirrors plain store)
    (mirrorsToo : Mirrors plain other) (wf : store.WellFormed)
    (wfToo : other.WellFormed) : store.usedBytes = other.usedBytes := by
  have same := mirrors.mem_files_iff mirrorsToo wf wfToo
  apply Store.usedBytes_congr same
  intro file there
  exact mirrors.live_eq mirrorsToo ((same file).mpr there) there

end Mirrors

/-! ## Answers that differ in a byte -/

/--
Two answers to the same call are the same, but what was read may differ: where
bytes were read, one of them is wrong in the second answer.
-/
def Call.UpToByte : (request : Call) →
    request.Answer → request.Answer → Prop
  | .read _ buffer, answer, other =>
      other.count = answer.count ∧
        ∀ count, answer.count = .ok count → count ≤ buffer.length ∧
          (0 < count → ∃ place mask, place < count ∧ mask ≠ 0 ∧
            other.buffer.take count =
              Bytes.flip (answer.buffer.take count) place mask)
  | .create _, answer, other => other = answer
  | .openFile _, answer, other => other = answer
  | .close _, answer, other => other = answer
  | .write _ _, answer, other => other = answer
  | .delete _, answer, other => other = answer
  | .exit _, answer, other => other = answer

/-- Only what was read may differ. -/
theorem Call.UpToByte.eq {request : Call} {answer other : request.Answer}
    (alike : request.UpToByte answer other)
    (unread : request.kind ≠ .read) : other = answer := by
  cases request with
  | read handle buffer => exact (unread rfl).elim
  | create name => exact alike
  | openFile name => exact alike
  | close handle => exact alike
  | write handle data => exact alike
  | delete name => exact alike
  | exit code => exact alike

namespace Store

/-! ## Twins -/

/-- Two stores that look the same, but one of them damages every read. -/
structure Twins (sound spoiled : Store) : Prop where
  mirrored : ∃ plain, Mirrors plain sound ∧ Mirrors plain spoiled
  wf : sound.WellFormed
  wfToo : spoiled.WellFormed
  calm : sound.settings.inputOutputError = .never
  undamaged : sound.settings.corruption = .never
  settings_eq :
    spoiled.settings = { sound.settings with corruption := .always }

namespace Twins

variable {sound spoiled : Store} {handle : Handle} {opened : StoreHandle}

theorem fresh {rules : StoreSettings}
    (calm : rules.inputOutputError = .never) (left right : Generator) :
    Twins (Store.fresh { rules with corruption := .never } left)
      (Store.fresh { rules with corruption := .always } right) where
  mirrored := ⟨Plain.fresh rules,
    Mirrors.fresh { rules with corruption := .never } left,
    Mirrors.fresh { rules with corruption := .always } right⟩
  wf := WellFormed.fresh _ left
  wfToo := WellFormed.fresh _ right
  calm := calm
  undamaged := rfl
  settings_eq := rfl

theorem calmToo (twins : Twins sound spoiled) :
    spoiled.settings.inputOutputError = .never := by
  rw [twins.settings_eq]
  exact twins.calm

/-- Whatever is called, twins stay twins if they go on looking the same. -/
theorem of_mirrored (twins : Twins sound spoiled) (request : Call)
    (mirrored : ∃ plain,
      Mirrors plain (subsystem.respond request sound).state ∧
        Mirrors plain (subsystem.respond request spoiled).state) :
    Twins (subsystem.respond request sound).state
      (subsystem.respond request spoiled).state := by
  have same : (subsystem.respond request sound).state.settings =
      sound.settings :=
    settings_after sound [.call request]
  have sameToo : (subsystem.respond request spoiled).state.settings =
      spoiled.settings :=
    settings_after spoiled [.call request]
  refine ⟨mirrored, twins.wf.evolves (act_evolves _ (.call request)),
    twins.wfToo.evolves (act_evolves _ (.call request)), ?_, ?_, ?_⟩
  · rw [same]
    exact twins.calm
  · rw [same]
    exact twins.undamaged
  · rw [sameToo, same]
    exact twins.settings_eq

/-- A handle that one store admits is admitted by the other. -/
theorem exists_admitted (twins : Twins sound spoiled)
    (admitted : sound.admitHandle handle = .ok opened) :
    ∃ twin, spoiled.admitHandle handle = .ok twin ∧
      twin.plain = opened.plain ∧ twin.position = opened.position ∧
      spoiled.live twin.file = sound.live opened.file := by
  rcases twins.mirrored with ⟨plain, mirrors, mirrorsToo⟩
  rcases admitHandle_eq_ok_iff.mp admitted with ⟨alive, found⟩
  rcases mirrors.exists_twin mirrorsToo found with
    ⟨twin, foundToo, same⟩
  have aliveToo : spoiled.exitStatus = none := by
    rw [← mirrorsToo.exitStatus, mirrors.exitStatus, alive]
  have sameFile : twin.file = opened.file := congrArg PlainHandle.file same
  refine ⟨twin, admitHandle_eq_ok_iff.mpr ⟨aliveToo, foundToo⟩, same,
    congrArg PlainHandle.position same, ?_⟩
  have there := twins.wfToo.handle_present foundToo
  rw [sameFile] at there ⊢
  exact mirrorsToo.live_eq mirrors there (twins.wf.handle_present found)

/-- A handle that one store refuses is refused by the other. -/
theorem admitHandle_refused (twins : Twins sound spoiled)
    {reason : CallError}
    (refused : sound.admitHandle handle = .error reason) :
    spoiled.admitHandle handle = .error reason := by
  rcases twins.mirrored with ⟨plain, mirrors, mirrorsToo⟩
  have asked := mirrors.admitHandle_eq handle
  rw [refused, mirrorsToo.admitHandle_eq] at asked
  cases admitted : spoiled.admitHandle handle with
  | error other =>
      rw [admitted] at asked
      cases asked
      rfl
  | ok twin =>
      rw [admitted] at asked
      cases asked

/-! ### Calls -/

/-- Both stores have the same space left. -/
theorem checkSpace_eq (twins : Twins sound spoiled) (growth : Nat) :
    spoiled.checkSpace growth = sound.checkSpace growth := by
  rcases twins.mirrored with ⟨plain, mirrors, mirrorsToo⟩
  have used := mirrors.usedBytes_eq mirrorsToo twins.wf twins.wfToo
  rw [checkSpace, checkSpace, twins.settings_eq, used]

/-- A read counts the same, and one byte of what it counts is spoiled. -/
theorem read (twins : Twins sound spoiled) (handle : Handle)
    (buffer : Bytes) :
    Call.UpToByte (.read handle buffer) (sound.read handle buffer).answer
        (spoiled.read handle buffer).answer ∧
      ∃ plain, Mirrors plain (sound.read handle buffer).state ∧
        Mirrors plain (spoiled.read handle buffer).state := by
  rcases twins.mirrored with ⟨plain, mirrors, mirrorsToo⟩
  cases admitted : sound.admitHandle handle with
  | error reason =>
      have refused := twins.admitHandle_refused admitted
      simp only [Store.read, admitted, refused]
      refine ⟨⟨rfl, ?_⟩, plain, mirrors, mirrorsToo⟩
      rintro _ ⟨⟩
  | ok opened =>
      rcases twins.exists_admitted admitted with
        ⟨twin, admittedToo, samePlain, samePosition, sameContent⟩
      have found := (admitHandle_eq_ok_iff.mp admitted).2
      have foundToo := (admitHandle_eq_ok_iff.mp admittedToo).2
      rcases count_read_of_calm twins.calm admitted buffer with
        ⟨counted, generator, moved⟩
      rcases count_read_of_calm twins.calmToo admittedToo buffer with
        ⟨countedToo, generatorToo, movedToo⟩
      rw [sameContent, samePosition] at countedToo movedToo
      refine ⟨⟨countedToo.trans counted.symm, ?_⟩, ?_⟩
      · intro count received
        rw [counted, Except.ok.injEq] at received
        subst received
        refine ⟨Bytes.length_slice_le _ _ _, fun positive => ?_⟩
        have spared : ¬sound.drawsDamage = true := by
          rw [drawsDamage, twins.undamaged]
          exact Bool.false_ne_true
        have drew : spoiled.drawsDamage = true := by
          rw [drawsDamage, twins.settings_eq]
          rfl
        rcases drawDamage_of_drawn positive drew with
          ⟨wrong, drawn, inside, some_bit⟩
        refine ⟨wrong.place, wrong.mask, inside, some_bit, ?_⟩
        rw [read_of_calm twins.calm admitted,
          read_of_calm twins.calmToo admittedToo]
        dsimp only
        rw [sameContent, samePosition, drawn,
          drawDamage_of_spared fun hit => spared hit.2, take_deliver,
          take_deliver]
      · rw [moved, movedToo]
        refine ⟨_, (mirrors.draw generator).advance found _, ?_⟩
        rw [← samePlain]
        exact (mirrorsToo.draw generatorToo).advance foundToo _

/-- A write takes the same space of both stores, or of neither. -/
theorem write (twins : Twins sound spoiled) (handle : Handle)
    (data : Bytes) :
    (spoiled.write handle data).answer = (sound.write handle data).answer ∧
      ∃ plain, Mirrors plain (sound.write handle data).state ∧
        Mirrors plain (spoiled.write handle data).state := by
  rcases twins.mirrored with ⟨plain, mirrors, mirrorsToo⟩
  cases admitted : sound.admitHandle handle with
  | error reason =>
      rw [write_of_refused data admitted,
        write_of_refused data (twins.admitHandle_refused admitted)]
      exact ⟨rfl, plain, mirrors, mirrorsToo⟩
  | ok opened =>
      rcases twins.exists_admitted admitted with
        ⟨twin, admittedToo, samePlain, samePosition, sameContent⟩
      have found := (admitHandle_eq_ok_iff.mp admitted).2
      have foundToo := (admitHandle_eq_ok_iff.mp admittedToo).2
      have grown : spoiled.checkSpace (spoiled.growth twin data) =
          sound.checkSpace (sound.growth opened data) := by
        rw [twins.checkSpace_eq, growth, growth, sameContent, samePosition]
      cases room : sound.checkSpace (sound.growth opened data) with
      | error reason =>
          rw [write_of_full_calm twins.calm admitted room,
            write_of_full_calm twins.calmToo admittedToo
              (grown.trans room)]
          exact ⟨rfl, plain, mirrors, mirrorsToo⟩
      | ok _ =>
          rw [write_of_room_calm twins.calm admitted room,
            write_of_room_calm twins.calmToo admittedToo
              (grown.trans room)]
          refine ⟨rfl, _, Mirrors.writtenBack (mirrors.append
            (twins.wf.handle_present found) found data) _ _, ?_⟩
          rw [← samePlain]
          exact Mirrors.writtenBack (mirrorsToo.append
            (twins.wfToo.handle_present foundToo) foundToo data) _ _

/-- Twins answer every call alike, and stay twins. -/
theorem matched :
    Procedure.Matches subsystem subsystem Call.UpToByte Twins := by
  intro request sound spoiled twins
  rcases twins.mirrored with ⟨plain, mirrors, mirrorsToo⟩
  have wf := twins.wf
  have wfToo := twins.wfToo
  cases request with
  | create name =>
      have first := mirrors.create wf name
      have second := mirrorsToo.create wfToo name
      exact ⟨second.1.trans first.1.symm,
        twins.of_mirrored _ ⟨_, first.2, second.2⟩⟩
  | openFile name =>
      have first := mirrors.openFile name
      have second := mirrorsToo.openFile name
      exact ⟨second.1.trans first.1.symm,
        twins.of_mirrored _ ⟨_, first.2, second.2⟩⟩
  | close handle =>
      have first := mirrors.close handle
      have second := mirrorsToo.close handle
      exact ⟨second.1.trans first.1.symm,
        twins.of_mirrored _ ⟨_, first.2, second.2⟩⟩
  | read handle buffer =>
      rcases twins.read handle buffer with ⟨answered, mirrored⟩
      exact ⟨answered, twins.of_mirrored (.read handle buffer) mirrored⟩
  | write handle data =>
      rcases twins.write handle data with ⟨answered, mirrored⟩
      exact ⟨answered, twins.of_mirrored (.write handle data) mirrored⟩
  | delete name =>
      have first := mirrors.delete wf name
      have second := mirrorsToo.delete wfToo name
      exact ⟨second.1.trans first.1.symm,
        twins.of_mirrored _ ⟨_, first.2, second.2⟩⟩
  | exit code =>
      exact ⟨rfl, twins.of_mirrored _
        ⟨_, mirrors.exit code, mirrorsToo.exit code⟩⟩

end Twins

end Store

end FileConformance
