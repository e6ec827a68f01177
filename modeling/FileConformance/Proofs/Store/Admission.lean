import FileConformance.Store.Calls

/-!
# When a store admits a call

A call is admitted if it meets its conditions one after the other.  This module
turns the checks into the conditions they stand for, so that later proofs speak
about names, handles and limits and never about the order of the checks.  Then
it says what becomes of each call when it is refused and when it is admitted.
-/

namespace FileConformance

namespace StoreSettings

/-- A name the settings accept: not empty, without a null, and short enough. -/
def Accepts (settings : StoreSettings) (name : Bytes) : Prop :=
  name ≠ [] ∧ 0 ∉ name ∧ Name.encodedLength name ≤ settings.nameLimit.bytes

/-- One more handle may be opened beside those that are open. -/
def HasRoom (settings : StoreSettings) (handles : Nat) : Prop :=
  ∀ limit, settings.handleLimit = some limit → handles < limit

/-- Files of `used` bytes may grow by some more bytes. -/
def HasSpace (settings : StoreSettings) (used growth : Nat) : Prop :=
  ∀ capacity, settings.capacity = some capacity →
    0 < growth → used + growth ≤ capacity

/-- Nothing fails by chance, and nothing is damaged. -/
structure Faultless (settings : StoreSettings) : Prop where
  inputOutputError : settings.inputOutputError = .never
  corruption : settings.corruption = .never

end StoreSettings

namespace Store

/-- Conditions in sequence are met if each is met. -/
theorem bind_eq_ok_iff {First Second : Type}
    {first : Except CallError First}
    {next : First → Except CallError Second} {result : Second} :
    (first >>= next) = .ok result ↔
      ∃ value, first = .ok value ∧ next value = .ok result := by
  cases first with
  | error reason =>
      simp [bind, Except.bind]
  | ok value =>
      simp [bind, Except.bind]

variable {store : Store}

/-! ## The checks -/

theorem checkAlive_eq_ok_iff {result : Unit} :
    store.checkAlive = .ok result ↔ store.exitStatus = none := by
  unfold checkAlive
  split <;> simp_all

theorem checkName_eq_ok_iff {name : Bytes} {result : Unit} :
    store.checkName name = .ok result ↔ store.settings.Accepts name := by
  unfold checkName StoreSettings.Accepts
  split
  · rename_i unusable
    simp only [Bool.or_eq_true, List.isEmpty_iff,
      List.contains_iff_mem] at unusable
    simp only [reduceCtorEq, false_iff]
    rintro ⟨nonempty, plain, _⟩
    exact unusable.elim nonempty plain
  · rename_i usable
    simp only [Bool.or_eq_true, List.isEmpty_iff, List.contains_iff_mem,
      not_or] at usable
    split
    · simp only [reduceCtorEq, false_iff]
      omega
    · simp only [true_iff]
      exact ⟨usable.1, usable.2, by omega⟩

theorem checkHandleLimit_eq_ok_iff {result : Unit} :
    store.checkHandleLimit = .ok result ↔
      store.settings.HasRoom store.handles.size := by
  unfold checkHandleLimit StoreSettings.HasRoom
  cases store.settings.handleLimit with
  | none => simp
  | some limit => by_cases full : limit ≤ store.handles.size <;> simp_all

theorem lookUp_eq_ok_iff {name : Bytes} {file : Nat} :
    store.lookUp name = .ok file ↔ store.names[name]? = some file := by
  unfold lookUp
  split <;> simp_all

theorem resolve_eq_ok_iff {handle : Handle} {opened : StoreHandle} :
    store.resolve handle = .ok opened ↔
      store.handles.find? handle = some opened := by
  unfold resolve
  split <;> simp_all

theorem checkSpace_eq_ok_iff {growth : Nat} {result : Unit} :
    store.checkSpace growth = .ok result ↔
      store.settings.HasSpace store.usedBytes growth := by
  unfold checkSpace StoreSettings.HasSpace
  cases store.settings.capacity with
  | none => simp
  | some capacity => simp

/-! ## The calls -/

theorem admitCreate_eq_ok_iff {name : Bytes} {result : Unit} :
    store.admitCreate name = .ok result ↔
      store.exitStatus = none ∧ store.settings.Accepts name ∧
        store.settings.HasRoom store.handles.size := by
  simp only [admitCreate, bind_eq_ok_iff, checkAlive_eq_ok_iff,
    checkName_eq_ok_iff, checkHandleLimit_eq_ok_iff, exists_and_left,
    exists_const]

theorem admitOpen_eq_ok_iff {name : Bytes} {file : Nat} :
    store.admitOpen name = .ok file ↔
      store.exitStatus = none ∧ store.settings.Accepts name ∧
        store.names[name]? = some file ∧
        store.settings.HasRoom store.handles.size := by
  simp only [admitOpen, bind_eq_ok_iff, checkAlive_eq_ok_iff,
    checkName_eq_ok_iff, lookUp_eq_ok_iff, checkHandleLimit_eq_ok_iff]
  constructor
  · rintro ⟨_, alive, _, accepted, found, named, _, room, same⟩
    cases same
    exact ⟨alive, accepted, named, room⟩
  · rintro ⟨alive, accepted, named, room⟩
    exact ⟨(), alive, (), accepted, file, named, (), room, rfl⟩

theorem admitHandle_eq_ok_iff {handle : Handle} {opened : StoreHandle} :
    store.admitHandle handle = .ok opened ↔
      store.exitStatus = none ∧
        store.handles.find? handle = some opened := by
  simp only [admitHandle, bind_eq_ok_iff, checkAlive_eq_ok_iff,
    resolve_eq_ok_iff, exists_const]

theorem admitDelete_eq_ok_iff {name : Bytes} {file : Nat} :
    store.admitDelete name = .ok file ↔
      store.exitStatus = none ∧ store.settings.Accepts name ∧
        store.names[name]? = some file ∧
        (store.settings.deleteOpen = .reject →
          store.handlesOn file = 0) := by
  simp only [admitDelete, bind_eq_ok_iff, checkAlive_eq_ok_iff,
    checkName_eq_ok_iff, lookUp_eq_ok_iff]
  constructor
  · rintro ⟨_, alive, _, accepted, found, named, admitted⟩
    split at admitted
    · cases admitted
    · rename_i idle
      cases admitted
      refine ⟨alive, accepted, named, fun rejects => ?_⟩
      exact Nat.eq_zero_of_not_pos fun busy => idle ⟨busy, rejects⟩
  · rintro ⟨alive, accepted, named, idle⟩
    refine ⟨(), alive, (), accepted, file, named, if_neg ?_⟩
    rintro ⟨busy, rejects⟩
    exact Nat.ne_of_gt busy (idle rejects)

/-! ## What becomes of the calls -/

section Outcomes

variable {name : Bytes} {handle : Handle} {opened : StoreHandle}
  {file : Nat} {reason : CallError}

theorem create_of_refused
    (refused : store.admitCreate name = .error reason) :
    store.create name = store.refuse reason := by
  simp only [create, refused]

theorem create_of_admitted
    (admitted : store.admitCreate name = .ok ()) :
    store.create name =
      ⟨.ok ⟨(store.fileToCreate name).2.nextHandle⟩,
        ((store.fileToCreate name).2.openHandle
          (store.fileToCreate name).1 name).2,
        [.created name ⟨(store.fileToCreate name).2.nextHandle⟩]⟩ := by
  simp only [create, admitted]
  rfl

theorem openFile_of_refused
    (refused : store.admitOpen name = .error reason) :
    store.openFile name = store.refuse reason := by
  simp only [openFile, refused]

theorem openFile_of_admitted
    (admitted : store.admitOpen name = .ok file) :
    store.openFile name =
      ⟨.ok ⟨store.nextHandle⟩, (store.openHandle file name).2,
        [.opened name ⟨store.nextHandle⟩]⟩ := by
  simp only [openFile, admitted]
  rfl

theorem close_of_refused
    (refused : store.admitHandle handle = .error reason) :
    store.close handle = store.refuse reason := by
  simp only [close, refused]

theorem close_of_admitted
    (admitted : store.admitHandle handle = .ok opened) :
    store.close handle =
      ⟨.ok (), store.surrender handle opened.file,
        [.closed (some opened.name) handle]⟩ := by
  simp only [close, admitted]

theorem write_of_refused (data : Bytes)
    (refused : store.admitHandle handle = .error reason) :
    store.write handle data = store.refuse reason := by
  simp only [write, refused]

/-- The store after the draw for an input or output error. -/
def drawn (store : Store) : Store :=
  (store.chance store.settings.inputOutputError).2

theorem write_of_failed (data : Bytes)
    (admitted : store.admitHandle handle = .ok opened)
    (failed : (store.chance store.settings.inputOutputError).1 = true) :
    store.write handle data = store.drawn.refuse .inputOutput := by
  simp only [write, admitted, failed]
  rfl

theorem write_of_full {data : Bytes}
    (admitted : store.admitHandle handle = .ok opened)
    (calm : (store.chance store.settings.inputOutputError).1 = false)
    (full : store.drawn.checkSpace (store.drawn.growth opened data) =
      .error reason) :
    store.write handle data = store.drawn.refuse reason := by
  rw [drawn] at full
  simp only [write, admitted, calm, full]
  rfl

/-- The store after the draw whether a file is made durable at once. -/
def writtenBack (store : Store) (sync : Probability) (file : Nat) : Store :=
  if (store.chance sync).1 then (store.chance sync).2.flush file
  else (store.chance sync).2

theorem write_of_admitted {data : Bytes}
    (admitted : store.admitHandle handle = .ok opened)
    (calm : (store.chance store.settings.inputOutputError).1 = false)
    (room : store.drawn.checkSpace (store.drawn.growth opened data) =
      .ok ()) :
    store.write handle data =
      ⟨.ok data.length,
        (store.drawn.append handle opened data).writtenBack
          store.settings.sync opened.file,
        [.written handle data.length]⟩ := by
  rw [drawn] at room
  simp only [write, admitted, calm, room]
  rfl

theorem delete_of_refused
    (refused : store.admitDelete name = .error reason) :
    store.delete name = store.refuse reason := by
  simp only [delete, refused]

theorem delete_of_admitted
    (admitted : store.admitDelete name = .ok file) :
    store.delete name =
      ⟨.ok (), store.unlink name file,
        [.deleted name (some (store.handlesOn file))]⟩ := by
  simp only [delete, admitted]

end Outcomes

/-! ## Stores where no call fails by chance -/

section Calm

variable {handle : Handle} {opened : StoreHandle}
  (calm : store.settings.inputOutputError = .never)

include calm

theorem drawn_of_calm : store.drawn = store := by
  simp only [drawn, chance, calm, Probability.draw_never]

theorem chance_of_calm :
    (store.chance store.settings.inputOutputError).1 = false := by
  simp only [chance, calm, Probability.draw_never]

theorem write_of_full_calm {data : Bytes} {reason : CallError}
    (admitted : store.admitHandle handle = .ok opened)
    (full : store.checkSpace (store.growth opened data) = .error reason) :
    store.write handle data = store.refuse reason := by
  have same := drawn_of_calm calm
  rw [← same] at full
  rw [write_of_full admitted (chance_of_calm calm) full, same]

theorem write_of_room_calm {data : Bytes}
    (admitted : store.admitHandle handle = .ok opened)
    (room : store.checkSpace (store.growth opened data) = .ok ()) :
    store.write handle data =
      ⟨.ok data.length,
        (store.append handle opened data).writtenBack
          store.settings.sync opened.file,
        [.written handle data.length]⟩ := by
  have same := drawn_of_calm calm
  rw [write_of_admitted admitted (chance_of_calm calm)
    (by rw [same]; exact room), same]

end Calm

/-! ## Stores without faults -/

section Faultless

variable {handle : Handle} {opened : StoreHandle}

theorem read_of_faultless (faultless : store.settings.Faultless)
    (admitted : store.admitHandle handle = .ok opened) (buffer : Bytes) :
    let data := (store.live opened.file).slice opened.position buffer.length
    store.read handle buffer =
      ⟨⟨.ok data.length, buffer.place data,
          Bytes.length_place (Bytes.length_slice_le _ _ _)⟩,
        store.advance handle data.length,
        [.received handle data.length]⟩ := by
  have undamaged : ∀ count, store.drawDamage count = (none, store) := by
    intro count
    simp only [drawDamage, chance, faultless.corruption,
      Probability.draw_never, Bool.false_eq_true, if_false, ite_self]
  simp only [read, admitted, chance, faultless.inputOutputError,
    Probability.draw_never, Bool.false_eq_true, if_false, undamaged]
  rfl

theorem write_of_full_faultless (faultless : store.settings.Faultless)
    {data : Bytes} {reason : CallError}
    (admitted : store.admitHandle handle = .ok opened)
    (full : store.checkSpace (store.growth opened data) =
      .error reason) :
    store.write handle data = store.refuse reason :=
  write_of_full_calm faultless.inputOutputError admitted full

theorem write_of_faultless (faultless : store.settings.Faultless)
    {data : Bytes}
    (admitted : store.admitHandle handle = .ok opened)
    (room : store.checkSpace (store.growth opened data) = .ok ()) :
    store.write handle data =
      ⟨.ok data.length,
        (store.append handle opened data).writtenBack
          store.settings.sync opened.file,
        [.written handle data.length]⟩ :=
  write_of_room_calm faultless.inputOutputError admitted room

end Faultless

end Store

end FileConformance
