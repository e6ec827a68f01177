import FileConformance.Proofs.Store.Bystanders
import FileConformance.Proofs.Store.Capacity
import FileConformance.Proofs.Store.Handles

/-!
# What a write is charged

A write asks for the bytes by which it makes its file longer and for no others.
If they fit it is charged exactly these: what the file held outside the written
region stays, and a gap between its end and the region is filled with zeros.  It
makes no difference whether the data waits in the queue or reaches the durable
side at once, nor what waited there before.

Apart from writes, space is moved only by what empties a file or drops it.
Opening a file and reading it do neither, and a close drops its file only if
nothing else leads to it.
-/

namespace FileConformance

namespace Bytes

/-- Before the region the content goes on in zeros, behind it as it was. -/
theorem getElem?_overwrite (content : Bytes) (offset : Nat) (data : Bytes)
    (place : Nat) :
    (content.overwrite offset data)[place]? =
      if place < offset then
        if place < content.length then content[place]? else some 0
      else if place < offset + data.length then data[place - offset]?
      else content[place]? := by
  simp only [overwrite, List.getElem?_append, List.length_append,
    List.length_take, List.getElem?_take, List.getElem?_drop, zeros,
    List.getElem?_replicate]
  grind

end Bytes

namespace Store

variable {store : Store}

/-- Besides a handle, another one is open on a file. -/
def SharedBeside (store : Store) (handle : Handle) (file : Nat) : Prop :=
  ∃ other held, other ≠ handle ∧
    store.handles.find? other = some held ∧ held.file = file

/-! ## Closing -/

/-- A file outlasts a handle if a name or another handle leads to it. -/
theorem WellFormed.present_after_surrender (wf : store.WellFormed)
    {handle : Handle} {opened : StoreHandle}
    (found : store.handles.find? handle = some opened)
    (led : (∃ name : Bytes, store.names[name]? = some opened.file) ∨
      store.SharedBeside handle opened.file) :
    opened.file ∈ (store.surrender handle opened.file).files := by
  have later := wf.surrender found
  rcases led with ⟨name, named⟩ | ⟨other, held, different, there, same⟩
  · apply later.present_of_named
    rw [surrender_eq]
    exact named
  · have still : (store.surrender handle opened.file).handles.find? other =
        some held := by
      rw [surrender_eq, Registry.find?_remove, if_neg different.symm]
      exact there
    have present := later.handle_present still
    rw [same] at present
    exact present

/-- Closing takes and frees no space as long as something leads to the file. -/
theorem WellFormed.usedBytes_close (wf : store.WellFormed)
    {handle : Handle} {opened : StoreHandle}
    (found : store.handles.find? handle = some opened)
    (led : (∃ name : Bytes, store.names[name]? = some opened.file) ∨
      store.SharedBeside handle opened.file) :
    (store.close handle).state.usedBytes = store.usedBytes := by
  cases admitted : store.admitHandle handle with
  | error reason =>
      rw [close_of_refused admitted]
      rfl
  | ok other =>
      have same := (admitHandle_eq_ok_iff.mp admitted).2
      rw [found, Option.some.injEq] at same
      subst same
      rw [close_of_admitted admitted]
      exact usedBytes_surrender (wf.present_after_surrender found led)

/-! ## Opening -/

theorem usedBytes_openFile (store : Store) (name : Bytes) :
    (store.openFile name).state.usedBytes = store.usedBytes := by
  cases admitted : store.admitOpen name with
  | error reason =>
      rw [openFile_of_refused admitted]
      rfl
  | ok file =>
      rw [openFile_of_admitted admitted]
      exact usedBytes_openHandle store file name

/-! ## Writing -/

/-- Data was put into the file of a handle, and the space it takes charged. -/
structure Charged (opened : StoreHandle) (data : Bytes)
    (store later : Store) : Prop where
  /-- The space in use grew by what made the file longer. -/
  usedBytes_eq : later.usedBytes =
    store.usedBytes +
      (opened.position + data.length - (store.live opened.file).length)
  length_eq : (later.live opened.file).length =
    max (store.live opened.file).length (opened.position + data.length)
  written : ∀ offset < data.length,
    (later.live opened.file)[opened.position + offset]? = data[offset]?
  /-- Between the old end and the position there are zeros. -/
  gap : ∀ place < opened.position, (store.live opened.file).length ≤ place →
    (later.live opened.file)[place]? = some 0
  /-- Bytes outside the written region are as they were. -/
  kept : ∀ place < (store.live opened.file).length,
    place < opened.position ∨ opened.position + data.length ≤ place →
      (later.live opened.file)[place]? = (store.live opened.file)[place]?
  /-- No other file was touched. -/
  others : ∀ file ≠ opened.file, later.live file = store.live file

/-- What is known of the space and of the contents decides the rest. -/
theorem Charged.of_overwrite {opened : StoreHandle} {data : Bytes}
    {later : Store}
    (used : later.usedBytes = store.usedBytes + store.growth opened data)
    (content : later.live opened.file =
      (store.live opened.file).overwrite opened.position data)
    (others : ∀ file ≠ opened.file, later.live file = store.live file) :
    Charged opened data store later where
  usedBytes_eq := used
  length_eq := by rw [content, Bytes.length_overwrite]
  written := by
    intro offset below
    rw [content, Bytes.getElem?_overwrite, if_neg (by omega),
      if_pos (by omega), Nat.add_sub_cancel_left]
  gap := by
    intro place before behind
    rw [content, Bytes.getElem?_overwrite, if_pos before,
      if_neg (by omega)]
  kept := by
    rintro place there (before | behind)
    · rw [content, Bytes.getElem?_overwrite, if_pos before, if_pos there]
    · rw [content, Bytes.getElem?_overwrite, if_neg (by omega),
        if_neg (by omega)]
  others := others

section

variable {handle : Handle} {opened : StoreHandle} {data : Bytes}
  (admitted : store.admitHandle handle = .ok opened)
  (calm : (store.chance store.settings.inputOutputError).1 = false)

include admitted calm

/-- Data that fits is written and charged. -/
theorem WellFormed.write_charged (wf : store.WellFormed)
    (nonempty : data ≠ [])
    (space : store.settings.HasSpace store.usedBytes
      (store.growth opened data)) :
    (store.write handle data).answer = .ok data.length ∧
      Charged opened data store (store.write handle data).state := by
  have room : store.drawn.checkSpace (store.drawn.growth opened data) =
      .ok () :=
    checkSpace_eq_ok_iff.mpr space
  have found := (admitHandle_eq_ok_iff.mp admitted).2
  have others : ∀ file ≠ opened.file,
      (store.write handle data).state.live file = store.live file := by
    intro file different
    refine ((write_keeps store handle data none).undisturbed ?_).live_eq
    show (store.handles.find? handle).map StoreHandle.file ≠ some file
    rw [found]
    exact fun same => different (Option.some.inj same).symm
  have drawn : store.drawn.WellFormed := wf.transition (.draw _)
  have present : opened.file ∈
      (store.drawn.append handle opened data).files := by
    rw [append_eq]
    exact wf.handle_present found
  rw [write_of_admitted admitted calm room] at others ⊢
  refine ⟨rfl, .of_overwrite ?_ ?_ others⟩
  · rw [usedBytes_writtenBack]
    exact usedBytes_append drawn found nonempty
  · rw [live_writtenBack present, live_append, if_pos ⟨rfl, nonempty⟩]
    rfl

/-- Data that does not fit is refused. -/
theorem write_lacks_space
    (full : ¬store.settings.HasSpace store.usedBytes
      (store.growth opened data)) :
    (store.write handle data).answer = .error .noSpace := by
  have same : store.drawn.checkSpace (store.drawn.growth opened data) =
      store.checkSpace (store.growth opened data) := rfl
  cases room : store.checkSpace (store.growth opened data) with
  | ok _ => exact (full (checkSpace_eq_ok_iff.mp room)).elim
  | error reason =>
      rw [write_of_full admitted calm (same.trans room),
        eq_noSpace_of_checkSpace room]
      rfl

end

/--
Space is accounted for exactly.  In every state that a run can reach, a write of
some data through an open handle for which no error is drawn is refused for want
of space if and only if it makes its file longer by more than is free; otherwise
it is charged by how much it makes the file longer, and changes nothing outside
the written region but to fill a gap with zeros.  Nothing is charged or given
back for opening a file, for reading it, and for closing a handle as long as a
name or another handle leads to the file.
-/
theorem write_charged_exactly {settings : StoreSettings} {capacity : Nat}
    (limited : settings.capacity = some capacity) (generator : Generator)
    (actions : List Action) :
    let store := (fresh settings generator).after actions
    (store.exitStatus = none → ∀ (handle : Handle) (opened : StoreHandle),
      store.handles.find? handle = some opened →
        ∀ data : Bytes, data ≠ [] →
          (store.chance settings.inputOutputError).1 = false →
            let reply := store.write handle data
            let growth := opened.position + data.length -
              (store.live opened.file).length
            (reply.answer = .error .noSpace ↔
              0 < growth ∧ capacity < store.usedBytes + growth) ∧
              (¬(0 < growth ∧ capacity < store.usedBytes + growth) →
                reply.answer = .ok data.length ∧
                  Charged opened data store reply.state)) ∧
      (∀ name : Bytes,
        (store.openFile name).state.usedBytes = store.usedBytes) ∧
      (∀ (handle : Handle) (buffer : Bytes),
        (store.read handle buffer).state.usedBytes = store.usedBytes) ∧
      ∀ (handle : Handle) (opened : StoreHandle),
        store.handles.find? handle = some opened →
          (∃ name : Bytes, store.names[name]? = some opened.file) ∨
            store.SharedBeside handle opened.file →
          (store.close handle).state.usedBytes = store.usedBytes := by
  intro store
  have wf : store.WellFormed :=
    (WellFormed.fresh settings generator).after actions
  have rules : store.settings = settings :=
    settings_after (fresh settings generator) actions
  refine ⟨?_, usedBytes_openFile store, usedBytes_read store,
    fun _ _ => wf.usedBytes_close⟩
  intro alive handle opened found data nonempty calm reply growth
  rw [← rules] at calm limited
  have admitted := admitHandle_eq_ok_iff.mpr ⟨alive, found⟩
  have space : store.settings.HasSpace store.usedBytes growth ↔
      ¬(0 < growth ∧ capacity < store.usedBytes + growth) := by
    constructor
    · rintro fits ⟨grows, beyond⟩
      exact Nat.not_le_of_lt beyond (fits capacity limited grows)
    · intro fits limit same grows
      cases limited.symm.trans same
      exact Nat.le_of_not_lt fun beyond => fits ⟨grows, beyond⟩
  by_cases full : 0 < growth ∧ capacity < store.usedBytes + growth
  · have refused := write_lacks_space admitted calm
      fun fits => space.mp fits full
    exact ⟨iff_of_true refused full, fun fits => (fits full).elim⟩
  · have charged := wf.write_charged admitted calm nonempty
      (space.mpr full)
    refine ⟨iff_of_false ?_ full, fun _ => charged⟩
    intro refused
    cases charged.1.symm.trans refused

/--
A handle has read the two bytes that a crash left of a file, and the file is
emptied behind it.  One byte more through this handle takes three, the gap
included, and fits; three bytes would take five and do not.
-/
theorem write_charged_exactly_behind_gap :
    let settings : StoreSettings := { capacity := some 4 }
    let actions : List Action :=
      [.call (.create [97]), .call (.write ⟨2⟩ [1, 2]), .call (.close ⟨2⟩),
        .call (.openFile [97]), .call (.read ⟨3⟩ [0, 0]),
        .call (.write ⟨3⟩ [3, 4]), .crash, .call (.openFile [97]),
        .call (.read ⟨4⟩ [0, 0]), .call (.create [97])]
    let store := (fresh settings (.ofSeed 0)).after actions
    let opened : StoreHandle := ⟨1, [97], 2⟩
    settings.capacity = some 4 ∧ store.exitStatus = none ∧
      store.handles.find? ⟨4⟩ = some opened ∧
      (store.write ⟨4⟩ [9]).answer = .ok 1 ∧
      Charged opened [9] store (store.write ⟨4⟩ [9]).state ∧
      (store.write ⟨4⟩ [9, 8, 7]).answer = .error .noSpace := by
  intro settings actions store opened
  have limited : settings.capacity = some 4 := rfl
  have alive : store.exitStatus = none := by decide +kernel
  have found : store.handles.find? ⟨4⟩ = some opened := by decide +kernel
  have calm : (store.chance settings.inputOutputError).1 = false := by
    decide +kernel
  have empty : store.live opened.file = [] := by decide +kernel
  have unused : store.usedBytes = 0 := by decide +kernel
  rcases write_charged_exactly limited (.ofSeed 0) actions with ⟨writes, _⟩
  have fits := (writes alive ⟨4⟩ opened found [9] (by decide) calm).2
    (by rw [empty, unused]; decide)
  have full := (writes alive ⟨4⟩ opened found [9, 8, 7] (by decide) calm).1
  refine ⟨limited, alive, found, fits.1, fits.2, full.mpr ?_⟩
  rw [empty, unused]
  decide

end Store

end FileConformance
