import FileConformance.Proofs.Store.Charging
import FileConformance.Proofs.Store.Damage

/-!
# Transfers of nothing

Reading into no buffer and writing no bytes leave everything in place: what the
files hold, where the handles are and how much space is in use.  At most a file
is made durable, which nobody can see.

A read of nothing always succeeds.  A write of nothing need not.  Space is asked
for up to the end of the region that is written, also if the region is empty; so
a handle that stands behind the end of its file, because the file was emptied
through another handle, asks for the gap in between.  Where the gap does not
fit, the write is refused although it would not have filled it.
-/

namespace FileConformance

namespace Store

/-- From one store to a later one nothing moved that can be seen. -/
structure Unmoved (store later : Store) : Prop where
  names_eq : later.names = store.names
  mem_files_iff : ∀ file : Nat, file ∈ later.files ↔ file ∈ store.files
  live_eq : ∀ file : Nat, later.live file = store.live file
  /-- Every handle is open on what it was, at the same position. -/
  find?_eq : ∀ handle : Handle,
    later.handles.find? handle = store.handles.find? handle
  exitStatus_eq : later.exitStatus = store.exitStatus

namespace Unmoved

variable {store middle later : Store}

theorem trans (first : Unmoved store middle)
    (second : Unmoved middle later) : Unmoved store later where
  names_eq := second.names_eq.trans first.names_eq
  mem_files_iff := fun file =>
    (second.mem_files_iff file).trans (first.mem_files_iff file)
  live_eq := fun file => (second.live_eq file).trans (first.live_eq file)
  find?_eq := fun handle =>
    (second.find?_eq handle).trans (first.find?_eq handle)
  exitStatus_eq := second.exitStatus_eq.trans first.exitStatus_eq

theorem usedBytes_eq (unmoved : Unmoved store later) :
    later.usedBytes = store.usedBytes :=
  usedBytes_congr unmoved.mem_files_iff fun file _ => unmoved.live_eq file

/-! ### Changes that move nothing -/

/-- The draws of a store cannot be seen. -/
theorem draw (store : Store) (generator : Generator) :
    Unmoved store { store with generator } where
  names_eq := rfl
  mem_files_iff := fun _ => Iff.rfl
  live_eq := fun _ => rfl
  find?_eq := fun _ => rfl
  exitStatus_eq := rfl

/-- A handle that moves on by nothing stays where it is. -/
theorem advance_zero (store : Store) (handle : Handle) :
    Unmoved store (store.advance handle 0) where
  names_eq := rfl
  mem_files_iff := fun _ => Iff.rfl
  live_eq := fun _ => rfl
  find?_eq := by
    intro other
    rw [advance, Registry.find?_adjust]
    split
    · exact Option.map_id'
    · rfl
  exitStatus_eq := rfl

/-- That a file is made durable cannot be seen. -/
theorem writtenBack {file : Nat} (present : file ∈ store.files)
    (sync : Probability) : Unmoved store (store.writtenBack sync file) where
  names_eq := by rw [writtenBack_eq]
  mem_files_iff := mem_files_writtenBack store sync file
  live_eq := by
    intro other
    by_cases same : file = other
    · exact live_writtenBack (same ▸ present)
    · exact (Undisturbed.writtenBack store sync same).live_eq
  find?_eq := by
    intro handle
    rw [writtenBack_eq]
  exitStatus_eq := by rw [writtenBack_eq]

end Unmoved

section

variable {store : Store} {handle : Handle} {opened : StoreHandle}
  (calm : store.settings.inputOutputError = .never)
  (admitted : store.admitHandle handle = .ok opened)

include calm admitted

/-! ## Reading nothing -/

theorem read_nil :
    (store.read handle []).answer.count = .ok 0 ∧
      Unmoved store (store.read handle []).state := by
  rcases count_read_of_calm calm admitted [] with
    ⟨counted, generator, same⟩
  have none_read :
      ((store.live opened.file).slice opened.position
        ([] : Bytes).length).length = 0 := by
    rw [Bytes.length_slice]
    exact Nat.zero_min _
  rw [none_read] at counted same
  refine ⟨counted, ?_⟩
  rw [same]
  exact (Unmoved.draw store generator).trans (.advance_zero _ handle)

/-! ## Writing nothing -/

/-- The gap before an empty region is asked for like one that is filled. -/
theorem write_nil_of_space
    (space : store.settings.HasSpace store.usedBytes
      (store.growth opened []))
    (present : opened.file ∈ store.files) :
    (store.write handle []).answer = .ok 0 ∧
      Unmoved store (store.write handle []).state := by
  rw [write_of_room_calm calm admitted (checkSpace_eq_ok_iff.mpr space)]
  have stayed : Unmoved store (store.append handle opened []) :=
    .advance_zero store handle
  refine ⟨rfl, stayed.trans (.writtenBack ?_ _)⟩
  exact (stayed.mem_files_iff opened.file).mpr present

theorem write_nil_of_full
    (full : ¬store.settings.HasSpace store.usedBytes
      (store.growth opened [])) :
    (store.write handle []).answer = .error .noSpace ∧
      Unmoved store (store.write handle []).state := by
  refine ⟨write_lacks_space admitted (chance_of_calm calm) full, ?_⟩
  cases room : store.checkSpace (store.growth opened []) with
  | ok _ => exact (full (checkSpace_eq_ok_iff.mp room)).elim
  | error reason =>
      rw [write_of_full_calm calm admitted room]
      exact .draw store store.generator

end

/--
In every state that a run can reach where calls do not fail by chance, a read of
nothing through an open handle succeeds, and a write of nothing succeeds unless
the handle stands behind the end of its file by more bytes than are free; then
it is refused for want of space.  In either case no content, no position and no
space moves.
-/
theorem empty_transfers_move_nothing {settings : StoreSettings}
    (calm : settings.inputOutputError = .never) (generator : Generator)
    (actions : List Action) :
    let store := (fresh settings generator).after actions
    store.exitStatus = none →
      ∀ (handle : Handle) (opened : StoreHandle),
        store.handles.find? handle = some opened →
          let received := store.read handle []
          let written := store.write handle []
          let gap := opened.position - (store.live opened.file).length
          let full := ∃ capacity, settings.capacity = some capacity ∧
            0 < gap ∧ capacity < store.usedBytes + gap
          received.answer.count = .ok 0 ∧
            (¬full → written.answer = .ok 0) ∧
            (full → written.answer = .error .noSpace) ∧
            (Unmoved store received.state ∧
              received.state.usedBytes = store.usedBytes) ∧
            Unmoved store written.state ∧
              written.state.usedBytes = store.usedBytes := by
  intro store alive handle opened found received written gap full
  have wf : store.WellFormed :=
    (WellFormed.fresh settings generator).after actions
  have rules : store.settings = settings :=
    settings_after (fresh settings generator) actions
  have never : store.settings.inputOutputError = .never := by
    rw [rules]
    exact calm
  have admitted := admitHandle_eq_ok_iff.mpr ⟨alive, found⟩
  have space : store.settings.HasSpace store.usedBytes
      (store.growth opened []) ↔ ¬full := by
    rw [rules]
    constructor
    · rintro fits ⟨capacity, limited, behind, beyond⟩
      exact Nat.not_le_of_lt beyond (fits capacity limited behind)
    · intro fits capacity limited behind
      exact Nat.le_of_not_lt fun beyond =>
        fits ⟨capacity, limited, behind, beyond⟩
  rcases read_nil never admitted with ⟨counted, stayed⟩
  refine ⟨counted, ?_⟩
  by_cases lacks : full
  · rcases write_nil_of_full never admitted
      (fun fits => space.mp fits lacks) with ⟨refused, stayedToo⟩
    exact ⟨fun fits => (fits lacks).elim, fun _ => refused,
      ⟨stayed, stayed.usedBytes_eq⟩, stayedToo, stayedToo.usedBytes_eq⟩
  · rcases write_nil_of_space never admitted (space.mpr lacks)
      (wf.handle_present found) with ⟨answered, stayedToo⟩
    exact ⟨fun _ => answered, fun fails => (lacks fails).elim,
      ⟨stayed, stayed.usedBytes_eq⟩, stayedToo, stayedToo.usedBytes_eq⟩

/--
The first handle stands behind the end of its file, which was emptied since, and
of two bytes one is free.  It can write nothing where it stands, and after one
byte more was written elsewhere it cannot.
-/
theorem empty_transfers_move_nothing_behind_end :
    let settings : StoreSettings := { capacity := some 2 }
    let actions : List Action :=
      [.call (.create [97]), .call (.write ⟨2⟩ [1]), .call (.create [97]),
        .call (.create [98]), .call (.write ⟨4⟩ [2])]
    let store := (fresh settings (.ofSeed 0)).after actions
    let crowded := (fresh settings (.ofSeed 0)).after
      (actions ++ [.call (.write ⟨4⟩ [3])])
    let opened : StoreHandle := ⟨1, [97], 1⟩
    settings.inputOutputError = .never ∧ store.exitStatus = none ∧
      store.handles.find? ⟨2⟩ = some opened ∧
      (store.write ⟨2⟩ []).answer = .ok 0 ∧
      Unmoved store (store.write ⟨2⟩ []).state ∧
      crowded.exitStatus = none ∧
      crowded.handles.find? ⟨2⟩ = some opened ∧
      (crowded.write ⟨2⟩ []).answer = .error .noSpace ∧
      Unmoved crowded (crowded.write ⟨2⟩ []).state := by
  intro settings actions store crowded opened
  have calm : settings.inputOutputError = .never := rfl
  have alive : store.exitStatus = none := by decide +kernel
  have found : store.handles.find? ⟨2⟩ = some opened := by decide +kernel
  have aliveToo : crowded.exitStatus = none := by decide +kernel
  have foundToo : crowded.handles.find? ⟨2⟩ = some opened := by
    decide +kernel
  have gap : opened.position - (store.live opened.file).length = 1 := by
    decide +kernel
  have gapToo :
      opened.position - (crowded.live opened.file).length = 1 := by
    decide +kernel
  have used : store.usedBytes = 1 := by decide +kernel
  have usedToo : crowded.usedBytes = 2 := by decide +kernel
  rcases empty_transfers_move_nothing calm (.ofSeed 0) actions alive ⟨2⟩
    opened found with ⟨_, fits, _, _, stayed, _⟩
  rcases empty_transfers_move_nothing calm (.ofSeed 0) _ aliveToo ⟨2⟩ opened
    foundToo with ⟨_, _, full, _, stayedToo, _⟩
  refine ⟨calm, alive, found, fits ?_, stayed, aliveToo, foundToo, full ?_,
    stayedToo⟩
  · rintro ⟨capacity, limited, _, beyond⟩
    cases limited
    rw [gap, used] at beyond
    exact Nat.lt_irrefl 2 beyond
  · refine ⟨2, rfl, ?_⟩
    rw [gapToo, usedToo]
    exact ⟨Nat.one_pos, Nat.lt_succ_self 2⟩

/-- A write of nothing can be refused for want of space. -/
theorem empty_write_lacks_space :
    ¬∀ (settings : StoreSettings) (generator : Generator)
        (actions : List Action),
      settings.inputOutputError = .never →
        let store := (fresh settings generator).after actions
        store.exitStatus = none →
          ∀ (handle : Handle) (opened : StoreHandle),
            store.handles.find? handle = some opened →
              (store.write handle []).answer = .ok 0 := by
  intro succeeds
  let actions : List Action :=
    [.call (.create [97]), .call (.write ⟨2⟩ [65]), .call (.create [97]),
      .call (.create [98]), .call (.write ⟨4⟩ [66])]
  let store := (fresh { capacity := some 1 } (.ofSeed 0)).after actions
  have alive : store.exitStatus = none := by decide +kernel
  have found : store.handles.find? ⟨2⟩ = some ⟨1, [97], 1⟩ := by
    decide +kernel
  have refused : (store.write ⟨2⟩ []).answer = .error .noSpace := by
    decide +kernel
  have answered :=
    succeeds { capacity := some 1 } (.ofSeed 0) actions rfl alive ⟨2⟩
      ⟨1, [97], 1⟩ found
  cases refused.symm.trans answered

end Store

end FileConformance
