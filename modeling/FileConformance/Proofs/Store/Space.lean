import FileConformance.Proofs.Store.Frame
import Mathlib.Algebra.Order.BigOperators.Group.Finset

/-!
# The space a store takes

The bytes in use are a sum over the files that are there.  The sum is moved by
what moves the live content of a file, and by nothing else: not by flushing, not
by opening or closing a file that keeps its name.  Of the changes a call makes,
only queueing data makes it larger, by what makes the file longer.
-/

namespace FileConformance

namespace Store

/-- The files that are there. -/
def present (store : Store) : Finset Nat :=
  store.files.keys.toFinset

theorem mem_present {store : Store} {file : Nat} :
    file ∈ store.present ↔ file ∈ store.files := by
  rw [present, List.mem_toFinset, Std.ExtTreeMap.mem_keys]

theorem usedBytes_eq_sum (store : Store) :
    store.usedBytes =
      ∑ file ∈ store.present, (store.live file).length := by
  rw [present, List.sum_toFinset _ Std.ExtTreeMap.nodup_keys,
    List.sum_eq_foldl, List.foldl_map]
  rfl

/-- Nothing is in use if every file is empty. -/
theorem usedBytes_eq_zero_iff {store : Store} :
    store.usedBytes = 0 ↔ ∀ file ∈ store.files, store.live file = [] := by
  rw [usedBytes_eq_sum, Finset.sum_eq_zero_iff]
  constructor
  · intro empty file there
    exact List.length_eq_zero_iff.mp (empty file (mem_present.mpr there))
  · intro empty file there
    exact List.length_eq_zero_iff.mpr (empty file (mem_present.mp there))

theorem present_eq {store later : Store}
    (kept : ∀ file, file ∈ later.files ↔ file ∈ store.files) :
    later.present = store.present := by
  ext file
  rw [mem_present, mem_present]
  exact kept file

/-- Files that hold what they held take the space they took. -/
theorem usedBytes_congr {store later : Store}
    (kept : ∀ file, file ∈ later.files ↔ file ∈ store.files)
    (same : ∀ file ∈ store.files, later.live file = store.live file) :
    later.usedBytes = store.usedBytes := by
  rw [usedBytes_eq_sum, usedBytes_eq_sum, present_eq kept]
  apply Finset.sum_congr rfl
  intro file there
  rw [same file (mem_present.mp there)]

/--
If every file that holds something was there and held at least as many bytes,
no more space is taken.
-/
theorem usedBytes_le {store later : Store}
    (shrunk : ∀ file ∈ later.files, later.live file = [] ∨
      (file ∈ store.files ∧
        (later.live file).length ≤ (store.live file).length)) :
    later.usedBytes ≤ store.usedBytes := by
  let held := later.present.filter fun file =>
    (later.live file).length ≠ 0
  have before : ∀ file ∈ held, file ∈ store.files ∧
      (later.live file).length ≤ (store.live file).length := by
    intro file member
    rw [Finset.mem_filter, mem_present] at member
    rcases shrunk file member.1 with empty | kept
    · exact (member.2 (List.length_eq_zero_iff.mpr empty)).elim
    · exact kept
  rw [usedBytes_eq_sum, usedBytes_eq_sum]
  calc ∑ file ∈ later.present, (later.live file).length
      = ∑ file ∈ held, (later.live file).length :=
        (Finset.sum_filter_ne_zero later.present).symm
    _ ≤ ∑ file ∈ held, (store.live file).length :=
        Finset.sum_le_sum fun file member => (before file member).2
    _ ≤ ∑ file ∈ store.present, (store.live file).length :=
        Finset.sum_le_sum_of_subset fun file member =>
          mem_present.mpr (before file member).1

/-- If one file grows, the space in use grows by as much. -/
theorem usedBytes_of_grown {store later : Store} {file growth : Nat}
    (there : file ∈ store.files)
    (kept : ∀ other, other ∈ later.files ↔ other ∈ store.files)
    (same : ∀ other ∈ store.files, file ≠ other →
      later.live other = store.live other)
    (grown : (later.live file).length =
      (store.live file).length + growth) :
    later.usedBytes = store.usedBytes + growth := by
  have member : file ∈ store.present := mem_present.mpr there
  have others :
      ∑ other ∈ store.present.erase file, (later.live other).length =
        ∑ other ∈ store.present.erase file,
          (store.live other).length := by
    apply Finset.sum_congr rfl
    intro other inside
    rw [Finset.mem_erase] at inside
    rw [same other (mem_present.mp inside.2) inside.1.symm]
  rw [usedBytes_eq_sum, usedBytes_eq_sum, present_eq kept,
    ← Finset.add_sum_erase _ _ member, ← Finset.add_sum_erase _ _ member,
    others, grown]
  omega

/-- If one file goes, the space it took is free. -/
theorem usedBytes_of_dropped {store later : Store} {file : Nat}
    (there : file ∈ store.files)
    (kept : ∀ other,
      other ∈ later.files ↔ other ≠ file ∧ other ∈ store.files)
    (same : ∀ other ∈ later.files, later.live other = store.live other) :
    later.usedBytes + (store.live file).length = store.usedBytes := by
  have left : later.present = store.present.erase file := by
    ext other
    rw [mem_present, Finset.mem_erase, mem_present]
    exact kept other
  have others :
      ∑ other ∈ later.present, (later.live other).length =
        ∑ other ∈ later.present, (store.live other).length := by
    apply Finset.sum_congr rfl
    intro other inside
    rw [same other (mem_present.mp inside)]
  rw [usedBytes_eq_sum, usedBytes_eq_sum, others, left]
  exact Finset.sum_erase_add _ _ (mem_present.mpr there)

/-! ## What changes do to it -/

theorem usedBytes_openHandle (store : Store) (file : Nat) (name : Bytes) :
    (store.openHandle file name).2.usedBytes = store.usedBytes := by
  apply usedBytes_congr
  · intro other
    rw [openHandle, Std.ExtTreeMap.mem_modify]
  · intro other _
    exact live_openHandle store file name other

/-- A create empties a file or makes an empty one. -/
theorem usedBytes_fileToCreate_le {store : Store} (wf : store.WellFormed)
    (name : Bytes) :
    (store.fileToCreate name).2.usedBytes ≤ store.usedBytes := by
  apply usedBytes_le
  intro other there
  rw [wf.live_fileToCreate]
  split
  · exact Or.inl rfl
  · rename_i different
    have old := (wf.mem_files_fileToCreate name other).mp there
    exact Or.inr ⟨old.resolve_left different, Nat.le_refl _⟩

theorem usedBytes_surrender_le (store : Store) (handle : Handle)
    (file : Nat) :
    (store.surrender handle file).usedBytes ≤ store.usedBytes := by
  apply usedBytes_le
  intro other there
  rw [live_surrender there]
  exact Or.inr ⟨mem_files_of_surrender there, Nat.le_refl _⟩

/-- A file that a close leaves there takes the space it took. -/
theorem usedBytes_surrender {store : Store} {handle : Handle} {file : Nat}
    (present : file ∈ (store.surrender handle file).files) :
    (store.surrender handle file).usedBytes = store.usedBytes := by
  have kept : ∀ other,
      other ∈ (store.surrender handle file).files ↔
        other ∈ store.files := by
    intro other
    refine ⟨mem_files_of_surrender, fun there => ?_⟩
    by_cases same : file = other
    · exact same ▸ present
    · rw [mem_files_iff, getElem?_files_surrender, if_neg same,
        ← mem_files_iff]
      exact there
  apply usedBytes_congr kept
  intro other there
  exact live_surrender ((kept other).mpr there)

theorem usedBytes_unlink_le (store : Store) (name : Bytes) (file : Nat) :
    (store.unlink name file).usedBytes ≤ store.usedBytes := by
  apply usedBytes_le
  intro other there
  rw [live_unlink there]
  exact Or.inr ⟨mem_files_of_unlink there, Nat.le_refl _⟩

/-- Queued data takes the space by which it makes its file longer. -/
theorem usedBytes_append {store : Store} (wf : store.WellFormed)
    {handle : Handle} {opened : StoreHandle}
    (found : store.handles.find? handle = some opened) {data : Bytes}
    (nonempty : data ≠ []) :
    (store.append handle opened data).usedBytes =
      store.usedBytes + store.growth opened data := by
  apply usedBytes_of_grown (wf.handle_present found)
  · intro other
    rw [append_eq]
  · intro other _ different
    rw [live_append, if_neg fun both => different both.1]
  · rw [live_append, if_pos ⟨rfl, nonempty⟩, Bytes.length_overwrite,
      growth]
    omega

/-- Where there is nothing to queue, no space is taken. -/
theorem usedBytes_append_nil (store : Store) (handle : Handle)
    (opened : StoreHandle) :
    (store.append handle opened []).usedBytes = store.usedBytes := rfl

/-- Writing a file back takes no space. -/
theorem usedBytes_writtenBack (store : Store) (sync : Probability)
    (file : Nat) :
    (store.writtenBack sync file).usedBytes = store.usedBytes :=
  usedBytes_congr (mem_files_writtenBack store sync file)
    fun _ there => live_writtenBack there

end Store

end FileConformance
