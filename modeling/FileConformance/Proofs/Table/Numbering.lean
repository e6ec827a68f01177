import FileConformance.Proofs.Directory.Hosting
import FileConformance.Proofs.Scenario.Names

/-!
# The names in a table

A table names its files by a stem and their decimal indices.  Whatever stem the
settings take, the names differ from one another, lead nowhere but into the
directory they are used in, and can be refused by a store for their length only.
The last name is the longest, so it alone decides whether all of them fit.
-/

namespace FileConformance

/-- A stem that the settings take is usable. -/
theorem Settings.usable_of_withStem {settings changed : Settings}
    {stem : String} (accepted : settings.withStem stem = .ok changed) :
    Name.usableStem stem = true := by
  unfold withStem at accepted
  split at accepted
  · assumption
  · cases accepted

namespace Name

variable {stem : String}

theorem toList_numbered (stem : String) (index : Nat) :
    (numbered stem index).toList =
      stem.toList ++ Nat.toDigits 10 index := by
  rw [numbered, String.toList_append, Nat.toString_eq_repr,
    Nat.toList_repr]

theorem staysBelow_numbered (usable : usableStem stem = true)
    (index : Nat) : StaysBelow (Bytes.ofString (numbered stem index)) where
  separator := separator_notMem_numbered usable index
  notSelf := numbered_ne_dots stem index (by simp [Disk.selfName])
  notParent := numbered_ne_dots stem index (by simp [Disk.parentName])

theorem usable_numbered (usable : usableStem stem = true) (index : Nat) :
    ¬Unusable (Bytes.ofString (numbered stem index)) := by
  rintro (empty | zero)
  · exact numbered_ne_nil stem index empty
  · exact zero_notMem_numbered usable index zero

theorem isComponent_numbered (usable : usableStem stem = true)
    (index : Nat) :
    Directory.isComponent (Bytes.ofString (numbered stem index)) = true :=
  (Directory.isComponent_eq_true_iff
    (staysBelow_numbered usable index)).mpr (usable_numbered usable index)

/-- A store can refuse a numbered name for its length only. -/
theorem checkName_numbered (usable : usableStem stem = true)
    (index : Nat) (store : Store) :
    store.checkName (Bytes.ofString (numbered stem index)) = .ok () ↔
      (numbered stem index).utf8ByteSize + 1 ≤
        store.settings.nameLimit.bytes := by
  rw [Store.checkName_eq_ok_iff,
    StoreSettings.accepts_numbered_iff usable, ← length_numbered,
    Bytes.length_ofString]

/-- A later file has no shorter name. -/
theorem utf8ByteSize_numbered_mono (stem : String) {left right : Nat}
    (ordered : left ≤ right) :
    (numbered stem left).utf8ByteSize ≤
      (numbered stem right).utf8ByteSize := by
  rw [← Bytes.length_ofString, ← Bytes.length_ofString]
  exact length_numbered_mono stem ordered

end Name

namespace Table

variable (stem : String) (count : Nat) (pattern : Pattern)
  (bufferLength : Nat)

theorem names_numbered :
    (numbered stem count pattern bufferLength).files.map
        TrackedFile.name =
      (List.range count).map (Name.numbered stem) := by
  rw [numbered, List.map_map]
  rfl

theorem length_files_numbered :
    (numbered stem count pattern bufferLength).files.length = count := by
  rw [numbered, List.length_map, List.length_range]

variable {stem count pattern bufferLength}

theorem file?_numbered {index : Nat} (below : index < count) :
    (numbered stem count pattern bufferLength).file? index =
      some { index, name := Name.numbered stem index,
             binding := .unbound } := by
  rw [file?, numbered, List.getElem?_map, List.getElem?_range below]
  rfl

theorem name_of_mem_numbered {file : TrackedFile}
    (member : file ∈ (numbered stem count pattern bufferLength).files) :
    ∃ index < count, file.name = Name.numbered stem index := by
  have named := List.mem_map_of_mem member (f := TrackedFile.name)
  rw [names_numbered, List.mem_map] at named
  rcases named with ⟨index, below, same⟩
  exact ⟨index, List.mem_range.mp below, same.symm⟩

/-- The last of some numbered files has the last of the indices. -/
theorem name_of_getLast?_numbered {last : TrackedFile}
    (found : (numbered stem count pattern bufferLength).files.getLast? =
      some last) :
    last.name = Name.numbered stem (count - 1) := by
  rw [List.getLast?_eq_getElem?, length_files_numbered] at found
  have below := (List.getElem?_eq_some_iff.mp found).1
  rw [length_files_numbered] at below
  rw [← file?, file?_numbered below] at found
  rw [← Option.some.inj found]

variable (stem count pattern bufferLength)

theorem nodup_names_numbered :
    ((numbered stem count pattern bufferLength).files.map
      TrackedFile.name).Nodup := by
  rw [names_numbered, List.Nodup, List.pairwise_map]
  refine List.nodup_range.imp fun different same => different ?_
  exact Name.numbered_injective stem (congrArg Bytes.ofString same)

/-- Names do not get shorter along a table. -/
theorem pairwise_length_numbered :
    (numbered stem count pattern bufferLength).files.Pairwise
      fun earlier later =>
        earlier.name.utf8ByteSize ≤ later.name.utf8ByteSize := by
  rw [numbered, List.pairwise_map]
  exact List.pairwise_lt_range.imp fun ordered =>
    Name.utf8ByteSize_numbered_mono stem (Nat.le_of_lt ordered)

/--
The names in a table are all different, each of them the stem and the decimal
form of its index.  Each is a single component that denotes neither a directory
itself nor the one above it, and a store takes it exactly if it fits the limit
with its terminator.  Names do not get shorter along the table, so all of them
fit a limit exactly if the last one does.
-/
theorem numbered_names_usable {settings changed : Settings}
    (accepted : settings.withStem stem = .ok changed) :
    let table := numbered stem count pattern bufferLength
    (table.files.map TrackedFile.name).Nodup ∧
      table.files.length = count ∧
      (∀ index < count, ∃ file, table.file? index = some file ∧
        file.name.toList = stem.toList ++ Nat.toDigits 10 index) ∧
      (∀ file ∈ table.files,
        Directory.isComponent file.path = true ∧ StaysBelow file.path ∧
          ∀ store : Store, store.checkName file.path = .ok () ↔
            file.name.utf8ByteSize + 1 ≤
              store.settings.nameLimit.bytes) ∧
      table.files.Pairwise (fun earlier later =>
        earlier.name.utf8ByteSize ≤ later.name.utf8ByteSize) ∧
      ∀ last, table.files.getLast? = some last → ∀ limit : Nat,
        (∀ file ∈ table.files, file.name.utf8ByteSize + 1 ≤ limit) ↔
          last.name.utf8ByteSize + 1 ≤ limit := by
  intro table
  have usable := Settings.usable_of_withStem accepted
  refine ⟨nodup_names_numbered stem count pattern bufferLength,
    length_files_numbered stem count pattern bufferLength, ?_, ?_,
    pairwise_length_numbered stem count pattern bufferLength, ?_⟩
  · intro index below
    exact ⟨_, file?_numbered below, Name.toList_numbered stem index⟩
  · intro file member
    rcases name_of_mem_numbered member with ⟨index, _, named⟩
    rw [TrackedFile.path, named]
    exact ⟨Name.isComponent_numbered usable index,
      Name.staysBelow_numbered usable index,
      Name.checkName_numbered usable index⟩
  · intro last found limit
    constructor
    · intro all
      exact all last (List.mem_of_getLast? found)
    · intro fits file member
      rcases name_of_mem_numbered member with ⟨index, below, named⟩
      rw [name_of_getLast?_numbered found] at fits
      rw [named]
      have shorter := Name.utf8ByteSize_numbered_mono stem
        (Nat.le_sub_one_of_lt below)
      exact Nat.le_trans (Nat.succ_le_succ shorter) fits

/--
Eleven names with a stem that starts with a dot and ends in a digit: the last
one is a byte longer than the others.
-/
theorem numbered_names_usable_eleven :
    let stem := ".é1"
    let table := numbered stem 11 .standard 1
    Settings.standard.withStem stem =
        .ok { Settings.standard with stem, usable_stem := by decide } ∧
      (table.files.map TrackedFile.name).Nodup ∧
      (∃ file, table.file? 9 = some file ∧
        file.name.toList = ['.', 'é', '1', '9'] ∧
        file ∈ table.files ∧
        Directory.isComponent file.path = true ∧
        file.name.utf8ByteSize = 5) ∧
      (∃ last, table.files.getLast? = some last ∧
        last.name.utf8ByteSize = 6 ∧
        ((∀ file ∈ table.files, file.name.utf8ByteSize + 1 ≤ 7) ↔
          last.name.utf8ByteSize + 1 ≤ 7)) := by
  intro stem table
  have accepted : Settings.standard.withStem stem =
      .ok { Settings.standard with stem, usable_stem := by decide } :=
    dif_pos (show Name.usableStem stem = true by decide)
  rcases numbered_names_usable stem 11 .standard 1 accepted with
    ⟨distinct, _, named, usable, _, all⟩
  rcases named 9 (by decide) with ⟨file, found, spelled⟩
  have name : file.name.toList = ['.', 'é', '1', '9'] :=
    spelled.trans (by decide)
  have inside : file ∈ table.files := List.mem_of_getElem? found
  have size : file.name.utf8ByteSize = 5 := by
    rw [← String.ofList_toList (s := file.name), name]
    decide
  have final : table.files.getLast? =
      some ⟨10, Name.numbered stem 10, .unbound⟩ := by decide +kernel
  refine ⟨accepted, distinct, ⟨file, found, name, inside,
    (usable file inside).1, size⟩, _, final, ?_, all _ final 7⟩
  decide +kernel

end Table

end FileConformance
