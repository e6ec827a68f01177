import FileConformance.Proofs.Scenario.Names
import FileConformance.Proofs.Scenario.Visits

/-!
# What a walk comes to

A walk visits the test files in the order of their indices.  If every visit
passes under a condition on the index, and takes its file from one standing to
another while it leaves everything else alone, then the walk passes if the
condition holds of every index, and takes all files there.

A visit whose condition fails spoils the walk for good, whatever the visits
after it come to.
-/

namespace FileConformance

open Store

/-! ## Numbered files -/

/-- Test files with consecutive indices, from a given one on. -/
inductive Numbered (stem : String) : Nat → List TrackedFile → Prop where
  | nil {start : Nat} : Numbered stem start []
  | cons {start : Nat} {file : TrackedFile} {rest : List TrackedFile}
      (index_eq : file.index = start)
      (name_eq : file.name = Name.numbered stem start)
      (later : Numbered stem (start + 1) rest) :
      Numbered stem start (file :: rest)

namespace Numbered

variable {stem : String} {start : Nat} {files : List TrackedFile}

theorem of_range (stem : String) (start count : Nat) :
    Numbered stem start
      ((List.range' start count).map fun index =>
        { index, name := Name.numbered stem index, binding := .unbound }) := by
  induction count generalizing start with
  | zero => exact .nil
  | succ count ih => exact .cons rfl rfl (ih (start + 1))

/-- Only the bindings are left open. -/
theorem exists_bindings (numbered : Numbered stem start files) :
    ∃ bindings : Nat → Binding,
      files = (List.range' start files.length).map fun index =>
        ⟨index, Name.numbered stem index, bindings index⟩ := by
  induction numbered with
  | nil => exact ⟨fun _ => .unbound, rfl⟩
  | @cons start file rest index_eq name_eq later ih =>
      rcases ih with ⟨bindings, rest_eq⟩
      let extended : Nat → Binding := fun index =>
        if index = start then file.binding else bindings index
      have first :
          file = ⟨start, Name.numbered stem start, extended start⟩ := by
        rw [← name_eq, show extended start = file.binding from if_pos rfl,
          ← index_eq]
      refine ⟨extended, congrArg₂ List.cons first (rest_eq.trans ?_)⟩
      apply List.map_congr_left
      intro index member
      have above := (List.mem_range'_1.mp member).1
      rw [show extended index = bindings index from
        if_neg (Nat.ne_of_gt above)]

/-- A file is found at its index, counted from the first one. -/
theorem exists_offset (numbered : Numbered stem start files)
    {file : TrackedFile} (member : file ∈ files) :
    ∃ offset < files.length,
      file.path = Bytes.ofString (Name.numbered stem (start + offset)) := by
  induction numbered with
  | nil => cases member
  | @cons start first rest index_eq name_eq later ih =>
      rcases List.mem_cons.mp member with rfl | inRest
      · refine ⟨0, Nat.succ_pos rest.length, ?_⟩
        rw [TrackedFile.path, name_eq, Nat.add_zero]
      · rcases ih inRest with ⟨offset, below, path_eq⟩
        refine ⟨offset + 1, Nat.succ_lt_succ below, ?_⟩
        rw [path_eq, Nat.add_assoc, Nat.add_comm 1 offset]

/-- A file before the first one has another name. -/
theorem path_notMem (numbered : Numbered stem start files)
    {index : Nat} (earlier : index < start) :
    Bytes.ofString (Name.numbered stem index) ∉
      files.map TrackedFile.path := by
  intro member
  rcases List.mem_map.mp member with ⟨file, inside, same⟩
  rcases numbered.exists_offset inside with ⟨offset, _, path_eq⟩
  rw [path_eq] at same
  have equal := Name.numbered_injective stem same
  omega

/-- Different files have different names. -/
theorem eq_of_path_eq (numbered : Numbered stem start files)
    {left right : TrackedFile} (member : left ∈ files)
    (memberToo : right ∈ files) (same : left.path = right.path) :
    left = right := by
  induction numbered with
  | nil => cases member
  | @cons start first rest index_eq name_eq later ih =>
      have apart : ∀ other ∈ rest, other.path ≠ first.path := by
        intro other inRest equal
        apply later.path_notMem (Nat.lt_succ_self start)
        rw [← name_eq, ← TrackedFile.path, ← equal]
        exact List.mem_map_of_mem inRest
      rcases List.mem_cons.mp member with rfl | inRest
      · rcases List.mem_cons.mp memberToo with rfl | inRestToo
        · rfl
        · exact (apart right inRestToo same.symm).elim
      · rcases List.mem_cons.mp memberToo with rfl | inRestToo
        · exact (apart left inRest same).elim
        · exact ih inRest inRestToo

end Numbered

/-! ## Walks -/

namespace Walk

variable {rules : StoreSettings} {stem : String}
  {visit : TrackedFile → Procedure Visit}
  {reached : Nat → Store → Prop}
  {before after : TrackedFile → Store → Prop} {condition : Nat → Prop}

/-- A visit never gives up. -/
def Total (visit : TrackedFile → Procedure Visit) : Prop :=
  ∀ (file : TrackedFile) (store : Store),
    (visit file).Yields Store.subsystem store fun _ _ => True

/--
A visit passes under a condition on the index of its file, and then takes the
file from one standing to another, and the store from what was reached before
the file to what is reached after it.
-/
def Takes (rules : StoreSettings) (stem : String)
    (visit : TrackedFile → Procedure Visit)
    (reached : Nat → Store → Prop)
    (before after : TrackedFile → Store → Prop)
    (condition : Nat → Prop) : Prop :=
  ∀ {index : Nat} {file : TrackedFile} {store : Store},
    file.index = index →
      file.path = Bytes.ofString (Name.numbered stem index) →
      Running rules store → reached index store → before file store →
      (visit file).Yields Store.subsystem store fun made later =>
        Judged made.check (condition index)
          (Carried rules file store made later ∧
            reached (index + 1) later ∧ after made.file later)

/-- Every visit of a walk passes. -/
def Passes (made : List Visit) : Prop :=
  ∀ visit ∈ made, visit.check.isFailure = false

theorem files_total (total : Total visit) (tracked : List TrackedFile)
    (store : Store) :
    (files visit tracked).Yields Store.subsystem store
      fun _ _ => True := by
  induction tracked generalizing store with
  | nil => exact Procedure.yields_pure trivial
  | cons file rest ih =>
      rw [files_cons]
      apply Procedure.yields_bind
      apply (total file store).mono
      intro first middle _
      apply Procedure.yields_bind
      apply (ih middle).mono
      intro others later _
      exact Procedure.yields_pure trivial

/-- What is known of the indices from one on is known of it and the rest. -/
theorem forall_offset_succ_iff {start length : Nat} :
    (∀ offset < length + 1, condition (start + offset)) ↔
      condition start ∧
        ∀ offset < length, condition (start + 1 + offset) := by
  constructor
  · intro all
    refine ⟨all 0 (Nat.succ_pos length), ?_⟩
    intro offset below
    have next := all (offset + 1) (Nat.succ_lt_succ below)
    rw [Nat.add_assoc, Nat.add_comm 1 offset]
    exact next
  · rintro ⟨first, others⟩ offset below
    cases offset with
    | zero => exact first
    | succ offset =>
        have next := others offset (Nat.lt_of_succ_lt_succ below)
        rw [Nat.add_assoc, Nat.add_comm 1 offset] at next
        exact next

theorem files_yields (total : Total visit)
    (takes : Takes rules stem visit reached before after condition)
    (before_lasts : Lasts before) (after_lasts : Lasts after)
    {start : Nat} {tracked : List TrackedFile} {store : Store}
    (numbered : Numbered stem start tracked)
    (running : Running rules store) (here : reached start store)
    (standing : ∀ file ∈ tracked, before file store) :
    (files visit tracked).Yields Store.subsystem store fun made later =>
      (Passes made ↔
        ∀ offset < tracked.length, condition (start + offset)) ∧
      ((∀ offset < tracked.length, condition (start + offset)) →
        Follows rules (tracked.map TrackedFile.path) store later ∧
          reached (start + tracked.length) later ∧
          Numbered stem start (made.map Visit.file) ∧
          made.length = tracked.length ∧
          ∀ visit ∈ made, after visit.file later) := by
  induction numbered generalizing store with
  | nil =>
      apply Procedure.yields_pure
      constructor
      · apply iff_of_true
        · exact List.forall_mem_nil _
        · exact fun offset below => (Nat.not_lt_zero offset below).elim
      · intro _
        exact ⟨Follows.refl running [], here, .nil, rfl,
          List.forall_mem_nil _⟩
  | @cons start file rest index_eq name_eq later ih =>
      have path_eq : file.path =
          Bytes.ofString (Name.numbered stem start) := by
        rw [TrackedFile.path, name_eq]
      have distinct : file.path ∉ rest.map TrackedFile.path := by
        rw [path_eq]
        exact later.path_notMem (Nat.lt_succ_self start)
      rw [files_cons]
      apply Procedure.yields_bind
      apply (takes index_eq path_eq running here
        (standing file List.mem_cons_self)).mono
      rintro first middle ⟨passes, result⟩
      apply Procedure.yields_bind
      simp only [List.length_cons, forall_offset_succ_iff]
      by_cases holds : condition start
      · rcases result holds with ⟨carried, there, arrived⟩
        have waiting : ∀ other ∈ rest, before other middle := by
          intro other member
          have apart : other.path ∉ [file.path] := by
            rw [List.mem_singleton]
            intro same
            apply distinct
            rw [← same]
            exact List.mem_map_of_mem member
          exact before_lasts apart carried.toSpares
            (standing other (List.mem_cons_of_mem file member))
        apply (ih carried.toRunning there waiting).mono
        rintro others last ⟨othersPass, othersResult⟩
        apply Procedure.yields_pure
        constructor
        · rw [Passes, List.forall_mem_cons, passes, ← othersPass]
          rfl
        · rintro ⟨_, rests⟩
          rcases othersResult rests with
            ⟨follows, reachedLast, numberedRest, length_eq, standingRest⟩
          have first_path : first.file.path = file.path := by
            rw [TrackedFile.path, carried.name_eq, TrackedFile.path]
          refine ⟨⟨follows.toRunning,
            carried.toSpares.trans follows.toSpares⟩, ?_, ?_, ?_, ?_⟩
          · rw [Nat.add_comm rest.length 1, ← Nat.add_assoc]
            exact reachedLast
          · exact .cons (carried.index_eq.trans index_eq)
              (carried.name_eq.trans name_eq) numberedRest
          · rw [List.length_cons, length_eq]
          · rw [List.forall_mem_cons]
            refine ⟨after_lasts ?_ follows.toSpares arrived, standingRest⟩
            rw [first_path]
            exact distinct
      · apply (files_total total rest middle).mono
        intro others last _
        apply Procedure.yields_pure
        constructor
        · apply iff_of_false
          · intro all
            exact holds (passes.mp (all first List.mem_cons_self))
          · intro all
            exact holds all.1
        · intro all
          exact (holds all.1).elim

end Walk

end FileConformance
