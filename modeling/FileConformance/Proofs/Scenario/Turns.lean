import FileConformance.Proofs.Scenario.InStep
import FileConformance.Proofs.Scenario.Walks
import FileConformance.Proofs.Scenario.Scope
import FileConformance.Proofs.Store.Provenance

/-!
# Each file's turn in a walk

The files of a table have names of their own.  So if every visit keeps to the
name of its file, then each file finds, when its turn comes, everything under
its name as it was before the walk; and after the walk everything is there as
its own visit left it.  What a walk does to a file is what one visit does to it,
whatever becomes of the others.
-/

namespace FileConformance

open Store

/-- What depends on a file's own name and handle lasts through the others. -/
theorem TrackedFile.inStep_lasts : Lasts TrackedFile.InStep := by
  intro file store later names outside spares inStep
  constructor
  · intro handle bound
    rcases Option.map_eq_some_iff.mp (inStep.bound bound) with
      ⟨opened, found, under⟩
    rw [nameOf?, spares.find?_eq (by rw [under]; exact outside) found]
    exact congrArg some under
  · intro handle released
    have closed := inStep.released released
    rw [nameOf?, Option.map_eq_none_iff] at closed ⊢
    exact spares.find?_none (inStep.spent released) closed
  · exact fun released =>
      Nat.lt_of_lt_of_le (inStep.spent released) spares.nextHandle_le

namespace Walk

variable {rules : StoreSettings} {stem : String}
  {visit : TrackedFile → Procedure Visit}
  {reached : Nat → Store → Prop}
  {before : TrackedFile → Store → Prop}
  {took : TrackedFile → Store → Visit → Store → Prop}

/-- A visit keeps to its file, and its turn is as described. -/
def TakesTurns (rules : StoreSettings) (stem : String)
    (visit : TrackedFile → Procedure Visit)
    (reached : Nat → Store → Prop)
    (before : TrackedFile → Store → Prop)
    (took : TrackedFile → Store → Visit → Store → Prop) : Prop :=
  ∀ {index : Nat} {file : TrackedFile} {store : Store},
    file.index = index →
      file.path = Bytes.ofString (Name.numbered stem index) →
      Sound rules store → reached index store → before file store →
      (visit file).Yields Store.subsystem store fun made later =>
        Isolates rules [file.path] store later ∧
          file.Same made.file ∧ reached (index + 1) later ∧
          took file store made later

/--
From a state to a later one a file had its turn.  Before the turn and after it
nothing happened that concerns the file.
-/
def Turn (rules : StoreSettings)
    (took : TrackedFile → Store → Visit → Store → Prop)
    (store later : Store) (file : TrackedFile) (made : Visit) : Prop :=
  file.Same made.file ∧ ∃ earlier first last others,
    file.path ∉ earlier ∧ Isolates rules earlier store first ∧
      took file first made last ∧
      file.path ∉ others ∧ Isolates rules others last later

/-- Every visit was somebody's turn. -/
theorem exists_turn {turn : TrackedFile → Visit → Prop}
    {tracked : List TrackedFile} {made : List Visit}
    (turns : List.Forall₂ turn tracked made) {visited : Visit}
    (member : visited ∈ made) : ∃ file ∈ tracked, turn file visited := by
  induction turns with
  | nil => cases member
  | @cons file first rest others taken _ ih =>
      rcases List.mem_cons.mp member with rfl | later
      · exact ⟨file, List.mem_cons_self, taken⟩
      · rcases ih later with ⟨other, among, takenToo⟩
        exact ⟨other, List.mem_cons_of_mem file among, takenToo⟩

/-- A turn may be preceded by other turns. -/
theorem Turn.preceded {store middle later : Store} {file : TrackedFile}
    {made : Visit} {names : List Bytes}
    (turn : Turn rules took middle later file made)
    (outside : file.path ∉ names)
    (isolates : Isolates rules names store middle) :
    Turn rules took store later file made := by
  rcases turn with ⟨same, earlier, first, last, others, apart, start, rest⟩
  refine ⟨same, names ++ earlier, first, last, others, ?_,
    isolates.trans start, rest⟩
  rw [List.mem_append, not_or]
  exact ⟨outside, apart⟩

/-- A walk through numbered files gives each of them its turn. -/
theorem files_takeTurns
    (takes : TakesTurns rules stem visit reached before took)
    (before_lasts : Lasts before) {start : Nat}
    {tracked : List TrackedFile} {store : Store}
    (numbered : Numbered stem start tracked) (sound : Sound rules store)
    (here : reached start store)
    (standing : ∀ file ∈ tracked, before file store) :
    (files visit tracked).Yields Store.subsystem store fun made later =>
      Isolates rules (tracked.map TrackedFile.path) store later ∧
        reached (start + tracked.length) later ∧
        Numbered stem start (made.map Visit.file) ∧
        List.Forall₂ (Turn rules took store later) tracked made := by
  induction numbered generalizing store with
  | nil =>
      exact Procedure.yields_pure ⟨.refl sound [], here, .nil, .nil⟩
  | @cons start file rest index_eq name_eq later ih =>
      have path_eq : file.path =
          Bytes.ofString (Name.numbered stem start) := by
        rw [TrackedFile.path, name_eq]
      have distinct : file.path ∉ rest.map TrackedFile.path := by
        rw [path_eq]
        exact later.path_notMem (Nat.lt_succ_self start)
      have apart : ∀ other ∈ rest, other.path ∉ [file.path] := by
        intro other member
        rw [List.mem_singleton]
        intro same
        apply distinct
        rw [← same]
        exact List.mem_map_of_mem member
      rw [List.forall_mem_cons] at standing
      rw [files_cons]
      apply Procedure.yields_bind
      apply (takes index_eq path_eq sound here standing.1).mono
      rintro first middle ⟨isolates, same, there, taken⟩
      have waiting : ∀ other ∈ rest, before other middle :=
        fun other member => before_lasts (apart other member)
          isolates.toSpares (standing.2 other member)
      apply Procedure.yields_bind
      apply (ih isolates.toSound there waiting).mono
      rintro others last ⟨rests, reachedLast, numberedRest, turns⟩
      apply Procedure.yields_pure
      refine ⟨isolates.trans rests, ?_, ?_, .cons ?_ ?_⟩
      · rw [List.length_cons, Nat.add_comm rest.length 1,
          ← Nat.add_assoc]
        exact reachedLast
      · exact .cons (same.index_eq.trans index_eq)
          (same.name_eq.trans name_eq) numberedRest
      · exact ⟨same, [], store, middle, _, List.not_mem_nil,
          .refl sound [], taken, distinct, rests⟩
      · rw [List.forall₂_iff_zip]
        rw [List.forall₂_iff_zip] at turns
        refine ⟨turns.1, fun {other made} member => ?_⟩
        exact (turns.2 member).preceded
          (apart other (List.of_mem_zip member).1) isolates

end Walk

end FileConformance
