import FileConformance.Proofs.Ideal.Visits
import FileConformance.Proofs.Scenario.Steps

/-!
# By which exchanges a step passes

If every visit of a walk passes only by the exchanges that it has to make, then
so does the walk: it passes by those of its visits, one visit after the other.
What the subsystem was free to choose, it chose for every file.

Between the steps of a script only the handles of the files differ, so a table
is described by the binding of each index.
-/

namespace FileConformance

/-! ## Walks -/

namespace Walk

/-- A walk passes by exchanges, and leaves the files as given. -/
def PassesBy (visit : TrackedFile → Procedure Visit)
    (tracked : List TrackedFile) (exchanges : List Exchange)
    (moved : List TrackedFile) : Prop :=
  ∃ made, (files visit tracked).Reaches exchanges made ∧ Passes made ∧
    moved = made.map Visit.file

variable {visit : TrackedFile → Procedure Visit}
  {exchanges : List Exchange} {moved : List TrackedFile}

theorem passesBy_nil_iff :
    PassesBy visit [] exchanges moved ↔ exchanges = [] ∧ moved = [] := by
  rw [PassesBy, files_nil]
  constructor
  · rintro ⟨made, reached, _, rfl⟩
    rcases Procedure.reaches_pure_iff.mp reached with ⟨rfl, rfl⟩
    exact ⟨rfl, rfl⟩
  · rintro ⟨rfl, rfl⟩
    exact ⟨[], Procedure.reaches_pure_iff.mpr ⟨rfl, rfl⟩,
      List.forall_mem_nil _, rfl⟩

theorem passesBy_cons_iff {file : TrackedFile}
    {rest : List TrackedFile} :
    PassesBy visit (file :: rest) exchanges moved ↔
      ∃ first movedFirst second movedRest,
        exchanges = first ++ second ∧
          moved = movedFirst :: movedRest ∧
          (visit file).Passes first movedFirst ∧
          PassesBy visit rest second movedRest := by
  rw [PassesBy, files_cons]
  simp only [Procedure.reaches_bind_iff, Procedure.reaches_pure_iff]
  constructor
  · rintro ⟨_, ⟨first, ⟨check, movedFirst⟩, _, rfl, begun, second, others,
      _, rfl, ended, rfl, rfl⟩, passes, rfl⟩
    rw [Passes, List.forall_mem_cons] at passes
    refine ⟨first, movedFirst, second, others.map Visit.file, ?_, rfl,
      ⟨check, begun, passes.1⟩, others, ended, passes.2, rfl⟩
    rw [List.append_nil]
  · rintro ⟨first, movedFirst, second, _, rfl, rfl, ⟨check, begun, passed⟩,
      others, ended, passes, rfl⟩
    refine ⟨_, ⟨first, ⟨check, movedFirst⟩, second, rfl, begun, second,
      others, [], (List.append_nil second).symm, ended, rfl, rfl⟩, ?_, rfl⟩
    exact List.forall_mem_cons.mpr ⟨passed, passes⟩

end Walk

/-! ## Tables between steps -/

namespace Settings

/-- The bytes of the name of the file at an index. -/
def path (settings : Settings) (index : Nat) : Bytes :=
  Bytes.ofString (Name.numbered settings.stem index)

theorem path_injective (settings : Settings) :
    Function.Injective settings.path :=
  fun _ _ => Name.numbered_injective settings.stem

/-- What the file at an index has to hold. -/
def expected (settings : Settings) (index : Nat) : Bytes :=
  settings.table.expected index

theorem length_expected (settings : Settings) (index : Nat) :
    (settings.expected index).length = settings.bufferLength :=
  Pattern.length_fill settings.pattern (.ofNat index) settings.bufferLength

/-- The test file at an index, as it is bound. -/
def trackedFile (settings : Settings) (index : Nat)
    (binding : Binding) : TrackedFile :=
  { index, name := Name.numbered settings.stem index, binding }

/-- The table of the settings, with the files as they are bound. -/
def tableBound (settings : Settings)
    (binding : Nat → Binding) : Table :=
  { settings.table with
    files := (List.range settings.fileCount).map fun index =>
      settings.trackedFile index (binding index) }

/-- Some exchanges for every file, in the order of the indices. -/
def forFiles (settings : Settings)
    (exchanges : Nat → List Exchange) : List Exchange :=
  (List.range settings.fileCount).flatMap exchanges

theorem tableBound_unbound (settings : Settings) :
    settings.tableBound (fun _ => .unbound) = settings.table := rfl

/-- As many exchanges as the files make together. -/
theorem length_forFiles (settings : Settings)
    {exchanges : Nat → List Exchange} {count : Nat}
    (each : ∀ index, (exchanges index).length = count) :
    (settings.forFiles exchanges).length = settings.fileCount * count := by
  rw [forFiles, List.length_flatMap, funext each, List.map_const',
    List.sum_replicate_nat, List.length_range]

end Settings

instance : Nonempty Handle := ⟨⟨0⟩⟩

instance : Nonempty CallError := ⟨.notFound⟩

namespace Walk

variable {Choice : Type}
  {visit : TrackedFile → Procedure Visit} {settings : Settings}
  {before : Nat → Binding} {calls : Nat → Choice → List Exchange}
  {after : Nat → Choice → Binding}

/--
A visit passes only by calls that are determined up to a choice, which is also
all that the binding of its file depends on.
-/
def Determined (settings : Settings)
    (visit : TrackedFile → Procedure Visit) (before : Nat → Binding)
    (calls : Nat → Choice → List Exchange)
    (after : Nat → Choice → Binding) : Prop :=
  ∀ (index : Nat) (exchanges : List Exchange) (moved : TrackedFile),
    (visit (settings.trackedFile index (before index))).Passes
        exchanges moved ↔
      ∃ choice, exchanges = calls index choice ∧
        moved = settings.trackedFile index (after index choice)

/-- The choices for some indices and for the ones behind them are choices. -/
theorem exists_choices_iff {start count : Nat}
    {exchanges : List Exchange} {moved : List TrackedFile} :
    (∃ choice : Nat → Choice,
      exchanges = (List.range' start (count + 1)).flatMap
          (fun index => calls index (choice index)) ∧
        moved = (List.range' start (count + 1)).map fun index =>
          settings.trackedFile index (after index (choice index))) ↔
      ∃ (first : Choice) (others : Nat → Choice),
        exchanges = calls start first ++
            (List.range' (start + 1) count).flatMap
              (fun index => calls index (others index)) ∧
          moved = settings.trackedFile start (after start first) ::
            (List.range' (start + 1) count).map fun index =>
              settings.trackedFile index (after index (others index)) := by
  rw [List.range'_succ]
  constructor
  · rintro ⟨choice, rfl, rfl⟩
    exact ⟨choice start, choice, rfl, rfl⟩
  · rintro ⟨first, others, rfl, rfl⟩
    -- One function makes all choices, since no index comes twice.
    have behind : ∀ index ∈ List.range' (start + 1) count,
        (if index = start then first else others index) =
          others index := by
      intro index member
      have above := (List.mem_range'_1.mp member).1
      rw [if_neg (Nat.ne_of_gt above)]
    refine ⟨fun index => if index = start then first else others index,
      ?_, ?_⟩
    · dsimp only
      rw [List.flatMap_cons, if_pos rfl]
      congr 1
      apply List.flatMap_congr
      intro index member
      rw [behind index member]
    · dsimp only
      rw [List.map_cons, if_pos rfl]
      congr 1
      apply List.map_congr_left
      intro index member
      rw [behind index member]

variable [Nonempty Choice]

theorem passesBy_range_iff
    (determined : Determined settings visit before calls after)
    {start count : Nat} {exchanges : List Exchange}
    {moved : List TrackedFile} :
    PassesBy visit ((List.range' start count).map fun index =>
        settings.trackedFile index (before index)) exchanges moved ↔
      ∃ choice : Nat → Choice,
        exchanges = (List.range' start count).flatMap
            (fun index => calls index (choice index)) ∧
          moved = (List.range' start count).map fun index =>
            settings.trackedFile index (after index (choice index)) := by
  induction count generalizing start exchanges moved with
  | zero =>
      rw [List.range'_zero, List.map_nil, passesBy_nil_iff]
      constructor
      · rintro ⟨rfl, rfl⟩
        exact ⟨fun _ => Classical.arbitrary Choice, rfl, rfl⟩
      · rintro ⟨_, rfl, rfl⟩
        exact ⟨rfl, rfl⟩
  | succ count ih =>
      rw [exists_choices_iff, List.range'_succ, List.map_cons,
        passesBy_cons_iff]
      constructor
      · rintro ⟨_, _, _, _, rfl, rfl, passed, rest⟩
        rcases (determined start _ _).mp passed with ⟨first, rfl, rfl⟩
        rcases ih.mp rest with ⟨others, rfl, rfl⟩
        exact ⟨first, others, rfl, rfl⟩
      · rintro ⟨first, others, rfl, rfl⟩
        exact ⟨_, _, _, _, rfl, rfl, (determined start _ _).mpr
            ⟨first, rfl, rfl⟩,
          ih.mpr ⟨others, rfl, rfl⟩⟩

end Walk

/-! ## Steps -/

/-- A step passes by exchanges, and leaves the table as given. -/
def Step.PassesBy (limit : NameLimit) (step : Step) (table : Table)
    (exchanges : List Exchange) (later : Table) : Prop :=
  ∃ checks, (step.perform limit table).Reaches exchanges (checks, later) ∧
    Clean checks

namespace Walk

variable {visit : TrackedFile → Procedure Visit}
  {exchanges : List Exchange} {later : Table}

/-- A step that walks a table passes if its walk passes. -/
theorem table_passes_iff {table : Table} :
    (∃ checks, (Walk.table visit table).Reaches exchanges (checks, later) ∧
        Clean checks) ↔
      ∃ moved, PassesBy visit table.files exchanges moved ∧
        later = { table with files := moved } := by
  rw [Walk.table]
  simp only [Procedure.reaches_bind_iff, Procedure.reaches_pure_iff]
  constructor
  · rintro ⟨checks, ⟨first, made, _, rfl, reached, rfl, same⟩, clean⟩
    cases same
    rw [List.append_nil]
    exact ⟨made.map Visit.file,
      ⟨made, reached, List.forall_mem_map.mp clean, rfl⟩, rfl⟩
  · rintro ⟨_, ⟨made, reached, passes, rfl⟩, rfl⟩
    exact ⟨made.map Visit.check, ⟨exchanges, made, [],
      (List.append_nil exchanges).symm, reached, rfl, rfl⟩,
      List.forall_mem_map.mpr passes⟩

/-- A walk through the table of the settings passes by all choices. -/
theorem table_passes_iff_choices {Choice : Type} [Nonempty Choice]
    {settings : Settings} {before : Nat → Binding}
    {calls : Nat → Choice → List Exchange}
    {after : Nat → Choice → Binding}
    (determined : Determined settings visit before calls after) :
    (∃ checks, (Walk.table visit (settings.tableBound before)).Reaches
        exchanges (checks, later) ∧ Clean checks) ↔
      ∃ choice : Nat → Choice,
        exchanges = settings.forFiles
            (fun index => calls index (choice index)) ∧
          later = settings.tableBound
            fun index => after index (choice index) := by
  rw [table_passes_iff, Settings.tableBound]
  simp only [List.range_eq_range', passesBy_range_iff determined]
  constructor
  · rintro ⟨_, ⟨choice, rfl, rfl⟩, rfl⟩
    refine ⟨choice, ?_, ?_⟩
    · rw [Settings.forFiles, List.range_eq_range']
    · rw [Settings.tableBound, List.range_eq_range']
  · rintro ⟨choice, rfl, rfl⟩
    refine ⟨_, ⟨choice, ?_, rfl⟩, ?_⟩
    · rw [Settings.forFiles, List.range_eq_range']
    · rw [Settings.tableBound, List.range_eq_range']

/-- If there is no choice in a visit there is none in the walk. -/
theorem table_passes_iff_fixed {settings : Settings}
    {before after : Nat → Binding} {calls : Nat → List Exchange}
    (determined : ∀ (index : Nat) (exchanges : List Exchange)
      (moved : TrackedFile),
        (visit (settings.trackedFile index (before index))).Passes
            exchanges moved ↔
          exchanges = calls index ∧
            moved = settings.trackedFile index (after index)) :
    (∃ checks, (Walk.table visit (settings.tableBound before)).Reaches
        exchanges (checks, later) ∧ Clean checks) ↔
      exchanges = settings.forFiles calls ∧
        later = settings.tableBound after := by
  have chosen : Determined settings visit before
      (fun index (_ : Unit) => calls index) fun index _ => after index := by
    intro index exchanges moved
    rw [determined]
    exact (exists_const Unit).symm
  rw [table_passes_iff_choices chosen]
  exact exists_const (Nat → Unit)

end Walk

namespace Step

variable {limit : NameLimit} {settings : Settings}
  {before : Nat → Binding} {handles : Nat → Handle}
  {exchanges : List Exchange} {table later : Table}

/-! ### Bulk steps and round trips -/

theorem create_passesBy_iff :
    (bulk .create .success).PassesBy limit (settings.tableBound before)
        exchanges later ↔
      ∃ issued : Nat → Handle,
        exchanges = settings.forFiles
            (fun index =>
              [⟨.create (settings.path index), .ok (issued index)⟩]) ∧
          later = settings.tableBound fun index => .bound (issued index) :=
  Walk.table_passes_iff_choices fun _ _ _ => Bulk.create_passes_iff

theorem openFile_passesBy_iff :
    (bulk .openFile .success).PassesBy limit (settings.tableBound before)
        exchanges later ↔
      ∃ issued : Nat → Handle,
        exchanges = settings.forFiles
            (fun index =>
              [⟨.openFile (settings.path index), .ok (issued index)⟩]) ∧
          later = settings.tableBound fun index => .bound (issued index) :=
  Walk.table_passes_iff_choices fun _ _ _ => Bulk.openFile_passes_iff

theorem openFile_passesBy_failure_iff :
    (bulk .openFile .failure).PassesBy limit (settings.tableBound before)
        exchanges later ↔
      ∃ reasons : Nat → CallError,
        exchanges = settings.forFiles
            (fun index =>
              [⟨.openFile (settings.path index),
                .error (reasons index)⟩]) ∧
          later = settings.tableBound before :=
  Walk.table_passes_iff_choices fun _ _ _ => Bulk.openFile_passes_failure_iff

theorem close_passesBy_iff :
    (bulk .close .success).PassesBy limit
        (settings.tableBound fun index => .bound (handles index))
        exchanges later ↔
      exchanges = settings.forFiles
          (fun index => [⟨.close (handles index), .ok ()⟩]) ∧
        later =
          settings.tableBound fun index => .released (handles index) := by
  apply Walk.table_passes_iff_fixed
  intro index exchanges moved
  have bound : (settings.trackedFile index
      (.bound (handles index))).binding = .bound (handles index) := rfl
  exact Bulk.close_passes_iff bound

theorem close_passesBy_released_iff {expectation : Expectation} :
    (bulk .close expectation).PassesBy limit
        (settings.tableBound fun index => .released (handles index))
        exchanges later ↔
      ∃ reasons : Nat → CallError,
        exchanges = settings.forFiles
            (fun index =>
              [⟨.close (handles index), .error (reasons index)⟩]) ∧
          later =
            settings.tableBound fun index => .released (handles index) :=
  Walk.table_passes_iff_choices fun _ _ _ =>
    Bulk.close_passes_released_iff rfl

theorem delete_passesBy_iff :
    (bulk .delete .success).PassesBy limit (settings.tableBound before)
        exchanges later ↔
      exchanges = settings.forFiles
          (fun index => [⟨.delete (settings.path index), .ok ()⟩]) ∧
        later = settings.tableBound before :=
  Walk.table_passes_iff_fixed fun _ _ _ => Bulk.delete_passes_iff

theorem roundTrip_passesBy_iff :
    roundTrip.PassesBy limit
        (settings.tableBound fun index => .bound (handles index))
        exchanges later ↔
      ∃ issued : Nat → Handle,
        exchanges = settings.forFiles
            (fun index => [
              ⟨.write (handles index) (settings.expected index),
                .ok settings.bufferLength⟩,
              ⟨.close (handles index), .ok ()⟩,
              ⟨.openFile (settings.path index), .ok (issued index)⟩,
              RoundTrip.readWhole (issued index) (settings.expected index)
                settings.bufferLength
                (settings.length_expected index)]) ∧
          later =
            settings.tableBound fun index => .bound (issued index) := by
  have determined : Walk.Determined settings
      (fun file => RoundTrip.visit (settings.expected file.index) file)
      (fun index => .bound (handles index))
      (fun index issued => [
        ⟨.write (handles index) (settings.expected index),
          .ok settings.bufferLength⟩,
        ⟨.close (handles index), .ok ()⟩,
        ⟨.openFile (settings.path index), .ok issued⟩,
        RoundTrip.readWhole issued (settings.expected index)
          settings.bufferLength (settings.length_expected index)])
      (fun _ issued => .bound issued) := by
    intro index exchanges moved
    have bound : (settings.trackedFile index
        (.bound (handles index))).binding = .bound (handles index) := rfl
    exact RoundTrip.visit_passes_iff bound (settings.length_expected index)
  exact Walk.table_passes_iff_choices determined

end Step

end FileConformance
