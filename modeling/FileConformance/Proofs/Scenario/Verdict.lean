import FileConformance.Proofs.Scenario.Scripts

/-!
# The verdict of a scenario

On a faultless simulated store the whole scenario succeeds if and only if five
limits leave it the room it needs: open files may be deleted, the probed limit
on names is the limit of the store, the longest test name fits it, all contents
fit at once, and so do the handles at their peak.

The peak is reached where files are opened a second time.  The first handles
are bound to nothing then and stay open to the end, so that from the descriptor
table on there are as many leaked handles as there are files; the probes of the
limit hold two more.
-/

namespace FileConformance

open Store

/-! ## The limits a scenario needs -/

namespace StoreSettings

variable {rules : StoreSettings}

/-- What is room for more handles is room for fewer. -/
theorem HasRoom.mono {fewer handles : Nat} (room : rules.HasRoom handles)
    (ordered : fewer ≤ handles) : rules.HasRoom fewer := by
  intro limit limited
  exact Nat.lt_of_le_of_lt ordered (room limit limited)

/-- Contents fit one after the other if and only if they fit together. -/
theorem hasSpace_all_iff {count length : Nat} (some_file : 0 < count)
    (some_byte : 0 < length) :
    (∀ index < count, rules.HasSpace (index * length) length) ↔
      ∀ capacity, rules.capacity = some capacity →
        count * length ≤ capacity := by
  constructor
  · intro all capacity limited
    have last := all (count - 1) (Nat.sub_lt some_file Nat.one_pos)
      capacity limited some_byte
    rw [← Nat.succ_mul, Nat.succ_eq_add_one,
      Nat.sub_add_cancel some_file] at last
    exact last
  · intro fits index below capacity limited _
    calc
      index * length + length = (index + 1) * length :=
        (Nat.succ_mul index length).symm
      _ ≤ count * length := Nat.mul_le_mul_right length below
      _ ≤ capacity := fits capacity limited

/--
The most handles are open while all files are open twice, or at the end, besides
those that were open before.
-/
theorem hasRoom_peak_iff {handles count : Nat} (some_file : 0 < count) :
    ((∀ index < count, rules.HasRoom (handles + count + index)) ∧
        rules.HasRoom (handles + count + 1)) ↔
      ∀ limit, rules.handleLimit = some limit →
        handles + max (2 * count) (count + 2) ≤ limit := by
  constructor
  · rintro ⟨all, probes⟩ limit limited
    have last := all (count - 1) (Nat.sub_lt some_file Nat.one_pos)
      limit limited
    have both := probes limit limited
    omega
  · intro peak
    constructor
    · intro index below limit limited
      have twice := peak limit limited
      omega
    · intro limit limited
      have both := peak limit limited
      omega

end StoreSettings

namespace Scenario

variable {rules : StoreSettings} {settings : Settings} {handles : Nat}
  {each : TrackedFile → Store → Prop}

/-! ## The phases of the script -/

/-- The first phase leaves no handle behind. -/
theorem roundTripSteps_proceeds (faultless : rules.Faultless) :
    Proceeds settings roundTripSteps
      (Stage rules settings
        (fun store => Handles handles store ∧ store.usedBytes = 0) each)
      (rules.AcceptsFiles settings ∧
        (∀ index < settings.fileCount, rules.HasRoom (handles + index)) ∧
        (∀ index < settings.fileCount,
          rules.HasSpace (index * settings.bufferLength)
            settings.bufferLength) ∧
        rules.deleteOpen = .allow)
      (Stage rules settings (Handles handles)
        fun file store => file.Unnamed store ∧ file.Released store) := by
  apply Proceeds.of_iff
  · apply Proceeds.cons
    · exact createAll_achieves_keeping fun kept unused => kept unused
    intro admitted
    have accepted : rules.AcceptsFiles settings :=
      fun index below => (admitted index below).1
    apply Proceeds.cons (roundTrip_achieves faultless accepted)
    intro _
    apply Proceeds.cons (deleteAllOpen_achieves accepted)
    intro _
    apply Proceeds.cons (closeAll_achieves TrackedFile.unnamed_lasts
      TrackedFile.unnamed_of_same_names)
    intro _
    exact Proceeds.nil
  · constructor
    · rintro ⟨admitted, space, allow, _⟩
      exact ⟨fun index below => (admitted index below).1,
        fun index below => (admitted index below).2, space, allow⟩
    · rintro ⟨accepted, room, space, allow⟩
      exact ⟨fun index below =>
        ⟨accepted index below, room index below⟩, space, allow, trivial,
          trivial⟩

/-- The second phase leaves one handle behind for every file. -/
theorem descriptorSteps_proceeds
    (accepted : rules.AcceptsFiles settings)
    (allow : rules.deleteOpen = .allow) :
    Proceeds settings descriptorSteps
      (Stage rules settings (Handles handles) each)
      (∀ index < settings.fileCount,
        rules.HasRoom (handles + settings.fileCount + index))
      (Stage rules settings (Handles (handles + settings.fileCount))
        fun file store => file.Unnamed store ∧ file.Released store) := by
  apply Proceeds.of_iff
  · apply Proceeds.cons createAll_achieves
    intro _
    -- The handles of the first step are bound to nothing from here on.
    apply Proceeds.cons
    · exact openAll_achieves fun blank => blank.attached.named
    intro _
    apply Proceeds.cons
    · exact closeAll_achieves TrackedFile.named_lasts
        TrackedFile.named_of_same_names
    intro _
    apply Proceeds.cons (openAll_achieves And.left)
    intro _
    apply Proceeds.cons
    · exact closeAll_achieves TrackedFile.named_lasts
        TrackedFile.named_of_same_names
    intro _
    -- A second close and an open after the delete leave everything alone.
    apply Proceeds.cons
    · exact idle_achieves
        (TrackedFile.named_lasts.and TrackedFile.released_lasts)
        fun running standing =>
          Bulk.close_yields_released running .failure standing.2
    intro _
    apply Proceeds.cons
    · exact deleteAll_achieves accepted allow TrackedFile.released_lasts
        TrackedFile.released_of_same_handles
    intro _
    apply Proceeds.cons
    · exact idle_achieves
        (TrackedFile.unnamed_lasts.and TrackedFile.released_lasts)
        fun running standing =>
          Bulk.openFile_yields_unnamed running standing.1
    intro _
    -- All names are new now, and the leaked handles are still open.
    apply Proceeds.cons createAll_achieves
    intro _
    apply Proceeds.cons
    · apply (deleteAll_achieves accepted allow TrackedFile.holding_lasts
        TrackedFile.holding_of_same_handles).mono
      · intro table store stage
        exact stage.mono id fun file _ blank =>
          ⟨blank.attached.named, blank.attached.holding⟩
      · exact id
    intro _
    apply Proceeds.cons
    · exact closeAll_achieves TrackedFile.unnamed_lasts
        TrackedFile.unnamed_of_same_names
    intro _
    exact Proceeds.nil
  · constructor
    · rintro ⟨_, opened, _⟩ index below
      exact (opened index below).2
    · intro room
      have fresh : ∀ index < settings.fileCount,
          rules.Accepts
              (Bytes.ofString (Name.numbered settings.stem index)) ∧
            rules.HasRoom (handles + index) :=
        fun index below =>
          ⟨accepted index below, (room index below).mono (by omega)⟩
      have again : ∀ index < settings.fileCount,
          rules.Accepts
              (Bytes.ofString (Name.numbered settings.stem index)) ∧
            rules.HasRoom (handles + settings.fileCount + index) :=
        fun index below => ⟨accepted index below, room index below⟩
      exact ⟨fresh, again, trivial, again, trivial, trivial, trivial,
        trivial, again, trivial, trivial, trivial⟩

/--
The probes of the limit need two handles beside those that leaked, and leave the
table alone.
-/
theorem boundarySteps_proceeds {kept : Table → Prop}
    (allow : rules.deleteOpen = .allow) :
    Proceeds settings boundarySteps
      (fun table store => kept table ∧
        Running rules store ∧ store.handles.size = handles)
      (settings.nameLimit.bytes = rules.nameLimit.bytes ∧
        rules.HasRoom (handles + 1))
      (fun table store => kept table ∧ Running rules store) := by
  apply Proceeds.of_iff
  · apply Proceeds.cons Boundary.create_achieves
    rintro ⟨⟨accepted, _⟩, refused⟩
    apply Proceeds.cons (Boundary.openFile_achieves accepted refused)
    rintro ⟨room, _⟩
    apply Proceeds.cons
    · apply Boundary.delete_achieves accepted _ allow
      intro acceptable
      exact refused ⟨acceptable, room⟩
    intro _
    exact Proceeds.nil
  · rw [StoreSettings.accepts_longestAccepted_iff,
      StoreSettings.accepts_shortestRejected_iff]
    constructor
    · rintro ⟨⟨⟨fits, _⟩, refused⟩, ⟨room, _⟩, _⟩
      refine ⟨?_, room⟩
      apply Nat.le_antisymm fits
      exact Nat.le_of_not_lt fun short => refused ⟨short, room⟩
    · rintro ⟨same, room⟩
      refine ⟨⟨⟨Nat.le_of_eq same, room.mono (Nat.le_succ handles)⟩, ?_⟩,
        ⟨room, trivial⟩, ⟨trivial, trivial⟩, trivial⟩
      rintro ⟨short, _⟩
      exact Nat.ne_of_lt short same

/-- The table of a scenario after a script that passed. -/
structure GivenBack (settings : Settings) (table : Table) : Prop where
  numbered : Numbered settings.stem 0 table.files
  length_eq : table.files.length = settings.fileCount
  pattern_eq : table.pattern = settings.pattern
  bufferLength_eq : table.bufferLength = settings.bufferLength
  released : ∀ file ∈ table.files, ∃ handle,
    file.binding = .released handle

/-- The phases of the script, put together. -/
theorem script_proceeds_from (faultless : rules.Faultless) :
    Proceeds settings script
      (Stage rules settings
        (fun store => Handles handles store ∧ store.usedBytes = 0) each)
      (rules.deleteOpen = .allow ∧
        settings.nameLimit.bytes = rules.nameLimit.bytes ∧
        settings.stem.utf8ByteSize +
            (Nat.toDigits 10 (settings.fileCount - 1)).length + 1 ≤
          rules.nameLimit.bytes ∧
        (∀ capacity, rules.capacity = some capacity →
          settings.fileCount * settings.bufferLength ≤ capacity) ∧
        (∀ limit, rules.handleLimit = some limit →
          handles + max (2 * settings.fileCount) (settings.fileCount + 2) ≤
            limit))
      (fun table store => GivenBack settings table ∧ Running rules store) := by
  apply Proceeds.of_iff
  · apply Proceeds.append
    · apply Proceeds.append (roundTripSteps_proceeds faultless)
      rintro ⟨accepted, _, _, allow⟩
      exact descriptorSteps_proceeds accepted allow
    · rintro ⟨⟨_, _, _, allow⟩, _⟩
      apply (boundarySteps_proceeds allow).of_stronger
      intro table store stage
      refine ⟨⟨stage.numbered, stage.length_eq, stage.pattern_eq,
        stage.bufferLength_eq, ?_⟩, stage.toRunning, stage.whole⟩
      intro file member
      rcases (stage.each file member).2 with ⟨handle, released, _⟩
      exact ⟨handle, released⟩
  · rw [StoreSettings.AcceptsFiles,
      StoreSettings.accepts_all_iff settings.usable_stem
        settings.fileCount_pos,
      StoreSettings.hasSpace_all_iff settings.fileCount_pos
        settings.bufferLength_pos,
      ← StoreSettings.hasRoom_peak_iff settings.fileCount_pos]
    constructor
    · rintro ⟨⟨⟨fits, _, space, allow⟩, twice⟩, same, probes⟩
      exact ⟨allow, same, fits, space, twice, probes⟩
    · rintro ⟨allow, same, fits, space, twice, probes⟩
      have once : ∀ index < settings.fileCount,
          rules.HasRoom (handles + index) :=
        fun index below => (twice index below).mono (by omega)
      exact ⟨⟨⟨fits, once, space, allow⟩, twice⟩, same, probes⟩

/-- The script on a store without handles. -/
theorem script_proceeds (faultless : rules.Faultless) :
    Proceeds settings script
      (Stage rules settings
        (fun store => Handles 0 store ∧ store.usedBytes = 0) each)
      (rules.deleteOpen = .allow ∧
        settings.nameLimit.bytes = rules.nameLimit.bytes ∧
        settings.stem.utf8ByteSize +
            (Nat.toDigits 10 (settings.fileCount - 1)).length + 1 ≤
          rules.nameLimit.bytes ∧
        (∀ capacity, rules.capacity = some capacity →
          settings.fileCount * settings.bufferLength ≤ capacity) ∧
        (∀ limit, rules.handleLimit = some limit →
          max (2 * settings.fileCount) (settings.fileCount + 2) ≤ limit))
      (fun table store => GivenBack settings table ∧ Running rules store) :=
  (script_proceeds_from faultless).of_iff (by simp only [Nat.zero_add])

/-- Before its script a scenario only reports that it starts. -/
theorem run_yields {condition : Prop} {before after : Table → Store → Prop}
    (proceeds : Proceeds settings script before condition after)
    {scenario : Scenario} (settings_eq : scenario.settings = settings)
    {store : Store} (here : before scenario.table store) :
    scenario.run.Yields Store.subsystem store fun finished later =>
      (finished.report.isSuccess = true ↔
        scenario.report.isSuccess = true ∧ condition) ∧
      (condition → finished.settings = settings ∧
        after finished.table later) := by
  apply Procedure.yields_bind
  apply Procedure.yields_reportAll
  exact proceeds scenario store settings_eq here

/-! ## The verdict -/

/-- A scenario begins on a fresh store with unbound files and no handles. -/
theorem start_stage (settings : Settings) (rules : StoreSettings)
    (generator : Generator) :
    Stage rules settings
      (fun store => Handles 0 store ∧ store.usedBytes = 0)
      (fun _ _ => True) settings.table (Store.fresh rules generator) where
  toRunning := Running.fresh rules generator
  whole := by
    refine ⟨rfl, usedBytes_eq_zero_iff.mpr ?_⟩
    intro file present
    exact (Std.ExtTreeMap.not_mem_empty present).elim
  numbered := by
    rw [Settings.table, Table.numbered, List.range_eq_range']
    exact Numbered.of_range settings.stem 0 settings.fileCount
  length_eq := by
    rw [Settings.table, Table.numbered, List.length_map,
      List.length_range]
  pattern_eq := rfl
  bufferLength_eq := rfl
  each := fun _ _ => trivial

/--
The whole scenario on a fresh store without faults always ends, and it ends in
success if and only if the store allows to delete open files, has the limit on
names that is probed, accepts the longest test name, has space for all
contents, and has room for the handles at their peak.
-/
theorem run_isSuccess_iff (settings : Settings) (rules : StoreSettings)
    (faultless : rules.Faultless) (generator : Generator) :
    ∃ finished,
      ((start settings).run.run Store.subsystem
        (Store.fresh rules generator)).ending = .ok finished ∧
      (finished.report.isSuccess = true ↔
        rules.deleteOpen = .allow ∧
        settings.nameLimit.bytes = rules.nameLimit.bytes ∧
        settings.stem.utf8ByteSize +
            (Nat.toDigits 10 (settings.fileCount - 1)).length + 1 ≤
          rules.nameLimit.bytes ∧
        (∀ capacity, rules.capacity = some capacity →
          settings.fileCount * settings.bufferLength ≤ capacity) ∧
        (∀ limit, rules.handleLimit = some limit →
          max (2 * settings.fileCount) (settings.fileCount + 2) ≤
            limit)) := by
  rcases run_yields (script_proceeds faultless)
    (show (start settings).settings = settings from rfl)
    (start_stage settings rules generator) with
    ⟨finished, ended, decided, _⟩
  refine ⟨finished, ended, decided.trans ?_⟩
  exact and_iff_right Report.isSuccess_empty

/-- The common workload just fits 3584 bytes and twenty-eight handles. -/
theorem run_isSuccess_standard :
    let ample : StoreSettings :=
      { sync := .sometimes 9223372036854775808
        handleLimit := some 28
        capacity := some 3584 }
    let scarce : StoreSettings := { ample with handleLimit := some 27 }
    (ample.Faultless ∧ ∃ finished,
      ((start .standard).run.run Store.subsystem
        (Store.fresh ample (.ofSeed 0))).ending = .ok finished ∧
      finished.report.isSuccess = true) ∧
    (scarce.Faultless ∧ ∃ finished,
      ((start .standard).run.run Store.subsystem
        (Store.fresh scarce (.ofSeed 0))).ending = .ok finished ∧
      finished.report.isSuccess = false) := by
  intro ample scarce
  have faultless : ample.Faultless := ⟨rfl, rfl⟩
  have faultlessToo : scarce.Faultless := ⟨rfl, rfl⟩
  constructor
  · rcases run_isSuccess_iff .standard ample faultless (.ofSeed 0) with
      ⟨finished, ended, decided⟩
    refine ⟨faultless, finished, ended, decided.mpr ?_⟩
    refine ⟨rfl, rfl, by decide, ?_, ?_⟩
    · rintro _ ⟨⟩
      decide
    · rintro _ ⟨⟩
      decide
  · rcases run_isSuccess_iff .standard scarce faultlessToo (.ofSeed 0) with
      ⟨finished, ended, decided⟩
    refine ⟨faultlessToo, finished, ended, ?_⟩
    rw [← Bool.not_eq_true, decided]
    rintro ⟨_, _, _, _, room⟩
    have peak : 28 ≤ 27 := room 27 rfl
    exact absurd peak (by decide)

end Scenario

end FileConformance
