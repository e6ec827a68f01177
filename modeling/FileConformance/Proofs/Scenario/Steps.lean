import FileConformance.Proofs.Scenario.RoundTrips
import FileConformance.Proofs.Scenario.Walks
import FileConformance.Scenario

/-!
# What the steps of a scenario come to

Between two steps the table and the store are at a stage: a number of handles is
open, and all test files stand alike.  Every step passes under a condition on
the limits of the store, and takes one stage to the next.  Leaked handles are
counted with the others: opening a file again binds it to a new handle and
leaves the old one open.
-/

namespace FileConformance

open Store

/-- The settings of a store accept the name of every test file. -/
def StoreSettings.AcceptsFiles (rules : StoreSettings)
    (settings : Settings) : Prop :=
  ∀ index < settings.fileCount,
    rules.Accepts (Bytes.ofString (Name.numbered settings.stem index))

/-- The table and the store between two steps of a scenario. -/
structure Stage (rules : StoreSettings) (settings : Settings)
    (whole : Store → Prop) (each : TrackedFile → Store → Prop)
    (table : Table) (store : Store) : Prop extends Running rules store where
  whole : whole store
  numbered : Numbered settings.stem 0 table.files
  length_eq : table.files.length = settings.fileCount
  pattern_eq : table.pattern = settings.pattern
  bufferLength_eq : table.bufferLength = settings.bufferLength
  each : ∀ file ∈ table.files, each file store

/-- No check counts against the subsystem. -/
def Clean (checks : List Check) : Prop :=
  ∀ check ∈ checks, check.isFailure = false

/-- A step passes under a condition, and then takes one stage to another. -/
def Achieves (settings : Settings) (step : Step)
    (before : Table → Store → Prop) (condition : Prop)
    (after : Table → Store → Prop) : Prop :=
  ∀ (table : Table) (store : Store), before table store →
    (step.perform settings.nameLimit table).Yields Store.subsystem store
      fun outcome later =>
        (Clean outcome.1 ↔ condition) ∧
          (condition → after outcome.2 later)

namespace Stage

variable {rules : StoreSettings} {settings : Settings}
  {whole weaker : Store → Prop}
  {each looser : TrackedFile → Store → Prop} {table : Table}
  {store : Store}

theorem mono (stage : Stage rules settings whole each table store)
    (wholes : whole store → weaker store)
    (eachs : ∀ file ∈ table.files, each file store → looser file store) :
    Stage rules settings weaker looser table store where
  toRunning := stage.toRunning
  whole := wholes stage.whole
  numbered := stage.numbered
  length_eq := stage.length_eq
  pattern_eq := stage.pattern_eq
  bufferLength_eq := stage.bufferLength_eq
  each := fun file member => eachs file member (stage.each file member)

/-- If all indices give acceptable names, every file has one. -/
theorem accepting (stage : Stage rules settings whole each table store)
    (accepted : rules.AcceptsFiles settings) :
    Stage rules settings whole
      (fun file store => rules.Accepts file.path ∧ each file store)
      table store := by
  apply stage.mono id
  intro file member standing
  rcases stage.numbered.exists_offset member with
    ⟨offset, below, path_eq⟩
  rw [Nat.zero_add] at path_eq
  rw [stage.length_eq] at below
  refine ⟨?_, standing⟩
  rw [path_eq]
  exact accepted offset below

end Stage

theorem Achieves.mono {settings : Settings} {step : Step}
    {condition : Prop} {before tighter after looser : Table → Store → Prop}
    (achieves : Achieves settings step before condition after)
    (sooner : ∀ {table : Table} {store : Store},
      tighter table store → before table store)
    (later : ∀ {table : Table} {store : Store},
      after table store → looser table store) :
    Achieves settings step tighter condition looser := by
  intro table store here
  apply (achieves table store (sooner here)).mono
  rintro outcome last ⟨clean, result⟩
  exact ⟨clean, fun holds => later (result holds)⟩

/-! ## Walks as steps -/

namespace Walk

variable {rules : StoreSettings} {settings : Settings}
  {visit : TrackedFile → Procedure Visit}
  {reached : Nat → Store → Prop}
  {before after : TrackedFile → Store → Prop} {condition : Nat → Prop}

theorem table_yields (total : Total visit)
    (takes : Takes rules settings.stem visit reached before after condition)
    (before_lasts : Lasts before) (after_lasts : Lasts after)
    {tracked : Table} {store : Store}
    (stage : Stage rules settings (reached 0) before tracked store) :
    (Walk.table visit tracked).Yields Store.subsystem store
      fun outcome later =>
        (Clean outcome.1 ↔
          ∀ index < settings.fileCount, condition index) ∧
        ((∀ index < settings.fileCount, condition index) →
          Stage rules settings (reached settings.fileCount) after
            outcome.2 later) := by
  have walked := files_yields total takes before_lasts after_lasts
    stage.numbered stage.toRunning stage.whole stage.each
  simp only [Nat.zero_add, stage.length_eq] at walked
  apply Procedure.yields_bind
  apply walked.mono
  rintro made later ⟨passes, result⟩
  apply Procedure.yields_pure
  constructor
  · rw [← passes, Passes, Clean, List.forall_mem_map]
  · intro holds
    rcases result holds with
      ⟨follows, there, numbered, length_eq, standing⟩
    exact {
      toRunning := follows.toRunning
      whole := there
      numbered := numbered
      length_eq := by rw [List.length_map, length_eq]
      pattern_eq := stage.pattern_eq
      bufferLength_eq := stage.bufferLength_eq
      each := List.forall_mem_map.mpr standing }

/-- A walk whose visits pass in any case passes in any case. -/
theorem table_yields_known (total : Total visit)
    (takes : Takes rules settings.stem visit reached before after
      fun _ => True)
    (before_lasts : Lasts before) (after_lasts : Lasts after)
    {tracked : Table} {store : Store}
    (stage : Stage rules settings (reached 0) before tracked store) :
    (Walk.table visit tracked).Yields Store.subsystem store
      fun outcome later =>
        (Clean outcome.1 ↔ True) ∧
        (True → Stage rules settings (reached settings.fileCount) after
          outcome.2 later) := by
  have known : ∀ index < settings.fileCount, True :=
    fun _ _ => trivial
  apply (table_yields total takes before_lasts after_lasts stage).mono
  rintro outcome later ⟨clean, result⟩
  exact ⟨clean.trans (iff_true_intro known), fun _ => result known⟩

end Walk

/-! ## Bulk steps -/

section BulkSteps

variable {rules : StoreSettings} {settings : Settings} {handles : Nat}
  {each : TrackedFile → Store → Prop}

/-- So many handles are open. -/
abbrev Handles (count : Nat) (store : Store) : Prop :=
  store.handles.size = count

/-- While nothing takes space, creating files takes none. -/
theorem createAll_achieves_keeping {extra : Store → Prop}
    (kept : ∀ {store later : Store},
      (store.usedBytes = 0 → later.usedBytes = 0) →
        extra store → extra later) :
    Achieves settings (.bulk .create .success)
      (Stage rules settings
        (fun store => Handles handles store ∧ extra store) each)
      (∀ index < settings.fileCount,
        rules.Accepts
            (Bytes.ofString (Name.numbered settings.stem index)) ∧
          rules.HasRoom (handles + index))
      (Stage rules settings
        (fun store => Handles (handles + settings.fileCount) store ∧
          extra store)
        TrackedFile.Blank) := by
  intro table store stage
  have takes : Walk.Takes rules settings.stem (Bulk.create .success)
      (fun index store => Handles (handles + index) store ∧ extra store)
      (fun _ _ => True) TrackedFile.Blank
      (fun index =>
        rules.Accepts
            (Bytes.ofString (Name.numbered settings.stem index)) ∧
          rules.HasRoom (handles + index)) := by
    intro index file store _ path_eq running here _
    apply (Bulk.create_yields running file).mono
    intro made later judged
    rw [path_eq, here.1] at judged
    apply judged.mono
    rintro _ ⟨carried, size, blank, unused⟩
    exact ⟨carried, ⟨size, kept unused here.2⟩, blank⟩
  exact Walk.table_yields (Bulk.visit_total .create .success) takes
    (fun _ _ holds => holds) TrackedFile.blank_lasts
    (stage.mono id fun _ _ _ => trivial)

theorem createAll_achieves :
    Achieves settings (.bulk .create .success)
      (Stage rules settings (Handles handles) each)
      (∀ index < settings.fileCount,
        rules.Accepts
            (Bytes.ofString (Name.numbered settings.stem index)) ∧
          rules.HasRoom (handles + index))
      (Stage rules settings (Handles (handles + settings.fileCount))
        TrackedFile.Blank) := by
  have nothing : ∀ {store later : Store},
      (store.usedBytes = 0 → later.usedBytes = 0) → True → True :=
    fun _ _ => trivial
  apply (createAll_achieves_keeping nothing).mono
  · intro table store stage
    exact stage.mono (fun here => ⟨here, trivial⟩) fun _ _ => id
  · intro table store stage
    exact stage.mono And.left fun _ _ => id

/-- Handles that were bound before are left open, and leak. -/
theorem openAll_achieves
    (named : ∀ {file : TrackedFile} {store : Store},
      each file store → file.Named store) :
    Achieves settings (.bulk .openFile .success)
      (Stage rules settings (Handles handles) each)
      (∀ index < settings.fileCount,
        rules.Accepts
            (Bytes.ofString (Name.numbered settings.stem index)) ∧
          rules.HasRoom (handles + index))
      (Stage rules settings (Handles (handles + settings.fileCount))
        fun file store => file.Named store ∧ file.Holding store) := by
  intro table store stage
  have takes : Walk.Takes rules settings.stem (Bulk.openFile .success)
      (fun index => Handles (handles + index)) TrackedFile.Named
      (fun file store => file.Named store ∧ file.Holding store)
      (fun index =>
        rules.Accepts
            (Bytes.ofString (Name.numbered settings.stem index)) ∧
          rules.HasRoom (handles + index)) := by
    intro index file store _ path_eq running here named
    apply (Bulk.openFile_yields running named).mono
    intro made later judged
    rw [path_eq, here] at judged
    apply judged.mono
    rintro _ ⟨carried, size, standing⟩
    exact ⟨carried, size, standing⟩
  exact Walk.table_yields (Bulk.visit_total .openFile .success) takes
    TrackedFile.named_lasts
    (TrackedFile.named_lasts.and TrackedFile.holding_lasts)
    (stage.mono id fun _ _ => named)

/-- Closing keeps how the files stand as far as their names go. -/
theorem closeAll_achieves {naming : TrackedFile → Store → Prop}
    (naming_lasts : Lasts naming)
    (by_name : ∀ {file moved : TrackedFile} {store later : Store},
      moved.name = file.name → later.names = store.names →
        naming file store → naming moved later) :
    Achieves settings (.bulk .close .success)
      (Stage rules settings (Handles (handles + settings.fileCount))
        fun file store => naming file store ∧ file.Holding store)
      True
      (Stage rules settings (Handles handles)
        fun file store => naming file store ∧ file.Released store) := by
  intro table store stage
  have takes : Walk.Takes rules settings.stem (Bulk.close .success)
      (fun index store =>
        store.handles.size + index = handles + settings.fileCount)
      (fun file store => naming file store ∧ file.Holding store)
      (fun file store => naming file store ∧ file.Released store)
      (fun _ => True) := by
    rintro index file store _ _ running here ⟨named, holding⟩
    apply (Bulk.close_yields running holding).mono
    intro made later judged
    apply judged.mono
    rintro _ ⟨carried, size, names, released⟩
    refine ⟨carried, ?_, by_name carried.name_eq names named, released⟩
    rw [← here, ← size, Nat.add_assoc, Nat.add_comm 1 index]
  apply (Walk.table_yields_known (Bulk.visit_total .close .success) takes
    (naming_lasts.and TrackedFile.holding_lasts)
    (naming_lasts.and TrackedFile.released_lasts) stage).mono
  rintro outcome later ⟨clean, result⟩
  refine ⟨clean, fun known => (result known).mono ?_ fun _ _ => id⟩
  exact Nat.add_right_cancel

/-- A visit that must be refused leaves everything as it was. -/
theorem idle_achieves {call : BulkCall} {expectation : Expectation}
    (lasts : Lasts each)
    (refused : ∀ {file : TrackedFile} {store : Store},
      Running rules store → each file store →
        (Bulk.visit call expectation file).Yields Store.subsystem store
          fun visit later =>
            Judged visit.check True (later = store ∧ visit.file = file)) :
    Achieves settings (.bulk call expectation)
      (Stage rules settings (Handles handles) each)
      True
      (Stage rules settings (Handles handles) each) := by
  intro table store stage
  have takes : Walk.Takes rules settings.stem
      (Bulk.visit call expectation) (fun _ => Handles handles) each each
      (fun _ => True) := by
    intro index file store _ _ running here standing
    apply (refused running standing).mono
    intro made later judged
    apply judged.mono
    rintro _ ⟨same, unchanged⟩
    rw [same, unchanged]
    refine ⟨⟨Follows.refl running _, ?_, ?_⟩, here, standing⟩
    · rw [unchanged]
    · rw [unchanged]
  exact Walk.table_yields_known (Bulk.visit_total call expectation) takes
    lasts lasts stage

/-- While the files are open, deleting them shows how a store takes it. -/
theorem deleteAllOpen_achieves
    (accepted : rules.AcceptsFiles settings) :
    Achieves settings (.bulk .delete .success)
      (Stage rules settings (Handles handles) TrackedFile.Attached)
      (rules.deleteOpen = .allow)
      (Stage rules settings (Handles handles)
        fun file store => file.Unnamed store ∧ file.Holding store) := by
  intro table store stage
  have takes : Walk.Takes rules settings.stem (Bulk.delete .success)
      (fun _ => Handles handles)
      (fun file store => rules.Accepts file.path ∧ file.Attached store)
      (fun file store => file.Unnamed store ∧ file.Holding store)
      (fun _ => rules.deleteOpen = .allow) := by
    rintro index file store _ _ running here ⟨admissible, attached⟩
    rcases attached with ⟨handle, opened, bound, found, under, named⟩
    apply (Bulk.delete_yields running admissible named).mono
    rintro made later ⟨passes, result⟩
    have busy : store.handlesOn opened.file ≠ 0 := by
      rcases running.openHandles_pos found with ⟨stored, there, positive⟩
      rw [handlesOn, there]
      exact Nat.ne_of_gt positive
    have allowed : (rules.deleteOpen = .reject →
        store.handlesOn opened.file = 0) ↔ rules.deleteOpen = .allow := by
      cases rules.deleteOpen with
      | allow => exact iff_of_true nofun rfl
      | reject => exact iff_of_false (fun idle => busy (idle rfl)) nofun
    refine ⟨passes.trans allowed, fun allow => ?_⟩
    rcases result (allowed.mpr allow) with
      ⟨carried, unchanged, sameHandles, _, unnamed⟩
    rw [unchanged]
    refine ⟨carried, ?_, unnamed, handle, opened, bound, ?_, under⟩
    · exact (congrArg Registry.size sameHandles).trans here
    · rw [sameHandles]
      exact found
  apply (Walk.table_yields (Bulk.visit_total .delete .success) takes
    TrackedFile.attached_lasts.accepted
    (TrackedFile.unnamed_lasts.and TrackedFile.holding_lasts)
    (stage.accepting accepted)).mono
  rintro outcome later ⟨clean, result⟩
  constructor
  · rw [clean]
    constructor
    · intro all
      exact all 0 settings.fileCount_pos
    · intro allow _ _
      exact allow
  · intro allow
    exact result fun _ _ => allow

/-- If open files may be deleted, nothing stands in the way of a delete. -/
theorem deleteAll_achieves {holding : TrackedFile → Store → Prop}
    (accepted : rules.AcceptsFiles settings)
    (allow : rules.deleteOpen = .allow) (lasts : Lasts holding)
    (by_handle : ∀ {file : TrackedFile} {store later : Store},
      later.handles = store.handles →
        later.nextHandle = store.nextHandle →
          holding file store → holding file later) :
    Achieves settings (.bulk .delete .success)
      (Stage rules settings (Handles handles)
        fun file store => file.Named store ∧ holding file store)
      True
      (Stage rules settings (Handles handles)
        fun file store => file.Unnamed store ∧ holding file store) := by
  intro table store stage
  have takes : Walk.Takes rules settings.stem (Bulk.delete .success)
      (fun _ => Handles handles)
      (fun file store => rules.Accepts file.path ∧
        file.Named store ∧ holding file store)
      (fun file store => file.Unnamed store ∧ holding file store)
      (fun _ => True) := by
    rintro index file store _ _ running here ⟨admissible, named, held⟩
    rcases named with ⟨number, named⟩
    apply (Bulk.delete_yields running admissible named).mono
    intro made later judged
    have idle : rules.deleteOpen = .reject →
        store.handlesOn number = 0 := by
      rw [allow]
      exact nofun
    apply (judged.of_known idle).mono
    rintro _ ⟨carried, unchanged, sameHandles, sameNumber, unnamed⟩
    rw [unchanged]
    refine ⟨carried, ?_, unnamed, by_handle sameHandles sameNumber held⟩
    exact (congrArg Registry.size sameHandles).trans here
  exact Walk.table_yields_known (Bulk.visit_total .delete .success) takes
    (Lasts.accepted (TrackedFile.named_lasts.and lasts))
    (TrackedFile.unnamed_lasts.and lasts) (stage.accepting accepted)

end BulkSteps

/-! ## The round trip -/

theorem roundTrip_achieves {rules : StoreSettings} {settings : Settings}
    {handles : Nat} (faultless : rules.Faultless)
    (accepted : rules.AcceptsFiles settings) :
    Achieves settings .roundTrip
      (Stage rules settings
        (fun store => Handles handles store ∧ store.usedBytes = 0)
        TrackedFile.Blank)
      (∀ index < settings.fileCount,
        rules.HasSpace (index * settings.bufferLength)
          settings.bufferLength)
      (Stage rules settings (Handles handles) TrackedFile.Attached) := by
  intro table store stage
  have length_expected : ∀ index,
      (table.expected index).length = settings.bufferLength := by
    intro index
    rw [Table.expected, Pattern.length_fill, stage.bufferLength_eq]
  have takes : Walk.Takes rules settings.stem
      (fun file => RoundTrip.visit (table.expected file.index) file)
      (fun index store => Handles handles store ∧
        store.usedBytes = index * settings.bufferLength)
      (fun file store => rules.Accepts file.path ∧ file.Blank store)
      TrackedFile.Attached
      (fun index => rules.HasSpace (index * settings.bufferLength)
        settings.bufferLength) := by
    rintro index file store _ _ running ⟨here, used⟩ ⟨admissible, blank⟩
    have nonempty : table.expected file.index ≠ [] := by
      rw [← List.length_pos_iff, length_expected]
      exact settings.bufferLength_pos
    apply (RoundTrip.visit_yields running faultless admissible blank
      nonempty).mono
    intro made later judged
    rw [length_expected, used] at judged
    apply judged.mono
    rintro _ ⟨carried, size, grown, attached⟩
    refine ⟨carried, ⟨size.trans here, ?_⟩, attached⟩
    rw [grown, Nat.succ_mul]
  have total : Walk.Total fun file =>
      RoundTrip.visit (table.expected file.index) file :=
    fun file store =>
      RoundTrip.visit_total (table.expected file.index) file store
  apply (Walk.table_yields total takes TrackedFile.blank_lasts.accepted
    TrackedFile.attached_lasts
    ((stage.accepting accepted).mono ?_ fun _ _ => id)).mono
  · rintro outcome later ⟨clean, result⟩
    refine ⟨clean, fun space => ?_⟩
    exact (result space).mono And.left fun _ _ => id
  · rintro ⟨here, unused⟩
    refine ⟨here, ?_⟩
    rw [Nat.zero_mul]
    exact unused

end FileConformance
