import FileConformance.Proofs.Plain.Twins
import FileConformance.Proofs.Scenario.Shape
import FileConformance.Proofs.Scenario.Verdict

/-!
# What is blamed on damaged reads

Only round trips read, and they read only once, at their end.  So two runs, one
on a sound store and one on a store that damages every read, make the same calls
and come to the same checks, but for the round trips that pass on the sound
store: each of those finds a difference, at the byte that was damaged.

Where the sound run succeeds, this tells the spoiled one apart in every file and
in nothing else.
-/

namespace FileConformance

open Procedure

/-! ## Finding the damage -/

/-- The same check, but for a content that differs before a length. -/
def Check.Mismatched (length : Nat) (sound spoiled : Check) : Prop :=
  spoiled.error = none ∧ ∃ offset < length,
    spoiled = { sound with
      outcome := .contentMismatch
      detail := some ("first difference at offset " ++ toString offset) }

/-- A mismatch is a failure. -/
theorem Check.countP_mismatched {length : Nat}
    {checks mismatches : List Check}
    (each : List.Forall₂ (Mismatched length) checks mismatches) :
    mismatches.countP isFailure = checks.length := by
  induction each with
  | nil => rfl
  | cons first _ ih =>
      rcases first with ⟨_, offset, _, rfl⟩
      rw [List.countP_cons_of_pos rfl, ih, List.length_cons]

namespace RoundTrip

/-- The byte that is flipped is the first that differs. -/
theorem differenceFrom_flip {content : Bytes} {place : Nat} {mask : UInt8}
    (offset : Nat) (inside : place < content.length)
    (some_bit : mask ≠ 0) :
    differenceFrom offset content (content.flip place mask) =
      some (offset + place) := by
  induction content generalizing offset place with
  | nil => exact (Nat.not_lt_zero place inside).elim
  | cons byte rest ih =>
      cases place with
      | zero =>
          have changed : byte ≠ byte ^^^ mask :=
            (Bytes.xor_ne_self byte some_bit).symm
          simp [Bytes.flip, differenceFrom, changed]
      | succ further =>
          have before := ih (offset + 1) (Nat.lt_of_succ_lt_succ inside)
          rw [Bytes.flip] at before
          simp only [Bytes.flip, List.modify_succ_cons, differenceFrom,
            if_true, before, Option.some.injEq]
          omega

theorem mismatched_flip (file : TrackedFile) (handle : Handle)
    {content : Bytes} {place : Nat} {mask : UInt8}
    (inside : place < content.length) (some_bit : mask ≠ 0) :
    Check.Mismatched content.length (compared file handle content content)
      (compared file handle content (content.flip place mask)) := by
  have sound : firstDifference? content content = none :=
    differenceFrom_eq_none_iff.mpr rfl
  have spoiled := differenceFrom_flip 0 inside some_bit
  rw [Nat.zero_add] at spoiled
  rw [compared, compared, sound, firstDifference?, spoiled]
  refine ⟨rfl, place, inside, ?_⟩
  dsimp only [differenceDetail]
  rw [Bytes.length_flip, if_neg fun short => Nat.lt_irrefl _ short.2]

/-! ## Visits -/

/-- The visits leave the same file, and one that passes is spoiled. -/
structure Spoils (length : Nat) (sound spoiled : Visit) : Prop where
  file_eq : spoiled.file = sound.file
  mismatched : sound.check.isFailure = false →
    Check.Mismatched length sound.check spoiled.check

/-- Where a trip stops early there is nothing to spoil. -/
theorem spoils_stopped (length : Nat) (file : TrackedFile) (stage : Stage)
    (handle : Option Handle) (reason : Option CallError)
    (moved : TrackedFile) :
    Spoils length ⟨stopped file stage handle reason, moved⟩
      ⟨stopped file stage handle reason, moved⟩ :=
  ⟨rfl, nofun⟩

variable {expected : Bytes} {file : TrackedFile} {handle : Handle}

theorem readBack_abreast (nonempty : 0 < expected.length) :
    Abreast Call.UpToByte (Spoils expected.length)
      (readBack expected file handle) (readBack expected file handle) := by
  refine abreast_request_bind fun answer other alike => ?_
  rcases alike with ⟨same, damaged⟩
  cases counted : answer.count with
  | error reason =>
      rw [counted] at same
      simp only [same]
      exact abreast_pure (spoils_stopped _ _ _ _ _ _)
  | ok count =>
      rcases damaged count counted with ⟨fits, wrong⟩
      have within := fits
      rw [Bytes.length_zeros] at within
      rw [counted] at same
      simp only [same, if_pos within]
      refine abreast_pure ⟨rfl, fun passes => ?_⟩
      -- What passes was read in full, so something was there to damage.
      have whole : expected = answer.buffer.take count :=
        isFailure_compared_iff.mp passes
      have full : count = expected.length := by
        rw [whole, List.length_take, answer.buffer_length]
        exact (Nat.min_eq_left fits).symm
      have positive : 0 < count := by
        rw [full]
        exact nonempty
      rcases wrong positive with ⟨place, mask, inside, some_bit, flipped⟩
      rw [← whole] at flipped
      rw [full] at inside
      dsimp only
      rw [flipped, ← whole]
      exact mismatched_flip file handle inside some_bit

theorem reopen_abreast (nonempty : 0 < expected.length) :
    Abreast Call.UpToByte (Spoils expected.length)
      (reopen expected file) (reopen expected file) := by
  refine abreast_request_bind fun answer other alike => ?_
  rw [alike.eq nofun]
  cases answer with
  | error reason => exact abreast_pure (spoils_stopped _ _ _ _ _ _)
  | ok handle => exact readBack_abreast nonempty

theorem closeWritten_abreast (nonempty : 0 < expected.length) :
    Abreast Call.UpToByte (Spoils expected.length)
      (closeWritten expected file handle)
      (closeWritten expected file handle) := by
  refine abreast_request_bind fun answer other alike => ?_
  rw [alike.eq nofun]
  cases answer with
  | error reason => exact abreast_pure (spoils_stopped _ _ _ _ _ _)
  | ok _ => exact reopen_abreast nonempty

theorem visit_abreast (nonempty : 0 < expected.length)
    (file : TrackedFile) :
    Abreast Call.UpToByte (Spoils expected.length)
      (visit expected file) (visit expected file) := by
  unfold visit
  split
  · exact abreast_pure (spoils_stopped _ _ _ _ _ _)
  · refine abreast_request_bind fun answer other alike => ?_
    rw [alike.eq nofun]
    cases answer with
    | error reason => exact abreast_pure (spoils_stopped _ _ _ _ _ _)
    | ok count =>
        dsimp only
        split
        · exact closeWritten_abreast nonempty
        · exact abreast_pure (spoils_stopped _ _ _ _ _ _)

end RoundTrip

/-- One call that reads nothing comes to the same. -/
theorem Procedure.abreast_one_call {Result : Type} {request : Call}
    {finish : request.Answer → Result} (unread : request.kind ≠ .read) :
    Abreast Call.UpToByte (fun result other => other = result)
      (Procedure.request request >>= fun answer => pure (finish answer))
      (Procedure.request request >>= fun answer => pure (finish answer)) :=
  abreast_request_bind fun _ _ alike =>
    abreast_pure (congrArg finish (alike.eq unread))

theorem Bulk.visit_abreast (call : BulkCall) (expectation : Expectation)
    (file : TrackedFile) :
    Abreast Call.UpToByte (fun visited other => other = visited)
      (visit call expectation file) (visit call expectation file) := by
  cases call with
  | create => exact abreast_one_call nofun
  | openFile => exact abreast_one_call nofun
  | delete => exact abreast_one_call nofun
  | close =>
      show Abreast _ _ (close expectation file) (close expectation file)
      unfold close
      split
      · exact abreast_one_call nofun
      · exact abreast_one_call nofun
      · exact abreast_pure rfl

/-! ## Steps -/

namespace Walk

variable {visit : TrackedFile → Procedure Visit}
  {described : Visit → Visit → Prop}

/-- Walks go abreast if their visits do. -/
theorem files_abreast
    (abreast : ∀ file, Abreast Call.UpToByte described (visit file)
      (visit file)) (tracked : List TrackedFile) :
    Abreast Call.UpToByte (List.Forall₂ described) (files visit tracked)
      (files visit tracked) := by
  induction tracked with
  | nil => exact abreast_pure .nil
  | cons file rest ih =>
      rw [files_cons]
      refine abreast_bind (abreast file) fun first other holds => ?_
      refine abreast_bind ih fun visited others each => ?_
      exact abreast_pure (.cons holds each)

end Walk

theorem Boundary.probe_abreast (call : BoundaryCall) (name : Bytes)
    (expectation : Expectation) :
    Abreast Call.UpToByte (fun verdict other => other = verdict)
      (probe call name expectation) (probe call name expectation) := by
  cases call with
  | create => exact abreast_one_call nofun
  | openFile => exact abreast_one_call nofun
  | delete => exact abreast_one_call nofun

theorem Boundary.checks_abreast (limit : NameLimit)
    (call : BoundaryCall) :
    Abreast Call.UpToByte (fun verdicts others => others = verdicts)
      (checks limit call) (checks limit call) := by
  refine abreast_bind (probe_abreast call _ _) fun accepted other same => ?_
  refine abreast_bind (probe_abreast call _ _)
    fun rejected otherToo sameToo => ?_
  exact abreast_pure (by rw [same, sameToo])

namespace Step

/-- A step comes to the same checks, or to spoiled ones if it reads. -/
def Spoils (length : Nat) : Step → List Check → List Check → Prop
  | .roundTrip, sound, spoiled =>
      List.Forall₂ (fun check other => check.isFailure = false →
        Check.Mismatched length check other) sound spoiled
  | .bulk _ _, sound, spoiled => spoiled = sound
  | .boundary _, sound, spoiled => spoiled = sound

/-- A step leaves the same table, and the same checks unless it reads. -/
theorem perform_abreast (limit : NameLimit) (step : Step) {table : Table}
    (nonempty : 0 < table.bufferLength) :
    Abreast Call.UpToByte
      (fun result other =>
        step.Spoils table.bufferLength result.1 other.1 ∧
          other.2 = result.2 ∧
          result.2.bufferLength = table.bufferLength)
      (step.perform limit table) (step.perform limit table) := by
  cases step with
  | bulk call expectation =>
      have visits := Walk.files_abreast (Bulk.visit_abreast call
        expectation) table.files
      refine abreast_bind visits fun visited others each => ?_
      have same : others = visited := by
        rw [eq_comm, ← List.forall₂_eq_eq_eq]
        exact each.imp fun _ _ equal => equal.symm
      rw [same]
      exact abreast_pure ⟨rfl, rfl, rfl⟩
  | roundTrip =>
      have length_expected : ∀ index,
          (table.expected index).length = table.bufferLength := by
        intro index
        rw [Table.expected, Pattern.length_fill]
      have visits : ∀ file, Abreast Call.UpToByte
          (RoundTrip.Spoils table.bufferLength)
          (RoundTrip.visit (table.expected file.index) file)
          (RoundTrip.visit (table.expected file.index) file) := by
        intro file
        rw [← length_expected file.index] at nonempty ⊢
        exact RoundTrip.visit_abreast nonempty file
      refine abreast_bind (Walk.files_abreast visits table.files)
        fun visited others each => ?_
      refine abreast_pure ⟨?_, ?_, rfl⟩
      · rw [Spoils, List.forall₂_map_left_iff, List.forall₂_map_right_iff]
        exact each.imp fun _ _ spoils => spoils.mismatched
      · have same : others.map Visit.file = visited.map Visit.file := by
          induction each with
          | nil => rfl
          | cons first _ ih =>
              rw [List.map_cons, List.map_cons, first.file_eq, ih]
        rw [same]
  | boundary call =>
      refine abreast_bind (Boundary.checks_abreast limit call)
        fun checks others same => ?_
      rw [same]
      exact abreast_pure ⟨rfl, rfl, rfl⟩

end Step

/-! ## Runs -/

namespace Scenario

/-- Two suites of the same step. -/
structure TitledStep.Spoils (length : Nat) (titled : TitledStep)
    (suites : Suite × Suite) : Prop where
  title_eq : suites.1.title = titled.title
  title_eq_too : suites.2.title = titled.title
  spoils : titled.step.Spoils length suites.1.checks suites.2.checks

/-- Two scenarios after the same steps, with what was added to each report. -/
structure Beside (sound spoiled finished other : Scenario)
    (added : List (Suite × Suite)) : Prop where
  settings_eq : other.settings = finished.settings
  table_eq : other.table = finished.table
  bufferLength_eq : finished.table.bufferLength = sound.table.bufferLength
  suites_eq : finished.report.suites =
    sound.report.suites ++ added.map Prod.fst
  suites_eq_too : other.report.suites =
    spoiled.report.suites ++ added.map Prod.snd

/-- Scenarios that agree but for their reports do a step abreast. -/
theorem perform_abreast {sound spoiled : Scenario} (titled : TitledStep)
    (nonempty : 0 < sound.table.bufferLength)
    (sameSettings : spoiled.settings = sound.settings)
    (sameTable : spoiled.table = sound.table) :
    Abreast Call.UpToByte
      (fun finished other => ∃ suites,
        titled.Spoils sound.table.bufferLength suites ∧
          Beside sound spoiled finished other [suites])
      (sound.perform titled) (spoiled.perform titled) := by
  rw [perform, perform, sameSettings, sameTable]
  refine abreast_bind (titled.step.perform_abreast _ nonempty) ?_
  rintro ⟨checks, table⟩ ⟨others, tableToo⟩ ⟨spoils, rfl, same⟩
  refine abreast_bind (abreast_reportAll _ _) fun _ _ _ => ?_
  refine abreast_bind (abreast_reportAll _ _) fun _ _ _ => ?_
  exact abreast_pure ⟨(⟨titled.title, checks⟩, ⟨titled.title, others⟩),
    ⟨rfl, rfl, spoils⟩, ⟨rfl, rfl, same, rfl, rfl⟩⟩

/-- Scenarios that agree but for their reports do all steps abreast. -/
theorem performAll_abreast (steps : List TitledStep)
    {sound spoiled : Scenario} (nonempty : 0 < sound.table.bufferLength)
    (sameSettings : spoiled.settings = sound.settings)
    (sameTable : spoiled.table = sound.table) :
    Abreast Call.UpToByte
      (fun finished other => ∃ added,
        List.Forall₂ (TitledStep.Spoils sound.table.bufferLength) steps
            added ∧
          Beside sound spoiled finished other added)
      (sound.performAll steps) (spoiled.performAll steps) := by
  induction steps generalizing sound spoiled with
  | nil =>
      exact abreast_pure ⟨[], .nil, sameSettings, sameTable, rfl,
        (List.append_nil _).symm, (List.append_nil _).symm⟩
  | cons titled rest ih =>
      refine abreast_bind (perform_abreast titled nonempty sameSettings
        sameTable) ?_
      rintro next nextToo ⟨suites, spoils, first⟩
      have still := nonempty
      rw [← first.bufferLength_eq] at still
      refine (ih still first.settings_eq first.table_eq).mono ?_
      rintro finished other ⟨added, spoilsToo, second⟩
      rw [first.bufferLength_eq] at spoilsToo
      refine ⟨suites :: added, .cons spoils spoilsToo, second.settings_eq,
        second.table_eq, second.bufferLength_eq.trans first.bufferLength_eq,
        ?_, ?_⟩
      · rw [second.suites_eq, first.suites_eq, List.append_assoc]
        rfl
      · rw [second.suites_eq_too, first.suites_eq_too, List.append_assoc]
        rfl

/-- A run goes abreast with itself. -/
theorem run_abreast (scenario : Scenario)
    (nonempty : 0 < scenario.table.bufferLength) :
    Abreast Call.UpToByte
      (fun finished other => ∃ added,
        List.Forall₂ (TitledStep.Spoils scenario.table.bufferLength) script
            added ∧
          Beside scenario scenario finished other added)
      scenario.run scenario.run :=
  abreast_bind (abreast_reportAll _ _) fun _ _ _ =>
    performAll_abreast script nonempty rfl rfl

/-- Steps that read nothing leave the same suites. -/
theorem unspoiled {length : Nat} {steps : List TitledStep}
    {added : List (Suite × Suite)}
    (spoils : List.Forall₂ (TitledStep.Spoils length) steps added)
    (unread : ∀ titled ∈ steps, titled.step ≠ .roundTrip) :
    added.map Prod.snd = added.map Prod.fst := by
  induction spoils with
  | nil => rfl
  | @cons titled suites rest others first _ ih =>
      rw [List.forall_mem_cons] at unread
      rw [List.map_cons, List.map_cons, ih unread.2]
      rcases first with ⟨title, titleToo, spoils⟩
      have same : suites.2.checks = suites.1.checks := by
        cases step : titled.step with
        | roundTrip => exact (unread.1 step).elim
        | bulk call expectation =>
            rw [step] at spoils
            exact spoils
        | boundary call =>
            rw [step] at spoils
            exact spoils
      rcases suites with ⟨⟨_, checks⟩, ⟨_, checksToo⟩⟩
      cases title
      cases titleToo
      cases same
      rfl

/-- The script begins with a create of all files and their round trip. -/
theorem script_eq_cons :
    script = ⟨"round trip / create-all", .bulk .create .success⟩ ::
      ⟨"round trip / round-trip-all", .roundTrip⟩ :: script.drop 2 := rfl

/-- Nothing is read after the round trips. -/
theorem unread_drop_two :
    ∀ titled ∈ script.drop 2, titled.step ≠ .roundTrip := by
  decide

/-- Two runs side by side add the same suites but for the round trips. -/
theorem Beside.differ_in_round_trips {sound spoiled finished other : Scenario}
    {length : Nat} {added : List (Suite × Suite)}
    (beside : Beside sound spoiled finished other added)
    (spoils : List.Forall₂ (TitledStep.Spoils length) script added) :
    ∃ first trips mismatches rest,
      finished.report.suites = sound.report.suites ++
          first :: ⟨"round trip / round-trip-all", trips⟩ :: rest ∧
        other.report.suites = spoiled.report.suites ++
          first :: ⟨"round trip / round-trip-all", mismatches⟩ :: rest ∧
        rest.length = 16 ∧
        List.Forall₂ (fun check checkToo => check.isFailure = false →
          Check.Mismatched length check checkToo) trips mismatches := by
  rw [script_eq_cons] at spoils
  cases spoils with
  | @cons _ create _ _ created more =>
    cases more with
    | @cons _ trip _ others tripped quiet =>
      have sameFirst := unspoiled (.cons created .nil) (by simp)
      have sameRest := unspoiled quiet unread_drop_two
      simp only [List.map_cons, List.map_nil, List.cons.injEq,
        and_true] at sameFirst
      have title : trip.1.title = "round trip / round-trip-all" :=
        tripped.title_eq
      have titleToo : trip.2.title = "round trip / round-trip-all" :=
        tripped.title_eq_too
      refine ⟨create.1, trip.1.checks, trip.2.checks, others.map Prod.fst,
        ?_, ?_, ?_, tripped.spoils⟩
      · rw [← title]
        exact beside.suites_eq
      · rw [← titleToo, ← sameFirst, ← sameRest]
        exact beside.suites_eq_too
      · rw [List.length_map, ← quiet.length_eq]
        rfl

/-- Where all else is clean, the failures are those of one suite. -/
theorem failed_of_one {report : Report} {first second : Suite}
    {rest : List Suite} (suites : report.suites = first :: second :: rest)
    (clean : Clean first.checks)
    (cleanToo : Clean (rest.flatMap Suite.checks)) :
    report.failed = second.checks.countP Check.isFailure := by
  have none_of_clean : ∀ {checks : List Check}, Clean checks →
      checks.countP Check.isFailure = 0 := by
    intro checks passing
    rw [List.countP_eq_zero]
    intro check member
    rw [passing check member]
    exact Bool.false_ne_true
  rw [Report.failed, Report.checks, suites, List.flatMap_cons,
    List.flatMap_cons, List.countP_append, List.countP_append,
    none_of_clean clean, none_of_clean cleanToo, Nat.zero_add,
    Nat.add_zero]

/--
Every damaged read is caught, and nothing else is blamed.  On stores where the
scenario succeeds if no read is damaged, the report of a run where every read is
damaged is the same but for the suite of the round trips.  There the check of
each file is a content mismatch without an error, at an offset that lies inside
the file; so as many checks fail as there are files.
-/
theorem damaged_reads_blamed (settings : Settings) {rules : StoreSettings}
    (calm : rules.inputOutputError = .never)
    (allow : rules.deleteOpen = .allow)
    (sameLimit : settings.nameLimit.bytes = rules.nameLimit.bytes)
    (fits : settings.stem.utf8ByteSize +
        (Nat.toDigits 10 (settings.fileCount - 1)).length + 1 ≤
      rules.nameLimit.bytes)
    (space : ∀ capacity, rules.capacity = some capacity →
      settings.fileCount * settings.bufferLength ≤ capacity)
    (room : ∀ limit, rules.handleLimit = some limit →
      max (2 * settings.fileCount) (settings.fileCount + 2) ≤ limit)
    (left right : Generator) :
    let sound := (start settings).run.run Store.subsystem
      (Store.fresh { rules with corruption := .never } left)
    let spoiled := (start settings).run.run Store.subsystem
      (Store.fresh { rules with corruption := .always } right)
    ∃ passed blamed, sound.ending = .ok passed ∧
      spoiled.ending = .ok blamed ∧
      passed.report.isSuccess = true ∧
      (∃ first trips mismatches rest,
        passed.report.suites =
            first :: ⟨"round trip / round-trip-all", trips⟩ :: rest ∧
          blamed.report.suites =
            first :: ⟨"round trip / round-trip-all", mismatches⟩ :: rest ∧
          rest.length = 16 ∧
          trips.map Check.target =
            settings.table.files.map TrackedFile.name ∧
          List.Forall₂ (Check.Mismatched settings.bufferLength) trips
            mismatches) ∧
      blamed.report.failed = settings.fileCount := by
  intro sound spoiled
  have faultless :
      StoreSettings.Faultless { rules with corruption := .never } :=
    ⟨calm, rfl⟩
  rcases run_yields (script_proceeds faultless)
    (show (start settings).settings = settings from rfl)
    (start_stage settings _ left) with ⟨passed, ended, decided, _⟩
  have success : passed.report.isSuccess = true :=
    decided.mpr ⟨Report.isSuccess_empty, allow, sameLimit, fits, space,
      room⟩
  have nonempty : 0 < (start settings).table.bufferLength :=
    settings.bufferLength_pos
  rcases (run_abreast (start settings) nonempty).exists_ended
    Store.Twins.matched (Store.Twins.fresh calm left right) with
    ⟨same, blamed, endedToo, spoiledEnded, added, spoils, beside⟩
  rw [ended, Except.ok.injEq] at endedToo
  subst endedToo
  rcases beside.differ_in_round_trips spoils with
    ⟨first, trips, mismatches, rest, soundSuites, spoiledSuites, others,
      differ⟩
  replace soundSuites : passed.report.suites = first :: _ := soundSuites
  replace spoiledSuites : blamed.report.suites = first :: _ := spoiledSuites
  -- What the trips are about is the same in every run.
  rcases (run_targets (start settings)).of_ended ended with
    ⟨_, ⟨suites, reported, targets⟩, _⟩
  replace reported : passed.report.suites = suites := reported
  rw [← reported, soundSuites] at targets
  have about : trips.map Check.target =
      settings.table.files.map TrackedFile.name :=
    (List.cons.inj (List.cons.inj targets).2).1
  -- All checks pass if no read is damaged, and so each trip is a mismatch.
  have clean := (Report.isSuccess_iff passed.report).mp success
  rw [Report.checks, soundSuites, List.flatMap_cons, List.flatMap_cons,
    Clean, List.forall_mem_append, List.forall_mem_append] at clean
  rcases clean with ⟨cleanFirst, passing, cleanRest⟩
  have mismatched : List.Forall₂ (Check.Mismatched settings.bufferLength)
      trips mismatches := by
    have both := (List.forall₂_and_left _ _).mpr ⟨passing, differ⟩
    exact both.imp fun _ _ holds => holds.2 holds.1
  refine ⟨passed, blamed, ended, spoiledEnded, success,
    ⟨first, trips, mismatches, rest, soundSuites, spoiledSuites, others,
      about, mismatched⟩, ?_⟩
  have counted := congrArg List.length about
  rw [List.length_map, List.length_map] at counted
  rw [failed_of_one spoiledSuites cleanFirst cleanRest,
    Check.countP_mismatched mismatched, counted, Settings.table,
    Table.numbered, List.length_map, List.length_range]

/-- Two files of three bytes are read on a store that just holds them. -/
theorem damaged_reads_blamed_two_files :
    let settings : Settings := { fileCount := 2, bufferLength := 3 }
    let rules : StoreSettings :=
      { sync := .sometimes 9223372036854775808
        capacity := some 6
        handleLimit := some 4 }
    let spoiled := (start settings).run.run Store.subsystem
      (Store.fresh { rules with corruption := .always } (.ofSeed 1))
    rules.inputOutputError = .never ∧ rules.deleteOpen = .allow ∧
      settings.nameLimit.bytes = rules.nameLimit.bytes ∧
      spoiled.ending.map (fun blamed => blamed.report.failed) = .ok 2 := by
  intro settings rules spoiled
  rcases damaged_reads_blamed settings
    (show rules.inputOutputError = .never from rfl) rfl rfl (by decide)
    (by rintro _ ⟨⟩; decide) (by rintro _ ⟨⟩; decide) (.ofSeed 0)
    (.ofSeed 1) with ⟨_, blamed, _, ended, _, _, failed⟩
  replace ended : spoiled.ending = .ok blamed := ended
  refine ⟨rfl, rfl, rfl, ?_⟩
  rw [ended]
  exact congrArg Except.ok failed

end Scenario

end FileConformance
