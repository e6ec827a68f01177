import FileConformance.Proofs.Scenario.Names
import FileConformance.Proofs.Scenario.Shape
import FileConformance.Proofs.Scenario.Steps
import FileConformance.Proofs.Store.Provenance

/-!
# What probing a limit tells

A store has a limit on names, and a suite probes for one.  The suite creates,
opens and deletes the longest name that its limit accepts, and likewise the name
that is one byte longer.  Whatever happened on the store before, the limit of
the store is found on one side of the probed one or right there: each name is
taken by every call or by none, as it is short enough or not.

The names are different, so a probe with one leaves what the other denotes.
That a name is there when it is to be opened and deleted is due to the create.
-/

namespace FileConformance

open Store

/-! ## Findings -/

namespace BoundaryCall

/-- What a probe checks. -/
def operation : BoundaryCall → Operation
  | .create => .create
  | .openFile => .openFile
  | .delete => .delete

/-- The calls of a suite, in the order in which it makes them. -/
def suite : List BoundaryCall :=
  [.create, .openFile, .delete]

end BoundaryCall

/-- What a check says: which call on which file came out how. -/
def Check.finding (check : Check) : Operation × String × Outcome :=
  (check.operation, check.target, check.outcome)

namespace NameLimit

/-- What comes of the names on both sides of a limit if another one is kept. -/
def verdicts (probed kept : NameLimit) : Outcome × Outcome :=
  match compare probed.bytes kept.bytes with
  | .lt => (.pass, .unexpectedSuccess)
  | .eq => (.pass, .expectedFailure)
  | .gt => (.unexpectedFailure, .expectedFailure)

/-- What a call finds if it is made on both sides of a limit. -/
def findings (probed kept : NameLimit) (call : BoundaryCall) :
    List (Operation × String × Outcome) :=
  [(call.operation, Name.label probed.longestAccepted,
      (probed.verdicts kept).1),
    (call.operation, Name.label probed.shortestRejected,
      (probed.verdicts kept).2)]

variable {probed kept : NameLimit}

theorem verdicts_eq (probed kept : NameLimit) :
    probed.verdicts kept =
      (.classify .success (decide (probed.bytes ≤ kept.bytes)),
        .classify .failure (decide (probed.bytes < kept.bytes))) := by
  unfold verdicts
  split
  · rename_i less
    rw [Nat.compare_eq_lt] at less
    rw [decide_eq_true less, decide_eq_true (Nat.le_of_lt less)]
    rfl
  · rename_i same
    rw [Nat.compare_eq_eq] at same
    rw [same, decide_eq_true (Nat.le_refl _),
      decide_eq_false (Nat.lt_irrefl _)]
    rfl
  · rename_i more
    rw [Nat.compare_eq_gt] at more
    rw [decide_eq_false (Nat.not_le_of_lt more),
      decide_eq_false (Nat.lt_asymm more)]
    rfl

/-- Neither verdict counts against a store if both limits are the same. -/
theorem verdicts_pass_iff :
    (probed.verdicts kept).1.isFailure = false ∧
        (probed.verdicts kept).2.isFailure = false ↔
      probed.bytes = kept.bytes := by
  rw [← Nat.compare_eq_eq, verdicts]
  cases compare probed.bytes kept.bytes <;> decide

/-- The two names on either side of a limit have different lengths. -/
theorem longestAccepted_ne_shortestRejected (limit : NameLimit) :
    limit.longestAccepted ≠ limit.shortestRejected := by
  intro same
  have lengths := congrArg List.length same
  rw [longestAccepted, shortestRejected, length_cycle, length_cycle]
    at lengths
  have two_le := limit.two_le
  omega

/-- A suite finds nothing to blame if both limits are the same. -/
theorem findings_pass_iff :
    (∀ finding ∈ BoundaryCall.suite.flatMap (probed.findings kept),
        finding.2.2.isFailure = false) ↔
      probed.bytes = kept.bytes := by
  rw [← verdicts_pass_iff]
  constructor
  · intro all
    exact ⟨all _ List.mem_cons_self,
      all _ (List.mem_cons_of_mem _ List.mem_cons_self)⟩
  · rintro ⟨longest, shortest⟩ finding member
    rcases List.mem_flatMap.mp member with ⟨call, _, found⟩
    rcases List.mem_pair.mp found with rfl | rfl
    · exact longest
    · exact shortest

/-- Both names are cut from the alphabet. -/
theorem exists_cycle_of_mem_probed {limit : NameLimit} {name : Bytes}
    (member : name ∈ limit.probed) :
    ∃ length, 0 < length ∧ name = cycle length := by
  have two_le := limit.two_le
  rcases List.mem_pair.mp member with rfl | rfl
  · exact ⟨limit.bytes - 1, by omega, rfl⟩
  · exact ⟨limit.bytes, by omega, rfl⟩

end NameLimit

/-- A probed name is accepted if it is short enough. -/
theorem StoreSettings.accepts_probed_iff {rules : StoreSettings}
    {limit : NameLimit} {name : Bytes} (member : name ∈ limit.probed) :
    rules.Accepts name ↔
      Name.encodedLength name ≤ rules.nameLimit.bytes := by
  rcases NameLimit.exists_cycle_of_mem_probed member with
    ⟨length, positive, rfl⟩
  rw [accepts_cycle_iff positive, Name.encodedLength,
    NameLimit.length_cycle]

namespace Boundary

/-- Make all calls of a suite on either side of a limit. -/
def probeAll (limit : NameLimit) : Procedure (List Check) := do
  let created ← checks limit .create
  let opened ← checks limit .openFile
  let deleted ← checks limit .delete
  return created ++ opened ++ deleted

@[simp]
theorem finding_check {Value : Type} (operation : Operation)
    (name : Bytes) (expectation : Expectation) (handle : Option Handle)
    (answer : Except CallError Value) :
    (check operation name expectation handle answer).finding =
      (operation, Name.label name, .classify expectation answer.isOk) := by
  cases answer <;> rfl

/-! ## Single probes -/

section

variable {rules : StoreSettings} {store : Store} {name : Bytes}

theorem hasRoom_of_unlimited (unlimited : rules.handleLimit = none)
    (handles : Nat) : rules.HasRoom handles := by
  intro limit limited
  cases unlimited.symm.trans limited

/-- A name that can be taken is there, or it is not. -/
def Present (rules : StoreSettings) (name : Bytes) (present : Bool)
    (store : Store) : Prop :=
  rules.Accepts name → store.hasName name = present

/-- A call that probes is answered by whether the name can be taken. -/
structure Answers (rules : StoreSettings) (name : Bytes) (present : Bool)
    {Value : Type} (reply : Reply Store (Except CallError Value)) :
    Prop where
  isOk_iff : reply.answer.isOk = true ↔ rules.Accepts name
  present : Present rules name present reply.state

/-- What a check of it finds is whether the name can be taken. -/
theorem Answers.finding_eq {Value : Type} {present taken : Bool}
    {reply : Reply Store (Except CallError Value)}
    (answers : Answers rules name present reply)
    (taken_iff : rules.Accepts name ↔ taken = true)
    {operation : Operation} {expectation : Expectation}
    {handle : Option Handle} :
    (check operation name expectation handle reply.answer).finding =
      (operation, Name.label name, .classify expectation taken) := by
  have same : reply.answer.isOk = taken :=
    Bool.eq_iff_iff.mpr (answers.isOk_iff.trans taken_iff)
  rw [finding_check, same]

theorem hasName_eq_true_iff :
    store.hasName name = true ↔ ∃ number, store.names[name]? = some number
    := by
  rw [hasName, Std.ExtTreeMap.contains_eq_isSome_getElem?,
    Option.isSome_iff_exists]

/-- What is not accepted is not asked for. -/
theorem Answers.of_refused {Value : Type}
    {reply : Reply Store (Except CallError Value)} {present : Bool}
    (unacceptable : ¬rules.Accepts name) {reason : CallError}
    (refused : reply = store.refuse reason) :
    Answers rules name present reply where
  isOk_iff := by
    rw [refused]
    exact iff_of_false nofun unacceptable
  present := fun accepted => (unacceptable accepted).elim

theorem create_answers (running : Running rules store)
    (unlimited : rules.handleLimit = none) (name : Bytes) :
    Answers rules name true (store.create name) := by
  by_cases accepted : rules.Accepts name
  · have room := hasRoom_of_unlimited unlimited store.handles.size
    rcases running.create_opens accepted room with ⟨number, opens, _, _⟩
    exact ⟨iff_of_true opens.isOk accepted,
      fun _ => hasName_eq_true_iff.mpr ⟨number, opens.named⟩⟩
  · rcases running.create_refused fun admitted => accepted admitted.1 with
      ⟨reason, refused⟩
    exact .of_refused accepted refused

theorem openFile_answers (running : Running rules store)
    (unlimited : rules.handleLimit = none)
    (there : Present rules name true store) :
    Answers rules name true (store.openFile name) := by
  by_cases accepted : rules.Accepts name
  · have room := hasRoom_of_unlimited unlimited store.handles.size
    rcases hasName_eq_true_iff.mp (there accepted) with ⟨number, named⟩
    have opens := (running.openFile_opens accepted named room).1
    exact ⟨iff_of_true opens.isOk accepted,
      fun _ => hasName_eq_true_iff.mpr ⟨number, opens.named⟩⟩
  · rcases running.openFile_refused
      fun _ admitted => accepted admitted.1 with ⟨reason, refused⟩
    exact .of_refused accepted refused

theorem delete_answers (running : Running rules store)
    (allow : rules.deleteOpen = .allow)
    (there : Present rules name true store) :
    Answers rules name false (store.delete name) := by
  by_cases accepted : rules.Accepts name
  · have idle : ∀ number, rules.deleteOpen = .reject →
        store.handlesOn number = 0 := by
      intro number
      rw [allow]
      exact nofun
    rcases hasName_eq_true_iff.mp (there accepted) with ⟨number, named⟩
    have deletes := running.delete_deletes accepted named (idle number)
    refine ⟨iff_of_true deletes.isOk accepted, fun _ => ?_⟩
    rw [hasName, Std.ExtTreeMap.contains_eq_isSome_getElem?,
      deletes.unnamed]
    rfl
  · rcases running.delete_refused
      fun _ admitted => accepted admitted.1 with ⟨reason, refused⟩
    exact .of_refused accepted refused

/--
A probe of one name finds whether it can be taken, and leaves the others alone.
A name that is opened or deleted must be there.
-/
theorem probe_yields (sound : Sound rules store)
    (unlimited : rules.handleLimit = none)
    (allow : rules.deleteOpen = .allow) (call : BoundaryCall)
    (there : call ≠ .create → Present rules name true store)
    (expectation : Expectation) {taken : Bool}
    (taken_iff : rules.Accepts name ↔ taken = true) :
    (probe call name expectation).Yields Store.subsystem store
      fun verdict later =>
        verdict.finding =
          (call.operation, Name.label name, .classify expectation taken) ∧
        Isolates rules [name] store later ∧
        Present rules name (decide (call ≠ .delete)) later := by
  cases call with
  | create =>
      have answers := create_answers sound.toRunning unlimited name
      exact Procedure.yields_one_call
        ⟨answers.finding_eq taken_iff,
          sound.isolates_of_name (.create name) rfl, answers.present⟩
  | openFile =>
      have answers :=
        openFile_answers sound.toRunning unlimited (there nofun)
      exact Procedure.yields_one_call
        ⟨answers.finding_eq taken_iff,
          sound.isolates_of_name (.openFile name) rfl, answers.present⟩
  | delete =>
      have answers := delete_answers sound.toRunning allow (there nofun)
      exact Procedure.yields_one_call
        ⟨answers.finding_eq taken_iff,
          sound.isolates_of_name (.delete name) rfl, answers.present⟩

end

/-! ## Both sides of a limit -/

variable {rules : StoreSettings} {limit : NameLimit}
  {store later : Store}

/-- As far as they can be taken, both probed names are there, or neither is. -/
def BothPresent (rules : StoreSettings) (limit : NameLimit)
    (present : Bool) (store : Store) : Prop :=
  ∀ name ∈ limit.probed, Present rules name present store

theorem bothPresent_iff {present : Bool} :
    BothPresent rules limit present store ↔
      Present rules limit.longestAccepted present store ∧
        Present rules limit.shortestRejected present store := by
  rw [BothPresent, NameLimit.probed, List.forall_mem_cons,
    List.forall_mem_singleton]

/-- What became of one name lasts through a call with another. -/
theorem Present.lasts {name other : Bytes} {present : Bool}
    (here : Present rules name present store)
    (isolates : Isolates rules [other] store later)
    (different : name ≠ other) : Present rules name present later := by
  intro accepted
  rw [hasName, Std.ExtTreeMap.contains_eq_isSome_getElem?,
    isolates.names_eq (by rwa [List.mem_singleton]),
    ← Std.ExtTreeMap.contains_eq_isSome_getElem?]
  exact here accepted

/-- One call on either side of a limit. -/
theorem checks_yields (sound : Sound rules store)
    (unlimited : rules.handleLimit = none)
    (allow : rules.deleteOpen = .allow) (call : BoundaryCall)
    (there : call ≠ .create → BothPresent rules limit true store) :
    (checks limit call).Yields Store.subsystem store
      fun verdicts later =>
        verdicts.map Check.finding = limit.findings rules.nameLimit call ∧
        Isolates rules limit.probed store later ∧
        BothPresent rules limit (decide (call ≠ .delete)) later := by
  have different := limit.longestAccepted_ne_shortestRejected
  have longest : rules.Accepts limit.longestAccepted ↔
      decide (limit.bytes ≤ rules.nameLimit.bytes) = true :=
    (StoreSettings.accepts_longestAccepted_iff limit).trans
      decide_eq_true_iff.symm
  have shortest : rules.Accepts limit.shortestRejected ↔
      decide (limit.bytes < rules.nameLimit.bytes) = true :=
    (StoreSettings.accepts_shortestRejected_iff limit).trans
      decide_eq_true_iff.symm
  simp only [bothPresent_iff] at there ⊢
  apply Procedure.yields_bind
  apply (probe_yields sound unlimited allow call
    (fun needed => (there needed).1) .success longest).mono
  rintro first middle ⟨found, isolates, present⟩
  -- The first name is another one, so the second is there if it was before.
  have thereToo : call ≠ .create →
      Present rules limit.shortestRejected true middle :=
    fun needed => (there needed).2.lasts isolates different.symm
  apply Procedure.yields_bind
  apply (probe_yields isolates.toSound unlimited allow call thereToo
    .failure shortest).mono
  rintro second later ⟨foundToo, isolatesToo, presentToo⟩
  apply Procedure.yields_pure
  refine ⟨?_, isolates.trans isolatesToo,
    present.lasts isolatesToo different, presentToo⟩
  rw [List.map_cons, List.map_singleton, found, foundToo,
    NameLimit.findings, NameLimit.verdicts_eq]

/-! ## The suite -/

/-- Checks are clean if what they find is. -/
theorem clean_iff_findings {verdicts : List Check} :
    Clean verdicts ↔ ∀ finding ∈ verdicts.map Check.finding,
      finding.2.2.isFailure = false := by
  rw [List.forall_mem_map]
  rfl

/--
On any store that can be reached and still runs, without a limit of handles and
where open files may be deleted, a suite finds exactly where the limit of the
store is.  If it is the limit that is probed then all checks pass; if the store
takes longer names then the three calls with the longer name succeed, and if it
takes shorter ones only then the three with the shorter name fail, and these are
the only checks that do not pass.  Whichever of the two names could be taken is
gone at the end, and what other names denote has not changed.
-/
theorem probeAll_discriminates {rules : StoreSettings}
    (allow : rules.deleteOpen = .allow)
    (unlimited : rules.handleLimit = none) (generator : Generator)
    (actions : List Action) (limit : NameLimit) :
    let store := (Store.fresh rules generator).after actions
    store.exitStatus = none →
      (probeAll limit).Yields Store.subsystem store fun verdicts later =>
        verdicts.map Check.finding =
            BoundaryCall.suite.flatMap (limit.findings rules.nameLimit) ∧
          (Clean verdicts ↔ limit.bytes = rules.nameLimit.bytes) ∧
          (∀ name ∈ limit.probed,
            Name.encodedLength name ≤ rules.nameLimit.bytes →
              later.hasName name = false) ∧
          ∀ name ∉ limit.probed,
            later.content? name = store.content? name ∧
              later.durableContent? name = store.durableContent? name := by
  intro store alive
  have sound := Sound.reached rules generator actions alive
  apply Procedure.yields_bind
  apply (checks_yields sound unlimited allow .create
    fun later => (later rfl).elim).mono
  rintro created second ⟨found, isolates, there⟩
  apply Procedure.yields_bind
  apply (checks_yields isolates.toSound unlimited allow .openFile
    fun _ => there).mono
  rintro opened third ⟨foundToo, isolatesToo, thereToo⟩
  apply Procedure.yields_bind
  apply (checks_yields isolatesToo.toSound unlimited allow .delete
    fun _ => thereToo).mono
  rintro deleted last ⟨foundLast, isolatesLast, gone⟩
  apply Procedure.yields_pure
  have isolatesAll := (isolates.trans isolatesToo).trans isolatesLast
  have findings : (created ++ opened ++ deleted).map Check.finding =
      BoundaryCall.suite.flatMap (limit.findings rules.nameLimit) := by
    rw [List.map_append, List.map_append, found, foundToo, foundLast]
    rfl
  refine ⟨findings, ?_, ?_, ?_⟩
  · rw [clean_iff_findings, findings]
    exact NameLimit.findings_pass_iff
  · intro name member short
    exact gone name member
      ((StoreSettings.accepts_probed_iff member).mpr short)
  · intro name outside
    have apart :
        name ∉ (limit.probed ++ limit.probed) ++ limit.probed := by
      simp only [List.mem_append, or_self]
      exact outside
    exact ⟨isolatesAll.content?_eq apart,
      isolatesAll.durableContent?_eq apart⟩

/--
A store takes names of three bytes and a suite probes for two.  The longer of
its names is already there, with data and an open handle from before a crash.
-/
theorem probeAll_discriminates_lenient :
    let rules : StoreSettings := { nameLimit := ⟨4, by decide⟩ }
    let actions : List Action :=
      [.call (.create [122]), .call (.write ⟨2⟩ [1, 2]), .crash,
        .call (.create [97, 98, 99]), .call (.write ⟨3⟩ [3]),
        .call (.create [122, 122]), .call (.write ⟨4⟩ [4])]
    let limit : NameLimit := ⟨3, by decide⟩
    let store := (Store.fresh rules (.ofSeed 0)).after actions
    rules.deleteOpen = .allow ∧ rules.handleLimit = none ∧
      store.exitStatus = none ∧
      store.content? [97, 98, 99] = some [3] ∧
      (probeAll limit).Yields Store.subsystem store fun verdicts later =>
        verdicts.map Check.finding =
            [(.create, "ab", .pass), (.create, "abc", .unexpectedSuccess),
              (.openFile, "ab", .pass),
              (.openFile, "abc", .unexpectedSuccess),
              (.delete, "ab", .pass),
              (.delete, "abc", .unexpectedSuccess)] ∧
          ¬Clean verdicts ∧
          later.hasName [97, 98] = false ∧
          later.hasName [97, 98, 99] = false ∧
          later.content? [122] = some [] ∧
          later.content? [122, 122] = some [4] := by
  intro rules actions limit store
  have alive : store.exitStatus = none := by decide +kernel
  have there : store.content? [97, 98, 99] = some [3] := by decide +kernel
  have short : store.content? [122] = some [] := by decide +kernel
  have long : store.content? [122, 122] = some [4] := by decide +kernel
  refine ⟨rfl, rfl, alive, there, ?_⟩
  apply (probeAll_discriminates rfl rfl (.ofSeed 0) actions limit
    alive).mono
  rintro verdicts later ⟨findings, clean_iff, gone, kept⟩
  refine ⟨?_, ?_, ?_, ?_, ?_, ?_⟩
  · rw [findings]
    decide +kernel
  · rw [clean_iff]
    decide
  · exact gone _ (by decide +kernel) (by decide +kernel)
  · exact gone _ (by decide +kernel) (by decide +kernel)
  · exact (kept _ (by decide +kernel)).1.trans short
  · exact (kept _ (by decide +kernel)).1.trans long

end Boundary

end FileConformance
