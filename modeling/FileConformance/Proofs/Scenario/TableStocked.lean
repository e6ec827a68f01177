import FileConformance.Proofs.RoundTrip.Delivery
import FileConformance.Proofs.Scenario.TableInStep

/-!
# What a passed round trip says of its file

The steps that go through all files keep a table stocked, in any order and
however often.  A round trip after them passes for a file exactly if its data
was written and could be read back, and writes it where the bound handle stands.
So a file that passed holds what it held before with its content put there, all
of it durable, and that is its content once or twice.

It is the content alone if and only if the handle stood at the start of a file
that was no longer than its content.  A second round trip does not meet this:
the first one leaves its handle at the end of the content.
-/

namespace FileConformance

open Store

/-- A step that goes through all files of a table. -/
def Step.VisitsFiles : Step → Prop
  | .bulk _ _ => True
  | .roundTrip => True
  | .boundary _ => False

instance : DecidablePred Step.VisitsFiles
  | .bulk _ _ => inferInstanceAs (Decidable True)
  | .roundTrip => inferInstanceAs (Decidable True)
  | .boundary _ => inferInstanceAs (Decidable False)

namespace Table

variable {rules : StoreSettings} {stem : String} {table : Table}
  {store : Store}

/-- What a file of a table has to hold. -/
def contentOf (table : Table) (file : TrackedFile) : Bytes :=
  table.expected file.index

/-- All test files of a table are stocked. -/
structure Stocked (rules : StoreSettings) (stem : String) (table : Table)
    (store : Store) : Prop where
  sound : Sound rules store
  numbered : Numbered stem 0 table.files
  stocked : ∀ file ∈ table.files,
    file.Stocked (table.contentOf file) store

/-- A walk went through a table: all files had their turns. -/
structure Walked (rules : StoreSettings)
    (took : TrackedFile → Store → Visit → Store → Prop)
    (table : Table) (store : Store) (outcome : List Check × Table)
    (later : Store) : Prop where
  isolates : Isolates rules table.paths store later
  turns : ∃ made, outcome =
      (made.map Visit.check, { table with files := made.map Visit.file }) ∧
    List.Forall₂ (Walk.Turn rules took store later) table.files made

theorem Stocked.fresh (rules : StoreSettings) (generator : Generator)
    (stem : String) (count : Nat) (pattern : Pattern)
    (bufferLength : Nat) :
    (Table.numbered stem count pattern bufferLength).Stocked rules stem
      (Store.fresh rules generator) where
  sound := .reached rules generator [] rfl
  numbered :=
    (InStep.fresh rules generator stem count pattern bufferLength).numbered
  stocked := by
    intro file member
    rcases List.mem_map.mp member with ⟨index, _, rfl⟩
    exact .of_unbound rfl Std.ExtTreeMap.getElem?_empty

/-- Visits that leave their files stocked leave the table stocked. -/
theorem Stocked.walk (stocked : table.Stocked rules stem store)
    {visit : TrackedFile → Procedure Visit}
    {took : TrackedFile → Store → Visit → Store → Prop}
    (visits : ∀ {file : TrackedFile} {store : Store},
      Sound rules store → file.Stocked (table.contentOf file) store →
        (visit file).Yields Store.subsystem store (took file store))
    (leaves : ∀ {file : TrackedFile} {store later : Store} {made : Visit},
      took file store made later →
        Leaves rules (table.contentOf file) file store made.file later) :
    (Walk.table visit table).Yields Store.subsystem store
      fun outcome later =>
        outcome.2.Stocked rules stem later ∧
          Walked rules took table store outcome later := by
  have takes : Walk.TakesTurns rules stem visit (fun _ _ => True)
      (fun file => file.Stocked (table.contentOf file)) took := by
    intro index file store _ _ sound _ ready
    apply (visits sound ready).mono
    intro made later taken
    exact ⟨(leaves taken).isolates, (leaves taken).same, trivial, taken⟩
  apply Procedure.yields_bind
  apply (Walk.files_takeTurns takes
    (TrackedFile.stocked_lasts table.contentOf) stocked.numbered
    stocked.sound trivial stocked.stocked).mono
  rintro made later ⟨isolates, _, numbered, turns⟩
  refine Procedure.yields_pure ⟨⟨isolates.toSound, numbered, ?_⟩,
    isolates, made, rfl, turns⟩
  intro moved member
  rcases List.mem_map.mp member with ⟨visited, among, rfl⟩
  rcases Walk.exists_turn turns among with
    ⟨file, _, same, _, first, last, others, _, _, taken, outside, rest⟩
  have there := (leaves taken).stocked
  have content_eq : table.contentOf visited.file = table.contentOf file :=
    congrArg table.expected same.index_eq
  rw [← same.path_eq] at outside
  rw [← content_eq] at there
  exact TrackedFile.stocked_lasts table.contentOf outside rest.toSpares
    there

/-- What is said of a round trip of one file of a table. -/
abbrev Trip (rules : StoreSettings) (table : Table) (file : TrackedFile)
    (store : Store) (made : Visit) (later : Store) : Prop :=
  RoundTrip.Made rules (table.contentOf file) file store
    (file.Delivers rules (table.contentOf file) store) made later

theorem Stocked.roundTrip (stocked : table.Stocked rules stem store)
    (faultless : rules.Faultless) (limit : NameLimit) :
    (Step.roundTrip.perform limit table).Yields Store.subsystem store
      fun outcome later =>
        outcome.2.Stocked rules stem later ∧
          Walked rules (Trip rules table) table store outcome later :=
  stocked.walk (fun sound ready => RoundTrip.visit_made sound faultless
    ready) fun trip => trip.leaves

theorem Stocked.bulk (stocked : table.Stocked rules stem store)
    (call : BulkCall) (expectation : Expectation) (limit : NameLimit) :
    ((Step.bulk call expectation).perform limit table).Yields
      Store.subsystem store fun outcome later =>
        outcome.2.Stocked rules stem later ∧
          Walked rules
            (fun file store made later => Leaves rules
              (table.contentOf file) file store made.file later)
            table store outcome later :=
  stocked.walk (fun sound ready => Bulk.visit_leaves sound ready call
    expectation) id

/-- A walk changes nothing of a table but the bindings of its files. -/
structure Like (table other : Table) : Prop where
  length_eq : other.files.length = table.files.length
  pattern_eq : other.pattern = table.pattern
  bufferLength_eq : other.bufferLength = table.bufferLength

namespace Like

theorem refl (table : Table) : table.Like table := ⟨rfl, rfl, rfl⟩

theorem trans {middle other : Table} (first : table.Like middle)
    (second : middle.Like other) : table.Like other where
  length_eq := second.length_eq.trans first.length_eq
  pattern_eq := second.pattern_eq.trans first.pattern_eq
  bufferLength_eq := second.bufferLength_eq.trans first.bufferLength_eq

theorem expected_eq {other : Table} (like : table.Like other)
    (index : Nat) : other.expected index = table.expected index := by
  rw [expected, expected, like.pattern_eq, like.bufferLength_eq]

end Like

theorem Walked.like
    {took : TrackedFile → Store → Visit → Store → Prop}
    {outcome : List Check × Table} {later : Store}
    (walked : Walked rules took table store outcome later) :
    table.Like outcome.2 := by
  rcases walked.turns with ⟨made, rfl, turns⟩
  exact ⟨(List.length_map _).trans turns.length_eq.symm, rfl, rfl⟩

/-- A step through all files keeps a table stocked. -/
theorem Stocked.perform (stocked : table.Stocked rules stem store)
    (faultless : rules.Faultless) (limit : NameLimit) {step : Step}
    (visits : step.VisitsFiles) :
    (step.perform limit table).Yields Store.subsystem store
      fun outcome later =>
        outcome.2.Stocked rules stem later ∧ table.Like outcome.2 := by
  cases step with
  | bulk call expectation =>
      apply (stocked.bulk call expectation limit).mono
      exact fun outcome later holds => ⟨holds.1, holds.2.like⟩
  | roundTrip =>
      apply (stocked.roundTrip faultless limit).mono
      exact fun outcome later holds => ⟨holds.1, holds.2.like⟩
  | boundary call => exact visits.elim

/-- So does any sequence of them. -/
theorem Stocked.undergo (stocked : table.Stocked rules stem store)
    (faultless : rules.Faultless) {steps : List (NameLimit × Step)}
    (visits : ∀ step ∈ steps, step.2.VisitsFiles) :
    (table.undergo steps).Yields Store.subsystem store
      fun later store =>
        later.Stocked rules stem store ∧ table.Like later := by
  induction steps generalizing table store with
  | nil => exact Procedure.yields_pure ⟨stocked, .refl table⟩
  | cons first rest ih =>
      rw [List.forall_mem_cons] at visits
      apply Procedure.yields_bind
      apply (stocked.perform faultless first.1 visits.1).mono
      rintro outcome later ⟨ready, like⟩
      apply (ih ready visits.2).mono
      rintro last end_ ⟨readyToo, likeToo⟩
      exact ⟨readyToo, like.trans likeToo⟩

end Table

/-! ## What a pass says -/

/--
What a store holds under a name after data was put, through a handle, into the
file it was open on: the data alone or the data twice.
-/
structure Store.HoldsPut (before : Store) (opened : StoreHandle)
    (data : Bytes) (name : Bytes) (later : Store) : Prop where
  content_eq : later.content? name =
    some ((before.live opened.file).overwrite opened.position data)
  durable_eq : later.durableContent? name = later.content? name
  once_or_twice : later.content? name = some data ∨
    later.content? name = some (data ++ data)
  once_iff : later.content? name = some data ↔
    opened.position = 0 ∧ (before.live opened.file).length ≤ data.length

/-- What is put into a stocked file is there once its turn is over. -/
theorem holdsPut_of_turn {rules : StoreSettings} {table : Table}
    {file : TrackedFile} {store later : Store} {made : Visit}
    (stocked : file.Stocked (table.contentOf file) store)
    (turn : Walk.Turn rules (table.Trip rules) store later file made)
    (passes : made.check.outcome = .pass) :
    ∃ handle opened, file.binding = .bound handle ∧
      store.handles.find? handle = some opened ∧
      store.HoldsPut opened (table.contentOf file) file.path later := by
  rcases turn with
    ⟨_, earlier, first, last, others, outside, before, trip, apart, rest⟩
  rcases trip.passes_iff.mp passes with ⟨content, delivers⟩
  rcases trip.holds content delivers with ⟨_, holds, durable⟩
  rcases delivers with
    ⟨handle, opened, bound, found, _, named, _, rfl⟩
  rcases Option.map_eq_some_iff.mp (stocked.inStep.bound bound) with
    ⟨held, holding, under⟩
  -- Nothing before the turn concerned the file or its handle.
  have kept := before.find?_eq (by rw [under]; exact outside) holding
  cases kept.symm.trans found
  rw [before.names_eq outside] at named
  rw [before.live_eq outside named] at holds durable
  have poised := (stocked.poised named bound holding).2
  have content_eq := (rest.content?_eq apart).trans holds
  refine ⟨handle, opened, bound, holding, content_eq, ?_, ?_, ?_⟩
  · rw [content_eq, rest.durableContent?_eq apart, durable]
  · rw [content_eq, Option.some.injEq, Option.some.injEq]
    exact poised.overwrite
  · rw [content_eq, Option.some.injEq]
    exact Bytes.overwrite_eq_iff

/-- A numbered file is at its index. -/
theorem Numbered.eq_of_getElem? {stem : String} {start index : Nat}
    {files : List TrackedFile} (numbered : Numbered stem start files)
    {file : TrackedFile} (there : files[index]? = some file) :
    file.index = start + index ∧
      file.path = Bytes.ofString (Name.numbered stem (start + index)) := by
  induction numbered generalizing index with
  | nil => cases there
  | @cons start first rest index_eq name_eq _ ih =>
      cases index with
      | zero =>
          cases there
          exact ⟨index_eq, congrArg Bytes.ofString name_eq⟩
      | succ index =>
          rw [Nat.add_comm index 1, ← Nat.add_assoc]
          exact ih there

/--
Any steps through all files, on a fresh store without faults and a fresh table,
come to an end, and so does a round trip after them.  It leaves one check for
each file.  A file whose check passed was bound to an open handle before, and
both its contents are now what its file held with its data, a buffer full, put
in where this handle stood.  That is the data once or twice, and once if and
only if the handle stood at the start and there was no more than that in the
file.
-/
theorem passed_round_trip_holds {settings : StoreSettings}
    (faultless : settings.Faultless) (generator : Generator)
    (stem : String) (count : Nat) (pattern : Pattern) (bufferLength : Nat)
    {steps : List (NameLimit × Step)}
    (visits : ∀ step ∈ steps, step.2.VisitsFiles) (limit : NameLimit) :
    let start := Table.numbered stem count pattern bufferLength
    (start.undergo steps).Yields Store.subsystem
      (Store.fresh settings generator) fun table store =>
        (Step.roundTrip.perform limit table).Yields Store.subsystem store
          fun outcome later =>
            outcome.1.length = count ∧
            ∀ (index : Nat) (file : TrackedFile) (check : Check),
              table.files[index]? = some file →
              outcome.1[index]? = some check → check.outcome = .pass →
                (start.expected index).length = bufferLength ∧
                ∃ handle opened, file.binding = .bound handle ∧
                  store.handles.find? handle = some opened ∧
                  store.HoldsPut opened (start.expected index)
                    (Bytes.ofString (Name.numbered stem index)) later := by
  intro start
  have fresh := Table.Stocked.fresh settings generator stem count pattern
    bufferLength
  apply (fresh.undergo faultless visits).mono
  rintro table store ⟨stocked, like⟩
  apply (stocked.roundTrip faultless limit).mono
  rintro outcome later ⟨_, walked⟩
  rcases walked.turns with ⟨made, rfl, turns⟩
  have length_eq : table.files.length = count := by
    rw [like.length_eq, Table.numbered, List.length_map, List.length_range]
  refine ⟨?_, ?_⟩
  · rw [List.length_map, ← turns.length_eq, length_eq]
  · intro index file check there checked passes
    replace checked : (made.map Visit.check)[index]? = some check := checked
    rw [List.getElem?_map] at checked
    rcases Option.map_eq_some_iff.mp checked with ⟨visited, place, rfl⟩
    have turn : Walk.Turn settings (table.Trip settings) store later file
        visited := by
      rcases List.getElem?_eq_some_iff.mp there with ⟨below, rfl⟩
      rcases List.getElem?_eq_some_iff.mp place with ⟨belowToo, rfl⟩
      exact turns.get below belowToo
    have placed := stocked.numbered.eq_of_getElem? there
    rw [Nat.zero_add] at placed
    have content_eq : table.contentOf file = start.expected index := by
      rw [Table.contentOf, placed.1]
      exact like.expected_eq index
    have holds := holdsPut_of_turn
      (stocked.stocked file (List.mem_of_getElem? there)) turn passes
    rw [content_eq, placed.2] at holds
    exact ⟨pattern.length_fill (.ofNat index) bufferLength, holds⟩

/-- Verdicts that were reached are those of the checks that were made. -/
theorem exists_check {ending : Except Abort (List Check × Table)}
    {verdicts : List Outcome} {outcome : List Check × Table}
    (reached : ending.map (·.1.map Check.outcome) = .ok verdicts)
    (ended : ending = .ok outcome) {index : Nat} {verdict : Outcome}
    (given : verdicts[index]? = some verdict) :
    ∃ check, outcome.1[index]? = some check ∧ check.outcome = verdict := by
  rw [ended] at reached
  replace reached : outcome.1.map Check.outcome = verdicts :=
    Except.ok.inj reached
  rw [← reached, List.getElem?_map] at given
  exact Option.map_eq_some_iff.mp given

/--
If the files are created anew after a round trip then the next one writes their
contents once again.
-/
theorem passed_round_trip_holds_created_anew :
    let start := Table.numbered "file" 2 .standard 2
    let steps : List (NameLimit × Step) :=
      [(.standard, .bulk .create .success), (.standard, .roundTrip),
        (.standard, .bulk .create .success)]
    (∀ step ∈ steps, step.2.VisitsFiles) ∧
      (start.undergo steps).Yields Store.subsystem
        (Store.fresh {} (.ofSeed 0)) fun table store =>
          (Step.roundTrip.perform .standard table).Yields Store.subsystem
            store fun _ later =>
              let name := Bytes.ofString (Name.numbered "file" 1)
              later.content? name = some (start.expected 1) ∧
                later.durableContent? name =
                  some (start.expected 1) := by
  intro start steps
  have visits : ∀ step ∈ steps, step.2.VisitsFiles := by decide
  let run := ((Table.numbered "file" 2 .standard 2).undergo steps).run
    Store.subsystem (Store.fresh {} (.ofSeed 0))
  let bound : Table :=
    ⟨[⟨0, "file0", .bound ⟨6⟩⟩, ⟨1, "file1", .bound ⟨7⟩⟩], .standard, 2⟩
  let trips := (Step.roundTrip.perform .standard bound).run Store.subsystem
    run.state
  have made : run.ending = .ok bound := by decide +kernel
  have passed : trips.ending.map (·.1.map Check.outcome) =
      .ok [.pass, .pass] := by decide +kernel
  have ready : (run.state.handles.find? ⟨7⟩).map (fun opened =>
      (opened.position, run.state.live opened.file)) =
        some (0, []) := by decide +kernel
  refine ⟨visits, ?_⟩
  rcases @passed_round_trip_holds {} ⟨rfl, rfl⟩ (.ofSeed 0) "file" 2
    .standard 2 steps visits .standard with
    ⟨table, ended, outcome, endedToo, _, holds⟩
  cases ended.symm.trans made
  rcases exists_check passed endedToo (show _[1]? = _ from rfl) with
    ⟨check, checked, passes⟩
  rcases holds 1 ⟨1, "file1", .bound ⟨7⟩⟩ check rfl checked passes with
    ⟨_, handle, opened, boundTo, found, put⟩
  obtain rfl : ⟨7⟩ = handle := Binding.bound.inj boundTo
  simp only [run] at ready
  rw [found, Option.map_some, Option.some.injEq, Prod.mk.injEq] at ready
  have once := put.once_iff.mpr ⟨ready.1, by
    rw [ready.2]
    exact Nat.zero_le _⟩
  exact ⟨bound, ended, outcome, endedToo, once,
    put.durable_eq.trans once⟩

/--
A pass does not say that a file holds its content and nothing else: a second
round trip passes as well, and puts it behind the first.
-/
theorem second_round_trip_appends :
    ¬∀ (settings : StoreSettings) (generator : Generator) (stem : String)
        (count : Nat) (pattern : Pattern) (bufferLength : Nat)
        (steps : List (NameLimit × Step)) (limit : NameLimit),
      settings.Faultless → (∀ step ∈ steps, step.2.VisitsFiles) →
        let start := Table.numbered stem count pattern bufferLength
        (start.undergo steps).Yields Store.subsystem
          (Store.fresh settings generator) fun table store =>
            (Step.roundTrip.perform limit table).Yields Store.subsystem
              store fun outcome later =>
                ∀ (index : Nat) (check : Check),
                  outcome.1[index]? = some check →
                  check.outcome = .pass →
                    let name := Bytes.ofString (Name.numbered stem index)
                    later.content? name = some (start.expected index) ∧
                      later.durableContent? name =
                        some (start.expected index) := by
  intro alone
  let steps : List (NameLimit × Step) :=
    [(.standard, .bulk .create .success), (.standard, .roundTrip)]
  let run := ((Table.numbered "file" 1 .standard 2).undergo steps).run
    Store.subsystem (Store.fresh {} (.ofSeed 0))
  let bound : Table := ⟨[⟨0, "file0", .bound ⟨3⟩⟩], .standard, 2⟩
  let trip := (Step.roundTrip.perform .standard bound).run Store.subsystem
    run.state
  have made : run.ending = .ok bound := by decide +kernel
  have passed : trip.ending.map (·.1.map Check.outcome) = .ok [.pass] := by
    decide +kernel
  have twice : trip.state.content? (Bytes.ofString "file0") =
      some (Bytes.ofString "0101") := by decide +kernel
  rcases alone {} (.ofSeed 0) "file" 1 .standard 2 steps .standard
    ⟨rfl, rfl⟩ (by decide) with ⟨table, ended, outcome, endedToo, once⟩
  cases ended.symm.trans made
  rcases exists_check passed endedToo (show _[0]? = _ from rfl) with
    ⟨check, checked, passes⟩
  have holds := (once 0 check checked passes).1
  replace holds : trip.state.content? (Bytes.ofString "file0") =
      some (Bytes.ofString "01") := holds
  cases twice.symm.trans holds

end FileConformance
