import FileConformance.Proofs.Scenario.Clearing
import FileConformance.Proofs.Scenario.TableStocked

/-!
# Round trips on files that are created anew

A store may have any history.  Under the names of a table there may be files
with data that waits to be flushed, and handles may be open on them anywhere;
the files of the table may be bound to those, or to handles that were given back
long ago.  Nothing of this is left in the files once they are all created and
make a round trip: each is emptied, bound to a new handle at its start, and gets
its content and nothing else, all of it durable.

What the other names denote is as it was before.  No call takes another name
than that of its file, and no file of the table was ever under another name.
-/

namespace FileConformance

open Store

/-- So many more handles may be opened beside those that are open. -/
def Store.HasRoomFor (store : Store) (handles : Nat) : Prop :=
  ∀ limit, store.settings.handleLimit = some limit →
    store.handles.size + handles ≤ limit

instance (settings : StoreSettings) : DecidablePred settings.Accepts :=
  fun name => inferInstanceAs (Decidable (name ≠ [] ∧ 0 ∉ name ∧
    Name.encodedLength name ≤ settings.nameLimit.bytes))

variable {rules : StoreSettings} {stem : String} {table : Table}
  {file : TrackedFile} {store : Store}

/-! ## Files that were created -/

namespace TrackedFile

/-- A blank file holds none of its content yet. -/
theorem Blank.stocked (blank : file.Blank store) (expected : Bytes) :
    file.Stocked expected store := by
  rcases blank with ⟨handle, number, bound, found, named, empty⟩
  have poised : expected.Poised (store.live number) 0 := by
    rw [empty]
    exact ⟨.absent, .inl rfl⟩
  exact .of_bound bound named found poised

/-- If there is no end of space then a blank file will hold its content. -/
theorem Blank.delivers (blank : file.Blank store)
    (accepted : rules.Accepts file.path)
    (unlimited : rules.capacity = none) (expected : Bytes) :
    file.Delivers rules expected store expected := by
  rcases blank with ⟨handle, number, bound, found, named, empty⟩
  refine ⟨handle, _, bound, found, accepted, named, ?_, ?_⟩
  · intro capacity limited
    cases unlimited.symm.trans limited
  · rw [empty]
    exact Bytes.overwrite_eq_iff.mpr ⟨rfl, Nat.zero_le _⟩

end TrackedFile

/-- As long as there are handles for the files to come, all are created. -/
theorem Bulk.create_takesTurns (rules : StoreSettings) (stem : String)
    (count : Nat) (expectation : Expectation) :
    Walk.TakesTurns rules stem (Bulk.create expectation)
      (fun index store => store.HasRoomFor (count - index))
      (fun file _ => rules.Accepts file.path ∧ file.index < count)
      fun _ _ made later => made.file.Blank later := by
  rintro index file store rfl _ sound here ⟨accepted, below⟩
  have isolates := sound.isolates_of_name (.create file.path) rfl
  have room : rules.HasRoom store.handles.size := by
    intro handles limited
    rw [← sound.settings_eq] at limited
    have spare := here handles limited
    omega
  -- Whatever the name denoted before, it is an empty file now.
  rcases sound.toRunning.create_opens accepted room with
    ⟨number, opens, empty, _⟩
  have size_eq := opens.size_eq
  apply Procedure.yields_one_call
  refine ⟨isolates, file.same_rebind _, ?_, blank_of_opens opens empty⟩
  intro handles limited
  rw [isolates.settings_eq, ← sound.settings_eq] at limited
  have spare := here handles limited
  show (store.create file.path).state.handles.size + _ ≤ handles
  omega

namespace Table

/-- All files of a table are blank now, and nothing else changed. -/
structure Created (rules : StoreSettings) (stem : String) (table : Table)
    (store : Store) (created : Table) (later : Store) : Prop where
  isolates : Isolates rules table.paths store later
  like : table.Like created
  paths_eq : created.paths = table.paths
  numbered : Numbered stem 0 created.files
  blank : ∀ file ∈ created.files, file.Blank later

/-- All files can be created if there are handles for them. -/
theorem createAll_yields (sound : Sound rules store)
    (numbered : Numbered stem 0 table.files)
    (accepted : ∀ name ∈ table.paths, rules.Accepts name)
    (room : store.HasRoomFor table.files.length)
    (expectation : Expectation) (limit : NameLimit) :
    ((Step.bulk .create expectation).perform limit table).Yields
      Store.subsystem store fun outcome later =>
        table.Created rules stem store outcome.2 later := by
  have ready : ∀ file ∈ table.files,
      rules.Accepts file.path ∧ file.index < table.files.length := by
    intro file member
    refine ⟨accepted _ (List.mem_map_of_mem member), ?_⟩
    rcases List.getElem_of_mem member with ⟨index, below, there⟩
    have placed := numbered.eq_of_getElem?
      (List.getElem?_eq_some_iff.mpr ⟨below, there⟩)
    rw [placed.1, Nat.zero_add]
    exact below
  apply Procedure.yields_bind
  apply (Walk.files_takeTurns
    (Bulk.create_takesTurns rules stem table.files.length expectation)
    (fun _ _ holds => holds) numbered sound room ready).mono
  rintro made later ⟨isolates, _, numberedToo, turns⟩
  apply Procedure.yields_pure
  refine ⟨isolates, ⟨?_, rfl, rfl⟩, ?_, numberedToo, ?_⟩
  · exact (List.length_map _).trans turns.length_eq.symm
  · apply Table.paths_eq
    rw [List.forall₂_map_right_iff]
    exact turns.imp fun _ _ turn => turn.1
  · intro moved member
    rcases List.mem_map.mp member with ⟨visited, among, rfl⟩
    rcases Walk.exists_turn turns among with
      ⟨file, _, same, _, _, last, others, _, _, blank, outside, rest⟩
    rw [← same.path_eq] at outside
    exact TrackedFile.blank_lasts outside rest.toSpares blank

/-! ## The round trip after it -/

/--
A table made a round trip without a fault, and every file holds its content and
nothing else, now and for good.  Nothing else changed.
-/
structure Renewed (stem : String) (table : Table) (store : Store)
    (outcome : List Check × Table) (later : Store) : Prop where
  length_eq : outcome.1.length = table.files.length
  passes : ∀ check ∈ outcome.1, check.outcome = .pass
  like : table.Like outcome.2
  isBound : ∀ file ∈ outcome.2.files, file.binding.isBound = true
  holds : ∀ index < table.files.length,
    let name := Bytes.ofString (Name.numbered stem index)
    later.content? name = some (table.expected index) ∧
      later.durableContent? name = some (table.expected index)
  others : ∀ name, name ∉ table.paths →
    later.content? name = store.content? name ∧
      later.durableContent? name = store.durableContent? name

section

variable {created : Table} {middle : Store}
  (ready : table.Created rules stem store created middle)
  (unlimited : rules.capacity = none)
  (accepted : ∀ name ∈ table.paths, rules.Accepts name)

include ready unlimited accepted

/-- A blank file passes when its turn comes, and keeps what it got. -/
theorem Created.renewed_of_turn {later : Store} {made : Visit}
    (member : file ∈ created.files)
    (turn : Walk.Turn rules (created.Trip rules) middle later file made) :
    made.check.outcome = .pass ∧ made.file.binding.isBound = true ∧
      later.content? file.path = some (created.contentOf file) ∧
      later.durableContent? file.path =
        some (created.contentOf file) := by
  have known : file.path ∈ table.paths := by
    rw [← ready.paths_eq]
    exact List.mem_map_of_mem member
  rcases turn with
    ⟨_, earlier, first, last, others, outside, before, trip, apart, rest⟩
  have still := TrackedFile.blank_lasts outside before.toSpares
    (ready.blank file member)
  have delivers := still.delivers (accepted _ known) unlimited
    (created.contentOf file)
  rcases trip.holds _ delivers with ⟨bound, content, durable⟩
  refine ⟨trip.passes_iff.mpr ⟨_, delivers⟩, bound, ?_, ?_⟩
  · rw [rest.content?_eq apart, content]
  · rw [rest.durableContent?_eq apart, durable]

/-- A table whose files are blank makes a round trip without a fault. -/
theorem Created.roundTrip_yields (faultless : rules.Faultless)
    (limit : NameLimit) :
    (Step.roundTrip.perform limit created).Yields Store.subsystem middle
      (table.Renewed stem store) := by
  have stocked : created.Stocked rules stem middle :=
    ⟨ready.isolates.toSound, ready.numbered, fun file member =>
      (ready.blank file member).stocked (created.contentOf file)⟩
  apply (stocked.roundTrip faultless limit).mono
  rintro outcome later ⟨_, walked⟩
  have like := ready.like.trans walked.like
  have isolates := walked.isolates
  rw [ready.paths_eq] at isolates
  rcases walked.turns with ⟨made, rfl, turns⟩
  have passed : ∀ visited ∈ made, visited.check.outcome = .pass ∧
      visited.file.binding.isBound = true := by
    intro visited among
    rcases Walk.exists_turn turns among with ⟨file, there, turn⟩
    have renewed := ready.renewed_of_turn unlimited accepted there turn
    exact ⟨renewed.1, renewed.2.1⟩
  refine ⟨?_, ?_, like, ?_, ?_, ?_⟩
  · exact (List.length_map _).trans
      (turns.length_eq.symm.trans ready.like.length_eq)
  · exact List.forall_mem_map.mpr fun _ among => (passed _ among).1
  · exact List.forall_mem_map.mpr fun _ among => (passed _ among).2
  · intro index below name
    rw [← ready.like.length_eq] at below
    have placed := ready.numbered.eq_of_getElem?
      (List.getElem?_eq_getElem below)
    rw [Nat.zero_add] at placed
    have turn := turns.get below (turns.length_eq ▸ below)
    have holds := (ready.renewed_of_turn unlimited accepted
      (List.getElem_mem below) turn).2.2
    rw [contentOf, placed.1, placed.2, ready.like.expected_eq] at holds
    exact holds
  · intro name outside
    exact ⟨(isolates.content?_eq outside).trans
        (ready.isolates.content?_eq outside),
      (isolates.durableContent?_eq outside).trans
        (ready.isolates.durableContent?_eq outside)⟩

end

end Table

/--
On any store that can be reached and still runs, without faults and without a
limit of space, and for any table, whatever its files are bound to: if the names
are accepted and there are handles for all files, then creating them and making
a round trip passes for every file, leaves all of them bound, and leaves every
file with its content and nothing else, all of it durable.  Under other names
nothing changed.
-/
theorem create_roundTrip_renews {settings : StoreSettings}
    (faultless : settings.Faultless)
    (unlimited : settings.capacity = none) (generator : Generator)
    (actions : List Action) {stem : String} {table : Table}
    (numbered : Numbered stem 0 table.files)
    (accepted : ∀ name ∈ table.paths, settings.Accepts name)
    (expectation : Expectation) (limit : NameLimit) :
    let store := (Store.fresh settings generator).after actions
    store.exitStatus = none → store.HasRoomFor table.files.length →
      ((Step.bulk .create expectation).perform limit table).Yields
        Store.subsystem store fun created middle =>
          (Step.roundTrip.perform limit created.2).Yields Store.subsystem
            middle (table.Renewed stem store) := by
  intro store alive room
  have sound := Sound.reached settings generator actions alive
  apply (Table.createAll_yields sound numbered accepted room expectation
    limit).mono
  intro created middle ready
  exact ready.roundTrip_yields unlimited accepted faultless limit

/--
Two files with data that waits are open, one of them without a name.  The table
is bound to the wrong one of these handles and to one that never was.
-/
theorem create_roundTrip_renews_inherited :
    let settings : StoreSettings :=
      { handleLimit := some 5, sync := .sometimes 9223372036854775808 }
    let actions : List Action :=
      [.call (.create (Bytes.ofString "file1")), .call (.write ⟨2⟩ [1, 2]),
        .call (.delete (Bytes.ofString "file1")),
        .call (.create (Bytes.ofString "file0")), .call (.write ⟨3⟩ [3]),
        .call (.create (Bytes.ofString "other")), .call (.write ⟨4⟩ [4])]
    let store := (Store.fresh settings (.ofSeed 1)).after actions
    let table : Table :=
      ⟨[⟨0, "file0", .bound ⟨2⟩⟩, ⟨1, "file1", .released ⟨9⟩⟩], .standard, 3⟩
    settings.Faultless ∧ settings.capacity = none ∧
      Numbered "file" 0 table.files ∧
      (∀ name ∈ table.paths, settings.Accepts name) ∧
      store.exitStatus = none ∧
      store.HasRoomFor table.files.length ∧
      ((Step.bulk .create .success).perform .standard table).Yields
        Store.subsystem store fun created middle =>
          (Step.roundTrip.perform .standard created.2).Yields
            Store.subsystem middle (table.Renewed "file" store) := by
  intro settings actions store table
  have numbered : Numbered "file" 0 table.files := by
    refine .cons rfl ?_ (.cons rfl ?_ .nil) <;> decide +kernel
  have accepted : ∀ name ∈ table.paths, settings.Accepts name := by
    decide +kernel
  have alive : store.exitStatus = none := by decide +kernel
  have room : store.HasRoomFor table.files.length := by
    have within : store.handles.size + table.files.length ≤ 5 := by
      decide +kernel
    have limited : store.settings.handleLimit = some 5 := by decide +kernel
    intro limit limits
    cases limited.symm.trans limits
    exact within
  exact ⟨⟨rfl, rfl⟩, rfl, numbered, accepted, alive, room,
    create_roundTrip_renews ⟨rfl, rfl⟩ rfl (.ofSeed 1) actions numbered
      accepted .success .standard alive room⟩

end FileConformance
