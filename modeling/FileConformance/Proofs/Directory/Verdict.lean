import FileConformance.Proofs.Directory.Staging

/-!
# A scenario in a directory

What was in a directory before does not keep a scenario from passing, unless
directories have the names of its files, and nothing of it is lost but the
files that had these names.

Whether a name is refused is known from the start: it is too long, or the path
to it is, or a directory has it.  So the report is a success if and only if no
name is refused but the one that has to be, whatever else there is.
-/

namespace FileConformance

namespace Directory

/-! ## Which creates succeed -/

/-- No directory claims to have read more than the buffer takes. -/
theorem count_read_le {directory : Directory} {handle : Handle}
    {buffer : Bytes} {count : Nat}
    (counted : (directory.read handle buffer).answer.count = .ok count) :
    count ≤ buffer.length := by
  unfold read at counted
  split at counted
  · cases counted
  · cases counted
    exact Bytes.length_slice_le _ _ _

theorem honest : subsystem.Honest := by
  intro request directory
  cases request with
  | read handle buffer => exact fun count => count_read_le
  | create name => exact trivial
  | openFile name => exact trivial
  | close handle => exact trivial
  | write handle data => exact trivial
  | delete name => exact trivial
  | exit code => exact trivial

variable {disk : Disk} {root leading : Nat} {names : List Bytes}
  {directory : Directory} {name : Bytes}

/-- A create succeeds if and only if there can be a file of that name. -/
theorem Confined.isOk_create_iff
    (confined : Confined disk root leading names directory)
    (component : isComponent name = true) (member : name ∈ names) :
    (directory.create name).answer.isOk = true ↔
      disk.CanHold root leading name := by
  constructor
  · intro succeeded
    by_contra cannot
    rcases exists_refusal component cannot with ⟨reason, refused⟩
    rw [(refused confined).1] at succeeded
    cases succeeded
  · intro canHold
    rcases confined.create_of_canHold component member canHold with
      ⟨file, made, _, answered, _⟩
    rw [answered]
    rfl

/-- What a create in a sequence of calls was answered says the same. -/
theorem Confined.isOk_of_mem_exchanges
    (confined : Confined disk root leading names directory)
    {calls : List Call} (within : ∀ request ∈ calls, request.Within names)
    (component : isComponent name = true) (named : name ∈ names)
    {answer : Except CallError Handle}
    (member : ⟨.create name, answer⟩ ∈
      subsystem.exchanges calls directory) :
    answer.isOk = true ↔ disk.CanHold root leading name := by
  have step : ∀ request ∈ calls, ∀ reached,
      Confined disk root leading names reached →
        Confined disk root leading names
          (subsystem.respond request reached).state :=
    fun request member _ kept => kept.respond (within request member)
  rcases Subsystem.exists_of_mem_exchanges step confined member with
    ⟨reached, kept, answered⟩
  have same : (reached.create name).answer = answer := answered
  rw [← kept.isOk_create_iff component named, same]

/-- A directory needs room for all names but the one that must be refused. -/
structure Suits (disk : Disk) (root leading : Nat) (settings : Settings) :
    Prop where
  files : ∀ index < settings.fileCount,
    disk.CanHold root leading (settings.path index)
  accepted : disk.CanHold root leading settings.nameLimit.longestAccepted
  rejected :
    ¬disk.CanHold root leading settings.nameLimit.shortestRejected

end Directory

namespace Settings

variable {settings : Settings} {choices : Choices}

theorem create_mem_idealExchanges {index : Nat}
    (inside : index < settings.fileCount) :
    ⟨.create (settings.path index), .ok (choices.created index)⟩ ∈
      settings.idealExchanges choices :=
  List.mem_append_left _ (List.mem_append_left _
    (List.mem_flatMap.mpr ⟨index, List.mem_range.mpr inside,
      List.mem_singleton_self _⟩))

/-- The probing creates are two of the exchanges. -/
theorem idealProbe_subset_idealExchanges :
    settings.idealProbe choices .create ⊆
      settings.idealExchanges choices :=
  fun _ member => List.mem_append_right _ (List.mem_append_right _
    (List.mem_append_left _ member))

end Settings

namespace Scenario

open Directory

variable {settings : Settings} {disk : Disk} {root leading : Nat}

/-! ## Runs -/

/-- A run that ended is a success if its exchanges are ideal. -/
theorem isSuccess_iff_of_ended {State : Type} {subsystem : Subsystem State}
    {state : State} {finished : Scenario}
    (ended : ((start settings).run.run subsystem state).ending =
      .ok finished) :
    finished.report.isSuccess = true ↔
      ∃ choices, ((start settings).run.run subsystem state).exchanges =
        settings.idealExchanges choices := by
  have reached := Procedure.reaches_of_ended ended
  rw [← run_reaches_success_iff]
  constructor
  · exact fun passed => ⟨finished, reached, passed⟩
  · rintro ⟨other, reachedToo, passed⟩
    rw [reached.result_eq reachedToo] at passed
    exact passed

/-- A run in a directory keeps it confined to the names of the scenario. -/
theorem run_calls_within {directory : Directory} {finished : Scenario}
    (ended : ((start settings).run.run Directory.subsystem
      directory).ending = .ok finished) :
    ∀ request ∈ callsOf ((start settings).run.run Directory.subsystem
      directory).exchanges, request.Within settings.names := by
  rcases (run_within settings).of_ended ended with ⟨_, within, _⟩
  intro request member
  rcases List.mem_map.mp member with ⟨exchange, made, rfl⟩
  exact within exchange made

/-- On a disk that suits it, a scenario makes ideal exchanges. -/
theorem run_exchanges_ideal (tree : disk.Tree)
    (own : ∀ name ∈ settings.names, disk.Own ⟨root, name⟩)
    (suits : Suits disk root leading settings) :
    ∃ choices, ((start settings).run.run Directory.subsystem
        (Directory.fresh disk (.ok root) leading)).exchanges =
      settings.idealExchanges choices := by
  rcases exists_leads_ideal suits.files suits.accepted suits.rejected with
    ⟨choices, leads⟩
  have begun : Directory.Stage settings disk root leading
      (settings.firstHandle 0) (fun _ _ => True)
      (Directory.fresh disk (.ok root) leading) := {
    confined := .fresh tree leading own
    nextHandle_eq := by
      rw [Settings.firstHandle, Nat.zero_mul]
      rfl
    each := fun _ _ => trivial }
  rcases run_reaches_success_iff.mpr ⟨choices, rfl⟩ with
    ⟨finished, reached, _⟩
  exact ⟨choices, reached.exchanges_eq (leads _ begun).1⟩

/-- A scenario makes ideal exchanges only on a disk that suits it. -/
theorem suits_of_ideal (tree : disk.Tree)
    (own : ∀ name ∈ settings.names, disk.Own ⟨root, name⟩)
    {finished : Scenario}
    (ended : ((start settings).run.run Directory.subsystem
      (Directory.fresh disk (.ok root) leading)).ending = .ok finished)
    {choices : Choices}
    (ideal : ((start settings).run.run Directory.subsystem
        (Directory.fresh disk (.ok root) leading)).exchanges =
      settings.idealExchanges choices) :
    Suits disk root leading settings := by
  have confined := Confined.fresh tree leading own
  have answered : ∀ {name : Bytes} {answer : Except CallError Handle},
      ⟨.create name, answer⟩ ∈ settings.idealExchanges choices →
        name ∈ settings.names →
          (answer.isOk = true ↔ disk.CanHold root leading name) := by
    intro name answer member named
    rw [← ideal, Procedure.run_exchanges] at member
    exact confined.isOk_of_mem_exchanges (run_calls_within ended)
      (Settings.isComponent_of_mem_names named) named member
  have probes := @Settings.idealProbe_subset_idealExchanges settings choices
  constructor
  · intro index inside
    exact (answered (Settings.create_mem_idealExchanges inside)
      (Settings.path_mem_names inside)).mp rfl
  · exact (answered (probes List.mem_cons_self)
      settings.longestAccepted_mem_names).mp rfl
  · intro canHold
    cases (answered (probes (List.mem_cons_of_mem _ List.mem_cons_self))
      settings.shortestRejected_mem_names).mpr canHold

/-- Where names of any length are in reach, the limit must be the system's. -/
theorem suits_iff_of_free
    (roomy : leading + Disk.longestName ≤ Disk.longestPath)
    (free : ∀ name ∈ settings.names, ∀ number,
      disk.nodes[Place.mk root name]? ≠ some (.directory number)) :
    Suits disk root leading settings ↔
      (∀ index < settings.fileCount,
        (settings.path index).length ≤ Disk.longestName) ∧
          settings.nameLimit.bytes = Disk.longestName + 1 := by
  have canHold_iff : ∀ name ∈ settings.names,
      disk.CanHold root leading name ↔ name.length ≤ Disk.longestName := by
    intro name member
    constructor
    · exact fun canHold => canHold.reach.1
    · intro short
      exact ⟨⟨short, by omega⟩, free name member⟩
  have accepted := canHold_iff settings.nameLimit.longestAccepted
    settings.longestAccepted_mem_names
  have rejected := canHold_iff settings.nameLimit.shortestRejected
    settings.shortestRejected_mem_names
  rw [NameLimit.longestAccepted, NameLimit.length_cycle] at accepted
  rw [NameLimit.shortestRejected, NameLimit.length_cycle] at rejected
  constructor
  · intro suits
    have fits := accepted.mp suits.accepted
    have overlong := mt rejected.mpr suits.rejected
    refine ⟨fun index inside => (canHold_iff _
      (Settings.path_mem_names inside)).mp (suits.files index inside), ?_⟩
    omega
  · rintro ⟨short, exact_limit⟩
    refine ⟨fun index inside => (canHold_iff _
      (Settings.path_mem_names inside)).mpr (short index inside), ?_, ?_⟩
    · exact accepted.mpr (by omega)
    · exact mt rejected.mp (by omega)

/--
On a disk whose directories form a tree, below any of them in which no name of
the scenario is a link or a file that has another name, the first run of a
scenario ends, whatever else the directory holds.  Its report
is a success if and only if there can be files of all test names and of the
longest name that has to be accepted, and none of the shortest that has to be
rejected.  Where the path leaves room for all names and no directory has one of
them, that is to say that the test names are not too long and that the limit is
the system's own.  In every case what is below the directory afterwards is what
was below it before, in the same order, without the files directly in it that
have one of these names and are within reach.
-/
theorem run_in_directory (settings : Settings) {disk : Disk}
    (tree : disk.Tree) {root : Nat}
    (own : ∀ name ∈ settings.names, disk.Own ⟨root, name⟩)
    (leading : Nat) :
    let outcome := (start settings).run.run Directory.subsystem
      (Directory.fresh disk (.ok root) leading)
    ∃ finished, outcome.ending = .ok finished ∧
      (finished.report.isSuccess = true ↔
        (∀ index < settings.fileCount,
            disk.CanHold root leading (settings.path index)) ∧
          disk.CanHold root leading settings.nameLimit.longestAccepted ∧
            ¬disk.CanHold root leading
              settings.nameLimit.shortestRejected) ∧
      (leading + Disk.longestName ≤ Disk.longestPath →
        (∀ name ∈ settings.names, ∀ number,
          disk.nodes[Place.mk root name]? ≠ some (.directory number)) →
        (finished.report.isSuccess = true ↔
          (∀ index < settings.fileCount,
              (settings.path index).length ≤ Disk.longestName) ∧
            settings.nameLimit.bytes = Disk.longestName + 1)) ∧
      ∀ depth, outcome.state.disk.below depth root [] =
        (disk.below depth root []).filter fun line =>
          !Disk.isLeftover leading settings.names line := by
  intro outcome
  rcases (run_steadfast (start settings)).exists_ended Directory.honest
    (Directory.fresh disk (.ok root) leading) with ⟨finished, ended⟩
  have passes : finished.report.isSuccess = true ↔
      Suits disk root leading settings := by
    rw [isSuccess_iff_of_ended ended]
    constructor
    · rintro ⟨choices, ideal⟩
      exact suits_of_ideal tree own ended ideal
    · exact run_exchanges_ideal tree own
  refine ⟨finished, ended, ?_, ?_, ?_⟩
  · rw [passes]
    constructor
    · exact fun suits => ⟨suits.files, suits.accepted, suits.rejected⟩
    · exact fun ⟨files, accepted, rejected⟩ => ⟨files, accepted, rejected⟩
  · intro roomy free
    rw [passes, suits_iff_of_free roomy free]
  · intro depth
    have confined := Confined.fresh tree leading own
    have within := run_calls_within ended
    rcases (run_clears settings).of_ended ended with ⟨_, clears, _⟩
    have left : outcome.state = Directory.subsystem.after
        (callsOf outcome.exchanges)
        (Directory.fresh disk (.ok root) leading) :=
      Procedure.run_state _ _
    rw [left]
    refine (confined.after within).below_eq tree own ?_ ?_ depth
    · exact fun name member =>
        (Settings.staysBelow_of_mem_names member).separator
    · exact fun name member reach => confined.lacksFile_after within
        (Settings.isComponent_of_mem_names member) reach
        (clears name member)

/--
A test file from an earlier run is overwritten and removed, and nothing happens
to a file of the same name further down.
-/
theorem run_in_directory_with_leftovers :
    let settings : Settings := { fileCount := 1, bufferLength := 2 }
    let disk := ((Disk.empty.withDirectory ⟨Disk.topmost, [0x64]⟩).withFile
      ⟨Disk.topmost, settings.path 0⟩ [1, 2, 3]).withFile
        ⟨1, settings.path 0⟩ [4]
    let outcome := (start settings).run.run Directory.subsystem
      (Directory.fresh disk (.ok Disk.topmost) 2)
    disk.Tree ∧
      (∀ name ∈ settings.names, disk.Own ⟨Disk.topmost, name⟩) ∧
      disk.below 2 Disk.topmost [] =
        [([0x64, 0x2f], none),
          ([0x64, 0x2f] ++ settings.path 0, some [4]),
          (settings.path 0, some [1, 2, 3])] ∧
      outcome.ending.map (fun finished => finished.report.isSuccess) =
        .ok true ∧
      outcome.state.disk.below 2 Disk.topmost [] =
        [([0x64, 0x2f], none),
          ([0x64, 0x2f] ++ settings.path 0, some [4])] := by
  intro settings disk outcome
  have tree : disk.Tree :=
    ((Disk.Tree.empty.withDirectory (by decide)).withFile _ _).withFile _ _
  have shown : disk.below 2 Disk.topmost [] =
      [([0x64, 0x2f], none), ([0x64, 0x2f] ++ settings.path 0, some [4]),
        (settings.path 0, some [1, 2, 3])] := by
    decide +kernel
  have files : ∀ name ∈ settings.names,
      disk.nodes[Place.mk Disk.topmost name]? = none ∨
        disk.nodes[Place.mk Disk.topmost name]? = some (.file 2) := by
    decide +kernel
  have alone : ∀ entry ∈ disk.nodes.toList, entry.2 = .file 2 →
      entry.1 = ⟨Disk.topmost, settings.path 0⟩ := by
    decide +kernel
  have single : ∀ {place : Place},
      disk.nodes[place]? = some (.file 2) →
        place = ⟨Disk.topmost, settings.path 0⟩ := fun present =>
    alone _ (Std.ExtTreeMap.mem_toList_iff_getElem?_eq_some.mpr present) rfl
  have own : ∀ name ∈ settings.names, disk.Own ⟨Disk.topmost, name⟩ := by
    intro name member
    rcases files name member with absent | present
    · constructor
      · rw [absent]
        nofun
      · rw [absent]
        nofun
    · constructor
      · rw [present]
        nofun
      · intro other file found foundToo
        cases present.symm.trans found
        rw [single found, single foundToo]
  rcases run_in_directory settings tree own 2 with
    ⟨finished, ended, _, passes, remains⟩
  have passed : finished.report.isSuccess = true := by
    refine (passes (by decide) ?_).mpr ⟨by decide +kernel, rfl⟩
    intro name member number
    rcases files name member with absent | present
    · rw [absent]
      nofun
    · rw [present]
      nofun
  refine ⟨tree, own, shown, ?_, ?_⟩
  · have ran : outcome.ending = .ok finished := ended
    rw [ran, Except.map, passed]
  · have left : outcome.state.disk.below 2 Disk.topmost [] = _ :=
      remains 2
    rw [left, shown]
    decide +kernel

/-! A file of a test name that has another name is lost under both. -/

example :
    let settings : Settings := { fileCount := 1, bufferLength := 2 }
    let disk := (Disk.empty.withFile ⟨Disk.topmost, settings.path 0⟩
      [1, 2, 3]).withNode ⟨Disk.topmost, [0x6b]⟩ (.file 1)
    let outcome := (start settings).run.run Directory.subsystem
      (Directory.fresh disk (.ok Disk.topmost) 2)
    disk.below 1 Disk.topmost [] =
        [(settings.path 0, some [1, 2, 3]), ([0x6b], some [1, 2, 3])] ∧
      outcome.state.disk.below 1 Disk.topmost [] =
        [([0x6b], some (settings.table.expected 0))] := by
  decide +kernel

/--
Below a directory with a long path the system's own limit is not the one to
probe, although no name is too long by itself and no directory is in the way.
-/
theorem run_below_long_path :
    let settings : Settings := { fileCount := 1, bufferLength := 2 }
    let disk := Disk.empty.withDirectory ⟨Disk.topmost, [0x72]⟩
    let outcome := (start settings).run.run Directory.subsystem
      (Directory.fresh disk (.ok 1) 4001)
    (∀ name ∈ settings.table.paths ++ [settings.nameLimit.longestAccepted],
        name.length ≤ Disk.longestName) ∧
      Disk.longestName < settings.nameLimit.shortestRejected.length ∧
        disk.below 1 1 [] = [] ∧
          outcome.ending.map (fun finished => finished.report.isSuccess) =
            .ok false := by
  decide +kernel

end Scenario

end FileConformance
