import FileConformance.Proofs.Directory.Serving
import FileConformance.Proofs.Ideal.Verdict

/-!
# A directory follows the ideal script

If a directory can have files under all test names and under the longest name
that has to be accepted, and cannot have one under the name that is one byte
longer, then it answers every call of the ideal script as it must.

That is shown stage by stage.  Between two steps of the script all test files
stand alike, and each step is a loop over the files: what it does to one file
leaves the others as they stood.  What was on the disk before does not matter,
since every file is created first, which empties it.
-/

namespace FileConformance

namespace Directory

variable {settings : Settings} {disk : Disk} {root leading : Nat}

/-! ## Stages -/

/-- All test files stand alike, and the next handle has a given number. -/
structure Stage (settings : Settings) (disk : Disk) (root leading : Nat)
    (next : Nat) (each : Nat → Directory → Prop)
    (directory : Directory) : Prop where
  confined : Confined disk root leading settings.names directory
  nextHandle_eq : directory.nextHandle = next
  each : ∀ index < settings.fileCount, each index directory

/-- Some files have been visited and the others have not. -/
structure Midway (settings : Settings) (disk : Disk) (root leading : Nat)
    (next : Nat → Nat) (before after : Nat → Directory → Prop)
    (count : Nat) (directory : Directory) : Prop where
  confined : Confined disk root leading settings.names directory
  nextHandle_eq : directory.nextHandle = next count
  done : ∀ index < count, after index directory
  due : ∀ index, count ≤ index → index < settings.fileCount →
    before index directory

theorem Stage.mono {next : Nat} {each weaker : Nat → Directory → Prop}
    {directory : Directory}
    (stage : Stage settings disk root leading next each directory)
    (follows : ∀ index, each index directory → weaker index directory) :
    Stage settings disk root leading next weaker directory where
  confined := stage.confined
  nextHandle_eq := stage.nextHandle_eq
  each := fun index inside => follows index (stage.each index inside)

/-- If every file is served, then a loop leads from one stage to another. -/
theorem leads_forFiles (next : Nat → Nat)
    {before after : Nat → Directory → Prop}
    {exchanges : Nat → List Exchange}
    (lastsBefore : Lasts settings root before)
    (lastsAfter : Lasts settings root after)
    (round : ∀ index < settings.fileCount, ∀ directory,
      Confined disk root leading settings.names directory →
        directory.nextHandle = next index → before index directory →
          ∃ later,
            Serves settings root index directory (exchanges index) later ∧
              later.nextHandle = next (index + 1) ∧ after index later) :
    subsystem.Leads
      (Stage settings disk root leading (next 0) before)
      (settings.forFiles exchanges)
      (Stage settings disk root leading (next settings.fileCount)
        after) := by
  have rounds : ∀ index < settings.fileCount, subsystem.Leads
      (Midway settings disk root leading next before after index)
      (exchanges index)
      (Midway settings disk root leading next before after
        (index + 1)) := by
    intro index inside directory midway
    rcases round index inside directory midway.confined
      midway.nextHandle_eq (midway.due index (Nat.le_refl index) inside)
      with ⟨later, serves, next_eq, visited⟩
    have left : subsystem.after
        ((exchanges index).map Exchange.call) directory = later :=
      serves.after_eq
    refine ⟨serves.answered, ?_⟩
    rw [left]
    refine ⟨serves.confined midway.confined, next_eq, ?_, ?_⟩
    · intro other below
      rcases Nat.lt_succ_iff_lt_or_eq.mp below with behind | rfl
      · exact lastsAfter
          (serves.spares other (Nat.lt_trans behind inside)
            (Nat.ne_of_lt behind))
          (midway.done other behind)
      · exact visited
    · intro other above insideToo
      exact lastsBefore
        (serves.spares other insideToo (Nat.ne_of_gt above))
        (midway.due other (Nat.le_of_succ_le above) insideToo)
  refine (Subsystem.Leads.range rounds).mono ?_ ?_
  · rintro directory ⟨confined, next_eq, each⟩
    exact ⟨confined, next_eq, fun _ impossible => by omega,
      fun index _ inside => each index inside⟩
  · rintro directory ⟨confined, next_eq, done, _⟩
    exact ⟨confined, next_eq, done⟩

/-- If every call is refused, then a loop leads nowhere. -/
theorem leads_idle {next : Nat} {each : Nat → Directory → Prop}
    {request : Nat → Call} {answer : (index : Nat) → (request index).Answer}
    (refused : ∀ index < settings.fileCount, ∀ directory,
      Confined disk root leading settings.names directory →
        each index directory →
          (subsystem.respond (request index) directory).answer =
              answer index ∧
            (subsystem.respond (request index) directory).state =
              directory) :
    subsystem.Leads (Stage settings disk root leading next each)
      (settings.forFiles fun index => [⟨request index, answer index⟩])
      (Stage settings disk root leading next each) := by
  have rounds : ∀ index < settings.fileCount, subsystem.Leads
      (Stage settings disk root leading next each)
      [⟨request index, answer index⟩]
      (Stage settings disk root leading next each) := by
    intro index inside
    refine .one fun directory stage => ?_
    rcases refused index inside directory stage.confined
      (stage.each index inside) with ⟨answered, unmoved⟩
    rw [unmoved]
    exact ⟨answered, stage⟩
  exact Subsystem.Leads.range rounds

/-! ## Steps on handles -/

/-- The handles of a turn are closed, and what the disk says stays so. -/
theorem leads_closeAll {next : Nat} (turn : Nat)
    {keep : Nat → Directory → Prop} (lasts : Lasts settings root keep)
    (onDisk : ∀ {index : Nat} {directory later : Directory},
      later.disk = directory.disk → keep index directory →
        keep index later) :
    subsystem.Leads
      (Stage settings disk root leading next fun index directory =>
        keep index directory ∧ Holding settings turn index directory)
      (settings.forFiles fun index =>
        [⟨.close (settings.handle turn index), .ok ()⟩])
      (Stage settings disk root leading next fun index directory =>
        keep index directory ∧ LetGo settings turn index directory) := by
  refine leads_forFiles (fun _ => next) (lasts.and (holding_lasts turn))
    (lasts.and (letGo_lasts turn)) ?_
  rintro index inside directory _ next_eq ⟨kept, holding⟩
  rcases close_serves inside holding with
    ⟨later, serves, numbered, same, closed⟩
  exact ⟨later, serves, numbered.trans next_eq, onDisk same kept, closed⟩

/-- Closing the handles of a turn a second time is refused. -/
theorem leads_closeAgain {next : Nat} (turn : Nat)
    {keep : Nat → Directory → Prop} :
    subsystem.Leads
      (Stage settings disk root leading next fun index directory =>
        keep index directory ∧ LetGo settings turn index directory)
      (settings.forFiles fun index =>
        [⟨.close (settings.handle turn index),
          .error (.badHandle (settings.handle turn index))⟩])
      (Stage settings disk root leading next fun index directory =>
        keep index directory ∧ LetGo settings turn index directory) := by
  refine leads_idle ?_
  rintro index _ directory _ ⟨_, closed⟩
  show (directory.close _).answer = _ ∧ (directory.close _).state = _
  rw [close, resolve_of_missing closed]
  exact ⟨rfl, rfl⟩

/-! ## Steps on names -/

section

variable (all : ∀ index < settings.fileCount,
  disk.CanHold root leading (settings.path index))

include all

/-- Every file is made or emptied, and the handles of the turn are on it. -/
theorem leads_createAll (turn : Nat) :
    subsystem.Leads
      (Stage settings disk root leading (settings.firstHandle turn)
        fun _ _ => True)
      (settings.forFiles fun index =>
        [⟨.create (settings.path index),
          .ok (settings.handle turn index)⟩])
      (Stage settings disk root leading (settings.firstHandle (turn + 1))
        (AtStart settings root turn [])) := by
  rw [settings.firstHandle_succ]
  refine leads_forFiles (fun index => settings.firstHandle turn + index)
    lasts_true (atStart_lasts turn []) ?_
  intro index inside directory confined next_eq _
  exact create_serves confined inside (all index inside) next_eq

theorem leads_openAll (turn : Nat) :
    subsystem.Leads
      (Stage settings disk root leading (settings.firstHandle turn)
        (Linked settings root))
      (settings.forFiles fun index =>
        [⟨.openFile (settings.path index),
          .ok (settings.handle turn index)⟩])
      (Stage settings disk root leading (settings.firstHandle (turn + 1))
        fun index directory => Linked settings root index directory ∧
          Holding settings turn index directory) := by
  rw [settings.firstHandle_succ]
  refine leads_forFiles (fun index => settings.firstHandle turn + index)
    linked_lasts (linked_lasts.and (holding_lasts turn)) ?_
  rintro index inside directory confined next_eq ⟨file, present⟩
  rcases open_serves confined inside (all index inside).reach next_eq
    present with ⟨later, serves, numbered, same, found⟩
  refine ⟨later, serves, numbered, ⟨file, ?_⟩, ⟨file, 0⟩, found⟩
  rw [nodeOf, same]
  exact present

/-- A name that denotes nothing is not opened. -/
theorem leads_openMissing {next : Nat}
    {keep : Nat → Directory → Prop} :
    subsystem.Leads
      (Stage settings disk root leading next fun index directory =>
        Missing settings root index directory ∧ keep index directory)
      (settings.forFiles fun index =>
        [⟨.openFile (settings.path index), .error .notFound⟩])
      (Stage settings disk root leading next fun index directory =>
        Missing settings root index directory ∧ keep index directory) := by
  refine leads_idle ?_
  rintro index inside directory confined ⟨missing, _⟩
  have refused := confined.openFile_of_absent
    (Settings.isComponent_of_mem_names (Settings.path_mem_names inside))
    (all index inside).reach missing
  show (directory.openFile _).answer = _ ∧ (directory.openFile _).state = _
  rw [refused]
  exact ⟨rfl, rfl⟩

/-- Every name is removed, and the handles stay as they are. -/
theorem leads_deleteAll {next : Nat} {keep : Nat → Directory → Prop}
    (lasts : Lasts settings root keep)
    (ofHandles : ∀ {index : Nat} {directory later : Directory},
      later.handles = directory.handles → keep index directory →
        keep index later) :
    subsystem.Leads
      (Stage settings disk root leading next fun index directory =>
        Linked settings root index directory ∧ keep index directory)
      (settings.forFiles fun index =>
        [⟨.delete (settings.path index), .ok ()⟩])
      (Stage settings disk root leading next fun index directory =>
        Missing settings root index directory ∧ keep index directory) := by
  refine leads_forFiles (fun _ => next) (linked_lasts.and lasts)
    (missing_lasts.and lasts) ?_
  rintro index inside directory confined next_eq ⟨linked, kept⟩
  rcases delete_serves confined inside (all index inside).reach linked with
    ⟨later, serves, numbered, same, missing⟩
  exact ⟨later, serves, numbered.trans next_eq, missing,
    ofHandles same kept⟩

/-- What is written through the handles of one turn is read through the next. -/
theorem leads_roundTripAll (turn : Nat) :
    subsystem.Leads
      (Stage settings disk root leading (settings.firstHandle (turn + 1))
        (AtStart settings root turn []))
      (settings.forFiles fun index => [
        ⟨.write (settings.handle turn index) (settings.expected index),
          .ok settings.bufferLength⟩,
        ⟨.close (settings.handle turn index), .ok ()⟩,
        ⟨.openFile (settings.path index),
          .ok (settings.handle (turn + 1) index)⟩,
        RoundTrip.readWhole (settings.handle (turn + 1) index)
          (settings.expected index) settings.bufferLength
          (settings.length_expected index)])
      (Stage settings disk root leading (settings.firstHandle (turn + 2))
        fun index directory => Linked settings root index directory ∧
          Holding settings (turn + 1) index directory) := by
  rw [settings.firstHandle_succ (turn + 1)]
  refine leads_forFiles
    (fun index => settings.firstHandle (turn + 1) + index)
    (atStart_lasts turn []) (linked_lasts.and (holding_lasts (turn + 1))) ?_
  intro index inside directory confined next_eq atStart
  have length := settings.length_expected index
  have some_byte : settings.expected index ≠ [] := by
    rw [← List.length_pos_iff, length]
    exact settings.bufferLength_pos
  rcases write_serves confined inside some_byte atStart with
    ⟨written, writes, numbered, holding, file, present, holds⟩
  rcases close_serves inside holding with
    ⟨closed, closes, numberedToo, sameDisk, _⟩
  have presentToo : closed.nodeOf root (settings.path index) =
      some (.file file) := by
    rw [nodeOf, sameDisk]
    exact present
  have confinedToo := closes.confined (writes.confined confined)
  rcases open_serves confinedToo inside (all index inside).reach
    ((numberedToo.trans numbered).trans next_eq) presentToo with
    ⟨reopened, opens, numberedOpen, sameAgain, found⟩
  have again : AtStart settings root (turn + 1) (settings.expected index)
      index reopened := by
    refine ⟨file, ?_, found, ?_⟩
    · rw [nodeOf, sameAgain]
      exact presentToo
    · rw [sameAgain, sameDisk, holds]
  rcases read_serves inside length again with
    ⟨later, reads, numberedRead, sameLast, held⟩
  rw [length] at writes
  refine ⟨later, writes.trans (closes.trans (opens.trans reads)),
    numberedRead.trans numberedOpen, ⟨file, ?_⟩, held⟩
  rw [nodeOf, sameLast, sameAgain]
  exact presentToo

end

/-! ## Probes -/

/-- The longest accepted name has a file, and the next handle a number. -/
structure Probed (settings : Settings) (disk : Disk) (root leading : Nat)
    (next : Nat) (directory : Directory) : Prop where
  confined : Confined disk root leading settings.names directory
  nextHandle_eq : directory.nextHandle = next
  present : ∃ file, directory.nodeOf root
    settings.nameLimit.longestAccepted = some (.file file)

section

variable {next : Nat}
  (canHold : disk.CanHold root leading settings.nameLimit.longestAccepted)

include canHold

theorem leads_createLongest {each : Nat → Directory → Prop} :
    subsystem.Leads (Stage settings disk root leading next each)
      [⟨.create settings.nameLimit.longestAccepted, .ok ⟨next⟩⟩]
      (Probed settings disk root leading (next + 1)) := by
  have member := settings.longestAccepted_mem_names
  refine .one fun directory stage => ?_
  rcases stage.confined.create_of_canHold
    (Settings.isComponent_of_mem_names member) member canHold with
    ⟨file, made, makes, answered, left⟩
  rw [stage.nextHandle_eq] at answered
  refine ⟨answered, stage.confined.create member, ?_, ⟨file, ?_⟩⟩
  · show (directory.create _).state.nextHandle = _
    rw [left]
    exact congrArg Nat.succ stage.nextHandle_eq
  · show (directory.create _).state.nodeOf _ _ = _
    rw [left]
    exact makes.present

theorem leads_openLongest :
    subsystem.Leads (Probed settings disk root leading next)
      [⟨.openFile settings.nameLimit.longestAccepted, .ok ⟨next⟩⟩]
      (Probed settings disk root leading (next + 1)) := by
  have member := settings.longestAccepted_mem_names
  refine .one fun directory probed => ?_
  rcases probed.present with ⟨file, present⟩
  rcases probed.confined.openFile_of_present
    (Settings.isComponent_of_mem_names member) canHold.reach present with
    ⟨answered, left⟩
  rw [probed.nextHandle_eq] at answered
  refine ⟨answered, probed.confined.openFile member, ?_, ⟨file, ?_⟩⟩
  · show (directory.openFile _).state.nextHandle = _
    rw [left]
    exact congrArg Nat.succ probed.nextHandle_eq
  · show (directory.openFile _).state.nodeOf _ _ = _
    rw [left]
    exact present

theorem leads_deleteLongest :
    subsystem.Leads (Probed settings disk root leading next)
      [⟨.delete settings.nameLimit.longestAccepted, .ok ()⟩]
      (Confined disk root leading settings.names) := by
  have member := settings.longestAccepted_mem_names
  refine .one fun directory probed => ?_
  rcases probed.present with ⟨file, present⟩
  exact ⟨(probed.confined.delete_of_present
      (Settings.isComponent_of_mem_names member) canHold.reach present).1,
    probed.confined.delete member⟩

end

/-- Every probing call refuses the shortest name that must be rejected. -/
theorem exists_leads_rejected
    (cannot :
      ¬disk.CanHold root leading settings.nameLimit.shortestRejected) :
    ∃ reason, ∀ (call : BoundaryCall) {stage : Directory → Prop},
      (∀ directory, stage directory →
        Confined disk root leading settings.names directory) →
      subsystem.Leads stage
        [call.exchange settings.nameLimit.shortestRejected
          (.error reason)] stage := by
  have member := settings.shortestRejected_mem_names
  rcases exists_refusal (Settings.isComponent_of_mem_names member) cannot
    with ⟨reason, refused⟩
  refine ⟨reason, fun call stage confined => ?_⟩
  cases call with
  | create =>
      refine .one fun directory holds => ?_
      show (directory.create _).answer = _ ∧
        stage (directory.create _).state
      rw [(refused (confined directory holds)).1]
      exact ⟨rfl, holds⟩
  | openFile =>
      refine .one fun directory holds => ?_
      show (directory.openFile _).answer = _ ∧
        stage (directory.openFile _).state
      rw [(refused (confined directory holds)).2.1]
      exact ⟨rfl, holds⟩
  | delete =>
      refine .one fun directory holds => ?_
      show (directory.delete _).answer = _ ∧
        stage (directory.delete _).state
      rw [(refused (confined directory holds)).2.2]
      exact ⟨rfl, holds⟩

/-! ## The script -/

theorem Linked.of_disk {index : Nat} {directory later : Directory}
    (same : later.disk = directory.disk)
    (linked : Linked settings root index directory) :
    Linked settings root index later := by
  rw [Linked, nodeOf, same]
  exact linked

theorem Missing.of_disk {index : Nat} {directory later : Directory}
    (same : later.disk = directory.disk)
    (missing : Missing settings root index directory) :
    Missing settings root index later := by
  rw [Missing, nodeOf, same]
  exact missing

theorem Holding.of_handles {turn index : Nat}
    {directory later : Directory}
    (same : later.handles = directory.handles)
    (holding : Holding settings turn index directory) :
    Holding settings turn index later := by
  rw [Holding, same]
  exact holding

theorem LetGo.of_handles {turn index : Nat}
    {directory later : Directory}
    (same : later.handles = directory.handles)
    (closed : LetGo settings turn index directory) :
    LetGo settings turn index later := by
  rw [LetGo, same]
  exact closed

/-- What the handles are and why calls are refused, if all goes well. -/
def choices (settings : Settings) (reason : CallError) : Choices where
  created := settings.handle 0
  reopened := settings.handle 1
  abandoned := settings.handle 2
  opened := settings.handle 3
  openedAgain := settings.handle 4
  spent := fun index => .badHandle (settings.handle 4 index)
  missing := fun _ => .notFound
  recreated := settings.handle 5
  accepted := BoundaryCall.each ⟨settings.firstHandle 6⟩
    ⟨settings.firstHandle 6 + 1⟩ ()
  rejected := fun _ => reason

section

variable (all : ∀ index < settings.fileCount,
  disk.CanHold root leading (settings.path index))

include all

theorem leads_idealRoundTrips (reason : CallError) :
    subsystem.Leads
      (Stage settings disk root leading (settings.firstHandle 0)
        fun _ _ => True)
      (settings.idealRoundTrips
        (choices settings reason).toRoundTripChoices)
      (Stage settings disk root leading (settings.firstHandle 2)
        fun _ _ => True) := by
  rw [Settings.idealRoundTrips]
  refine (leads_createAll all 0).append ?_
  refine (leads_roundTripAll all 0).append ?_
  refine (leads_deleteAll all (holding_lasts 1)
    Holding.of_handles).append ?_
  exact (leads_closeAll 1 missing_lasts Missing.of_disk).mono
    (fun _ stage => stage) fun _ stage => stage.mono fun _ _ => trivial

theorem leads_idealDescriptors (reason : CallError) :
    subsystem.Leads
      (Stage settings disk root leading (settings.firstHandle 2)
        fun _ _ => True)
      (settings.idealDescriptors
        (choices settings reason).toDescriptorChoices)
      (Stage settings disk root leading (settings.firstHandle 6)
        fun _ _ => True) := by
  rw [Settings.idealDescriptors]
  refine (leads_createAll all 2).append ?_
  refine ((leads_openAll all 3).mono
    (fun _ stage => stage.mono fun _ => AtStart.linked)
    fun _ stage => stage).append ?_
  refine (leads_closeAll 3 linked_lasts Linked.of_disk).append ?_
  refine ((leads_openAll all 4).mono
    (fun _ stage => stage.mono fun _ => And.left)
    fun _ stage => stage).append ?_
  refine (leads_closeAll 4 linked_lasts Linked.of_disk).append ?_
  refine (leads_closeAgain 4).append ?_
  refine (leads_deleteAll all (letGo_lasts 4) LetGo.of_handles).append ?_
  refine (leads_openMissing all).append ?_
  refine ((leads_createAll all 5).mono
    (fun _ stage => stage.mono fun _ _ => trivial)
    fun _ stage => stage).append ?_
  refine ((leads_deleteAll all (holding_lasts 5) Holding.of_handles).mono
    (fun _ stage => stage.mono fun _ atStart =>
      ⟨atStart.linked, atStart.holding⟩)
    fun _ stage => stage).append ?_
  exact (leads_closeAll 5 missing_lasts Missing.of_disk).mono
    (fun _ stage => stage) fun _ stage => stage.mono fun _ _ => trivial

end

/-- What a directory has room for is what it needs to pass the script. -/
theorem exists_leads_ideal
    (all : ∀ index < settings.fileCount,
      disk.CanHold root leading (settings.path index))
    (canHold :
      disk.CanHold root leading settings.nameLimit.longestAccepted)
    (cannot :
      ¬disk.CanHold root leading settings.nameLimit.shortestRejected) :
    ∃ choices, subsystem.Leads
      (Stage settings disk root leading (settings.firstHandle 0)
        fun _ _ => True)
      (settings.idealExchanges choices)
      (Confined disk root leading settings.names) := by
  rcases exists_leads_rejected cannot with ⟨reason, rejected⟩
  refine ⟨choices settings reason, ?_⟩
  rw [Settings.idealExchanges]
  refine (leads_idealRoundTrips all reason).append ?_
  refine (leads_idealDescriptors all reason).append ?_
  refine ((leads_createLongest canHold).append
    (rejected .create fun _ => Probed.confined)).append ?_
  refine ((leads_openLongest canHold).append
    (rejected .openFile fun _ => Probed.confined)).append ?_
  exact (leads_deleteLongest canHold).append
    (rejected .delete fun _ confined => confined)

end Directory

end FileConformance
