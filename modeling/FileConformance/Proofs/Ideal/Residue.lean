import FileConformance.Proofs.Ideal.Verdict
import FileConformance.Proofs.Store.Inheritance

/-!
# What the ideal script leaves behind

The round trips give back all their handles and delete all their names, so they
leave nothing at all.  The steps on descriptors create every file under a free
name, twice, and write nothing; of the four handles on every file they give
three back.  The probes keep two more handles on one file, and delete its name.

So a settled store without names is settled and without names again, with one
handle more for every file and two for the probes.
-/

namespace FileConformance

open Store

namespace Settings

/-! ## Loops over the files -/

/-- A name that no test file has. -/
def OtherName (settings : Settings) (name : Bytes) : Prop :=
  ∀ index < settings.fileCount, name ≠ settings.path index

variable {settings : Settings}

theorem mem_forFiles {exchanges : Nat → List Exchange}
    {exchange : Exchange} :
    exchange ∈ settings.forFiles exchanges ↔
      ∃ index < settings.fileCount, exchange ∈ exchanges index := by
  simp only [forFiles, List.mem_flatMap, List.mem_range]

/-- Creates of all files take no other names, and queue nothing. -/
theorem creates_bring (created : Nat → Handle) :
    subsystem.Brings Cleared (settings.forFiles fun index =>
        [⟨.create (settings.path index), .ok (created index)⟩])
      (fun store => store.Settled ∧ store.Lacks settings.OtherName) := by
  have round : ∀ index < settings.fileCount, subsystem.Brings
      (fun store => store.Settled ∧ store.Lacks fun name =>
        ∀ earlier < index, name ≠ settings.path earlier)
      [⟨.create (settings.path index), .ok (created index)⟩]
      (fun store => store.Settled ∧ store.Lacks fun name =>
        ∀ earlier < index + 1, name ≠ settings.path earlier) := by
    intro index _
    apply Subsystem.Brings.one
    rintro store ⟨settled, lacks⟩ _
    have unnamed : store.names[settings.path index]? = none := by
      apply lacks
      intro earlier below same
      exact Nat.ne_of_gt below (settings.path_injective same)
    refine ⟨settled.create unnamed, ?_⟩
    have fewer : store.Lacks fun name =>
        ∀ earlier < index + 1, name ≠ settings.path earlier :=
      fun name among => lacks name fun earlier below =>
        among earlier (Nat.lt_succ_of_lt below)
    refine fewer.respond nofun ?_
    rintro name among same
    exact among index (Nat.lt_succ_self index) (Call.create.inj same).symm
  refine (Subsystem.Brings.range round).mono ?_ fun _ => id
  rintro store ⟨settled, bare⟩
  exact ⟨settled, fun name _ => bare name trivial⟩

/-- Deletes of all files that succeed leave no name behind. -/
theorem deletes_bring :
    subsystem.Brings (Lacks settings.OtherName)
      (settings.forFiles fun index =>
        [⟨.delete (settings.path index), .ok ()⟩])
      Bare := by
  have round : ∀ index < settings.fileCount, subsystem.Brings
      (Lacks fun name => ∀ later < settings.fileCount,
        index ≤ later → name ≠ settings.path later)
      [⟨.delete (settings.path index), .ok ()⟩]
      (Lacks fun name => ∀ later < settings.fileCount,
        index + 1 ≤ later → name ≠ settings.path later) := by
    intro index _
    have quiet : (Call.delete (settings.path index)).Quiet := trivial
    apply Subsystem.Brings.one
    intro store lacks deleted name among
    by_cases same : name = settings.path index
    · rw [same]
      exact unnamed_of_deleted deleted
    · apply unnamed_respond quiet.returns quiet.ne_create
      apply lacks
      intro later below above
      rcases Nat.eq_or_lt_of_le above with rfl | beyond
      · exact same
      · exact among later below beyond
  refine (Subsystem.Brings.range round).mono ?_ ?_
  · intro store lacks name among
    exact lacks name fun later below =>
      among later below (Nat.zero_le later)
  · intro store lacks name _
    exact lacks name fun later below above =>
      (Nat.not_le.mpr below above).elim

/-- A loop of quiet calls changes nothing that is counted here. -/
theorem loop_brings {free : Bytes → Prop} {exchanges : Nat → Exchange}
    (quiet : ∀ index, (exchanges index).call.Quiet) :
    subsystem.Brings (fun store => store.Settled ∧ store.Lacks free)
      (settings.forFiles fun index => [exchanges index])
      (fun store => store.Settled ∧ store.Lacks free) := by
  apply quiet_brings
  intro exchange made
  rcases mem_forFiles.mp made with ⟨index, _, member⟩
  rw [List.mem_singleton.mp member]
  exact quiet index

/-! ## The round trips -/

variable {choices : RoundTripChoices}

/-- A loop of calls that are no creates and no exits leaves free names free. -/
theorem lacks_brings {free : Bytes → Prop}
    {exchanges : Nat → List Exchange}
    (others : ∀ index, ∀ exchange ∈ exchanges index,
      exchange.call.kind ≠ .exit ∧ ∀ name, exchange.call ≠ .create name) :
    subsystem.Brings (Lacks free) (settings.forFiles exchanges)
      (Lacks free) := by
  apply Subsystem.Brings.keeps
  intro exchange made store lacks
  rcases mem_forFiles.mp made with ⟨index, _, member⟩
  rcases others index exchange member with ⟨returns, creates⟩
  exact lacks.respond returns fun name _ => creates name

/-- The trips themselves neither create nor end the process. -/
theorem trips_bring {free : Bytes → Prop} :
    subsystem.Brings (Lacks free)
      (settings.forFiles fun index => [
        ⟨.write (choices.created index) (settings.expected index),
          .ok settings.bufferLength⟩,
        ⟨.close (choices.created index), .ok ()⟩,
        ⟨.openFile (settings.path index), .ok (choices.reopened index)⟩,
        RoundTrip.readWhole (choices.reopened index)
          (settings.expected index) settings.bufferLength
          (settings.length_expected index)])
      (Lacks free) := by
  apply lacks_brings
  intro index exchange member
  simp only [List.mem_cons, List.not_mem_nil, or_false] at member
  rcases member with rfl | rfl | rfl | rfl <;>
    exact ⟨(by rintro ⟨⟩), (by rintro _ ⟨⟩)⟩

theorem roundTrips_clear :
    subsystem.Brings Cleared (settings.idealRoundTrips choices) Bare := by
  have closes : subsystem.Brings Bare
      (settings.forFiles fun index =>
        [⟨.close (choices.reopened index), .ok ()⟩]) Bare :=
    lacks_brings fun index =>
      List.forall_mem_singleton.mpr ⟨nofun, nofun⟩
  exact ((creates_bring choices.created).mono (fun _ => id)
    fun _ => And.right).append
      (trips_bring.append (deletes_bring.append closes))

/-- The exchanges of the round trips, file by file. -/
theorem mem_idealRoundTrips {exchange : Exchange} :
    exchange ∈ settings.idealRoundTrips choices ↔
      ∃ index < settings.fileCount, exchange ∈ [
        ⟨.create (settings.path index), .ok (choices.created index)⟩,
        ⟨.write (choices.created index) (settings.expected index),
          .ok settings.bufferLength⟩,
        ⟨.close (choices.created index), .ok ()⟩,
        ⟨.openFile (settings.path index), .ok (choices.reopened index)⟩,
        RoundTrip.readWhole (choices.reopened index)
          (settings.expected index) settings.bufferLength
          (settings.length_expected index),
        ⟨.delete (settings.path index), .ok ()⟩,
        ⟨.close (choices.reopened index), .ok ()⟩] := by
  simp only [idealRoundTrips, List.mem_append, mem_forFiles, List.mem_cons,
    List.not_mem_nil, or_false]
  grind

theorem roundTrips_return {exchange : Exchange}
    (made : exchange ∈ settings.idealRoundTrips choices) :
    exchange.call.kind ≠ .exit := by
  rcases mem_idealRoundTrips.mp made with ⟨index, _, member⟩
  simp only [List.mem_cons, List.not_mem_nil, or_false] at member
  rcases member with rfl | rfl | rfl | rfl | rfl | rfl | rfl <;>
    rintro ⟨⟩

/-- The round trips pass the handles that they create and open. -/
theorem roundTrips_own : OwnHandles (settings.idealRoundTrips choices) := by
  intro exchange made handle passed
  rcases mem_idealRoundTrips.mp made with ⟨index, below, member⟩
  have created : choices.created index ∈
      issuedIn (settings.idealRoundTrips choices) :=
    List.mem_filterMap.mpr ⟨_, mem_idealRoundTrips.mpr
      ⟨index, below, List.mem_cons_self⟩, rfl⟩
  have reopened : choices.reopened index ∈
      issuedIn (settings.idealRoundTrips choices) := by
    refine List.mem_filterMap.mpr
      ⟨⟨.openFile (settings.path index), .ok (choices.reopened index)⟩,
        mem_idealRoundTrips.mpr ⟨index, below, ?_⟩, rfl⟩
    simp
  simp only [List.mem_cons, List.not_mem_nil, or_false] at member
  rcases member with rfl | rfl | rfl | rfl | rfl | rfl | rfl
  · cases passed
  · cases passed
    exact created
  · cases passed
    exact created
  · cases passed
  · cases passed
    exact reopened
  · cases passed
  · cases passed
    exact reopened

/-! ## Handles that loops hand out and take back -/

/-- Some handles for every file, in the order of the indices. -/
def handlesFor (settings : Settings) (handles : Nat → List Handle) :
    List Handle :=
  (List.range settings.fileCount).flatMap handles

theorem length_handlesFor (handle : Nat → Handle) :
    (settings.handlesFor fun index => [handle index]).length =
      settings.fileCount := by
  simp [handlesFor]

theorem handlesFor_nil : (settings.handlesFor fun _ => []) = [] := by
  simp [handlesFor]

/-- What a loop gives is what its rounds give. -/
theorem filterMap_forFiles (find? : Exchange → Option Handle)
    (exchanges : Nat → List Exchange) :
    (settings.forFiles exchanges).filterMap find? =
      settings.handlesFor fun index =>
        (exchanges index).filterMap find? :=
  List.filterMap_flatMap

theorem issuedIn_roundTrips :
    issuedIn (settings.idealRoundTrips choices) =
      (settings.handlesFor fun index => [choices.created index]) ++
        settings.handlesFor fun index => [choices.reopened index] := by
  simp [issuedIn, idealRoundTrips, List.filterMap_append,
    filterMap_forFiles, handlesFor_nil, List.filterMap_cons,
    Exchange.issued?, Call.issued?, RoundTrip.readWhole]

/-- The round trips give back the handles that they were handed out. -/
theorem returnedIn_roundTrips :
    returnedIn (settings.idealRoundTrips choices) =
      (settings.handlesFor fun index => [choices.created index]) ++
        settings.handlesFor fun index => [choices.reopened index] := by
  simp [returnedIn, idealRoundTrips, List.filterMap_append,
    filterMap_forFiles, handlesFor_nil, List.filterMap_cons,
    Exchange.returned?, Call.returned?, RoundTrip.readWhole]

/-- The round trips leave nothing behind. -/
theorem roundTrips_bring :
    subsystem.Brings Cleared (settings.idealRoundTrips choices) Cleared := by
  apply settled_brings (fun _ => roundTrips_return) roundTrips_own _
    roundTrips_clear
  rw [issuedIn_roundTrips, returnedIn_roundTrips]

/-! ## The steps on descriptors -/

section Descriptors

variable {choices : DescriptorChoices}

/-- The steps on descriptors leave no name, and handles on empty files. -/
theorem descriptors_bring :
    subsystem.Brings Cleared (settings.idealDescriptors choices) Cleared := by
  have deletes : subsystem.Brings
      (fun store => store.Settled ∧ store.Lacks settings.OtherName)
      (settings.forFiles fun index =>
        [⟨.delete (settings.path index), .ok ()⟩])
      Cleared :=
    ((loop_brings fun _ => by exact trivial).and deletes_bring).mono
      (fun _ here => ⟨here, here.2⟩) fun _ there => ⟨there.1.1, there.2⟩
  refine (creates_bring choices.abandoned).append ?_
  -- Opening and closing in any order changes nothing that is counted here.
  refine (loop_brings fun _ => by exact trivial).append ?_
  refine (loop_brings fun _ => by exact trivial).append ?_
  refine (loop_brings fun _ => by exact trivial).append ?_
  refine (loop_brings fun _ => by exact trivial).append ?_
  refine (loop_brings fun _ => by exact trivial).append ?_
  refine deletes.append ?_
  refine (loop_brings fun _ => by exact trivial).append ?_
  -- All names are free again before they are created once more.
  refine (creates_bring choices.recreated).append ?_
  exact deletes.append (loop_brings fun _ => by exact trivial)

theorem issuedIn_descriptors :
    issuedIn (settings.idealDescriptors choices) =
      (settings.handlesFor fun index => [choices.abandoned index]) ++
      ((settings.handlesFor fun index => [choices.opened index]) ++
      ((settings.handlesFor fun index => [choices.openedAgain index]) ++
      settings.handlesFor fun index => [choices.recreated index])) := by
  simp [issuedIn, idealDescriptors, List.filterMap_append,
    filterMap_forFiles, handlesFor_nil, List.filterMap_cons,
    Exchange.issued?, Call.issued?]

/-- The handles of the first step are never given back. -/
theorem returnedIn_descriptors :
    returnedIn (settings.idealDescriptors choices) =
      (settings.handlesFor fun index => [choices.opened index]) ++
      ((settings.handlesFor fun index => [choices.openedAgain index]) ++
      settings.handlesFor fun index => [choices.recreated index]) := by
  simp [returnedIn, idealDescriptors, List.filterMap_append,
    filterMap_forFiles, handlesFor_nil, List.filterMap_cons,
    Exchange.returned?, Call.returned?]

end Descriptors

/-! ## The probes -/

section Probes

variable {choices : Choices}

/-- The probes of the limit, one call after the other. -/
def idealProbes (settings : Settings) (choices : Choices) :
    List Exchange :=
  settings.idealProbe choices .create ++
  (settings.idealProbe choices .openFile ++
  settings.idealProbe choices .delete)

/-- The name that is accepted is the only one, until it is deleted. -/
theorem probes_bring :
    subsystem.Brings Cleared (settings.idealProbes choices) Cleared := by
  let longest := settings.nameLimit.longestAccepted
  let shortest := settings.nameLimit.shortestRejected
  have accepted : subsystem.Brings Cleared
      [⟨.create longest, .ok (choices.accepted .create)⟩]
      (fun store => store.Settled ∧ store.Lacks (· ≠ longest)) := by
    apply Subsystem.Brings.one
    rintro store ⟨settled, bare⟩ _
    have others : store.Lacks (· ≠ longest) :=
      fun name _ => bare name trivial
    refine ⟨settled.create (bare longest trivial), ?_⟩
    exact others.respond nofun fun name among same =>
      among (Call.create.inj same).symm
  have refused : subsystem.Brings
      (fun store => store.Settled ∧ store.Lacks (· ≠ longest))
      [⟨.create shortest, .error (choices.rejected .create)⟩]
      (fun store => store.Settled ∧ store.Lacks (· ≠ longest)) := by
    apply Subsystem.Brings.one
    intro store here failed
    have same : (store.create shortest).state = store :=
      state_create_of_error failed
    show (store.create shortest).state.Settled ∧
      (store.create shortest).state.Lacks (· ≠ longest)
    rw [same]
    exact here
  have opens : subsystem.Brings
      (fun store => store.Settled ∧ store.Lacks (· ≠ longest))
      (settings.idealProbe choices .openFile)
      (fun store => store.Settled ∧ store.Lacks (· ≠ longest)) :=
    quiet_brings (List.forall_mem_cons.mpr
      ⟨trivial, List.forall_mem_singleton.mpr trivial⟩)
  have deleted : subsystem.Brings
      (fun store => store.Settled ∧ store.Lacks (· ≠ longest))
      [⟨.delete longest, .ok (choices.accepted .delete)⟩]
      Cleared := by
    have quiet : (Call.delete longest).Quiet := trivial
    apply Subsystem.Brings.one
    rintro store ⟨settled, others⟩ gone
    refine ⟨settled.respond quiet, fun name _ => ?_⟩
    by_cases same : name = longest
    · rw [same]
      exact unnamed_of_deleted gone
    · exact unnamed_respond quiet.returns quiet.ne_create
        (others name same)
  have missing : subsystem.Brings Cleared
      [⟨.delete shortest, .error (choices.rejected .delete)⟩] Cleared :=
    quiet_brings (List.forall_mem_singleton.mpr trivial)
  exact (accepted.append refused).append
    (opens.append (deleted.append missing))

end Probes

/-! ## The whole script -/

section Script

variable {choices : Choices}

/-- The ideal script leaves a settled store without names as such. -/
theorem idealExchanges_bring :
    subsystem.Brings Cleared (settings.idealExchanges choices) Cleared :=
  roundTrips_bring.append (descriptors_bring.append probes_bring)

/-- Six handles are handed out for every file, and two for the probes. -/
theorem length_issuedIn_ideal :
    (issuedIn (settings.idealExchanges choices)).length =
      6 * settings.fileCount + 2 := by
  have probes : (issuedIn (settings.idealProbes choices)).length = 2 := rfl
  have split : issuedIn (settings.idealExchanges choices) =
      issuedIn (settings.idealRoundTrips choices.toRoundTripChoices) ++
        (issuedIn
            (settings.idealDescriptors choices.toDescriptorChoices) ++
          issuedIn (settings.idealProbes choices)) := by
    rw [issuedIn, issuedIn, issuedIn, issuedIn, ← List.filterMap_append,
      ← List.filterMap_append]
    rfl
  rw [split, issuedIn_roundTrips, issuedIn_descriptors]
  simp only [List.length_append, length_handlesFor, probes]
  omega

/-- Five handles are taken back for every file. -/
theorem length_returnedIn_ideal :
    (returnedIn (settings.idealExchanges choices)).length =
      5 * settings.fileCount := by
  have probes : returnedIn (settings.idealProbes choices) = [] := rfl
  have split : returnedIn (settings.idealExchanges choices) =
      returnedIn (settings.idealRoundTrips choices.toRoundTripChoices) ++
        (returnedIn
            (settings.idealDescriptors choices.toDescriptorChoices) ++
          returnedIn (settings.idealProbes choices)) := by
    rw [returnedIn, returnedIn, returnedIn, returnedIn,
      ← List.filterMap_append, ← List.filterMap_append]
    rfl
  rw [split, returnedIn_roundTrips, returnedIn_descriptors, probes]
  simp only [List.length_append, length_handlesFor, List.length_nil]
  omega

/--
A settled store without names that answers as the ideal script demands is
settled and without names afterwards.  It has issued six handles for every file
and two more, and one for every file and two more are still open.
-/
theorem ideal_leaves {store : Store} (settled : store.Settled)
    (bare : store.Bare)
    (returns : ∀ exchange ∈ settings.idealExchanges choices,
      exchange.call.kind ≠ .exit)
    (answered : subsystem.exchanges
        ((settings.idealExchanges choices).map Exchange.call) store =
      settings.idealExchanges choices) :
    let later := subsystem.after
      ((settings.idealExchanges choices).map Exchange.call) store
    later.Settled ∧ later.Bare ∧
      later.nextHandle = store.nextHandle + (6 * settings.fileCount + 2) ∧
      later.handles.size = store.handles.size + (settings.fileCount + 2) := by
  intro later
  rcases idealExchanges_bring store ⟨settled, bare⟩ answered with
    ⟨still, cleared⟩
  have number := nextHandle_after
    ((settings.idealExchanges choices).map Exchange.call) store
  have size := size_after (List.forall_mem_map.mpr returns)
    settled.toWellFormed
  rw [answered, length_issuedIn_ideal] at number size
  rw [length_returnedIn_ideal] at size
  refine ⟨still, cleared, number, ?_⟩
  show (subsystem.after _ store).handles.size = _
  omega

end Script

end Settings

end FileConformance
