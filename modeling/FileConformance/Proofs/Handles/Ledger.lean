import FileConformance.Procedure

/-!
# What a caller can know about handles

A caller sees its calls and their answers, and it may see that power was lost.
From that it can keep a ledger: which handles were issued in which order, which
of them are open, and whether the process has ended.  The ledger mentions no
subsystem.

A subsystem honours a ledger if the handles were issued one after the other, if
no call on an open handle is told that the handle is bad, and if every call on
any other handle is refused for the reason that the ledger gives.
-/

namespace FileConformance

/-! ## Calls on handles -/

namespace Call

/-- The handle a call is made on, if it is made on one. -/
def handle? : Call → Option Handle
  | .close handle => some handle
  | .read handle _ => some handle
  | .write handle _ => some handle
  | _ => none

/-- Why a call failed, if it did. -/
def failure? : (request : Call) → request.Answer → Option CallError
  | .create _, .error reason => some reason
  | .openFile _, .error reason => some reason
  | .close _, .error reason => some reason
  | .read _ _, ⟨.error reason, _, _⟩ => some reason
  | .write _ _, .error reason => some reason
  | .delete _, .error reason => some reason
  | _, _ => none

end Call

/-! ## Incidents -/

/-- What a caller sees happen. -/
inductive Incident where
  | exchange (exchange : Exchange)
  /-- Power is lost. -/
  | crash

/-- What a caller writes down about handles. -/
structure Ledger where
  /-- The handles that were issued, oldest first. -/
  issued : List Handle
  /-- Whether a handle is open. -/
  isOpen : Handle → Bool
  /-- The process has ended, and power was not lost since then. -/
  ended : Bool

namespace Ledger

/-- The ledger before anything was seen. -/
def blank : Ledger where
  issued := []
  isOpen := fun _ => false
  ended := false

/-- A handle was issued, and is open. -/
def issue (ledger : Ledger) (handle : Handle) : Ledger where
  issued := ledger.issued ++ [handle]
  isOpen := fun other => other == handle || ledger.isOpen other
  ended := ledger.ended

/-- A handle was closed. -/
def giveBack (ledger : Ledger) (handle : Handle) : Ledger :=
  { ledger with isOpen := fun other => other != handle && ledger.isOpen other }

/-- All handles are gone. -/
def vacate (ledger : Ledger) (ended : Bool) : Ledger :=
  { ledger with isOpen := fun _ => false, ended }

/--
Write down an incident.  Calls that failed, reads, writes and deletes leave a
ledger as it is.
-/
def enter (ledger : Ledger) : Incident → Ledger
  | .exchange ⟨.create _, .ok handle⟩ => ledger.issue handle
  | .exchange ⟨.openFile _, .ok handle⟩ => ledger.issue handle
  | .exchange ⟨.close handle, .ok _⟩ => ledger.giveBack handle
  | .exchange ⟨.exit _, _⟩ => ledger.vacate true
  | .crash => ledger.vacate false
  | _ => ledger

/-- Write down incidents, the first one first. -/
def enterAll (ledger : Ledger) (incidents : List Incident) : Ledger :=
  incidents.foldl enter ledger

/-- The ledger of all that was seen. -/
def ofIncidents (incidents : List Incident) : Ledger :=
  blank.enterAll incidents

/-- Why a call on a handle that is not open is refused. -/
def refusal (ledger : Ledger) (handle : Handle) : CallError :=
  if ledger.ended then .terminated else .badHandle handle

end Ledger

namespace Handle

/-- So many handles, numbered one after the other behind the console's. -/
def consecutive (count : Nat) : List Handle :=
  (List.range count).map fun place => ⟨2 + place⟩

theorem consecutive_succ (count : Nat) :
    consecutive (count + 1) = consecutive count ++ [⟨2 + count⟩] := by
  rw [consecutive, List.range_succ, List.map_append]
  rfl

theorem nodup_consecutive (count : Nat) : (consecutive count).Nodup := by
  rw [consecutive, List.Nodup, List.pairwise_map]
  apply List.Pairwise.imp _ List.nodup_range
  intro left right different same
  exact different (Nat.add_left_cancel (congrArg Handle.number same))

end Handle

/-- A subsystem treats handles as a ledger of its incidents says. -/
structure Ledger.Honoured {State : Type} (ledger : Ledger)
    (subsystem : Subsystem State) (state : State) : Prop where
  /-- The handles were issued one after the other, and none twice. -/
  issued_eq : ledger.issued = Handle.consecutive ledger.issued.length
  /-- An open handle is never called bad. -/
  recognised : ∀ {request : Call} {handle : Handle},
    request.handle? = some handle → ledger.isOpen handle = true →
      ∀ bad : Handle,
        request.failure? (subsystem.respond request state).answer ≠
          some (.badHandle bad)
  /-- A handle that is not open is of no use. -/
  refused : ∀ {request : Call} {handle : Handle},
    request.handle? = some handle → ledger.isOpen handle = false →
      request.failure? (subsystem.respond request state).answer =
        some (ledger.refusal handle)

namespace Ledger

theorem isOpen_issue (ledger : Ledger) (handle other : Handle) :
    (ledger.issue handle).isOpen other =
      (other == handle || ledger.isOpen other) := rfl

theorem isOpen_giveBack (ledger : Ledger) (handle other : Handle) :
    (ledger.giveBack handle).isOpen other =
      (other != handle && ledger.isOpen other) := rfl

theorem enterAll_cons (ledger : Ledger) (incident : Incident)
    (rest : List Incident) :
    ledger.enterAll (incident :: rest) =
      (ledger.enter incident).enterAll rest := rfl

theorem enterAll_append (ledger : Ledger)
    (earlier later : List Incident) :
    ledger.enterAll (earlier ++ later) =
      (ledger.enterAll earlier).enterAll later := by
  rw [enterAll, List.foldl_append]
  rfl

/-! ## Handles that were given back -/

/-- From one ledger to a later one, only handles that were issued are opened. -/
def OpensIssued (ledger later : Ledger) : Prop :=
  ∃ fresh, later.issued = ledger.issued ++ fresh ∧
    ∀ handle, later.isOpen handle = true →
      ledger.isOpen handle = true ∨ handle ∈ fresh

theorem opensIssued_of_fewer {ledger later : Ledger}
    (issued_eq : later.issued = ledger.issued)
    (fewer : ∀ handle, later.isOpen handle = true →
      ledger.isOpen handle = true) :
    OpensIssued ledger later := by
  refine ⟨[], ?_, fun handle isOpen => Or.inl (fewer handle isOpen)⟩
  rw [issued_eq, List.append_nil]

theorem opensIssued_issue (ledger : Ledger) (handle : Handle) :
    OpensIssued ledger (ledger.issue handle) := by
  refine ⟨[handle], rfl, ?_⟩
  intro other isOpen
  rw [isOpen_issue, Bool.or_eq_true, beq_iff_eq] at isOpen
  rcases isOpen with same | before
  · exact Or.inr (List.mem_singleton.mpr same)
  · exact Or.inl before

theorem opensIssued_giveBack (ledger : Ledger) (handle : Handle) :
    OpensIssued ledger (ledger.giveBack handle) := by
  refine opensIssued_of_fewer rfl ?_
  intro other isOpen
  rw [isOpen_giveBack, Bool.and_eq_true] at isOpen
  exact isOpen.2

theorem opensIssued_vacate (ledger : Ledger) (ended : Bool) :
    OpensIssued ledger (ledger.vacate ended) :=
  opensIssued_of_fewer rfl fun _ impossible => Bool.noConfusion impossible

theorem opensIssued_enter (ledger : Ledger) (incident : Incident) :
    OpensIssued ledger (ledger.enter incident) := by
  unfold enter
  split
  · exact opensIssued_issue ledger _
  · exact opensIssued_issue ledger _
  · exact opensIssued_giveBack ledger _
  · exact opensIssued_vacate ledger true
  · exact opensIssued_vacate ledger false
  · exact opensIssued_of_fewer rfl fun _ isOpen => isOpen

theorem opensIssued_enterAll (ledger : Ledger)
    (incidents : List Incident) :
    OpensIssued ledger (ledger.enterAll incidents) := by
  induction incidents generalizing ledger with
  | nil => exact opensIssued_of_fewer rfl fun _ isOpen => isOpen
  | cons incident rest ih =>
      rcases opensIssued_enter ledger incident with
        ⟨first, issued_first, open_first⟩
      rcases ih (ledger.enter incident) with
        ⟨second, issued_second, open_second⟩
      refine ⟨first ++ second, ?_, ?_⟩
      · rw [enterAll_cons, issued_second, issued_first, List.append_assoc]
      · intro handle isOpen
        rw [List.mem_append]
        rcases open_second handle isOpen with before | inSecond
        · rcases open_first handle before with earlier | inFirst
          · exact Or.inl earlier
          · exact Or.inr (Or.inl inFirst)
        · exact Or.inr (Or.inr inSecond)

/-- Only handles that were issued are open. -/
theorem mem_issued_of_isOpen {incidents : List Incident}
    {handle : Handle}
    (isOpen : (ofIncidents incidents).isOpen handle = true) :
    handle ∈ (ofIncidents incidents).issued := by
  rcases opensIssued_enterAll blank incidents with
    ⟨fresh, issued_eq, opened⟩
  rcases opened handle isOpen with impossible | inFresh
  · cases impossible
  · rw [ofIncidents, issued_eq]
    exact inFresh

/-- A handle that was issued and is not open is not opened again. -/
theorem isOpen_enterAll_of_spent {ledger : Ledger} {handle : Handle}
    (issued : handle ∈ ledger.issued)
    (closed : ledger.isOpen handle = false) (incidents : List Incident)
    (distinct : (ledger.enterAll incidents).issued.Nodup) :
    (ledger.enterAll incidents).isOpen handle = false := by
  rcases opensIssued_enterAll ledger incidents with
    ⟨fresh, issued_eq, opened⟩
  rw [← Bool.not_eq_true]
  intro isOpen
  rcases opened handle isOpen with before | again
  · rw [closed] at before
    cases before
  · rw [issued_eq] at distinct
    exact (List.nodup_append.mp distinct).2.2 handle issued handle again rfl

section

variable {State : Type} {subsystem : Subsystem State}
  {incidents : List Incident} {state : State} {handle : Handle}

/-- No handle was issued twice. -/
theorem Honoured.nodup {ledger : Ledger}
    (honoured : ledger.Honoured subsystem state) : ledger.issued.Nodup := by
  rw [honoured.issued_eq]
  exact Handle.nodup_consecutive _

/-- A handle that can be closed is open. -/
theorem Honoured.isOpen_of_close {ledger : Ledger}
    (honoured : ledger.Honoured subsystem state)
    (closed : (subsystem.respond (.close handle) state).answer = .ok ()) :
    ledger.isOpen handle = true := by
  rw [← Bool.not_eq_false]
  intro notOpen
  have refused := honoured.refused
    (show (Call.close handle).handle? = some handle from rfl) notOpen
  rw [closed] at refused
  cases refused

/-- A handle that was closed cannot be closed again, whatever happens. -/
theorem Honoured.close_again
    (honoured : (ofIncidents incidents).Honoured subsystem state)
    (closed : (subsystem.respond (.close handle) state).answer = .ok ())
    {rest : List Incident} {later : State}
    (still : (ofIncidents (incidents ++
      .exchange ⟨.close handle, .ok ()⟩ :: rest)).Honoured
        subsystem later) :
    ∃ reason,
      (subsystem.respond (.close handle) later).answer = .error reason := by
  have issued : handle ∈ ((ofIncidents incidents).giveBack handle).issued :=
    mem_issued_of_isOpen (honoured.isOpen_of_close closed)
  have spent :
      ((ofIncidents incidents).giveBack handle).isOpen handle = false := by
    rw [isOpen_giveBack, bne_self_eq_false, Bool.false_and]
  replace still : (((ofIncidents incidents).giveBack handle).enterAll
      rest).Honoured subsystem later := by
    rw [ofIncidents, enterAll_append] at still
    exact still
  -- To open the handle again would be to issue it a second time.
  have notOpen := isOpen_enterAll_of_spent issued spent rest still.nodup
  have refused := still.refused
    (show (Call.close handle).handle? = some handle from rfl) notOpen
  cases answered : (subsystem.respond (.close handle) later).answer with
  | error reason => exact ⟨reason, rfl⟩
  | ok value =>
      rw [answered] at refused
      cases refused

end

/-! ## Keeping a ledger -/

/--
A ledger fits what a subsystem knows: the number of the next handle, which
handles are open, and whether the process has ended.
-/
structure Fits (ledger : Ledger) (next : Nat) (isOpen : Handle → Bool)
    (ended : Bool) : Prop where
  issued_eq : ledger.issued = Handle.consecutive ledger.issued.length
  next_eq : next = 2 + ledger.issued.length
  isOpen_eq : ∀ handle, ledger.isOpen handle = isOpen handle
  ended_eq : ledger.ended = ended

namespace Fits

variable {ledger : Ledger} {next : Nat} {isOpen later : Handle → Bool}
  {ended : Bool}

theorem blank : Ledger.blank.Fits 2 (fun _ => false) false where
  issued_eq := rfl
  next_eq := rfl
  isOpen_eq := fun _ => rfl
  ended_eq := rfl

/-- Nothing happened to the handles. -/
theorem keep (fits : ledger.Fits next isOpen ended)
    (kept : ∀ handle, later handle = isOpen handle) :
    ledger.Fits next later ended :=
  { fits with
    isOpen_eq := fun handle =>
      (fits.isOpen_eq handle).trans (kept handle).symm }

theorem issue (fits : ledger.Fits next isOpen ended)
    (opened : ∀ handle,
      later handle = (handle == ⟨next⟩ || isOpen handle)) :
    (ledger.issue ⟨next⟩).Fits (next + 1) later ended where
  issued_eq := by
    rw [Ledger.issue, List.length_append, List.length_singleton,
      Handle.consecutive_succ, ← fits.issued_eq, fits.next_eq]
  next_eq := by
    rw [Ledger.issue, List.length_append, List.length_singleton,
      fits.next_eq, Nat.add_assoc]
  isOpen_eq := by
    intro handle
    rw [opened, isOpen_issue, fits.isOpen_eq]
  ended_eq := fits.ended_eq

theorem giveBack (fits : ledger.Fits next isOpen ended) {handle : Handle}
    (closed : ∀ other, later other = (other != handle && isOpen other)) :
    (ledger.giveBack handle).Fits next later ended where
  issued_eq := fits.issued_eq
  next_eq := fits.next_eq
  isOpen_eq := by
    intro other
    rw [closed, isOpen_giveBack, fits.isOpen_eq]
  ended_eq := fits.ended_eq

theorem vacate (fits : ledger.Fits next isOpen ended) {final : Bool}
    (gone : ∀ handle, later handle = false) :
    (ledger.vacate final).Fits next later final where
  issued_eq := fits.issued_eq
  next_eq := fits.next_eq
  isOpen_eq := fun handle => (gone handle).symm
  ended_eq := rfl

end Fits

end Ledger

end FileConformance
