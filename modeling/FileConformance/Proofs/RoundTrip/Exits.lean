import FileConformance.Proofs.Procedure.Ensures
import FileConformance.Proofs.Procedure.Leads
import FileConformance.Proofs.Scenario.RoundTrips
import FileConformance.Proofs.Scenario.Steadfast

/-!
# How a round trip ends

A round trip has seven exits before its end: the file has no live handle, one of
the four calls fails, or the subsystem takes another number of bytes than it was
given.  Each exit is determined by the calls that were made and their answers.
It leaves one check, and the file bound as it was when the last call was
answered.

At its end the bytes decide.  A content that is a part of what was expected is a
short read; any other difference is named by the smallest offset at which the
two contents differ.
-/

namespace FileConformance

namespace RoundTrip

open Procedure

/-! ## Comparing contents -/

/-- The smallest offset at which two contents differ. -/
structure FirstDifference (expected actual : Bytes) (offset : Nat) :
    Prop where
  agree : ∀ place < offset, expected[place]? = actual[place]?
  differ : expected[offset]? ≠ actual[offset]?

namespace FirstDifference

variable {expected actual : Bytes} {byte : UInt8} {offset : Nat}

theorem cons_iff :
    FirstDifference (byte :: expected) (byte :: actual) (offset + 1) ↔
      FirstDifference expected actual offset := by
  constructor
  · rintro ⟨agree, differ⟩
    exact ⟨fun place below => agree (place + 1) (Nat.succ_lt_succ below),
      differ⟩
  · rintro ⟨agree, differ⟩
    refine ⟨?_, differ⟩
    intro place below
    cases place with
    | zero => rfl
    | succ place => exact agree place (Nat.lt_of_succ_lt_succ below)

/-- No two offsets are the smallest. -/
theorem unique {other : Nat} (first : FirstDifference expected actual offset)
    (firstToo : FirstDifference expected actual other) :
    other = offset := by
  rcases Nat.lt_trichotomy other offset with below | same | above
  · exact absurd (first.agree other below) firstToo.differ
  · exact same
  · exact absurd (firstToo.agree offset above) first.differ

/-- A content differs from a longer one where it ends if it is a part of it. -/
theorem length_iff (shorter : actual.length < expected.length) :
    FirstDifference expected actual actual.length ↔ actual <+: expected := by
  rw [List.prefix_iff_getElem?]
  constructor
  · rintro ⟨agree, _⟩ place below
    rw [agree place below, List.getElem?_eq_getElem below]
  · intro part
    refine ⟨?_, ?_⟩
    · intro place below
      rw [part place below, List.getElem?_eq_getElem below]
    · rw [List.getElem?_eq_getElem shorter, List.getElem?_eq_none le_rfl]
      nofun

end FirstDifference

/-- The offset that is found is the smallest, counted from the given one. -/
theorem differenceFrom_eq_some {start found : Nat} {expected actual : Bytes}
    (difference : differenceFrom start expected actual = some found) :
    ∃ offset, found = start + offset ∧
      FirstDifference expected actual offset := by
  induction expected generalizing start actual with
  | nil =>
      cases actual with
      | nil => cases difference
      | cons other others =>
          cases difference
          exact ⟨0, rfl, nofun, nofun⟩
  | cons byte rest ih =>
      cases actual with
      | nil =>
          cases difference
          exact ⟨0, rfl, nofun, nofun⟩
      | cons other others =>
          rw [differenceFrom] at difference
          split at difference
          · rename_i same
            subst same
            rcases ih difference with ⟨offset, rfl, first⟩
            exact ⟨offset + 1, by omega, FirstDifference.cons_iff.mpr first⟩
          · rename_i different
            cases difference
            exact ⟨0, rfl, nofun, fun same => different (Option.some.inj same)⟩

/-- What comes of comparing two contents: a verdict, and how it is told. -/
inductive Compares (expected actual : Bytes) :
    Outcome → Option String → Prop where
  /-- All bytes agree, and none is missing. -/
  | same (equal : actual = expected) : Compares expected actual .pass none
  /-- Only a part was read, all of it as expected. -/
  | part (shorter : actual.length < expected.length)
      (begins : actual <+: expected) :
      Compares expected actual .contentMismatch
        (some ("short read: " ++ toString actual.length ++ " of " ++
          toString expected.length ++ " bytes"))
  /-- Something else was read. -/
  | other {offset : Nat} (foreign : ¬actual <+: expected)
      (first : FirstDifference expected actual offset) :
      Compares expected actual .contentMismatch
        (some ("first difference at offset " ++ toString offset))

/-- The check of a trip: it is about the file, and success was expected. -/
def verdict (file : TrackedFile) (outcome : Outcome)
    (handle : Option Handle) (error detail : Option String) : Check where
  operation := .roundTrip
  target := file.name
  expectation := .success
  outcome := outcome
  handle := handle
  error := error
  detail := detail

/-- A trip that made all its calls is judged by what was read. -/
theorem exists_compares (file : TrackedFile) (handle : Handle)
    (expected actual : Bytes) :
    ∃ outcome detail, Compares expected actual outcome detail ∧
      compared file handle expected actual =
        verdict file outcome (some handle) none detail := by
  unfold compared
  cases difference : firstDifference? expected actual with
  | none =>
      exact ⟨_, _, .same (differenceFrom_eq_none_iff.mp difference).symm, rfl⟩
  | some found =>
      rcases differenceFrom_eq_some difference with ⟨offset, counted, first⟩
      rw [Nat.zero_add] at counted
      subst counted
      dsimp only [differenceDetail]
      split
      · rename_i short
        rcases short with ⟨rfl, shorter⟩
        exact ⟨_, _, .part shorter
          ((FirstDifference.length_iff shorter).mp first), rfl⟩
      · rename_i elsewhere
        refine ⟨_, _, .other ?_ first, rfl⟩
        -- A part of what was expected is all of it, or differs where it ends.
        intro begins
        rcases Nat.lt_or_ge actual.length expected.length with
          shorter | whole
        · exact elsewhere ⟨first.unique
            ((FirstDifference.length_iff shorter).mpr begins) |>.symm,
              shorter⟩
        · rw [begins.eq_of_length_le whole] at first
          exact first.differ rfl

/-- One comparison has one verdict, told in one way. -/
theorem Compares.unique {expected actual : Bytes}
    {outcome outcomeToo : Outcome} {detail detailToo : Option String}
    (compares : Compares expected actual outcome detail)
    (comparesToo : Compares expected actual outcomeToo detailToo) :
    outcomeToo = outcome ∧ detailToo = detail := by
  have whole : ∀ {content : Bytes} {offset : Nat},
      ¬FirstDifference content content offset :=
    fun first => first.differ rfl
  cases compares with
  | same equal =>
      subst equal
      cases comparesToo with
      | same _ => exact ⟨rfl, rfl⟩
      | part shorter _ => exact absurd shorter (Nat.lt_irrefl _)
      | other _ first => exact absurd first whole
  | part shorter begins =>
      cases comparesToo with
      | same equal => exact absurd (equal ▸ shorter) (Nat.lt_irrefl _)
      | part _ _ => exact ⟨rfl, rfl⟩
      | other foreign _ => exact absurd begins foreign
  | other foreign first =>
      cases comparesToo with
      | same equal => exact absurd (equal ▸ first) whole
      | part _ begins => exact absurd begins foreign
      | other _ firstToo => exact ⟨rfl, by rw [first.unique firstToo]⟩

/-! ## Exits -/

/--
The calls of a round trip with their answers, and what a trip with these leaves:
a check, and the file as it is bound then.
-/
inductive Ends (expected : Bytes) (file : TrackedFile) :
    List Exchange → Visit → Prop where
  /-- Nothing can be written without a live handle. -/
  | notBound (unbound : ∀ handle, file.binding ≠ .bound handle) :
      Ends expected file [] {
        check := verdict file .unexpectedFailure none none
          (some "stage: not bound")
        file }
  | write {handle : Handle} {reason : CallError}
      (bound : file.binding = .bound handle) :
      Ends expected file [⟨.write handle expected, .error reason⟩] {
        check := verdict file .unexpectedFailure (some handle)
          (some reason.message) (some "stage: write")
        file }
  /-- Another number of bytes was taken. -/
  | shortWrite {handle : Handle} {count : Nat}
      (bound : file.binding = .bound handle)
      (other : count ≠ expected.length) :
      Ends expected file [⟨.write handle expected, .ok count⟩] {
        check := verdict file .unexpectedFailure (some handle) none
          (some ("stage: short write, " ++ toString count ++ " of " ++
            toString expected.length ++ " bytes"))
        file }
  | close {handle : Handle} {reason : CallError}
      (bound : file.binding = .bound handle) :
      Ends expected file
        [⟨.write handle expected, .ok expected.length⟩,
          ⟨.close handle, .error reason⟩] {
        check := verdict file .unexpectedFailure (some handle)
          (some reason.message) (some "stage: close")
        file }
  /-- The handle was closed, and there is no new one. -/
  | reopen {handle : Handle} {reason : CallError}
      (bound : file.binding = .bound handle) :
      Ends expected file
        [⟨.write handle expected, .ok expected.length⟩,
          ⟨.close handle, .ok ()⟩,
          ⟨.openFile file.path, .error reason⟩] {
        check := verdict file .unexpectedFailure none
          (some reason.message) (some "stage: reopen")
        file := { file with binding := .released handle } }
  /-- From the second open on the file is bound to the new handle. -/
  | read {handle reopened : Handle} {reason : CallError}
      {received : Received (Bytes.zeros expected.length).length}
      (bound : file.binding = .bound handle)
      (failed : received.count = .error reason) :
      Ends expected file
        [⟨.write handle expected, .ok expected.length⟩,
          ⟨.close handle, .ok ()⟩,
          ⟨.openFile file.path, .ok reopened⟩,
          ⟨.read reopened (Bytes.zeros expected.length), received⟩] {
        check := verdict file .unexpectedFailure (some reopened)
          (some reason.message) (some "stage: read")
        file := { file with binding := .bound reopened } }
  /-- All calls succeeded; the bytes decide. -/
  | compared {handle reopened : Handle} {count : Nat}
      {received : Received (Bytes.zeros expected.length).length}
      {outcome : Outcome} {detail : Option String}
      (bound : file.binding = .bound handle)
      (counted : received.count = .ok count)
      (fits : count ≤ expected.length)
      (compares :
        Compares expected (received.buffer.take count) outcome detail) :
      Ends expected file
        [⟨.write handle expected, .ok expected.length⟩,
          ⟨.close handle, .ok ()⟩,
          ⟨.openFile file.path, .ok reopened⟩,
          ⟨.read reopened (Bytes.zeros expected.length), received⟩] {
        check := verdict file outcome (some reopened) none detail
        file := { file with binding := .bound reopened } }

/-! ### Every way through a trip is an exit -/

section

variable {expected : Bytes} {file : TrackedFile} {handle : Handle}

theorem readBack_ends (bound : file.binding = .bound handle)
    (reopened : Handle) :
    (readBack expected { file with binding := .bound reopened }
        reopened).Ensures fun exchanges _ made =>
      Ends expected file
        (⟨.write handle expected, .ok expected.length⟩ ::
          ⟨.close handle, .ok ()⟩ ::
          ⟨.openFile file.path, .ok reopened⟩ :: exchanges) made := by
  refine ensures_request_bind fun received => ?_
  split
  · rename_i reason failed
    exact ensures_pure (.read bound failed)
  · rename_i count counted
    split
    · rename_i fits
      rcases exists_compares { file with binding := .bound reopened }
        reopened expected (received.buffer.take count) with
        ⟨outcome, detail, compares, check⟩
      refine ensures_pure ?_
      rw [check]
      exact .compared bound counted fits compares
    · trivial

theorem reopen_ends (bound : file.binding = .bound handle) :
    (reopen expected { file with binding := .released handle }).Ensures
      fun exchanges _ made =>
        Ends expected file
          (⟨.write handle expected, .ok expected.length⟩ ::
            ⟨.close handle, .ok ()⟩ :: exchanges) made := by
  refine ensures_request_bind fun answer => ?_
  split
  · exact ensures_pure (.reopen bound)
  · rename_i reopened
    exact readBack_ends bound reopened

theorem closeWritten_ends (bound : file.binding = .bound handle) :
    (closeWritten expected file handle).Ensures fun exchanges _ made =>
      Ends expected file
        (⟨.write handle expected, .ok expected.length⟩ :: exchanges)
        made := by
  refine ensures_request_bind fun answer => ?_
  split
  · exact ensures_pure (.close bound)
  · rw [TrackedFile.release_of_bound bound]
    exact reopen_ends bound

theorem visit_ends (expected : Bytes) (file : TrackedFile) :
    (visit expected file).Ensures fun exchanges _ made =>
      Ends expected file exchanges made := by
  unfold visit
  cases bound : file.binding with
  | unbound =>
      exact ensures_pure (.notBound (by rw [bound]; nofun))
  | released handle =>
      exact ensures_pure (.notBound (by rw [bound]; nofun))
  | bound handle =>
      refine ensures_request_bind fun answer => ?_
      split
      · exact ensures_pure (.write bound)
      · split
        · rename_i whole
          subst whole
          exact closeWritten_ends bound
        · rename_i other
          exact ensures_pure (.shortWrite bound other)

end

/-- The calls and their answers leave no choice. -/
theorem Ends.unique {expected : Bytes} {file : TrackedFile}
    {exchanges : List Exchange} {made other : Visit}
    (ends : Ends expected file exchanges made)
    (endsToo : Ends expected file exchanges other) : other = made := by
  cases ends with
  | notBound _ =>
      cases endsToo with
      | notBound _ => rfl
  | write _ =>
      cases endsToo with
      | write _ => rfl
  | shortWrite _ _ =>
      cases endsToo with
      | shortWrite _ _ => rfl
  | close _ =>
      cases endsToo with
      | close _ => rfl
  | reopen _ =>
      cases endsToo with
      | reopen _ => rfl
  | read _ failed =>
      cases endsToo with
      | read _ failedToo =>
          rw [failed] at failedToo
          cases failedToo
          rfl
      | compared _ counted _ _ =>
          rw [failed] at counted
          cases counted
  | compared _ counted _ compares =>
      cases endsToo with
      | read _ failed =>
          rw [counted] at failed
          cases failed
      | compared _ countedToo _ comparesToo =>
          rw [counted] at countedToo
          cases countedToo
          rcases compares.unique comparesToo with ⟨rfl, rfl⟩
          rfl

/--
On every honest subsystem a round trip ends, by the exit that its calls and
their answers determine.  Nothing is called without a live handle.  The whole
content is written to it; an error, or any other number of bytes than that, ends
the trip with the file bound as it was, and so does a close that fails.  An open
that fails leaves the old handle released, a read that fails leaves the new one
bound.  Otherwise the file is bound to the new handle, and the check passes if
and only if all that was expected was read; what was read is reported as short
if it is a proper part of that, and else by the smallest offset at which it
differs.  No call is made but those of the exit.
-/
theorem visit_takes_one_exit {State : Type} {subsystem : Subsystem State}
    (honest : subsystem.Honest) (expected : Bytes) (file : TrackedFile)
    (state : State) :
    let run := (visit expected file).run subsystem state
    ∃ made, run.ending = .ok made ∧
      run.exchanges =
        subsystem.exchanges (run.exchanges.map Exchange.call) state ∧
      Ends expected file run.exchanges made ∧
      ∀ other, Ends expected file run.exchanges other → other = made := by
  intro run
  rcases (visit_steadfast expected file).exists_ended honest state with
    ⟨made, ended⟩
  rcases (visit_ends expected file).of_ended ended with ⟨_, ends, _⟩
  exact ⟨made, ended, run_exchanges _ state, ends,
    fun other endsToo => ends.unique endsToo⟩

/-- The file was written to before, so the trip reads what stands in front. -/
theorem visit_takes_one_exit_written_before :
    let file : TrackedFile := ⟨0, "a", .bound ⟨2⟩⟩
    let store := Store.subsystem.after
      [.create file.path, .write ⟨2⟩ [65, 66]] (.fresh .standard (.ofSeed 0))
    let run := (visit [65, 67, 68] file).run Store.subsystem store
    Store.subsystem.Honest ∧
      ∃ made, run.ending = .ok made ∧
        Ends [65, 67, 68] file run.exchanges made ∧
        made.file.binding = .bound ⟨3⟩ ∧
        made.check.detail = some "first difference at offset 1" := by
  intro file store run
  rcases visit_takes_one_exit Store.honest [65, 67, 68] file store with
    ⟨made, ended, _, ends, _⟩
  have left : run.ending.toOption.map (fun made =>
      (made.file.binding, made.check.detail)) =
        some (.bound ⟨3⟩, some "first difference at offset 1") := by
    decide +kernel
  rw [ended] at left
  rcases Prod.mk.inj (Option.some.inj left) with ⟨binding, detail⟩
  exact ⟨Store.honest, made, ended, ends, binding, detail⟩

end RoundTrip

end FileConformance
