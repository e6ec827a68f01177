import FileConformance.Proofs.Procedure.Reaches
import FileConformance.Proofs.Scenario.RoundTrips

/-!
# By which exchanges a visit passes

A visit passes by some exchanges if it reaches a check by them that does not
count against the subsystem.  Such exchanges leave no room: for each visit they
are the calls it has to make with the answers it has to get, and what is open is
only which handle was issued, or with which error a call failed.
-/

namespace FileConformance

/-- A visit passes by exchanges, and leaves its file as given. -/
def Procedure.Passes (procedure : Procedure Visit)
    (exchanges : List Exchange) (moved : TrackedFile) : Prop :=
  ∃ check : Check, procedure.Reaches exchanges ⟨check, moved⟩ ∧
    check.isFailure = false

namespace Procedure

variable {exchanges : List Exchange} {moved : TrackedFile}

theorem passes_pure_iff {check : Check} {file : TrackedFile} :
    Passes (pure ⟨check, file⟩) exchanges moved ↔
      exchanges = [] ∧ check.isFailure = false ∧ moved = file := by
  constructor
  · rintro ⟨other, reached, passed⟩
    rcases reaches_pure_iff.mp reached with ⟨rfl, same⟩
    cases same
    exact ⟨rfl, passed, rfl⟩
  · rintro ⟨rfl, passed, rfl⟩
    exact ⟨check, reaches_pure_iff.mpr ⟨rfl, rfl⟩, passed⟩

/-- A visit that ends in a check against the subsystem does not pass. -/
theorem not_passes_pure {check : Check} {file : TrackedFile}
    (failed : check.isFailure = true) :
    ¬Passes (pure ⟨check, file⟩) exchanges moved := by
  rw [passes_pure_iff, failed]
  exact fun impossible => Bool.noConfusion impossible.2.1

theorem passes_request_bind_iff {request : Call}
    {continuation : request.Answer → Procedure Visit} :
    Passes (Procedure.request request >>= continuation) exchanges moved ↔
      ∃ answer rest, exchanges = ⟨request, answer⟩ :: rest ∧
        Passes (continuation answer) rest moved := by
  constructor
  · rintro ⟨check, reached, passed⟩
    rcases reaches_request_bind_iff.mp reached with
      ⟨answer, rest, split, reachedRest⟩
    exact ⟨answer, rest, split, check, reachedRest, passed⟩
  · rintro ⟨answer, rest, split, check, reachedRest, passed⟩
    exact ⟨check, reaches_request_bind_iff.mpr
      ⟨answer, rest, split, reachedRest⟩, passed⟩

/-- A visit of one call passes by that call and an answer that is as it must. -/
theorem passes_one_call_iff {request : Call}
    {check : request.Answer → Check}
    {finish : request.Answer → TrackedFile} :
    Passes (Procedure.request request >>= fun answer =>
        pure ⟨check answer, finish answer⟩) exchanges moved ↔
      ∃ answer, exchanges = [⟨request, answer⟩] ∧
        (check answer).isFailure = false ∧ moved = finish answer := by
  rw [passes_request_bind_iff]
  constructor
  · rintro ⟨answer, rest, rfl, passed⟩
    rcases passes_pure_iff.mp passed with ⟨rfl, fine, rfl⟩
    exact ⟨answer, rfl, fine, rfl⟩
  · rintro ⟨answer, rfl, fine, rfl⟩
    exact ⟨answer, [], rfl, passes_pure_iff.mpr ⟨rfl, fine, rfl⟩⟩

end Procedure

/-! ## Bulk visits -/

namespace Bulk

variable {file moved : TrackedFile} {exchanges : List Exchange}
  {handle : Handle}

theorem create_passes_iff :
    (create .success file).Passes exchanges moved ↔
      ∃ issued, exchanges = [⟨.create file.path, .ok issued⟩] ∧
        moved = file.bind issued := by
  rw [create, Procedure.passes_one_call_iff]
  constructor
  · rintro ⟨answer, rfl, passed, rfl⟩
    cases answer with
    | error reason => cases passed
    | ok issued => exact ⟨issued, rfl, rfl⟩
  · rintro ⟨issued, rfl, rfl⟩
    exact ⟨.ok issued, rfl, rfl, rfl⟩

theorem openFile_passes_iff :
    (openFile .success file).Passes exchanges moved ↔
      ∃ issued, exchanges = [⟨.openFile file.path, .ok issued⟩] ∧
        moved = file.bind issued := by
  rw [openFile, Procedure.passes_one_call_iff]
  constructor
  · rintro ⟨answer, rfl, passed, rfl⟩
    cases answer with
    | error reason => cases passed
    | ok issued => exact ⟨issued, rfl, rfl⟩
  · rintro ⟨issued, rfl, rfl⟩
    exact ⟨.ok issued, rfl, rfl, rfl⟩

/-- An open that has to fail leaves its file as it was. -/
theorem openFile_passes_failure_iff :
    (openFile .failure file).Passes exchanges moved ↔
      ∃ reason, exchanges = [⟨.openFile file.path, .error reason⟩] ∧
        moved = file := by
  rw [openFile, Procedure.passes_one_call_iff]
  constructor
  · rintro ⟨answer, rfl, passed, rfl⟩
    cases answer with
    | error reason => exact ⟨reason, rfl, rfl⟩
    | ok issued => cases passed
  · rintro ⟨reason, rfl, rfl⟩
    exact ⟨.error reason, rfl, rfl, rfl⟩

theorem close_passes_iff (bound : file.binding = .bound handle) :
    (close .success file).Passes exchanges moved ↔
      exchanges = [⟨.close handle, .ok ()⟩] ∧
        moved = { file with binding := .released handle } := by
  rw [close, bound, Procedure.passes_one_call_iff,
    ← TrackedFile.release_of_bound bound]
  constructor
  · rintro ⟨answer, rfl, passed, rfl⟩
    cases answer with
    | error reason => cases passed
    | ok _ => exact ⟨rfl, rfl⟩
  · rintro ⟨rfl, rfl⟩
    exact ⟨.ok (), rfl, rfl, rfl⟩

/-- A second close has to fail, whatever is expected of the others. -/
theorem close_passes_released_iff {expectation : Expectation}
    (released : file.binding = .released handle) :
    (close expectation file).Passes exchanges moved ↔
      ∃ reason, exchanges = [⟨.close handle, .error reason⟩] ∧
        moved = file := by
  rw [close, released]
  dsimp only
  rw [Procedure.passes_one_call_iff]
  constructor
  · rintro ⟨answer, rfl, passed, rfl⟩
    cases answer with
    | error reason => exact ⟨reason, rfl, rfl⟩
    | ok _ => cases passed
  · rintro ⟨reason, rfl, rfl⟩
    exact ⟨.error reason, rfl, rfl, rfl⟩

theorem delete_passes_iff :
    (delete .success file).Passes exchanges moved ↔
      exchanges = [⟨.delete file.path, .ok ()⟩] ∧ moved = file := by
  rw [delete, Procedure.passes_one_call_iff]
  constructor
  · rintro ⟨answer, rfl, passed, rfl⟩
    cases answer with
    | error reason => cases passed
    | ok _ => exact ⟨rfl, rfl⟩
  · rintro ⟨rfl, rfl⟩
    exact ⟨.ok (), rfl, rfl, rfl⟩

end Bulk

/-! ## Round trips -/

namespace RoundTrip

/-- The whole expected content was read. -/
def receivedAll (expected : Bytes) :
    Received (Bytes.zeros expected.length).length where
  count := .ok expected.length
  buffer := expected
  buffer_length := (Bytes.length_zeros expected.length).symm

/-- The bytes that were counted are the expected ones only if all were read. -/
theorem eq_receivedAll_iff {expected : Bytes}
    {received : Received (Bytes.zeros expected.length).length}
    {count : Nat} (counted : received.count = .ok count)
    (fits : count ≤ expected.length) :
    expected = received.buffer.take count ↔
      received = receivedAll expected := by
  rcases received with ⟨_, buffer, buffer_length⟩
  cases counted
  rw [Bytes.length_zeros] at buffer_length
  constructor
  · intro same
    have whole : count = expected.length := by
      have lengths := congrArg List.length same
      rw [List.length_take, buffer_length, Nat.min_eq_left fits] at lengths
      exact lengths.symm
    subst whole
    dsimp only at same
    rw [← buffer_length, List.take_length] at same
    subst same
    rfl
  · intro all
    cases all
    exact List.take_length.symm

variable {file moved : TrackedFile} {exchanges : List Exchange}
  {handle : Handle} {expected : Bytes}

theorem readBack_passes_iff :
    (readBack expected file handle).Passes exchanges moved ↔
      exchanges = [⟨.read handle (Bytes.zeros expected.length),
        receivedAll expected⟩] ∧ moved = file := by
  rw [readBack, Procedure.passes_request_bind_iff]
  constructor
  · rintro ⟨received, rest, rfl, passed⟩
    split at passed
    · exact (Procedure.not_passes_pure rfl passed).elim
    · rename_i count counted
      split at passed
      · rename_i fits
        rcases Procedure.passes_pure_iff.mp passed with ⟨rfl, same, rfl⟩
        rw [isFailure_compared_iff, eq_receivedAll_iff counted fits] at same
        rw [same]
        exact ⟨rfl, rfl⟩
      · rcases passed with ⟨check, reached, _⟩
        cases reached
  · rintro ⟨rfl, rfl⟩
    refine ⟨receivedAll expected, [], rfl, ?_⟩
    dsimp only [receivedAll]
    rw [if_pos (Nat.le_refl expected.length), Procedure.passes_pure_iff,
      isFailure_compared_iff]
    exact ⟨rfl, List.take_length.symm, rfl⟩

theorem reopen_passes_iff :
    (reopen expected file).Passes exchanges moved ↔
      ∃ issued, exchanges = [⟨.openFile file.path, .ok issued⟩,
        ⟨.read issued (Bytes.zeros expected.length),
          receivedAll expected⟩] ∧ moved = file.bind issued := by
  rw [reopen, Procedure.passes_request_bind_iff]
  constructor
  · rintro ⟨answer, rest, rfl, passed⟩
    cases answer with
    | error reason => exact (Procedure.not_passes_pure rfl passed).elim
    | ok issued =>
        rcases readBack_passes_iff.mp passed with ⟨rfl, rfl⟩
        exact ⟨issued, rfl, rfl⟩
  · rintro ⟨issued, rfl, rfl⟩
    exact ⟨.ok issued, _, rfl, readBack_passes_iff.mpr ⟨rfl, rfl⟩⟩

theorem closeWritten_passes_iff :
    (closeWritten expected file handle).Passes exchanges moved ↔
      ∃ issued, exchanges = [⟨.close handle, .ok ()⟩,
        ⟨.openFile file.release.path, .ok issued⟩,
        ⟨.read issued (Bytes.zeros expected.length),
          receivedAll expected⟩] ∧ moved = file.release.bind issued := by
  rw [closeWritten, Procedure.passes_request_bind_iff]
  constructor
  · rintro ⟨answer, rest, rfl, passed⟩
    cases answer with
    | error reason => exact (Procedure.not_passes_pure rfl passed).elim
    | ok _ =>
        rcases reopen_passes_iff.mp passed with ⟨issued, rfl, rfl⟩
        exact ⟨issued, rfl, rfl⟩
  · rintro ⟨issued, rfl, rfl⟩
    exact ⟨.ok (), _, rfl, reopen_passes_iff.mpr ⟨issued, rfl, rfl⟩⟩

/-- A read that fills its buffer with the whole expected content. -/
def readWhole (handle : Handle) (expected : Bytes) (length : Nat)
    (whole : expected.length = length) : Exchange where
  call := .read handle (Bytes.zeros length)
  answer := {
    count := .ok length
    buffer := expected
    buffer_length := whole.trans (Bytes.length_zeros length).symm }

/-- A bound file passes its round trip by four calls that do what they must. -/
theorem visit_passes_iff (bound : file.binding = .bound handle)
    {length : Nat} (whole : expected.length = length) :
    (visit expected file).Passes exchanges moved ↔
      ∃ issued, exchanges = [
        ⟨.write handle expected, .ok length⟩,
        ⟨.close handle, .ok ()⟩,
        ⟨.openFile file.path, .ok issued⟩,
        readWhole issued expected length whole] ∧
          moved = file.bind issued := by
  subst whole
  have released := TrackedFile.release_of_bound bound
  rw [visit, bound]
  dsimp only [Binding.live?]
  rw [Procedure.passes_request_bind_iff]
  constructor
  · rintro ⟨answer, rest, rfl, passed⟩
    cases answer with
    | error reason => exact (Procedure.not_passes_pure rfl passed).elim
    | ok count =>
        dsimp only at passed
        split at passed
        · rename_i all
          subst all
          rcases closeWritten_passes_iff.mp passed with ⟨issued, rfl, rfl⟩
          rw [released]
          exact ⟨issued, rfl, rfl⟩
        · exact (Procedure.not_passes_pure rfl passed).elim
  · rintro ⟨issued, rfl, rfl⟩
    refine ⟨.ok expected.length, _, rfl, ?_⟩
    dsimp only
    rw [if_pos rfl, closeWritten_passes_iff, released]
    exact ⟨issued, rfl, rfl⟩

end RoundTrip

end FileConformance
