import FileConformance.Walk

/-!
# Round trips

A round trip writes the expected content of a file, closes the handle, opens
the file again, reads it back and compares.  The first call that fails ends
the trip; its stage is the detail of the check.  If every call succeeds, the
bytes decide.
-/

namespace FileConformance

namespace RoundTrip

/-- Where a round trip stopped. -/
inductive Stage where
  /-- The file had no live handle. -/
  | notBound
  | write
  /-- The subsystem took another number of bytes than it was given. -/
  | shortWrite (count length : Nat)
  | close
  | reopen
  | read
deriving DecidableEq

/-- How reports describe a stage. -/
def Stage.detail : Stage → String
  | .notBound => "stage: not bound"
  | .write => "stage: write"
  | .shortWrite count length =>
      "stage: short write, " ++ toString count ++ " of " ++
        toString length ++ " bytes"
  | .close => "stage: close"
  | .reopen => "stage: reopen"
  | .read => "stage: read"

/-- The check of a trip that stopped at a stage. -/
def stopped (file : TrackedFile) (stage : Stage) (handle : Option Handle)
    (reason : Option CallError) : Check where
  operation := .roundTrip
  target := file.name
  expectation := .success
  outcome := .unexpectedFailure
  handle := handle
  error := reason.map CallError.message
  detail := some stage.detail

/--
The first offset at which two contents differ, counted from a given offset.
Where one ends before the other they differ at the end of the shorter.
-/
def differenceFrom (offset : Nat) : Bytes → Bytes → Option Nat
  | [], [] => none
  | [], _ :: _ => some offset
  | _ :: _, [] => some offset
  | expected :: rest, actual :: others =>
      if expected = actual then differenceFrom (offset + 1) rest others
      else some offset

/-- The first offset at which two contents differ. -/
def firstDifference? (expected actual : Bytes) : Option Nat :=
  differenceFrom 0 expected actual

/-- How reports describe a difference at an offset. -/
def differenceDetail (expected actual : Bytes) (offset : Nat) : String :=
  if offset = actual.length ∧ actual.length < expected.length then
    "short read: " ++ toString actual.length ++ " of " ++
      toString expected.length ++ " bytes"
  else "first difference at offset " ++ toString offset

/-- The check of a trip whose calls all succeeded. -/
def compared (file : TrackedFile) (handle : Handle)
    (expected actual : Bytes) : Check :=
  let passed : Check :=
    { operation := .roundTrip
      target := file.name
      expectation := .success
      outcome := .pass
      handle := some handle
      error := none
      detail := none }
  match firstDifference? expected actual with
  | none => passed
  | some offset =>
      { passed with
        outcome := .contentMismatch
        detail := some (differenceDetail expected actual offset) }

/-- Read the reopened file and compare. -/
def readBack (expected : Bytes) (file : TrackedFile) (handle : Handle) :
    Procedure Visit := do
  let buffer := Bytes.zeros expected.length
  let received ← Procedure.request (.read handle buffer)
  match received.count with
  | .error reason =>
      return { check := stopped file .read (some handle) (some reason), file }
  | .ok count =>
      if count ≤ expected.length then
        return {
          check := compared file handle expected (received.buffer.take count)
          file
        }
      else .abort (.readOverrun count expected.length)

/-- Open the file whose handle was closed, and go on. -/
def reopen (expected : Bytes) (file : TrackedFile) : Procedure Visit := do
  match ← Procedure.request (.openFile file.path) with
  | .error reason =>
      return { check := stopped file .reopen none (some reason), file }
  | .ok handle => readBack expected (file.bind handle) handle

/-- Close the handle that was written to, and go on. -/
def closeWritten (expected : Bytes) (file : TrackedFile) (handle : Handle) :
    Procedure Visit := do
  match ← Procedure.request (.close handle) with
  | .error reason =>
      return { check := stopped file .close (some handle) (some reason), file }
  | .ok _ => reopen expected file.release

/-- Take one file on a round trip through its live handle. -/
def visit (expected : Bytes) (file : TrackedFile) : Procedure Visit := do
  match file.binding.live? with
  | none => return { check := stopped file .notBound none none, file }
  | some handle =>
      match ← Procedure.request (.write handle expected) with
      | .error reason =>
          return {
            check := stopped file .write (some handle) (some reason)
            file
          }
      | .ok count =>
          if count = expected.length then closeWritten expected file handle
          else
            return {
              check := stopped file (.shortWrite count expected.length)
                (some handle) none
              file
            }

end RoundTrip

end FileConformance
