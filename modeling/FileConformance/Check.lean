import FileConformance.CallError
import FileConformance.Text.Json

/-!
# Checks

A check is the verdict on one call: what was expected of it, how it came out,
and what a reader needs to find the fault.

A call that was expected to succeed passes if it succeeds; one that was
expected to fail passes if it fails.  A round trip whose calls all succeed can
still end in different bytes, which is a verdict of its own.
-/

namespace FileConformance

/-- What a call is expected to do. -/
inductive Expectation where
  | success
  | failure
deriving DecidableEq

/-- What a check covers: a call, or a whole round trip. -/
inductive Operation where
  | create
  | openFile
  | close
  | read
  | write
  | delete
  | roundTrip
  | exit
deriving DecidableEq

/-- How a check came out. -/
inductive Outcome where
  /-- Expected to succeed and did. -/
  | pass
  /-- Expected to fail and did. -/
  | expectedFailure
  /-- Expected to succeed and failed. -/
  | unexpectedFailure
  /-- Expected to fail and succeeded. -/
  | unexpectedSuccess
  /-- A round trip that ended in different bytes. -/
  | contentMismatch
deriving DecidableEq

/-- How records name an expectation. -/
def Expectation.identifier : Expectation → String
  | .success => "success"
  | .failure => "failure"

namespace Operation

/-- How reports name an operation. -/
def label : Operation → String
  | .create => "create"
  | .openFile => "open"
  | .close => "close"
  | .read => "read"
  | .write => "write"
  | .delete => "delete"
  | .roundTrip => "round-trip"
  | .exit => "exit"

/-- How records name an operation. -/
def identifier : Operation → String
  | .roundTrip => "round_trip"
  | other => other.label

end Operation

namespace Outcome

/-- The verdict on a call that met or missed an expectation. -/
def classify (expectation : Expectation) (succeeded : Bool) : Outcome :=
  match expectation, succeeded with
  | .success, true => .pass
  | .success, false => .unexpectedFailure
  | .failure, false => .expectedFailure
  | .failure, true => .unexpectedSuccess

/-- Whether a verdict counts against the subsystem. -/
def isFailure : Outcome → Bool
  | .pass => false
  | .expectedFailure => false
  | _ => true

/-- How reports name a verdict. -/
def label : Outcome → String
  | .pass => "Pass"
  | .expectedFailure => "ExpectedFailure"
  | .unexpectedFailure => "UnexpectedFailure"
  | .unexpectedSuccess => "UnexpectedSuccess"
  | .contentMismatch => "ContentMismatch"

/-- How records name a verdict. -/
def identifier : Outcome → String
  | .pass => "pass"
  | .expectedFailure => "expected_failure"
  | .unexpectedFailure => "unexpected_failure"
  | .unexpectedSuccess => "unexpected_success"
  | .contentMismatch => "content_mismatch"

end Outcome

/-- The verdict on one call. -/
structure Check where
  operation : Operation
  /-- The file the call was about. -/
  target : String
  expectation : Expectation
  outcome : Outcome
  /-- The handle that was returned, or the one that was passed in. -/
  handle : Option Handle
  /-- The wording of the failure, if the call failed. -/
  error : Option String
  detail : Option String
deriving DecidableEq

namespace Check

/-- The check of a call that was answered. -/
def ofAnswer {Value : Type} (operation : Operation) (target : String)
    (expectation : Expectation) (handle : Option Handle)
    (answer : Except CallError Value) : Check :=
  match answer with
  | .ok _ =>
      { operation, target, expectation, handle
        outcome := .classify expectation true
        error := none
        detail := none }
  | .error reason =>
      { operation, target, expectation, handle
        outcome := .classify expectation false
        error := some reason.message
        detail := none }

/-- The check of a call that was not made; it counts as a failed call. -/
def notIssued (operation : Operation) (target : String)
    (expectation : Expectation) (detail : String) : Check where
  operation := operation
  target := target
  expectation := expectation
  outcome := .classify expectation false
  handle := none
  error := none
  detail := some detail

/-- The same check with a detail. -/
def withDetail (check : Check) (detail : String) : Check :=
  { check with detail := some detail }

/-- Whether a check counts against the subsystem. -/
def isFailure (check : Check) : Bool :=
  check.outcome.isFailure

/-- The fields of a check in a record; a field without a value is left out. -/
def fields (check : Check) : List (String × Json) :=
  [("op", .text check.operation.identifier),
    ("target", .text check.target),
    ("expect", .text check.expectation.identifier),
    ("outcome", .text check.outcome.identifier)] ++
  (check.handle.map fun handle => ("fd", .number handle.number)).toList ++
  (check.error.map fun error => ("error", .text error)).toList ++
  (check.detail.map fun detail => ("detail", .text detail)).toList

end Check

end FileConformance
