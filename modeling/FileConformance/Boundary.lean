import FileConformance.NameLimit
import FileConformance.Procedure

/-!
# Probing the limit on names

Each call is made once with the longest name that a limit accepts and once
with a name one byte longer.  The first must succeed and the second must fail,
whatever the call.
-/

namespace FileConformance

/-- The calls that probe a limit on names. -/
inductive BoundaryCall where
  | create
  | openFile
  | delete
deriving DecidableEq

namespace Boundary

/-- The check of a probe, with the length of the name as its detail. -/
def check {Value : Type} (operation : Operation) (name : Bytes)
    (expectation : Expectation) (handle : Option Handle)
    (answer : Except CallError Value) : Check :=
  (Check.ofAnswer operation (Name.label name) expectation handle
    answer).withDetail (toString name.length ++ " byte name")

/-- Make one call with one name. -/
def probe (call : BoundaryCall) (name : Bytes) (expectation : Expectation) :
    Procedure Check :=
  match call with
  | .create => do
      let answer ← Procedure.request (.create name)
      return check .create name expectation answer.toOption answer
  | .openFile => do
      let answer ← Procedure.request (.openFile name)
      return check .openFile name expectation answer.toOption answer
  | .delete => do
      let answer ← Procedure.request (.delete name)
      return check .delete name expectation none answer

/-- Make one call on either side of a limit. -/
def checks (limit : NameLimit) (call : BoundaryCall) :
    Procedure (List Check) := do
  let accepted ← probe call limit.longestAccepted .success
  let rejected ← probe call limit.shortestRejected .failure
  return [accepted, rejected]

end Boundary

end FileConformance
