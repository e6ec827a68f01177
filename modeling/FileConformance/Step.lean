import FileConformance.Boundary
import FileConformance.Bulk
import FileConformance.RoundTrip

/-!
# Steps

What a harness can do in one go: a bulk call on every file, a round trip of
every file, or a probe of the limit on names.
-/

namespace FileConformance

/-- One go of the harness. -/
inductive Step where
  | bulk (call : BulkCall) (expectation : Expectation)
  | roundTrip
  | boundary (call : BoundaryCall)
deriving DecidableEq

/-- Do a step: the checks it makes, and the table afterwards. -/
def Step.perform (limit : NameLimit) (step : Step) (table : Table) :
    Procedure (List Check × Table) :=
  match step with
  | .bulk call expectation => Walk.table (Bulk.visit call expectation) table
  | .roundTrip =>
      Walk.table (fun file => RoundTrip.visit (table.expected file.index) file)
        table
  | .boundary call => do
      let checks ← Boundary.checks limit call
      return (checks, table)

end FileConformance
