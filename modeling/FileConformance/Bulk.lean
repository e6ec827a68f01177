import FileConformance.Walk

/-!
# Bulk steps

Create, open, close or delete every file of a table, and judge each call by
one expectation.

Closing is expected to fail for a file that is not bound, whatever the caller
expects of the others: a released handle is closed a second time so that the
subsystem can refuse it, and a file that never had a handle is recorded
without a call.
-/

namespace FileConformance

/-- The calls that a bulk step can make for every file. -/
inductive BulkCall where
  | create
  | openFile
  | close
  | delete
deriving DecidableEq

namespace Bulk

/-- Create a file and bind the handle. -/
def create (expectation : Expectation) (file : TrackedFile) :
    Procedure Visit := do
  let answer ← Procedure.request (.create file.path)
  return {
    check := .ofAnswer .create file.name expectation answer.toOption answer
    file := file.rebind answer
  }

/-- Open a file and bind the handle. -/
def openFile (expectation : Expectation) (file : TrackedFile) :
    Procedure Visit := do
  let answer ← Procedure.request (.openFile file.path)
  return {
    check := .ofAnswer .openFile file.name expectation answer.toOption answer
    file := file.rebind answer
  }

/-- Close a file's handle; a handle that is not live must be refused. -/
def close (expectation : Expectation) (file : TrackedFile) :
    Procedure Visit :=
  match file.binding with
  | .bound handle => do
      let answer ← Procedure.request (.close handle)
      return {
        check := .ofAnswer .close file.name expectation (some handle) answer
        file := if answer.isOk then file.release else file
      }
  | .released handle => do
      let answer ← Procedure.request (.close handle)
      let check : Check :=
        .ofAnswer .close file.name .failure (some handle) answer
      return { check := check.withDetail "handle already closed", file }
  | .unbound =>
      return {
        check := .notIssued .close file.name .failure
          "never bound, nothing to close"
        file
      }

/-- Delete a file; its handle stays tracked until it is closed. -/
def delete (expectation : Expectation) (file : TrackedFile) :
    Procedure Visit := do
  let answer ← Procedure.request (.delete file.path)
  return {
    check := .ofAnswer .delete file.name expectation file.binding.live? answer
    file
  }

/-- The visit that a bulk call makes. -/
def visit : BulkCall → Expectation → TrackedFile → Procedure Visit
  | .create => create
  | .openFile => openFile
  | .close => close
  | .delete => delete

end Bulk

end FileConformance
