import FileConformance.Procedure
import FileConformance.Table

/-!
# Walking the table

A bulk step visits the files of a table in order.  A visit makes the calls for
one file and gives the check and the file as it is afterwards; the walk puts
checks and files together again.  What happens to one file never stops the
walk.
-/

namespace FileConformance

/-- What visiting a file gives. -/
structure Visit where
  check : Check
  file : TrackedFile

namespace Walk

/-- Visit files in order, after some visits that were made before. -/
def filesAfter (visit : TrackedFile → Procedure Visit)
    (made : List Visit) : List TrackedFile → Procedure (List Visit)
  | [] => return made.reverse
  | file :: rest => do
      let next ← visit file
      filesAfter visit (next :: made) rest

/-- Visit files in order. -/
def files (visit : TrackedFile → Procedure Visit)
    (tracked : List TrackedFile) : Procedure (List Visit) :=
  filesAfter visit [] tracked

/-- Visits that were made before come first and change nothing else. -/
theorem filesAfter_eq (visit : TrackedFile → Procedure Visit)
    (made : List Visit) (tracked : List TrackedFile) :
    filesAfter visit made tracked = do
      let others ← files visit tracked
      return made.reverse ++ others := by
  induction tracked generalizing made with
  | nil => simp [files, filesAfter]
  | cons file rest ih =>
      simp only [files, filesAfter, ih (_ :: made), ih [_], bind_assoc,
        pure_bind]
      simp

@[simp]
theorem files_nil (visit : TrackedFile → Procedure Visit) :
    files visit [] = pure [] := rfl

theorem files_cons (visit : TrackedFile → Procedure Visit)
    (file : TrackedFile) (rest : List TrackedFile) :
    files visit (file :: rest) = do
      let first ← visit file
      let others ← files visit rest
      return first :: others := by
  simp [files, filesAfter, filesAfter_eq visit [_]]

/-- Visit the files of a table in order. -/
def table (visit : TrackedFile → Procedure Visit) (tracked : Table) :
    Procedure (List Check × Table) := do
  let visits ← files visit tracked.files
  return (visits.map Visit.check,
    { tracked with files := visits.map Visit.file })

end Walk

end FileConformance
