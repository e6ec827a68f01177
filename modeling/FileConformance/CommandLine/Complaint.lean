import FileConformance.Name
import FileConformance.SystemError
import FileConformance.Text.Quoted

/-!
# Complaints of the command

A failed check is part of the report.  The command itself complains only when
it cannot do its work, or when the process that it ended went on.
-/

namespace FileConformance

namespace CommandLine

/-- What the command is called. -/
def program : String := "fsconform"

/-- Which version of the command this is. -/
def version : String := "0.1.0"

/-- Why the command could not do its work. -/
inductive Complaint where
  /-- The stem of the test files is no single path component. -/
  | unusableStem (stem : String)
  /-- The directory of the test files can be neither found nor made. -/
  | unusableRoot (location : String) (reason : SystemError)
  /-- The journal file cannot be made or written. -/
  | unusableJournal (reason : SystemError)
  /-- The subsystem went on after its end. -/
  | notEnded
deriving DecidableEq

/-- The wording of each complaint. -/
def Complaint.message : Complaint → String
  | .unusableStem stem =>
      "invalid argument: prefix " ++ Text.quoted stem ++
        " is not a single path component"
  | .unusableRoot location reason =>
      "cannot prepare root directory " ++ location ++ ": " ++ reason.message
  | .unusableJournal reason => "IO error: " ++ reason.message
  | .notEnded => "subsystem did not terminate properly"

/-- A complaint as the command writes it. -/
def Complaint.line (complaint : Complaint) : String :=
  program ++ ": " ++ complaint.message

end CommandLine

end FileConformance
