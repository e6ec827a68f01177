import FileConformance.Abort
import FileConformance.NameLimit
import FileConformance.Pattern
import FileConformance.Table

/-!
# Settings of a scenario

The workload of a scenario: how many files, how long, how named, and what is
expected of them.  Every value of the type is usable; a setter refuses what
would not be.
-/

namespace FileConformance

/-- The workload of a scenario. -/
structure Settings where
  fileCount : Nat := 14
  bufferLength : Nat := 256
  /-- Test files are named by the stem and their index. -/
  stem : String := "file"
  pattern : Pattern := .standard
  /-- The limit on names to probe. -/
  nameLimit : NameLimit := .standard
  /-- Whether a failed check makes the exit code non-zero. -/
  strict : Bool := false
  /-- Whether every check is journalled. -/
  journal : Bool := false
  fileCount_pos : 0 < fileCount := by decide
  bufferLength_pos : 0 < bufferLength := by decide
  usable_stem : Name.usableStem stem = true := by decide
deriving DecidableEq

namespace Settings

/-- The common workload. -/
def standard : Settings := {}

/-- Track another number of files. -/
def withFileCount (settings : Settings) (count : Nat) :
    Except Abort Settings :=
  if positive : 0 < count then
    .ok { settings with fileCount := count, fileCount_pos := positive }
  else .error .noFiles

/-- Give the files another length. -/
def withBufferLength (settings : Settings) (length : Nat) :
    Except Abort Settings :=
  if positive : 0 < length then
    .ok { settings with bufferLength := length, bufferLength_pos := positive }
  else .error .noContent

/-- Name the files by another stem. -/
def withStem (settings : Settings) (stem : String) : Except Abort Settings :=
  if usable : Name.usableStem stem = true then
    .ok { settings with stem, usable_stem := usable }
  else .error .unusableStem

/-- Fill the files by another pattern. -/
def withPattern (settings : Settings) (pattern : Pattern) : Settings :=
  { settings with pattern }

/-- Probe another limit on names. -/
def withNameLimit (settings : Settings) (bytes : Nat) :
    Except Abort Settings :=
  match NameLimit.ofBytes? bytes with
  | some nameLimit => .ok { settings with nameLimit }
  | none => .error .nameLimitTooSmall

/-- Let failed checks decide the exit code, or not. -/
def withStrict (settings : Settings) (strict : Bool) : Settings :=
  { settings with strict }

/-- Journal every check, or none. -/
def withJournal (settings : Settings) (journal : Bool) : Settings :=
  { settings with journal }

/-- The table of test files, none of them bound. -/
def table (settings : Settings) : Table :=
  .numbered settings.stem settings.fileCount settings.pattern
    settings.bufferLength

end Settings

end FileConformance
