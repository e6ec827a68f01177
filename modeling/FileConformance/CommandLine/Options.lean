import FileConformance.CommandLine.Complaint
import FileConformance.Report
import FileConformance.Settings

/-!
# Options of the command

The command takes a workload, the subsystem to try it on, and how to write the
report.  Options that were read from arguments are in their ranges already, so
the stem is the only one of them that can still be refused.
-/

namespace FileConformance

namespace CommandLine

/-- The subsystem under test. -/
inductive Backend where
  /-- The files of a directory of the operating system. -/
  | host
  /-- The simulated store. -/
  | simulated
deriving DecidableEq

/-- How the report is written. -/
inductive Format where
  | json
  | human
deriving DecidableEq

/-- The written form of a report, its last line ended. -/
def Format.render (format : Format) (report : Report) : String :=
  match format with
  | .json => report.jsonText ++ "\n"
  | .human => report.text

/-- What the arguments of the command can choose. -/
structure Options where
  backend : Backend := .host
  /-- The directory of the test files, as it is written. -/
  root : Option String := none
  files : Nat
  bufferLength : Nat
  stem : String
  nameLimit : NameLimit
  /-- Where the draws of the simulated store begin. -/
  seed : Option UInt64 := none
  /-- The journal file, as it is written. -/
  journal : Option String := none
  format : Format := .human
  strict : Bool := false
  files_pos : 0 < files
  bufferLength_pos : 0 < bufferLength

namespace Options

/-- The options of a command without arguments: the common workload. -/
def standard : Options where
  files := Settings.standard.fileCount
  bufferLength := Settings.standard.bufferLength
  stem := Settings.standard.stem
  nameLimit := Settings.standard.nameLimit
  files_pos := Settings.standard.fileCount_pos
  bufferLength_pos := Settings.standard.bufferLength_pos

/-- The workload that the options describe. -/
def settings (options : Options) : Except Complaint Settings :=
  if usable_stem : Name.usableStem options.stem = true then
    .ok {
      fileCount := options.files
      bufferLength := options.bufferLength
      stem := options.stem
      nameLimit := options.nameLimit
      strict := options.strict
      journal := options.journal.isSome
      fileCount_pos := options.files_pos
      bufferLength_pos := options.bufferLength_pos
      usable_stem
    }
  else .error (.unusableStem options.stem)

end Options

end CommandLine

end FileConformance
