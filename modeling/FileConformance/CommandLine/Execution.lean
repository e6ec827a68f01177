import FileConformance.CommandLine.Arguments
import FileConformance.Directory
import FileConformance.Disk.Location
import FileConformance.Scenario
import FileConformance.Store.Calls

/-!
# Execution of the command

A run of the command makes its files ready, takes the subsystem through the
scenario, and shows the report.  On the simulated store the report is shown
after the end and includes the call made afterwards.  On the host the end is
the end of the command itself, so the report is shown before it.

What a run leaves behind is an ending and a disk.  Only the files that the
command makes, the journal among them, depend on the disk it starts from.
Some files of a disk are devices: a journal on one of them is shown, or cannot
be written.

There is memory for every run, but none of its pieces can be longer than a
process can address.  Where one would have to be, the run is given up.
-/

namespace FileConformance

namespace CommandLine

/-- What the command shows, and the status it ends with. -/
structure Ending where
  status : UInt8
  output : String := ""
  complaint : Option Complaint := none
deriving DecidableEq

namespace Ending

/-- The command could not do its work. -/
def refused (complaint : Complaint) : Ending where
  status := 2
  complaint := some complaint

/-- The arguments cannot be read; how they should be is told apart. -/
def misused : Ending where
  status := 2

/-- The command was asked how it is used, which is told apart. -/
def explained : Ending where
  status := 0

/-- The run was given up. -/
def abandoned : Ending where
  status := 101

end Ending

/-! ## The scenario of a run -/

/-- The status of a process that ends with an exit code. -/
def statusOf (code : Int32) : UInt8 :=
  code.toInt8.toUInt8

/-- The ending of a run, and what it wrote to the journal. -/
structure Conclusion where
  ending : Ending
  journal : String := ""
deriving DecidableEq

/-- Do the script with the journal on a medium. -/
def performScript (settings : Settings) (medium : Journal.Medium) :
    Procedure Scenario :=
  (Scenario.start settings).run.journalledOn medium

/-! ### Memory -/

/-- The longest piece of memory that a process can ask for, in bytes. -/
def longestPiece : Nat := 0x7fffffffffffffff

/-- What a check takes in a list of checks, in bytes; nothing takes more. -/
def checkSize : Nat := 96

/-- What a piece of memory would be too long for. -/
inductive Shortage where
  /-- The files or the names that are probed, before anything is done. -/
  | names
  /-- The content of a file, when it is needed for the first time. -/
  | contents
deriving DecidableEq

/-- What there is no memory for in a run. -/
def shortage? (settings : Settings) : Option Shortage :=
  if longestPiece < settings.fileCount * checkSize then some .names
  else if longestPiece < settings.nameLimit.bytes then some .names
  else if longestPiece < settings.bufferLength then some .contents
  else none

/--
Do the script up to the first step that takes contents, and give up.  The lines
of the journal that wait are written then if they can be.
-/
def giveUp (settings : Settings) (medium : Journal.Medium) :
    Shortage → Procedure Conclusion
  | .names => .abort .capacityOverflow
  | .contents => do
      let begun := Scenario.start settings
      Procedure.report (.start settings.fileCount settings.bufferLength
        settings.nameLimit.bytes settings.journal)
      let reached := begun.performAll (Scenario.script.take 1)
      match medium with
      | .spacious => do
          let last ← reached
          return { ending := .abandoned, journal := last.journalText }
      | .full =>
          let abandoned : Procedure Conclusion := do
            let _ ← reached
            .abort .capacityOverflow
          abandoned.journalledOn .full

/-! ### Conclusions -/

/-- Do the script and show the report; then the process ends. -/
def concludeOnHost (settings : Settings) (format : Format)
    (medium : Journal.Medium) : Procedure Conclusion :=
  match shortage? settings with
  | some shortage => giveUp settings medium shortage
  | none => do
      let finished ← performScript settings medium
      Procedure.reportAll (Event.summaries finished.report)
      Procedure.report (.exit finished.exitCode)
      Procedure.request (.exit finished.exitCode)
      return {
        ending := {
          status := statusOf finished.exitCode
          output := format.render finished.report
        }
        journal := finished.journalText
      }

/-- Do the script, end the simulated process and show the report. -/
def concludeOnStore (settings : Settings) (format : Format)
    (medium : Journal.Medium) : Procedure Conclusion :=
  match shortage? settings with
  | some shortage => giveUp settings medium shortage
  | none => do
      let finished ← performScript settings medium
      Procedure.reportAll (Event.summaries finished.report)
      let (ended, probe) ← finished.terminate
      return {
        ending := {
          status := if probe.isFailure then 1 else statusOf ended.exitCode
          output := format.render ended.report
          complaint := if probe.isFailure then some .notEnded else none
        }
        journal := ended.journalText
      }

/-! ## Files -/

/-- What a file is that is a device. -/
inductive Device where
  /-- It takes no data. -/
  | full
  /-- What is written to it is shown. -/
  | display
  /-- It cannot be opened. -/
  | absent (reason : SystemError)
deriving DecidableEq

/-- What a run finds. -/
structure Surroundings where
  disk : Disk
  /-- The directory where written locations start. -/
  working : Nat
  /-- The directory for temporary files, as it is written. -/
  temporary : String
  /-- The files that are devices. -/
  devices : List (Nat × Device) := []

/-- The location of a name in a directory. -/
def joinLocation (directory name : String) : String :=
  if directory.isEmpty || directory.endsWith "/" then directory ++ name
  else directory ++ "/" ++ name

/-- The directory of the test files, as it is written. -/
def Options.rootLocation (options : Options) (temporary : String) : String :=
  options.root.getD (joinLocation temporary program)

namespace Surroundings

/-- Make the directory of the test files; give it, and the disk then. -/
def makeRoot (surroundings : Surroundings) (location : String) :
    Except Complaint Nat × Disk :=
  let working := surroundings.working
  let written := Location.ofString location
  let (outcome, disk) := surroundings.disk.makeDirectories working written
  let root := do
    outcome
    disk.enter (written.origin working) written.names
  (root.mapError (.unusableRoot location), disk)

/-- The device that a file is, if it is one. -/
def device? (surroundings : Surroundings) (file : Nat) : Option Device :=
  surroundings.devices.lookup file

/-- Open the journal at a location. -/
def openJournal (surroundings : Surroundings) (location : String) :
    Except SystemError (Nat × Disk) := do
  let (file, disk) ← surroundings.disk.createFileAt surroundings.working
    (.ofString location)
  match surroundings.device? file with
  | some (.absent reason) => .error reason
  | _ => return (file, disk)

/-- Open the journal, if there is to be one. -/
def makeJournal (surroundings : Surroundings) (options : Options) :
    Except Complaint (Option Nat × Disk) :=
  match options.journal with
  | none => .ok (none, surroundings.disk)
  | some location =>
      match surroundings.openJournal location with
      | .ok (file, disk) => .ok (some file, disk)
      | .error reason => .error (.unusableJournal reason)

/-- What the journal is written on. -/
def medium (surroundings : Surroundings) (journal : Option Nat) :
    Journal.Medium :=
  match journal.bind surroundings.device? with
  | some .full => .full
  | _ => .spacious

/-- Write a journal, and show what is on display. -/
def deliver (surroundings : Surroundings) (conclusion : Conclusion)
    (journal : Option Nat) (disk : Disk) : Ending × Disk :=
  match journal with
  | none => (conclusion.ending, disk)
  | some file =>
      match surroundings.device? file with
      | none =>
          (conclusion.ending,
            disk.writeFile file 0 (Bytes.ofString conclusion.journal))
      | some .display =>
          ({ conclusion.ending with
              output := conclusion.journal ++ conclusion.ending.output },
            disk)
      | some _ => (conclusion.ending, disk)

/-- Show how a run ended, and write its journal. -/
def conclude (surroundings : Surroundings)
    (ending : Except Abort Conclusion) (journal : Option Nat) (disk : Disk) :
    Ending × Disk :=
  match ending with
  | .ok conclusion => surroundings.deliver conclusion journal disk
  | .error (.unwritableJournal reason) =>
      (.refused (.unusableJournal reason), disk)
  | .error _ => (.abandoned, disk)

end Surroundings

/-! ## The two backends -/

/-- Try the files of a directory. -/
def executeOnHost (options : Options) (settings : Settings)
    (surroundings : Surroundings) : Ending × Disk :=
  let location := options.rootLocation surroundings.temporary
  match surroundings.makeRoot location with
  | (.error complaint, disk) => (.refused complaint, disk)
  | (.ok root, disk) =>
      match { surroundings with disk }.makeJournal options with
      | .error complaint => (.refused complaint, disk)
      | .ok (journal, disk) =>
          let run :=
            (concludeOnHost settings options.format
              (surroundings.medium journal)).run Directory.subsystem
              (.fresh disk (.ok root) (joinLocation location "").utf8ByteSize)
          surroundings.conclude run.ending journal run.state.disk

/-- The simulated store that the options describe. -/
def Options.store (options : Options) : Store :=
  .seeded { StoreSettings.standard with nameLimit := options.nameLimit }
    (options.seed.getD 0)

/-- What comes of trying the simulated store. -/
def Options.simulate (options : Options) (settings : Settings)
    (medium : Journal.Medium) : Except Abort Conclusion :=
  ((concludeOnStore settings options.format medium).run Store.subsystem
    options.store).ending

/-- Try a simulated store. -/
def executeOnStore (options : Options) (settings : Settings)
    (surroundings : Surroundings) : Ending × Disk :=
  match surroundings.makeJournal options with
  | .error complaint => (.refused complaint, surroundings.disk)
  | .ok (journal, disk) =>
      surroundings.conclude
        (options.simulate settings (surroundings.medium journal)) journal disk

/-! ## The command -/

/-- What the command shows of itself when it is asked for its version. -/
def versionText : String := program ++ " " ++ version ++ "\n"

/-- Try the subsystem that the options choose. -/
def Options.execute (options : Options) (surroundings : Surroundings) :
    Ending × Disk :=
  match options.settings with
  | .error complaint => (.refused complaint, surroundings.disk)
  | .ok settings =>
      match options.backend with
      | .host => executeOnHost options settings surroundings
      | .simulated => executeOnStore options settings surroundings

/-- Run the command with its arguments. -/
def execute (arguments : List String) (surroundings : Surroundings) :
    Ending × Disk :=
  match Invocation.ofArguments arguments with
  | .error _ => (.misused, surroundings.disk)
  | .ok .help => (.explained, surroundings.disk)
  | .ok .version =>
      ({ status := 0, output := versionText }, surroundings.disk)
  | .ok (.run options) => options.execute surroundings

end CommandLine

end FileConformance
