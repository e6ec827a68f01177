import FileConformance.CommandLine.Execution

/-!
# The command

Runs the command on the files of the machine.  Everything that is decided is
decided by the library; this module makes the calls of a procedure on real
files, and writes what the command shows.
-/

namespace FileConformance

namespace CommandLine

/-- The number under which the operating system reports a failure. -/
def errorNumber? : IO.Error → Option UInt32
  | .alreadyExists _ number _ | .otherError number _
  | .resourceBusy number _ | .resourceVanished number _
  | .unsupportedOperation number _ | .hardwareFault number _
  | .unsatisfiedConstraints number _ | .illegalOperation number _
  | .protocolError number _ | .timeExpired number _
  | .interrupted _ number _ | .noFileOrDirectory _ number _
  | .invalidArgument _ number _ | .permissionDenied _ number _
  | .resourceExhausted _ number _ | .inappropriateType _ number _
  | .noSuchThing _ number _ => some number
  | .unexpectedEof | .userError _ => none

/--
A failure of the machine, as the library knows it.  Some calls report the
number with its sign turned round.
-/
def systemErrorOf (error : IO.Error) : SystemError :=
  match errorNumber? error with
  | some number => .numbered (.ofNat number.toInt32.toInt.natAbs)
  | none => .described .other (some (toString error))

/-- Do something, and keep the failure if it fails. -/
def attempt {Result : Type} (action : IO Result) :
    IO (Except SystemError Result) := do
  match ← action.toBaseIO with
  | .ok result => return .ok result
  | .error error => return .error (systemErrorOf error)

/--
Make a directory unless it is there.  That a directory cannot be made inside
itself because it exists says that it is there and is a directory.
-/
def ensureDirectory (absolute : Bool) (names : List Bytes) :
    IO (Except SystemError Unit) := do
  let joined := List.intercalate [0x2f] names
  let written := if absolute then 0x2f :: joined else joined
  let location := String.ofList (Text.lossy written)
  match ← attempt (IO.FS.createDir location) with
  | .ok () => return .ok ()
  | .error reason =>
      match ← attempt (IO.FS.createDir (joinLocation location ".")) with
      | .ok () => return .error reason
      | .error within =>
          if within = .entryExists then return .ok ()
          else return .error reason

/-- The files of a directory of the machine, and the handles on them. -/
structure MachineFiles where
  /-- The directory, as it is written. -/
  root : String
  handles : List (Handle × IO.FS.Handle) := []
  nextHandle : Nat := 2

namespace MachineFiles

/-- The location of a name in the directory. -/
def locate (files : MachineFiles) (name : Bytes) : Except CallError String :=
  if Directory.isComponent name then
    match String.fromUTF8? ⟨name.toArray⟩ with
    | some text => .ok (joinLocation files.root text)
    | none => .error .invalidName
  else .error .invalidName

/-- Do something with the location of a name. -/
def locating {Result : Type} (files : MachineFiles) (name : Bytes)
    (action : String → IO Result) : IO (Except CallError Result) := do
  match files.locate name with
  | .error reason => return .error reason
  | .ok location => return (← attempt (action location)).mapError .ofSystem

/-- Open a file and number the handle. -/
def openAs (files : MachineFiles) (name : Bytes) (mode : IO.FS.Mode) :
    IO (Except CallError Handle × MachineFiles) := do
  match ← files.locating name fun location =>
      IO.FS.Handle.mk location mode with
  | .error reason => return (.error reason, files)
  | .ok machineHandle =>
      let handle : Handle := ⟨files.nextHandle⟩
      return (.ok handle, { files with
        handles := (handle, machineHandle) :: files.handles
        nextHandle := files.nextHandle + 1 })

/-- Do something with the file behind a handle. -/
def resolving {Result : Type} (files : MachineFiles) (handle : Handle)
    (action : IO.FS.Handle → IO Result) : IO (Except CallError Result) := do
  match files.handles.find? (·.1 = handle) with
  | none => return .error (.badHandle handle)
  | some (_, machineHandle) =>
      return (← attempt (action machineHandle)).mapError .ofSystem

/-- Make one call on the files of the machine. -/
def respond (files : MachineFiles) :
    (request : Call) → IO (request.Answer × MachineFiles)
  | .create name => files.openAs name .write
  | .openFile name => files.openAs name .readWrite
  | .close handle => do
      let answer ← files.resolving handle fun _ => pure ()
      return (answer, { files with
        handles := files.handles.filter (·.1 ≠ handle) })
  | .read handle buffer => do
      let answer ← files.resolving handle fun machineHandle =>
        machineHandle.read buffer.length.toUSize
      match answer with
      | .error reason => return (.refused reason buffer, files)
      | .ok content =>
          let data := content.toList.take buffer.length
          return (⟨.ok data.length, buffer.place data,
            Bytes.length_place (List.length_take_le _ _)⟩, files)
  | .write handle data => do
      let answer ← files.resolving handle fun machineHandle => do
        machineHandle.write ⟨data.toArray⟩
        machineHandle.flush
        return data.length
      return (answer, files)
  | .delete name => do
      let answer ← files.locating name fun location =>
        IO.FS.removeFile location
      return (answer, files)
  | .exit _ => return ((), files)

end MachineFiles

/-- A journal on the machine. -/
structure MachineJournal where
  /-- The file, if there is a journal. -/
  file : Option IO.FS.Handle
  spool : Journal.Spool := {}

namespace MachineJournal

/-- Write the lines that wait. -/
def flush (journal : MachineJournal) : IO MachineJournal := do
  if let some file := journal.file then
    file.putStr journal.spool.waiting
    file.flush
  return { journal with spool := { journal.spool with waiting := "" } }

/-- Collect the lines of events, and write whenever no more can wait. -/
def take (journal : MachineJournal) (events : List Event) :
    IO MachineJournal :=
  events.foldlM (fun journal event => do
    let next := { journal with spool := journal.spool.collect event }
    if next.spool.overflows then next.flush else return next) journal

end MachineJournal

/--
Follow a procedure on the files of the machine.  A journal that cannot be
written ends it.
-/
def runOnMachine {Result : Type} :
    Procedure Result → MachineFiles → MachineJournal →
      IO (Except Abort Result)
  | .done result, _, journal => do
      let written ← attempt journal.flush
      return (written.mapError .unwritableJournal).map fun _ => result
  | .abort reason, _, _ => return .error reason
  | .emit events next, files, journal => do
      match ← attempt (journal.take events) with
      | .error reason => return .error (.unwritableJournal reason)
      | .ok later => runOnMachine next files later
  | .call request next, files, journal => do
      let (answer, later) ← files.respond request
      runOnMachine (next answer) later journal

/-- Write what the command shows, and give its status. -/
def Ending.present (ending : Ending) : IO UInt32 := do
  let output ← IO.getStdout
  output.putStr ending.output
  output.flush
  if let some complaint := ending.complaint then
    IO.eprintln complaint.line
  return ending.status.toUInt32

/-- Open the journal, do a run, and present it. -/
def withJournal (options : Options)
    (run : MachineJournal → IO (Except Abort Conclusion)) : IO UInt32 := do
  match ← attempt (options.journal.mapM fun location =>
      IO.FS.Handle.mk location .write) with
  | .error reason => (Ending.refused (.unusableJournal reason)).present
  | .ok file =>
      match ← run { file } with
      | .error (.unwritableJournal reason) =>
          (Ending.refused (.unusableJournal reason)).present
      | .error _ => Ending.abandoned.present
      | .ok conclusion => conclusion.ending.present

/-- Try a simulated store, and write the journal of the run. -/
def runStore (options : Options) (settings : Settings) : IO UInt32 :=
  withJournal options fun journal => do
    match options.simulate settings .spacious with
    | .error reason => return .error reason
    | .ok conclusion =>
        let written ← attempt
          { journal with spool.waiting := conclusion.journal }.flush
        return (written.mapError .unwritableJournal).map fun _ => conclusion

/-- Try the files of a directory of the machine. -/
def runHost (options : Options) (settings : Settings) : IO UInt32 := do
  let temporary := (← IO.getEnv "TMPDIR").getD "/tmp"
  let root := options.rootLocation temporary
  let written := Location.ofString root
  let made : IO (Except SystemError Unit) := do
    match written.checkLength with
    | .error reason => return .error reason
    | .ok () =>
        Location.makeFirst (ensureDirectory written.absolute) written.ancestry
  match ← made with
  | .error reason => (Ending.refused (.unusableRoot root reason)).present
  | .ok () =>
      withJournal options
        (runOnMachine (concludeOnHost settings options.format .spacious)
          { root })

/-- Run the command with its arguments. -/
def runCommand (arguments : List String) : IO UInt32 := do
  match Invocation.ofArguments arguments with
  | .error misuse =>
      IO.eprintln ("error: " ++ misuse.message)
      Ending.misused.present
  | .ok .help =>
      IO.print helpText
      Ending.explained.present
  | .ok .version => Ending.present { status := 0, output := versionText }
  | .ok (.run options) =>
      match options.settings with
      | .error complaint => (Ending.refused complaint).present
      | .ok settings =>
          match options.backend with
          | .host => runHost options settings
          | .simulated => runStore options settings

end CommandLine

end FileConformance

/-- The command. -/
def main (arguments : List String) : IO UInt32 :=
  FileConformance.CommandLine.runCommand arguments
