import FileConformance.Name
import FileConformance.Report

/-!
# Events

While a run proceeds it tells what happens: a bundled subsystem reports each
call that succeeded, and the harness reports its steps, its checks and its
totals.  An event has a level, a message and named fields.
-/

namespace FileConformance

/-- How urgent an event is, the most urgent first. -/
inductive Level where
  | error
  | warn
  | info
  | debug
  | trace
deriving DecidableEq

namespace Level

/-- The rank of a level; a lower rank is more urgent. -/
def rank : Level → Nat
  | .error => 0
  | .warn => 1
  | .info => 2
  | .debug => 3
  | .trace => 4

/-- How a level is written. -/
def label : Level → String
  | .error => "ERROR"
  | .warn => "WARN"
  | .info => "INFO"
  | .debug => "DEBUG"
  | .trace => "TRACE"

end Level

/-- The value of a field. -/
inductive FieldValue where
  | text (value : String)
  | number (value : Int)
  | flag (value : Bool)
deriving DecidableEq

/-- What a subsystem reports about a call. -/
inductive CallEvent where
  | created (name : Bytes) (handle : Handle)
  | opened (name : Bytes) (handle : Handle)
  /-- A subsystem that remembers names tells which file was closed. -/
  | closed (name : Option Bytes) (handle : Handle)
  | received (handle : Handle) (count : Nat)
  /-- A byte handed back by a read is not the one in the file. -/
  | corrupted (handle : Handle) (offset : Nat)
  | written (handle : Handle) (count : Nat)
  /-- A subsystem that counts handles tells how many are still open. -/
  | deleted (name : Bytes) (openHandles : Option Nat)
  | exited (code : Int32)
  /-- Power was lost with operations pending and handles open. -/
  | crashed (pending handles : Nat)
deriving DecidableEq

/-- What a run reports. -/
inductive Event where
  | call (event : CallEvent)
  | start (files bufferLength nameLimit : Nat) (journal : Bool)
  | step (title : String)
  | check (title : String) (check : Check)
  | summary (title : String) (passed failed : Nat)
  | total (passed failed : Nat)
  | exit (code : Int32)
deriving DecidableEq

namespace CallEvent

/-- Damage and loss are rarer than calls, and reported at a higher level. -/
def level : CallEvent → Level
  | .corrupted _ _ => .debug
  | .crashed _ _ => .debug
  | _ => .trace

/-- The message of an event. -/
def message : CallEvent → String
  | .created _ _ => "Create"
  | .opened _ _ => "Open"
  | .closed _ _ => "Close"
  | .received _ _ => "Read"
  | .corrupted _ _ => "Corrupt"
  | .written _ _ => "Write"
  | .deleted _ _ => "Delete"
  | .exited _ => "Exit"
  | .crashed _ _ => "Crash"

/-- The field for a name. -/
def nameField (name : Bytes) : String × FieldValue :=
  ("name", .text (Name.label name))

/-- The field for a handle, which subsystems report as text. -/
def handleField (handle : Handle) : String × FieldValue :=
  ("fd", .text (toString handle.number))

/-- The field for a count. -/
def countField (label : String) (count : Nat) : String × FieldValue :=
  (label, .number count)

/-- The fields of an event. -/
def fields : CallEvent → List (String × FieldValue)
  | .created name handle => [nameField name, handleField handle]
  | .opened name handle => [nameField name, handleField handle]
  | .closed name handle =>
      (name.map nameField).toList ++ [handleField handle]
  | .received handle count => [handleField handle, countField "len" count]
  | .corrupted handle offset =>
      [handleField handle, countField "offset" offset]
  | .written handle count => [handleField handle, countField "len" count]
  | .deleted name openHandles =>
      nameField name :: (openHandles.map (countField "open")).toList
  | .exited code => [("code", .number code.toInt)]
  | .crashed pending handles =>
      [countField "pending" pending, countField "handles" handles]

end CallEvent

namespace Event

/-- A failing check is a warning; everything else the harness says is news. -/
def level : Event → Level
  | .call event => event.level
  | .check _ verdict => if verdict.isFailure then .warn else .info
  | _ => .info

/-- The message of an event. -/
def message : Event → String
  | .call event => event.message
  | .start _ _ _ _ => "Start"
  | .step _ => "Step"
  | .check _ verdict => if verdict.isFailure then "FAIL" else "ok"
  | .summary _ _ _ => "Summary"
  | .total _ _ => "Total"
  | .exit _ => "Exit"

/-- The fields of a check; only a failing check tells its detail. -/
def checkFields (title : String) (verdict : Check) :
    List (String × FieldValue) :=
  [("step", .text title),
    ("op", .text verdict.operation.label),
    ("file", .text verdict.target)] ++
  (verdict.handle.map fun handle => ("fd", .number handle.number)).toList ++
  [("outcome", .text verdict.outcome.label),
    ("error", .text (verdict.error.getD ""))] ++
  (if verdict.isFailure then [("detail", .text (verdict.detail.getD ""))] else [])

/-- The fields of an event. -/
def fields : Event → List (String × FieldValue)
  | .call event => event.fields
  | .start files bufferLength nameLimit journal =>
      [("files", .number files), ("buffer_len", .number bufferLength),
        ("name_limit", .number nameLimit), ("journal", .flag journal)]
  | .step title => [("step", .text title)]
  | .check title verdict => checkFields title verdict
  | .summary title passed failed =>
      [("suite", .text title), ("passed", .number passed),
        ("failed", .number failed)]
  | .total passed failed =>
      [("passed", .number passed), ("failed", .number failed)]
  | .exit code => [("code", .number code.toInt)]

/-- The events at a level or above it. -/
def atLeast (level : Level) (events : List Event) : List Event :=
  events.filter fun event => event.level.rank ≤ level.rank

/-- The totals of a report: one event for each suite, then one for all. -/
def summaries (report : Report) : List Event :=
  (report.suites.map fun suite =>
    .summary suite.title suite.passed suite.failed) ++
  [.total report.passed report.failed]

end Event

end FileConformance
