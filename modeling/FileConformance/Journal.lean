import FileConformance.Procedure

/-!
# Journals

A journal has one line for each check, in the order in which the checks are
reported: the place of the check in the run, the step it belongs to, and the
check itself.

Lines are collected before they are written.  A medium without space is
therefore noticed late: when more lines wait than can be collected, or else at
the end of the run.  Then the run is given up.
-/

namespace FileConformance

namespace Journal

/-- The line of a check: its place in the run, its step, and the check. -/
def line (position : Nat) (title : String) (check : Check) : String :=
  Json.render (.object
    ([("seq", .number position), ("step", .text title)] ++ check.fields))

/-- The lines for the checks of a step, the first check at a place. -/
def lines (position : Nat) (title : String) (checks : List Check) :
    List String :=
  checks.mapIdx fun offset check => line (position + offset) title check

/-- The text of some lines, each of them ended. -/
def text (lines : List String) : String :=
  String.join (lines.map (· ++ "\n"))

/-! ## Collecting lines -/

/-- What of a journal is not written yet. -/
structure Spool where
  /-- The place of the next check. -/
  position : Nat := 0
  /-- The lines that wait. -/
  waiting : String := ""

namespace Spool

/-- How many bytes can wait. -/
def capacity : Nat := 8192

/-- More waits than can be collected. -/
def overflows (spool : Spool) : Bool :=
  capacity < spool.waiting.utf8ByteSize

/-- Collect the line of an event, if the event is a check. -/
def collect (spool : Spool) : Event → Spool
  | .check title check => {
      position := spool.position + 1
      waiting := spool.waiting ++ line spool.position title check ++ "\n"
    }
  | _ => spool

/-- Collect lines of events up to the first that does not fit any more. -/
def collectAll (spool : Spool) : List Event → List Event × Spool
  | [] => ([], spool)
  | event :: rest =>
      let next := spool.collect event
      if next.overflows then ([event], next)
      else
        let (reported, last) := next.collectAll rest
        (event :: reported, last)

end Spool

/-- What a journal is written on. -/
inductive Medium where
  /-- It takes everything. -/
  | spacious
  /-- It takes nothing. -/
  | full
deriving DecidableEq

end Journal

namespace Procedure

variable {Result : Type}

/--
A procedure whose journal is on a medium without space: it gives up after the
check whose line does not fit any more, or at its end if lines wait then.
-/
def withoutSpace (spool : Journal.Spool) :
    Procedure Result → Procedure Result
  | .done result =>
      if spool.waiting.isEmpty then .done result
      else .abort (.unwritableJournal .noSpace)
  | .abort reason => .abort reason
  | .emit events next =>
      let (reported, later) := spool.collectAll events
      if later.overflows then
        .emit reported (.abort (.unwritableJournal .noSpace))
      else .emit reported (next.withoutSpace later)
  | .call request next =>
      .call request fun answer => (next answer).withoutSpace spool

/-- A procedure with its journal on a medium. -/
def journalledOn (medium : Journal.Medium) (procedure : Procedure Result) :
    Procedure Result :=
  match medium with
  | .spacious => procedure
  | .full => procedure.withoutSpace {}

end Procedure

end FileConformance
