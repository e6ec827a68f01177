import FileConformance.Check

/-!
# Reports

A suite holds the checks of one step, and a report the suites of a run in
order.  A report has two written forms: a table for people, with the failing
checks below the suite they belong to, and a JSON value that keeps everything.
-/

namespace FileConformance

/-- The checks of one step. -/
structure Suite where
  title : String
  checks : List Check
deriving DecidableEq

/-- The suites of a run, in order. -/
structure Report where
  suites : List Suite
deriving DecidableEq

namespace Suite

/-- How many checks passed. -/
def passed (suite : Suite) : Nat :=
  suite.checks.countP fun check => !check.isFailure

/-- How many checks failed. -/
def failed (suite : Suite) : Nat :=
  suite.checks.countP Check.isFailure

/-- Whether no check failed. -/
def isSuccess (suite : Suite) : Bool :=
  suite.failed == 0

/-- The suite in the table: its title, padded, and its two counts. -/
def summaryLine (suite : Suite) : String :=
  String.ofList
    (suite.title.toList.rightpad 48 ' ' ++ [' '] ++
      (Nat.toDigits 10 suite.passed).leftpad 3 ' ' ++ " passed ".toList ++
      (Nat.toDigits 10 suite.failed).leftpad 3 ' ' ++ " failed".toList)

/-- A failing check in the table. -/
def failureLine (check : Check) : String :=
  "    FAIL " ++ check.operation.label ++ " " ++ check.target ++ ": " ++
    check.outcome.label ++ " (" ++ check.error.getD "-" ++ ") " ++
    check.detail.getD ""

/-- The lines of a suite in the table. -/
def lines (suite : Suite) : List String :=
  suite.summaryLine ::
    (suite.checks.filter Check.isFailure).map failureLine

/-- The suite as a JSON value. -/
def toJson (suite : Suite) : Json :=
  .object [("name", .text suite.title),
    ("checks", .list (suite.checks.map fun check => .object check.fields))]

end Suite

namespace Report

/-- The report before anything was checked. -/
def empty : Report where
  suites := []

/-- The report with one more suite at its end. -/
def push (report : Report) (suite : Suite) : Report where
  suites := report.suites ++ [suite]

/-- All checks, suite by suite. -/
def checks (report : Report) : List Check :=
  report.suites.flatMap Suite.checks

/-- The first suite with a title. -/
def suite? (report : Report) (title : String) : Option Suite :=
  report.suites.find? fun suite => suite.title == title

/-- How many checks passed. -/
def passed (report : Report) : Nat :=
  report.checks.countP fun check => !check.isFailure

/-- How many checks failed. -/
def failed (report : Report) : Nat :=
  report.checks.countP Check.isFailure

/-- Whether no check failed. -/
def isSuccess (report : Report) : Bool :=
  report.failed == 0

/-- The last line of the table. -/
def totalLine (report : Report) : String :=
  "total: " ++ toString report.passed ++ " passed, " ++
    toString report.failed ++ " failed"

/-- The lines of the table. -/
def lines (report : Report) : List String :=
  report.suites.flatMap Suite.lines ++ [report.totalLine]

/-- The table, each of its lines ended. -/
def text (report : Report) : String :=
  String.join (report.lines.map (· ++ "\n"))

/-- The report as a JSON value. -/
def toJson (report : Report) : Json :=
  .object [("suites", .list (report.suites.map Suite.toJson))]

/-- The report as JSON text. -/
def jsonText (report : Report) : String :=
  report.toJson.render

end Report

end FileConformance
