import FileConformance.Proofs.Json.Rendering
import FileConformance.Proofs.Json.Unambiguous
import FileConformance.Proofs.Text.Lines
import FileConformance.Report

/-!
# Reading a report back

A report is read back from what its JSON text means, by the names of its fields
and of what its checks can be.  A field that a check has no value for is not
there.  Nothing is lost on the way: the text can be read in one way only, and
that is the report it was written from.

The same holds of a line of a journal, which has a check among its fields.
-/

namespace FileConformance

/-! ## Fields -/

namespace Json.Tree

/-- The value of a field of an object. -/
def field? (tree : Tree) (name : String) : Option Tree :=
  match tree with
  | .object fields => fields.lookup name
  | _ => none

def text? : Tree → Option String
  | .text value => some value
  | _ => none

/-- A number without sign, fraction and exponent. -/
def number? : Tree → Option Nat
  | .number lexeme =>
      if lexeme.all Char.isDigit then some (Nat.ofDigitChars 10 lexeme 0)
      else none
  | _ => none

/-- The items of a list, each of them read. -/
def each? {Value : Type} (read : Tree → Option Value) :
    Tree → Option (List Value)
  | .list items => items.mapM read
  | _ => none

/-- A field that has to be there. -/
def required? {Value : Type} (tree : Tree) (name : String)
    (read : Tree → Option Value) : Option Value :=
  (tree.field? name).bind read

/-- A field that may be absent. -/
def optional? {Value : Type} (tree : Tree) (name : String)
    (read : Tree → Option Value) : Option (Option Value) :=
  match tree.field? name with
  | none => some none
  | some value => (read value).map some

end Json.Tree

/-! ## Names -/

/-- The one of several values that has a name. -/
def named? {Value : Type} (values : List Value) (nameOf : Value → String)
    (tree : Json.Tree) : Option Value := do
  let name ← tree.text?
  values.find? fun value => nameOf value == name

def Expectation.ofTree? : Json.Tree → Option Expectation :=
  named? [.success, .failure] identifier

def Operation.ofTree? : Json.Tree → Option Operation :=
  named? [.create, .openFile, .close, .read, .write, .delete, .roundTrip,
    .exit] identifier

def Outcome.ofTree? : Json.Tree → Option Outcome :=
  named? [.pass, .expectedFailure, .unexpectedFailure, .unexpectedSuccess,
    .contentMismatch] identifier

theorem Expectation.ofTree?_identifier (expectation : Expectation) :
    ofTree? (.text expectation.identifier) = some expectation := by
  cases expectation <;> decide

theorem Operation.ofTree?_identifier (operation : Operation) :
    ofTree? (.text operation.identifier) = some operation := by
  cases operation <;> decide

theorem Outcome.ofTree?_identifier (outcome : Outcome) :
    ofTree? (.text outcome.identifier) = some outcome := by
  cases outcome <;> decide

/-! ## Reading -/

/-- Read a handle. -/
def Handle.ofTree? (tree : Json.Tree) : Option Handle :=
  tree.number?.map mk

/-- Read a check. -/
def Check.ofTree? (tree : Json.Tree) : Option Check := do
  let operation ← tree.required? "op" Operation.ofTree?
  let target ← tree.required? "target" Json.Tree.text?
  let expectation ← tree.required? "expect" Expectation.ofTree?
  let outcome ← tree.required? "outcome" Outcome.ofTree?
  let handle ← tree.optional? "fd" Handle.ofTree?
  let error ← tree.optional? "error" Json.Tree.text?
  let detail ← tree.optional? "detail" Json.Tree.text?
  return { operation, target, expectation, outcome, handle, error, detail }

/-- Read a suite. -/
def Suite.ofTree? (tree : Json.Tree) : Option Suite := do
  let title ← tree.required? "name" Json.Tree.text?
  let checks ← tree.required? "checks" (Json.Tree.each? Check.ofTree?)
  return { title, checks }

/-- Read a report. -/
def Report.ofTree? (tree : Json.Tree) : Option Report := do
  let suites ← tree.required? "suites" (Json.Tree.each? Suite.ofTree?)
  return { suites }

/-! ## Reading what was written -/

theorem Json.number?_number (number : Nat) :
    (Json.number number).tree.number? = some number := by
  have digits : (Nat.toDigits 10 number).all Char.isDigit = true :=
    List.all_eq_true.mpr (Json.digits_toDigits number).digit
  rw [Json.tree, Json.Tree.number?, if_pos digits,
    Nat.ofDigitChars_toDigits (by decide) (by decide)]

theorem Handle.ofTree?_number (handle : Handle) :
    ofTree? (Json.number handle.number).tree = some handle := by
  rw [ofTree?, Json.number?_number]
  rfl

namespace Json

variable {Value : Type} {fields : List (String × Json)} {name : String}
  {read : Tree → Option Value}

theorem field?_object (fields : List (String × Json)) (name : String) :
    (object fields).tree.field? name = (fields.lookup name).map tree := by
  rw [tree, fieldTrees_eq, Tree.field?]
  induction fields with
  | nil => rfl
  | cons field rest ih =>
      rcases field with ⟨first, value⟩
      rw [List.map_cons]
      show List.lookup name ((first, value.tree) :: _) = _
      rw [List.lookup_cons, List.lookup_cons]
      cases name == first with
      | true => rfl
      | false => exact ih

theorem required?_object {value : Json} {result : Value}
    (found : fields.lookup name = some value)
    (reads : read value.tree = some result) :
    (object fields).tree.required? name read = some result := by
  rw [Tree.required?, field?_object, found]
  exact reads

theorem optional?_object {result : Option Value} {write : Value → Json}
    (found : fields.lookup name = result.map write)
    (reads : ∀ value, read (write value).tree = some value) :
    (object fields).tree.optional? name read = some result := by
  rw [Tree.optional?, field?_object, found]
  cases result with
  | none => rfl
  | some value => exact congrArg (Option.map some) (reads value)

/-- An absent field leaves room for one of another name. -/
theorem lookup_optional (result : Option Value) (write : Value → Json)
    (name other : String) :
    ((result.map fun value => (name, write value)).toList).lookup other =
      if other = name then result.map write else none := by
  cases result with
  | none => rw [Option.map_none, Option.map_none, ite_self]; rfl
  | some value =>
      show List.lookup other [(name, write value)] = _
      rw [List.lookup_cons, List.lookup_nil, Option.map_some]
      by_cases same : other = name
      · rw [if_pos same, beq_iff_eq.mpr same]
      · rw [if_neg same, beq_eq_false_iff_ne.mpr same]

/-- The items of a list are read one by one. -/
theorem each?_list {write : Value → Json}
    (reads : ∀ value, read (write value).tree = some value)
    (values : List Value) :
    (list (values.map write)).tree.each? read = some values := by
  rw [tree, itemTrees_eq, Tree.each?]
  induction values with
  | nil => rfl
  | cons first rest ih =>
      rw [List.map_cons, List.map_cons, List.mapM_cons, reads, ih]
      rfl

end Json

/-- What the fields hold that a check need not have. -/
theorem Check.lookup_fields (check : Check) {name : String}
    (optional : name ∉ ["op", "target", "expect", "outcome"]) :
    check.fields.lookup name =
      ((if name = "fd" then
          check.handle.map fun handle => .number handle.number
        else none).or
        (if name = "error" then check.error.map .text else none)).or
          (if name = "detail" then check.detail.map .text else none) := by
  have absent : List.lookup name
      [("op", .text check.operation.identifier), ("target", .text check.target),
        ("expect", .text check.expectation.identifier),
        ("outcome", Json.text check.outcome.identifier)] = none := by
    simpa [List.lookup_eq_none_iff, not_or] using optional
  rw [fields, List.lookup_append, List.lookup_append, List.lookup_append,
    Json.lookup_optional, Json.lookup_optional, Json.lookup_optional, absent,
    Option.none_or]

/-- A check is read from its own fields, whatever others there are. -/
theorem Check.ofTree?_congr {tree other : Json.Tree}
    (same : ∀ name ∈ ["op", "target", "expect", "outcome", "fd", "error",
      "detail"], tree.field? name = other.field? name) :
    ofTree? tree = ofTree? other := by
  simp only [List.forall_mem_cons] at same
  rcases same with
    ⟨operation, target, expectation, outcome, handle, error, detail, _⟩
  simp only [ofTree?, Json.Tree.required?, Json.Tree.optional?, operation,
    target, expectation, outcome, handle, error, detail]

theorem Check.ofTree?_fields (check : Check) :
    ofTree? (Json.object check.fields).tree = some check := by
  have operation : (Json.object check.fields).tree.required? "op"
      Operation.ofTree? = some check.operation :=
    Json.required?_object rfl check.operation.ofTree?_identifier
  have target : (Json.object check.fields).tree.required? "target"
      Json.Tree.text? = some check.target :=
    Json.required?_object rfl rfl
  have expectation : (Json.object check.fields).tree.required? "expect"
      Expectation.ofTree? = some check.expectation :=
    Json.required?_object rfl check.expectation.ofTree?_identifier
  have outcome : (Json.object check.fields).tree.required? "outcome"
      Outcome.ofTree? = some check.outcome :=
    Json.required?_object rfl check.outcome.ofTree?_identifier
  have handle : (Json.object check.fields).tree.optional? "fd"
      Handle.ofTree? = some check.handle := by
    refine Json.optional?_object ?_ Handle.ofTree?_number
    rw [check.lookup_fields (by decide)]
    simp
  have error : (Json.object check.fields).tree.optional? "error"
      Json.Tree.text? = some check.error := by
    refine Json.optional?_object
      (?_ : _ = check.error.map Json.text) fun _ => rfl
    rw [check.lookup_fields (by decide)]
    simp
  have detail : (Json.object check.fields).tree.optional? "detail"
      Json.Tree.text? = some check.detail := by
    refine Json.optional?_object
      (?_ : _ = check.detail.map Json.text) fun _ => rfl
    rw [check.lookup_fields (by decide)]
    simp
  simp only [ofTree?, operation, target, expectation, outcome, handle, error,
    detail]
  rfl

theorem Suite.ofTree?_toJson (suite : Suite) :
    ofTree? suite.toJson.tree = some suite := by
  have title : suite.toJson.tree.required? "name" Json.Tree.text? =
      some suite.title :=
    Json.required?_object rfl rfl
  have checks : suite.toJson.tree.required? "checks"
      (Json.Tree.each? Check.ofTree?) = some suite.checks :=
    Json.required?_object rfl
      (Json.each?_list Check.ofTree?_fields suite.checks)
  simp only [ofTree?, title, checks]
  rfl

theorem Report.ofTree?_toJson (report : Report) :
    ofTree? report.toJson.tree = some report := by
  have suites : report.toJson.tree.required? "suites"
      (Json.Tree.each? Suite.ofTree?) = some report.suites :=
    Json.required?_object rfl
      (Json.each?_list Suite.ofTree?_toJson report.suites)
  simp only [ofTree?, suites]
  rfl

/--
The text of a report is valid JSON without a control character, and whoever
reads it by the grammar and the names gets just the report back.  So no other
report has the same text.
-/
theorem Report.jsonText_reads_back (report : Report) :
    (∀ character ∈ report.jsonText.toList, 0x20 ≤ character.toNat) ∧
      (∃ tree, Json.Means report.jsonText tree) ∧
      (∀ tree, Json.Means report.jsonText tree →
        ofTree? tree = some report) ∧
      ∀ other : Report, other.jsonText = report.jsonText →
        other = report := by
  have reads : ∀ report : Report, ∀ tree,
      Json.Means report.jsonText tree → ofTree? tree = some report := by
    intro report tree means
    rw [means.unique (Json.means_render report.toJson)]
    exact report.ofTree?_toJson
  refine ⟨?_, ⟨_, Json.means_render report.toJson⟩, reads report, ?_⟩
  · rw [jsonText, Json.render, String.toList_ofList]
    exact Json.printable_characters report.toJson
  · intro other same
    have means := Json.means_render other.toJson
    have first := reads other _ means
    have second := reads report other.toJson.tree (same ▸ means)
    exact Option.some.inj (first.symm.trans second)

/-! ## Lines of a journal -/

namespace Journal

/-- What a line of a journal tells. -/
structure Entry where
  position : Nat
  title : String
  check : Check
deriving DecidableEq

/-- Read what a line tells. -/
def Entry.ofTree? (tree : Json.Tree) : Option Entry := do
  let position ← tree.required? "seq" Json.Tree.number?
  let title ← tree.required? "step" Json.Tree.text?
  let check ← Check.ofTree? tree
  return { position, title, check }

/-- A line is valid JSON, and whoever reads it gets just an entry. -/
structure Entry.ToldBy (entry : Entry) (line : String) : Prop where
  valid : ∃ tree, Json.Means line tree
  reads : ∀ {tree : Json.Tree}, Json.Means line tree →
    Entry.ofTree? tree = some entry

theorem line_toldBy (position : Nat) (title : String) (check : Check) :
    Entry.ToldBy ⟨position, title, check⟩ (line position title check) := by
  let leading := [("seq", Json.number position), ("step", .text title)]
  let written := Json.object (leading ++ check.fields)
  have means : Json.Means (line position title check) written.tree :=
    Json.means_render written
  have number : written.tree.required? "seq" Json.Tree.number? =
      some position :=
    Json.required?_object rfl (Json.number?_number position)
  have step : written.tree.required? "step" Json.Tree.text? = some title :=
    Json.required?_object rfl rfl
  have same : Check.ofTree? written.tree = some check := by
    rw [← check.ofTree?_fields]
    refine Check.ofTree?_congr fun name member => ?_
    have foreign : leading.lookup name = none := by
      have other : ∀ field ∈ ["op", "target", "expect", "outcome", "fd",
          "error", "detail"], field ≠ "seq" ∧ field ≠ "step" := by decide
      rw [List.lookup_eq_none_iff]
      simp [leading, other name member]
    rw [Json.field?_object, Json.field?_object, List.lookup_append, foreign,
      Option.none_or]
  refine ⟨⟨_, means⟩, fun meansToo => ?_⟩
  rw [meansToo.unique means]
  simp only [Entry.ofTree?, number, step, same]
  rfl

end Journal

end FileConformance
