import FileConformance.Journal

/-!
# Lines

A text whose lines are ended one by one is taken apart into them again by
cutting it at the line ends, as long as none of them is broken.

Whatever a JSON value says, its written form has no control character: those of
a text are escaped, and everything else is digits and punctuation.  So a written
value is never broken across lines, and a journal is taken apart in this way.
-/

namespace FileConformance

namespace Text

/-- A text without a line end. -/
def Unbroken (text : String) : Prop :=
  '\n' ∉ text.toList

instance (text : String) : Decidable (Unbroken text) :=
  inferInstanceAs (Decidable ('\n' ∉ text.toList))

theorem Unbroken.append {first second : String}
    (left : Unbroken first) (right : Unbroken second) :
    Unbroken (first ++ second) := by
  rw [Unbroken, String.toList_append]
  exact List.not_mem_append left right

/-- Ended lines are cut at their ends into the lines and an empty rest. -/
theorem splitOn_join {lines : List String}
    (unbroken : ∀ line ∈ lines, Unbroken line) :
    (String.join (lines.map (· ++ "\n"))).toList.splitOn '\n' =
      lines.map String.toList ++ [[]] := by
  induction lines with
  | nil => rfl
  | cons line rest ih =>
      rw [List.forall_mem_cons] at unbroken
      have split :
          (String.join ((line :: rest).map (· ++ "\n"))).toList =
            line.toList ++
              '\n' :: (String.join (rest.map (· ++ "\n"))).toList := by
        simp
      rw [split, List.splitOn_append_cons_self_of_not_mem unbroken.1,
        ih unbroken.2]
      rfl

end Text

namespace Json

/-- No character is a control character. -/
def Printable (characters : List Char) : Prop :=
  ∀ character ∈ characters, 0x20 ≤ character.toNat

theorem printable_nil : Printable [] := List.forall_mem_nil _

theorem Printable.append {first second : List Char}
    (left : Printable first) (right : Printable second) :
    Printable (first ++ second) :=
  List.forall_mem_append.mpr ⟨left, right⟩

/-- A line end is a control character. -/
theorem Printable.lineEnd_notMem {characters : List Char}
    (printable : Printable characters) : '\n' ∉ characters :=
  fun member => absurd (printable '\n' member) (by decide)

/-- A visible character stands for itself. -/
theorem printable_mark (character : Char)
    (visible : 0x20 ≤ character.toNat := by decide) :
    Printable [character] :=
  List.forall_mem_singleton.mpr visible

theorem printable_digit (value : Nat) :
    0x20 ≤ (hexDigit value).toNat := by
  have bounded : value % 16 < 16 := Nat.mod_lt value (by decide)
  have all : ∀ digit < 16, 0x20 ≤ (Nat.digitChar digit).toNat := by
    decide
  exact all _ bounded

theorem printable_escape (character : Char) :
    Printable (escape character) := by
  unfold escape
  split
  case h_8 =>
      split
      · intro other member
        simp only [List.mem_cons, List.not_mem_nil, or_false] at member
        rcases member with rfl | rfl | rfl | rfl | rfl | rfl
        · decide
        · decide
        · decide
        · decide
        · exact printable_digit _
        · exact printable_digit _
      · rename_i visible
        intro other member
        rw [List.mem_singleton.mp member]
        exact Nat.le_of_not_lt visible
  -- The others are two marks each.
  all_goals exact (printable_mark _).append (printable_mark _)

theorem printable_quote (text : String) : Printable (quote text) := by
  have escaped : Printable (text.toList.flatMap escape) := by
    intro character member
    rcases List.mem_flatMap.mp member with ⟨original, _, inside⟩
    exact printable_escape original character inside
  exact ((printable_mark '"').append escaped).append (printable_mark '"')

theorem printable_number (value : Nat) :
    Printable (Nat.toDigits 10 value) := by
  intro digit member
  have decimal :=
    Nat.isDigit_of_mem_toDigits (by decide) (by decide) member
  rw [Char.isDigit_iff_toNat] at decimal
  exact Nat.le_trans (by decide) decimal.1

mutual

/-- The written form of a value has no control character. -/
theorem printable_characters : (value : Json) → Printable value.characters
  | .number value => by
      rw [characters]
      exact printable_number value
  | .text value => by
      rw [characters]
      exact printable_quote value
  | .list items => by
      rw [characters]
      exact ((printable_mark '[').append (printable_items items)).append
        (printable_mark ']')
  | .object fields => by
      rw [characters]
      exact ((printable_mark '{').append (printable_fields fields)).append
        (printable_mark '}')

theorem printable_items :
    (items : List Json) → Printable (itemCharacters items)
  | [] => by
      rw [itemCharacters]
      exact printable_nil
  | [item] => by
      rw [itemCharacters]
      exact printable_characters item
  | item :: next :: rest => by
      rw [itemCharacters]
      exact ((printable_characters item).append (printable_mark ',')).append
        (printable_items (next :: rest))

theorem printable_fields :
    (fields : List (String × Json)) → Printable (fieldCharacters fields)
  | [] => by
      rw [fieldCharacters]
      exact printable_nil
  | [(name, value)] => by
      rw [fieldCharacters]
      exact ((printable_quote name).append (printable_mark ':')).append
        (printable_characters value)
  | (name, value) :: next :: rest => by
      rw [fieldCharacters]
      exact ((((printable_quote name).append (printable_mark ':')).append
        (printable_characters value)).append (printable_mark ',')).append
          (printable_fields (next :: rest))

end

end Json

namespace Journal

/-- The characters of a line are not control characters. -/
theorem printable_line (position : Nat) (title : String) (check : Check) :
    Json.Printable (line position title check).toList := by
  rw [line, Json.render, String.toList_ofList]
  exact Json.printable_characters _

/-- A journal is its lines, each with a line end behind it. -/
theorem toList_text (lines : List String) :
    (text lines).toList =
      lines.flatMap fun line => line.toList ++ ['\n'] := by
  induction lines with
  | nil => rfl
  | cons line rest ih =>
      have begun : (text (line :: rest)).toList =
          line.toList ++ ['\n'] ++ (text rest).toList := by
        simp [text]
      rw [begun, ih, List.flatMap_cons]

/-- A journal is cut at its line ends into the lines and a rest. -/
theorem splitOn_text {lines : List String}
    (unbroken : ∀ line ∈ lines, Json.Printable line.toList) :
    (text lines).toList.splitOn '\n' =
      lines.map String.toList ++ [[]] :=
  Text.splitOn_join fun line member => (unbroken line member).lineEnd_notMem

end Journal

end FileConformance
