import FileConformance.Proofs.Json.Grammar
import FileConformance.Text.Json

/-!
# What a rendered value means

The written form of a value follows the grammar, without a blank anywhere, and
means that value.
-/

namespace FileConformance

namespace Json

/-! ## Values -/

mutual

/-- The meaning of a value; a number is written by its decimal digits. -/
def tree : Json → Tree
  | .number value => .number (Nat.toDigits 10 value)
  | .text value => .text value
  | .list items => .list (itemTrees items)
  | .object fields => .object (fieldTrees fields)

/-- The meaning of each item. -/
def itemTrees : List Json → List Tree
  | [] => []
  | item :: rest => item.tree :: itemTrees rest

/-- The meaning of each field. -/
def fieldTrees : List (String × Json) → List (String × Tree)
  | [] => []
  | (name, value) :: rest => (name, value.tree) :: fieldTrees rest

end

theorem itemTrees_eq (items : List Json) :
    itemTrees items = items.map tree := by
  induction items with
  | nil => rfl
  | cons item rest ih => rw [itemTrees, ih, List.map_cons]

theorem fieldTrees_eq (fields : List (String × Json)) :
    fieldTrees fields = fields.map (Prod.map id tree) := by
  induction fields with
  | nil => rfl
  | cons field rest ih => rw [fieldTrees, ih, List.map_cons]; rfl

/-! ## Numbers -/

theorem digits_toDigits (value : Nat) : Digits (Nat.toDigits 10 value) where
  some_digit := Nat.toDigits_ne_nil
  digit := fun _ member =>
    Nat.isDigit_of_mem_toDigits (by decide) (by decide) member

/-- Only zero begins with a zero. -/
theorem head?_toDigits_ne {value : Nat} (positive : 0 < value) :
    (Nat.toDigits 10 value).head? ≠ some '0' := by
  induction value using Nat.strongRecOn with
  | ind value ih =>
      rcases Nat.lt_or_ge value 10 with small | large
      · have all : ∀ digit < 10, 0 < digit →
            Nat.digitChar digit ≠ '0' := by
          decide
        rw [Nat.toDigits_of_lt_base small, List.head?_singleton]
        exact fun same =>
          all value small positive (Option.some.inj same)
      · rw [Nat.toDigits_of_base_le (by decide) large,
          List.head?_append_of_ne_nil _ Nat.toDigits_ne_nil]
        exact ih _ (Nat.div_lt_self positive (by decide))
          (Nat.div_pos large (by decide))

theorem numeral_toDigits (value : Nat) :
    Numeral (Nat.toDigits 10 value) := by
  have whole : Whole (Nat.toDigits 10 value) := by
    rcases Nat.eq_zero_or_pos value with rfl | positive
    · exact .zero
    · exact .digits (digits_toDigits value) (head?_toDigits_ne positive)
  have numeral : Numeral ([] ++ Nat.toDigits 10 value ++ [] ++ []) :=
    .mk (by decide) whole .none .none
  simpa only [List.nil_append, List.append_nil] using numeral

/-! ## Texts -/

theorem hexValue?_hexDigit (value : Nat) :
    hexValue? (hexDigit value) = some (value % 16) := by
  have all : ∀ digit < 16,
      hexValue? (Nat.digitChar digit) = some digit := by
    decide
  exact all _ (Nat.mod_lt value (by decide))

theorem spelling_escape (character : Char) :
    Spelling character (escape character) := by
  unfold escape
  split
  case h_8 =>
      rename_i unquoted unescaped _ _ _ _ _
      split
      · rename_i small
        refine .numbered (.unit (.mk rfl rfl (hexValue?_hexDigit _)
          (hexValue?_hexDigit _) ?_))
        omega
      · rename_i visible
        exact .plain (Nat.le_of_not_lt visible) unquoted unescaped
  -- The others have a letter of their own.
  all_goals exact .short rfl

theorem quoted_quote (text : String) : Quoted text (quote text) := by
  have spelled : ∀ characters : List Char,
      Spelled characters (characters.flatMap escape) := by
    intro characters
    induction characters with
    | nil => exact .nil
    | cons first rest ih =>
        rw [List.flatMap_cons]
        exact .cons (spelling_escape first) ih
  exact .mk (spelled text.toList)

/-! ## Lists and objects -/

section

variable {Value : Type} {Element : Value → List Char → Prop}
  {value next : Value} {rest : List Value} {characters others : List Char}

theorem blank_nil : Blank [] := List.forall_mem_nil _

theorem Separated.single (element : Element value characters) :
    Separated Element [value] characters := by
  have separated := Separated.last blank_nil element blank_nil
  rwa [List.nil_append, List.append_nil] at separated

theorem Separated.cons (element : Element value characters)
    (elements : Separated Element (next :: rest) others) :
    Separated Element (value :: next :: rest)
      (characters ++ [','] ++ others) := by
  have separated := Separated.more blank_nil element blank_nil elements
  rw [List.append_assoc]
  exact separated

end

theorem field_written {name : String} {value : Tree}
    {characters : List Char} (written : Written value characters) :
    Field Written (name, value) (quote name ++ [':'] ++ characters) := by
  have field := Field.mk (quoted_quote name) blank_nil blank_nil written
  rw [List.append_assoc]
  exact field

mutual

/-- The written form of a value follows the grammar. -/
theorem written_characters :
    (value : Json) → Written value.tree value.characters
  | .number value => by
      rw [tree, characters]
      exact .number (numeral_toDigits value)
  | .text value => by
      rw [tree, characters]
      exact .text (quoted_quote value)
  | .list items => by
      rw [tree, characters]
      exact .list (separated_items items)
  | .object fields => by
      rw [tree, characters]
      exact .object (separated_fields fields)

theorem separated_items :
    (items : List Json) →
      Separated Written (itemTrees items) (itemCharacters items)
  | [] => by
      rw [itemTrees, itemCharacters]
      exact .none blank_nil
  | [item] => by
      rw [itemTrees, itemTrees, itemCharacters]
      exact .single (written_characters item)
  | item :: next :: rest => by
      have others := separated_items (next :: rest)
      rw [itemTrees] at others
      rw [itemTrees, itemTrees, itemCharacters]
      exact .cons (written_characters item) others

theorem separated_fields :
    (fields : List (String × Json)) →
      Separated (Field Written) (fieldTrees fields) (fieldCharacters fields)
  | [] => by
      rw [fieldTrees, fieldCharacters]
      exact .none blank_nil
  | [(name, value)] => by
      rw [fieldTrees, fieldTrees, fieldCharacters]
      exact .single (field_written (written_characters value))
  | (name, value) :: (nextName, next) :: rest => by
      have others := separated_fields ((nextName, next) :: rest)
      rw [fieldTrees] at others
      rw [fieldTrees, fieldTrees, fieldCharacters]
      exact .cons (field_written (written_characters value)) others

end

/-- What is rendered means what was to be rendered. -/
theorem means_render (value : Json) : Means value.render value.tree := by
  refine .mk blank_nil (written_characters value) blank_nil ?_
  rw [render, String.toList_ofList, List.nil_append, List.append_nil]

end Json

end FileConformance
