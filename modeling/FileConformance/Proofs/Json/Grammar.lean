import Mathlib.Data.List.Basic

/-!
# The grammar of JSON

What a text means by the whole grammar of JSON, which allows more than any one
writer makes use of: blanks between tokens, several ways to write a character,
fractions and exponents.  Of a number only its digits are kept, and half of a
surrogate pair is no character.
-/

namespace FileConformance

namespace Json

/-! ## Values -/

/-- The words that are values. -/
inductive Literal where
  | null
  | yes
  | no
deriving DecidableEq

/-- What a JSON text means.  Of a number it is kept how it is written. -/
inductive Tree where
  | literal (word : Literal)
  | number (lexeme : List Char)
  | text (value : String)
  | list (items : List Tree)
  | object (fields : List (String × Tree))

def Literal.characters : Literal → List Char
  | .null => ['n', 'u', 'l', 'l']
  | .yes => ['t', 'r', 'u', 'e']
  | .no => ['f', 'a', 'l', 's', 'e']

/-! ## Blanks -/

def isBlank (character : Char) : Bool :=
  character == ' ' || character == '\t' || character == '\n' ||
    character == '\r'

/-- Blanks only, or nothing. -/
def Blank (characters : List Char) : Prop :=
  ∀ character ∈ characters, isBlank character = true

/-- Elements with commas between them, and blanks around each. -/
inductive Separated {Value : Type} (Element : Value → List Char → Prop) :
    List Value → List Char → Prop where
  | none {blanks : List Char} (blank : Blank blanks) :
      Separated Element [] blanks
  | last {value : Value} {before characters after : List Char}
      (leading : Blank before) (element : Element value characters)
      (trailing : Blank after) :
      Separated Element [value] (before ++ (characters ++ after))
  | more {value next : Value} {rest : List Value}
      {before characters after others : List Char}
      (leading : Blank before) (element : Element value characters)
      (trailing : Blank after)
      (elements : Separated Element (next :: rest) others) :
      Separated Element (value :: next :: rest)
        (before ++ (characters ++ (after ++ ',' :: others)))

/-! ## Numbers -/

/-- At least one digit. -/
structure Digits (characters : List Char) : Prop where
  some_digit : characters ≠ []
  digit : ∀ character ∈ characters, character.isDigit = true

/-- A zero, or digits that do not begin with one. -/
inductive Whole : List Char → Prop where
  | zero : Whole ['0']
  | digits {characters : List Char} (digits : Digits characters)
      (first : characters.head? ≠ some '0') : Whole characters

inductive Fraction : List Char → Prop where
  | none : Fraction []
  | digits {characters : List Char} (digits : Digits characters) :
      Fraction ('.' :: characters)

inductive Exponent : List Char → Prop where
  | none : Exponent []
  | digits {letter : Char} {sign characters : List Char}
      (letter_mem : letter ∈ ['e', 'E']) (sign_mem : sign ∈ [[], ['+'], ['-']])
      (digits : Digits characters) :
      Exponent (letter :: (sign ++ characters))

/-- How a number is written. -/
inductive Numeral : List Char → Prop where
  | mk {sign whole fraction exponent : List Char}
      (sign_mem : sign ∈ [[], ['-']]) (isWhole : Whole whole)
      (isFraction : Fraction fraction) (isExponent : Exponent exponent) :
      Numeral (sign ++ whole ++ fraction ++ exponent)

/-! ## Texts -/

/-- The character that a letter stands for behind a backslash. -/
def escaped? : Char → Option Char
  | '"' => some '"'
  | '\\' => some '\\'
  | '/' => some '/'
  | 'b' => some '\x08'
  | 'f' => some '\x0c'
  | 'n' => some '\n'
  | 'r' => some '\r'
  | 't' => some '\t'
  | _ => none

/-- The value of a hexadecimal digit of either case. -/
def hexValue? (digit : Char) : Option Nat :=
  if digit.isDigit then some (digit.toNat - '0'.toNat)
  else if 'a' ≤ digit ∧ digit ≤ 'f' then some (digit.toNat - 'a'.toNat + 10)
  else if 'A' ≤ digit ∧ digit ≤ 'F' then some (digit.toNat - 'A'.toNat + 10)
  else none

/-- A code unit as it is written behind a backslash. -/
inductive CodeUnit : Nat → List Char → Prop where
  | mk {first second third fourth : Char} {number a b c d : Nat}
      (first_eq : hexValue? first = some a)
      (second_eq : hexValue? second = some b)
      (third_eq : hexValue? third = some c)
      (fourth_eq : hexValue? fourth = some d)
      (number_eq : number = ((a * 16 + b) * 16 + c) * 16 + d) :
      CodeUnit number ['\\', 'u', first, second, third, fourth]

/-- A character written by its number. -/
inductive Numbered : Char → List Char → Prop where
  | unit {character : Char} {characters : List Char}
      (unit : CodeUnit character.toNat characters) :
      Numbered character characters
  /-- A number that is too large for one code unit is cut into halves. -/
  | pair {character : Char} {high low : Nat} {first second : List Char}
      (highUnit : CodeUnit high first) (lowUnit : CodeUnit low second)
      (high_le : 0xd800 ≤ high) (high_lt : high < 0xdc00)
      (low_le : 0xdc00 ≤ low) (low_lt : low < 0xe000)
      (character_eq : character.toNat =
        0x10000 + (high - 0xd800) * 0x400 + (low - 0xdc00)) :
      Numbered character (first ++ second)

/-- The ways to write a character in a text. -/
inductive Spelling : Char → List Char → Prop where
  /-- As itself. -/
  | plain {character : Char} (visible : 0x20 ≤ character.toNat)
      (unquoted : character ≠ '"') (unescaped : character ≠ '\\') :
      Spelling character [character]
  /-- By a letter behind a backslash. -/
  | short {character letter : Char}
      (stands : escaped? letter = some character) :
      Spelling character ['\\', letter]
  | numbered {character : Char} {characters : List Char}
      (numbered : Numbered character characters) :
      Spelling character characters

/-- The ways to write some characters in a text. -/
inductive Spelled : List Char → List Char → Prop where
  | nil : Spelled [] []
  | cons {character : Char} {rest first others : List Char}
      (spelling : Spelling character first) (spelled : Spelled rest others) :
      Spelled (character :: rest) (first ++ others)

/-- A text between quotation marks. -/
inductive Quoted : String → List Char → Prop where
  | mk {text : String} {characters : List Char}
      (spelled : Spelled text.toList characters) :
      Quoted text ('"' :: (characters ++ ['"']))

/-! ## The grammar -/

/-- A name and a value with a colon between them. -/
inductive Field {Value : Type} (Element : Value → List Char → Prop) :
    String × Value → List Char → Prop where
  | mk {name : String} {value : Value}
      {quoted before after characters : List Char}
      (isQuoted : Quoted name quoted) (leading : Blank before)
      (trailing : Blank after) (element : Element value characters) :
      Field Element (name, value)
        (quoted ++ (before ++ ':' :: (after ++ characters)))

/-- The ways to write a value. -/
inductive Written : Tree → List Char → Prop where
  | literal (word : Literal) : Written (.literal word) word.characters
  | number {lexeme : List Char} (numeral : Numeral lexeme) :
      Written (.number lexeme) lexeme
  | text {value : String} {characters : List Char}
      (quoted : Quoted value characters) :
      Written (.text value) characters
  | list {items : List Tree} {characters : List Char}
      (separated : Separated Written items characters) :
      Written (.list items) ('[' :: (characters ++ [']']))
  | object {fields : List (String × Tree)} {characters : List Char}
      (separated : Separated (Field Written) fields characters) :
      Written (.object fields) ('{' :: (characters ++ ['}']))

/-- A whole text is one value, with blanks around it. -/
inductive Means : String → Tree → Prop where
  | mk {text : String} {tree : Tree} {before characters after : List Char}
      (leading : Blank before) (written : Written tree characters)
      (trailing : Blank after)
      (text_eq : text.toList = before ++ (characters ++ after)) :
      Means text tree

end Json

end FileConformance
