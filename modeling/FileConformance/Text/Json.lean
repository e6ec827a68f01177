/-!
# JSON text

The part of JSON that reports and journals need: numbers that count something,
texts, lists and objects whose fields keep their order.

The written form is compact.  A quotation mark, a backslash and every
character below the blank are escaped; all other characters, whatever their
code point, are written as themselves.
-/

namespace FileConformance

/-- A JSON value. -/
inductive Json where
  | number (value : Nat)
  | text (value : String)
  | list (items : List Json)
  | object (fields : List (String × Json))

namespace Json

/-- A hexadecimal digit in lower case. -/
def hexDigit (value : Nat) : Char :=
  Nat.digitChar (value % 16)

/-- How a character is written inside a JSON text. -/
def escape (character : Char) : List Char :=
  match character with
  | '"' => ['\\', '"']
  | '\\' => ['\\', '\\']
  | '\x08' => ['\\', 'b']
  | '\x0c' => ['\\', 'f']
  | '\n' => ['\\', 'n']
  | '\r' => ['\\', 'r']
  | '\t' => ['\\', 't']
  | other =>
      if other.toNat < 0x20 then
        ['\\', 'u', '0', '0', hexDigit (other.toNat / 16),
          hexDigit other.toNat]
      else [other]

/-- A text between quotation marks. -/
def quote (text : String) : List Char :=
  ['"'] ++ text.toList.flatMap escape ++ ['"']

mutual

/-- The characters of a value. -/
def characters : Json → List Char
  | .number value => Nat.toDigits 10 value
  | .text value => quote value
  | .list items => ['['] ++ itemCharacters items ++ [']']
  | .object fields => ['{'] ++ fieldCharacters fields ++ ['}']

/-- The items of a list, with commas between them. -/
def itemCharacters : List Json → List Char
  | [] => []
  | [item] => item.characters
  | item :: next :: rest =>
      item.characters ++ [','] ++ itemCharacters (next :: rest)

/-- The fields of an object, with commas between them. -/
def fieldCharacters : List (String × Json) → List Char
  | [] => []
  | [(name, value)] => quote name ++ [':'] ++ value.characters
  | (name, value) :: next :: rest =>
      quote name ++ [':'] ++ value.characters ++ [','] ++
        fieldCharacters (next :: rest)

end

/-- The written form of a value. -/
def render (value : Json) : String :=
  String.ofList value.characters

end Json

end FileConformance
