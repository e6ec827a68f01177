import FileConformance.Text.Unprintable

/-!
# Quoted text

A quoted text is enclosed in double quotation marks and has one line.  A tab,
a line end, a null, a backslash and a double quotation mark are written with a
backslash, any other unprintable character by its code point in lower-case
hexadecimal, and every other character as itself.
-/

namespace FileConformance

namespace Text

/-- Lower-case hexadecimal digits without leading zeros. -/
def hexadecimal (value : Nat) : List Char :=
  Nat.toDigits 16 value

/-- How one character is written between quotation marks. -/
def quotedChar (character : Char) : List Char :=
  match character with
  | '\x00' => ['\\', '0']
  | '\t' => ['\\', 't']
  | '\r' => ['\\', 'r']
  | '\n' => ['\\', 'n']
  | '\\' => ['\\', '\\']
  | '"' => ['\\', '"']
  | other =>
      if unprintable other then
        ['\\', 'u', '{'] ++ hexadecimal other.toNat ++ ['}']
      else [other]

/-- A text between quotation marks. -/
def quoted (text : String) : String :=
  String.ofList (['"'] ++ text.toList.flatMap quotedChar ++ ['"'])

end Text

end FileConformance
