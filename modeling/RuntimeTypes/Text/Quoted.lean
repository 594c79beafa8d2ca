import RuntimeTypes.Text.Blank
import RuntimeTypes.Text.Unprintable

/-!
Quoted text: one line between double quotes, whatever the text holds.  A
control character never appears as itself, so a quoted text cannot break a line.
-/

namespace RuntimeTypes.Text

/-- Characters that quoted text shows by their number. -/
def isHidden (c : Char) : Bool :=
  isControl c || isUnprintable c

/-- A character by its number: lower-case hexadecimal digits in braces. -/
def numbered (c : Char) : List Char :=
  ['\\', 'u', '\x7b'] ++ Nat.toDigits 16 c.toNat ++ ['\x7d']

/-- How one character is written between the quotes. -/
def quotedChar (c : Char) : List Char :=
  match c with
  | '\x00' => ['\\', '0']
  | '\t' => ['\\', 't']
  | '\n' => ['\\', 'n']
  | '\r' => ['\\', 'r']
  | '"' => ['\\', '"']
  | '\\' => ['\\', '\\']
  | c => if isHidden c then numbered c else [c]

/-- The characters of a quoted text, quotes included. -/
def quotedChars (cs : List Char) : List Char :=
  '"' :: (cs.flatMap quotedChar ++ ['"'])

/-- A text in double quotes. -/
def quoted (s : String) : String :=
  String.ofList (quotedChars s.toList)

end RuntimeTypes.Text
