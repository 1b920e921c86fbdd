/-
Quoted text, in which every character can be seen.

The text stands between quotation marks.  A quotation mark, a backslash, a tab, a carriage
return, a line feed and a null character are written as a backslash and one character; any
other character that cannot be shown is written as a backslash, the letter `u` and its code
point in hexadecimal between braces.  An apostrophe stays as it is.
-/
import Rerank.Text.Printable

namespace Rerank.Text

/-- The digits of a code point in lower-case hexadecimal. -/
def hexDigits (n : Nat) : List Char :=
  Nat.toDigits 16 n

/-- How a character is written inside quotation marks. -/
def quotedChar (c : Char) : List Char :=
  match c with
  | '"' => ['\\', '"']
  | '\\' => ['\\', '\\']
  | '\t' => ['\\', 't']
  | '\r' => ['\\', 'r']
  | '\n' => ['\\', 'n']
  | '\x00' => ['\\', '0']
  | c =>
    if isPrintable c then [c]
    else ['\\', 'u', '\x7b'] ++ hexDigits c.toNat ++ ['\x7d']

/-- A text between quotation marks. -/
def quoted (s : String) : String :=
  String.ofList ('"' :: s.toList.flatMap quotedChar ++ ['"'])

end Rerank.Text
