/-
The regular expression of a pattern.

A pattern stands for a regular expression, which is shown to the user.  Every part of the
pattern becomes a piece of its own: a star a group that matches any text, a caret a group
that matches a separator or the end, and a character itself, behind a backslash if it has a
meaning in expressions.
-/
import Rerank.Pattern.Glob

namespace Rerank

namespace Expression

/-- The characters that have a meaning in expressions. -/
def metacharacters : List Char :=
  ['\\', '.', '+', '*', '?', '(', ')', '|', '[', ']', '\x7b', '\x7d', '^', '$', '#', '&', '-', '~']

/-- The piece that matches any text. -/
def anyText : List Char := "(?s:.*)".toList

/-- The piece that matches a separator or the end of the text. -/
def separator : List Char := "(?:[^0-9A-Za-z_.%\\-]|$)".toList

/-- The piece that matches a character. -/
def char (c : Char) : List Char :=
  if metacharacters.contains c then ['\\', c] else [c]

/-- The piece of a part of a pattern. -/
def token : Token → List Char
  | .char c => char c
  | .star => anyText
  | .separator => separator

end Expression

/-- The regular expression of a pattern. -/
def Glob.expression (g : Glob) : List Char :=
  (if g.atStart then ['^'] else []) ++ g.tokens.flatMap Expression.token ++
    (if g.atEnd then ['$'] else [])

end Rerank
