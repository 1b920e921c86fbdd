/-
Matching a pattern against a text.

For a text and a pattern, a row says of every rest of the pattern's parts whether it matches
at the beginning of the text, and to its end if the pattern is tied to the end.  The row of
a text follows from its first character and the row of the text behind it, so one pass from
the end of the text to its start finds all rows.  The work is the length of the text times
that of the pattern, however many stars there are.
-/
import Rerank.Pattern.Glob

namespace Rerank

namespace Glob

/-- What is known at one place of a text: which rests of the pattern match there. -/
abbrev Row := List Bool

/-- The row at the end of a text.  What matches nothing but the end is a row of stars and
separators. -/
def lastRow : List Token → Row
  | [] => [true]
  | t :: rest =>
    let row := lastRow rest
    (match t with
      | .char _ => false
      | .star => row.headD false
      | .separator => row.headD false) :: row

/-- The row at a place before the end, from the character there and the row behind it. -/
def rowBefore (atEnd : Bool) (c : Char) : List Token → Row → Row
  | [], _ => [!atEnd]
  | t :: rest, behind =>
    let row := rowBefore atEnd c rest behind.tail
    (match t with
      | .char d => c == d && behind.tail.headD false
      | .star => row.headD false || behind.headD false
      | .separator => isSeparator c && behind.tail.headD false) :: row

/-- The row at the start of a text, and whether the whole pattern matches at any place behind
it. -/
def scan (g : Glob) (text : List Char) : Row × Bool :=
  text.foldr
    (fun c s => (rowBefore g.atEnd c g.tokens s.1, s.2 || s.1.headD false))
    (lastRow g.tokens, false)

/-- Whether a pattern matches a text. -/
def isMatch (g : Glob) (text : List Char) : Bool :=
  let s := g.scan text
  s.1.headD false || (!g.atStart && s.2)

end Glob

end Rerank
