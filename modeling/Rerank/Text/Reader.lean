/-
Readers, and how larger ones are put together from smaller ones.

A reader takes something off the front of a text and gives it together with the text that is
left, or it refuses the text.  A text that is refused counts as untouched, so another reader may
be tried on it.
-/

namespace Rerank.Text

/-- What a reader makes of a text: a value and the text that is left, or nothing if it refuses
the text. -/
abbrev Reader (α : Type) := List Char → Option (α × List Char)

namespace Reader

variable {α β : Type}

/-- Reads up to the first character of class `p`.  That may be nothing, and is never refused. -/
def till (p : Char → Bool) : Reader (List Char) := fun s =>
  some (s.takeWhile (!p ·), s.dropWhile (!p ·))

/-- Reads a given character. -/
def char (c : Char) : Reader Char
  | x :: s => if x = c then some (c, s) else none
  | [] => none

/-- Reads one thing behind another, which is dropped. -/
def behind (first : Reader β) (r : Reader α) : Reader α := fun s =>
  match first s with
  | some (_, s) => r s
  | none => none

/-- Reads something if it is there. -/
def optional (r : Reader α) : Reader (Option α) := fun s =>
  match r s with
  | some (a, rest) => some (some a, rest)
  | none => some (none, s)

/-- Reads further items, each behind a separator, as long as there are any.  A separator without
an item behind it is left where it is.  A separator and an item that take nothing off the text
would be read forever, and so they are refused. -/
def further (item : Reader α) (separator : Reader β) (s : List Char) :
    Option (List α × List Char) :=
  match behind separator item s with
  | none => some ([], s)
  | some (a, rest) =>
    if rest.length < s.length then
      match further item separator rest with
      | some (as, rest) => some (a :: as, rest)
      | none => none
    else none
termination_by s.length

/-- Reads items with separators between them.  There may be none. -/
def separated (item : Reader α) (separator : Reader β) : Reader (List α) := fun s =>
  match item s with
  | none => some ([], s)
  | some (a, rest) =>
    match further item separator rest with
    | some (as, rest) => some (a :: as, rest)
    | none => none

/-- What a reader makes of a whole text.  A text of which something is left is refused. -/
def whole? (r : Reader α) (s : List Char) : Option α :=
  match r s with
  | some (a, []) => some a
  | _ => none

end Reader

end Rerank.Text
