/-
The host of an address as it is written.

The host is cut out of the address without being changed: upper case, percent escapes and
letters outside ASCII stay.  What stands around it is passed over by the characters that
delimit it, whatever the scheme is.
-/
import Rerank.Address.Scheme

namespace Rerank.Address

/-- The host in a text that begins with it: up to and including the closing bracket if it
is in brackets, and up to a colon if it is not. -/
def leadingHost (s : List Char) : List Char :=
  if s.head? = some '[' then
    match Text.cut ']' s with
    | (inner, some _) => inner ++ [']']
    | (all, none) => all
  else (Text.cut ':' s).1

/-- The host of an address as it is written, unless it is empty. -/
def writtenHost? (url : List Char) : Option (List Char) :=
  match Text.cut ':' (Text.trimBy isControlOrBlank url) with
  | (_, none) => none
  | (_, some rest) =>
    let area := (rest.dropWhile isSlash).takeWhile fun c => !(isSlash c || c == '?' || c == '#')
    match leadingHost (Text.afterLast '@' area) with
    | [] => none
    | host => some host

end Rerank.Address
