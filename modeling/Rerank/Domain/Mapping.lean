/-
The character mapping of internationalised domain names.

Each character of a domain stands for itself, is dropped, is replaced by a sequence, or
makes the domain invalid.  Upper case becomes lower case in this way, and the full stops of
other scripts become the dot that separates labels.
-/
import Rerank.Domain.Mapping.Table

namespace Rerank.Domain

namespace Mapping

/-- What becomes of a character, if a domain may hold it. -/
def char? (c : Char) : Option (List Char) :=
  match statusTable.get c with
  | 0 => some [c]
  | 1 => some []
  | 3 => replacementTable.find? c
  | _ => none

/-- What becomes of a text, if a domain may hold all of its characters. -/
def text? (s : List Char) : Option (List Char) :=
  (s.mapM char?).map List.flatten

/-- Whether a character stands for itself. -/
def keeps (c : Char) : Bool :=
  char? c == some [c]

end Mapping

end Rerank.Domain
