/-
Marks and joiners in domain labels.

A label does not begin with a combining mark.  The two invisible joiners are allowed only
where they change how a word looks: after a virama, and, for the non-joiner, between
letters that would otherwise join.
-/
import Rerank.Domain.Canonical
import Rerank.Domain.Joining.Table

namespace Rerank.Domain

namespace Joining

/-- Whether a character is a combining mark. -/
def isMark (c : Char) : Bool :=
  markTable.marks c

/-- How a letter joins its neighbours in a cursive script. -/
inductive Kind
  /-- It joins nothing. -/
  | none
  /-- It joins the letter after it. -/
  | left
  /-- It joins the letter before it. -/
  | right
  /-- It joins both its neighbours. -/
  | dual
  /-- It is passed over. -/
  | transparent
  deriving DecidableEq, Repr

/-- How a character joins. -/
def kind (c : Char) : Kind :=
  match joiningTable.get c with
  | 1 => .left
  | 2 => .right
  | 3 => .dual
  | 4 => .transparent
  | _ => .none

/-- The zero-width non-joiner. -/
def nonJoiner : Char := '\u200c'

/-- The zero-width joiner. -/
def joiner : Char := '\u200d'

/-- Whether a character is a virama, the mark that removes a vowel. -/
def isVirama (c : Char) : Bool :=
  Canonical.combiningClass c == 9

/-- The kind of the first character that is not passed over. -/
def firstKind (s : List Char) : Kind :=
  match s.find? fun c => kind c != .transparent with
  | some c => kind c
  | none => .none

/-- Whether a joiner may stand at a place; the text before it is given last character
first. -/
def allowed (back : List Char) (c : Char) (rest : List Char) : Bool :=
  if c = joiner then back.head?.any isVirama
  else if c = nonJoiner then
    back.head?.any isVirama ||
      ((firstKind back == .left || firstKind back == .dual) &&
        (firstKind rest == .right || firstKind rest == .dual))
  else true

/-- Whether every joiner of a text stands where it may, after the text `back`, which is
given last character first. -/
def allAllowed (back : List Char) : List Char → Bool
  | [] => true
  | c :: rest => allowed back c rest && allAllowed (c :: back) rest

/-- Whether a label obeys the rules on marks and joiners. -/
def obeys (label : List Char) : Bool :=
  !label.head?.any isMark && allAllowed [] label

end Joining

end Rerank.Domain
