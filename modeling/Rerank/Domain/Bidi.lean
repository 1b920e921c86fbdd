/-
The bidirectional rule for domain labels.

A domain that holds a right-to-left letter or an Arabic number could be shown in an order
that misleads the reader.  In such a domain every label keeps to one direction: it starts
with a letter of that direction, holds only what runs along with it, and ends in a letter
or number of it, nonspacing marks at the end aside.
-/
import Rerank.Domain.Bidi.Table

namespace Rerank.Domain

namespace Bidi

/-- The directional classes, as far as the rule tells them apart. -/
inductive Direction
  /-- A letter that runs from left to right. -/
  | leftToRight
  /-- A letter that runs from right to left. -/
  | rightToLeft
  /-- An Arabic number. -/
  | arabicNumber
  /-- A European number. -/
  | europeanNumber
  /-- A separator, terminator or neutral character. -/
  | neutral
  /-- A nonspacing mark. -/
  | mark
  /-- A character that no label of such a domain may hold. -/
  | other
  deriving DecidableEq, Repr

/-- The directional class of a character. -/
def direction (c : Char) : Direction :=
  match classTable.get c with
  | 0 => .leftToRight
  | 1 => .rightToLeft
  | 2 => .arabicNumber
  | 3 => .europeanNumber
  | 4 => .neutral
  | 5 => .mark
  | _ => .other

/-- Whether a text makes its domain a bidirectional one. -/
def isBidirectional (s : List Char) : Bool :=
  s.any fun c => direction c == .rightToLeft || direction c == .arabicNumber

/-- Whether a label, given by the classes of its characters, keeps to one direction. -/
def keepsDirection (label : List Direction) : Bool :=
  let last := (label.reverse.dropWhile (· == .mark)).head?
  match label with
  | [] => true
  | .rightToLeft :: _ =>
    label.all (fun d => d != .leftToRight && d != .other) &&
      last.all (fun d => d == .rightToLeft || d == .arabicNumber || d == .europeanNumber) &&
      !(label.contains .arabicNumber && label.contains .europeanNumber)
  | .leftToRight :: _ =>
    label.all (fun d => d != .rightToLeft && d != .arabicNumber && d != .other) &&
      last.all (fun d => d == .leftToRight || d == .europeanNumber)
  | _ => false

/-- Whether the labels of a domain obey the rule. -/
def obeys (labels : List (List Char)) : Bool :=
  !labels.any isBidirectional || labels.all fun label => keepsDirection (label.map direction)

end Bidi

end Rerank.Domain
