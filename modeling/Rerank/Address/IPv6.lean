/-
Hosts in brackets: IPv6 addresses.

An address is eight groups of at most four hexadecimal digits between colons.  A double
colon stands for one or more groups of zero, and the last two groups may be written as four
decimal bytes.  In the written form the first of the longest rows of two or more zero
groups becomes the double colon.
-/
import Rerank.Address.IPv4

namespace Rerank.Address

/-- An IPv6 address, group by group. -/
structure IPv6 where
  /-- Its eight groups of 16 bits. -/
  groups : List Nat
  deriving DecidableEq, Repr

namespace IPv6

/-- The value of a group. -/
def group? (s : List Char) : Option Nat :=
  if s.isEmpty ∨ 4 < s.length then none else IPv4.valueIn? 16 s

/-- The value of a decimal byte, which has no leading zero. -/
def byte? (s : List Char) : Option Nat :=
  if s.isEmpty ∨ 3 < s.length ∨ (s.head? = some '0' ∧ 1 < s.length) then none
  else (IPv4.valueIn? 10 s).filter (· ≤ 255)

/-- The two groups that four decimal bytes stand for. -/
def dotted? (s : List Char) : Option (List Nat) :=
  match (Text.pieces '.' s).mapM byte? with
  | some [a, b, c, d] => some [a * 256 + b, c * 256 + d]
  | _ => none

/-- The groups between colons.  Only the last one may be four decimal bytes, and only if
`tail` allows it. -/
def groups? (tail : Bool) : List (List Char) → Option (List Nat)
  | [] => some []
  | [s] => if tail && s.contains '.' then dotted? s else (group? s).map ([·])
  | s :: rest => do return (← group? s) :: (← groups? tail rest)

/-- The groups of a text that may be empty. -/
def side? (tail : Bool) (s : List Char) : Option (List Nat) :=
  if s.isEmpty then some [] else groups? tail (Text.pieces ':' s)

/-- The text before the first double colon, and the text after it if there is one. -/
def cutGap : List Char → List Char × Option (List Char)
  | [] => ([], none)
  | ':' :: ':' :: s => ([], some s)
  | c :: s => (c :: (cutGap s).1, (cutGap s).2)

/-- The address that a text without brackets spells. -/
def parse? (s : List Char) : Option IPv6 := do
  match cutGap s with
  | (s, none) =>
    let groups ← side? true s
    if groups.length = 8 then return ⟨groups⟩ else none
  | (s, some t) =>
    let front ← side? false s
    let rear ← side? true t
    if front.length + rear.length ≤ 7 then
      return ⟨front ++ List.replicate (8 - (front.length + rear.length)) 0 ++ rear⟩
    else none

/-- The number of zero groups that a list begins with. -/
def zeros (groups : List Nat) : Nat :=
  (groups.takeWhile (· == 0)).length

/-- The place and the length of the first of the longest rows of zero groups. -/
def longestGap (groups : List Nat) : Nat × Nat :=
  (List.range groups.length).foldl (fun best i =>
    let n := zeros (groups.drop i)
    if best.2 < n then (i, n) else best) (0, 0)

/-- The address between brackets. -/
def text (a : IPv6) : String :=
  let hex := fun groups => ":".intercalate (groups.map fun n => String.ofList (Nat.toDigits 16 n))
  let (place, count) := longestGap a.groups
  let inner :=
    if count < 2 then hex a.groups
    else hex (a.groups.take place) ++ "::" ++ hex (a.groups.drop (place + count))
  "[" ++ inner ++ "]"

end IPv6

end Rerank.Address
