/-
Percent escapes: a percent sign and two hexadecimal digits stand for a byte.
-/

namespace Rerank.Address

/-- The value of a digit of any base up to 16. -/
def digitValue? (c : Char) : Option Nat :=
  if '0' ≤ c ∧ c ≤ '9' then some (c.toNat - '0'.toNat)
  else if 'a' ≤ c ∧ c ≤ 'f' then some (c.toNat - 'a'.toNat + 10)
  else if 'A' ≤ c ∧ c ≤ 'F' then some (c.toNat - 'A'.toNat + 10)
  else none

namespace Percent

/-- The bytes that a text stands for, its escapes resolved.  A percent sign that begins no
escape stands for itself. -/
def bytes (s : List Char) : List UInt8 :=
  match s with
  | [] => []
  | '%' :: a :: b :: rest =>
    match digitValue? a, digitValue? b with
    | some m, some n => UInt8.ofNat (m * 16 + n) :: bytes rest
    | _, _ => 0x25 :: bytes (a :: b :: rest)
  | c :: rest => String.utf8EncodeChar c ++ bytes rest
termination_by s.length

/-- The text with its escapes resolved, unless they spell no valid text. -/
def decode? (s : List Char) : Option (List Char) :=
  if s.contains '%' then (String.fromUTF8? ⟨(bytes s).toArray⟩).map String.toList
  else some s

/-- A byte as an escape. -/
def escape (b : UInt8) : List Char :=
  let digit := fun n => (Nat.digitChar n).toUpper
  ['%', digit (b.toNat / 16), digit (b.toNat % 16)]

/-- The text with controls, and all characters outside ASCII, as escapes. -/
def encode (s : List Char) : List Char :=
  s.flatMap fun c =>
    if 0x20 ≤ c.toNat ∧ c.toNat < 0x7F then [c]
    else (String.utf8EncodeChar c).flatMap escape

end Percent

end Rerank.Address
