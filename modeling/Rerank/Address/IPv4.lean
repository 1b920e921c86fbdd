/-
Hosts that are numbers.

A host whose last label is a number is an IPv4 address or nothing.  It has at most four
parts, each decimal, octal behind a `0`, or hexadecimal behind a `0x`.  Every part but the
last is one byte; the last one fills all bytes that are left.
-/
import Rerank.Address.Percent
import Rerank.Text.Split

namespace Rerank.Address

/-- An IPv4 address: a number of 32 bits. -/
structure IPv4 where
  /-- The address as a number. -/
  value : Nat
  deriving DecidableEq, Repr

namespace IPv4

/-- The number that a text spells in a base of at most 16; the empty text spells 0. -/
def valueIn? (radix : Nat) (s : List Char) : Option Nat :=
  s.foldlM (fun n c =>
    match digitValue? c with
    | some d => if d < radix then some (n * radix + d) else none
    | none => none) 0

/-- The number that a part of an address spells. -/
def part? : List Char → Option Nat
  | [] => none
  | '0' :: 'x' :: s => valueIn? 16 s
  | '0' :: 'X' :: s => valueIn? 16 s
  | '0' :: c :: s => valueIn? 8 (c :: s)
  | s => valueIn? 10 s

/-- The labels of a host, without an empty one at the end. -/
def labels (host : List Char) : List (List Char) :=
  let ps := Text.pieces '.' host
  if ps.getLast? = some [] then ps.dropLast else ps

/-- Whether the last label of a host is a number. -/
def endsInNumber (host : List Char) : Bool :=
  match (labels host).getLast? with
  | some label => (!label.isEmpty && label.all Char.isDigit) || (part? label).isSome
  | none => false

/-- The address that a host spells. -/
def parse? (host : List Char) : Option IPv4 := do
  let parts ← (labels host).mapM part?
  if 4 < parts.length then none
  let last ← parts.getLast?
  let bytes := parts.dropLast
  if bytes.any (255 < ·) then none
  if Nat.pow 256 (4 - bytes.length) ≤ last then none
  return ⟨bytes.foldl (fun n b => n * 256 + b) 0 * Nat.pow 256 (4 - bytes.length) + last⟩

/-- The address in four decimal parts. -/
def text (a : IPv4) : String :=
  ".".intercalate ([3, 2, 1, 0].map fun i => toString (a.value / Nat.pow 256 i % 256))

end IPv4

end Rerank.Address
