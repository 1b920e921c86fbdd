/-
The encoding of a label of any characters by the letters, digits and hyphens of ASCII.

The characters of ASCII come first, as they are; behind a hyphen the others follow in the
order of their code points, each as the distance to the state before it, a number in a
mixed radix of at most 36 whose digits adapt to the distances seen so far.  Numbers are
held to 32 bits, and a text that needs more is refused.

All loops end by a measure: what is left of the digits, of the characters, or of the
number that is written.
-/
import Rerank.Text.Split

namespace Rerank.Domain

namespace Punycode

/-- The number of digits. -/
def base : Nat := 36

/-- The value of a digit: letters of either case, then the decimal digits. -/
def digitValue? (c : Char) : Option Nat :=
  if 'a' ≤ c ∧ c ≤ 'z' then some (c.toNat - 'a'.toNat)
  else if 'A' ≤ c ∧ c ≤ 'Z' then some (c.toNat - 'A'.toNat)
  else if '0' ≤ c ∧ c ≤ '9' then some (c.toNat - '0'.toNat + 26)
  else none

/-- The digit of a value below 36. -/
def digitOf (n : Nat) : Char :=
  if n < 26 then Char.ofNat ('a'.toNat + n) else Char.ofNat ('0'.toNat + (n - 26))

/-- The least value of a digit, at place `k`, after which the number goes on. -/
def threshold (k bias : Nat) : Nat :=
  if k ≤ bias then 1 else if bias + 26 ≤ k then 26 else k - bias

theorem threshold_pos (k bias : Nat) : 0 < threshold k bias := by
  unfold threshold
  split
  · omega
  · split <;> omega

/-- Scales a distance down, and counts 36 for each time. -/
def scaled (delta k : Nat) : Nat :=
  if 455 < delta then scaled (delta / 35) (k + base) else k + base * delta / (delta + 38)
termination_by delta
decreasing_by exact Nat.div_lt_self (by omega) (by omega)

/-- The bias after a distance: the first one is damped more than the later ones. -/
def adapt (delta count : Nat) (first : Bool) : Nat :=
  let d := if first then delta / 700 else delta / 2
  scaled (d + d / count) 0

/-- A number that is held to 32 bits. -/
def bounded (n : Nat) : Option Nat :=
  if n < UInt32.size then some n else none

/-! ### Reading -/

/-- Reads the digits of one number, of weight `weight` and at place `k`, and adds it to
`i`.  Gives the sum and the digits that are left. -/
def readNumber (bias : Nat) : List Char → Nat → Nat → Nat → Option (Nat × List Char)
  | [], _, _, _ => none
  | c :: rest, k, weight, i => do
    let digit ← digitValue? c
    let i ← bounded (i + (← bounded (digit * weight)))
    let t := threshold k bias
    if digit < t then return (i, rest)
    readNumber bias rest (k + base) (← bounded (weight * (base - t))) i

/-- Reading a number uses up at least one digit. -/
theorem length_of_readNumber {bias : Nat} {s : List Char} {k weight i j : Nat} {rest : List Char}
    (h : readNumber bias s k weight i = some (j, rest)) : rest.length < s.length := by
  induction s generalizing k weight i with
  | nil => simp [readNumber] at h
  | cons c s ih =>
    simp only [readNumber, Option.bind_eq_bind, Option.bind_eq_some_iff] at h
    obtain ⟨digit, -, product, -, sum, -, h⟩ := h
    split at h
    · simp only [Option.pure_def, Option.some.injEq, Prod.mk.injEq] at h
      simp [← h.2]
    · obtain ⟨weight', -, h⟩ := Option.bind_eq_some_iff.1 h
      have := ih h
      simp only [List.length_cons]
      omega

/-- Reads characters from their distances and puts each in its place.  `point` is the code
point reached, `i` the place after the last one put in. -/
def readRest (s : List Char) (point i bias : Nat) (out : List Char) : Option (List Char) :=
  if s.isEmpty then some out
  else
    match _h : readNumber bias s base 1 i with
    | none => none
    | some (j, rest) =>
      let count := out.length + 1
      let point := point + j / count
      if point < 0xD800 ∨ 0xDFFF < point ∧ point < 0x110000 then
        let place := j % count
        readRest rest point (place + 1) (adapt (j - i) count (i == 0))
          (out.take place ++ Char.ofNat point :: out.drop place)
      else none
termination_by s.length
decreasing_by exact length_of_readNumber _h

/-- The text that an encoded text stands for.  What precedes the last hyphen stands for
itself. -/
def decode? (s : List Char) : Option (List Char) :=
  let digits := Text.afterLast '-' s
  if digits.length = s.length then readRest s 0x80 0 72 []
  else
    let plain := s.take (s.length - digits.length - 1)
    if plain.isEmpty then none else readRest digits 0x80 0 72 plain

/-! ### Writing -/

/-- The digits of a number, from place `k` on. -/
def writeNumber (bias k n : Nat) : List Char :=
  let t := threshold k bias
  if n < t then [digitOf n]
  else digitOf (t + (n - t) % (base - t)) :: writeNumber bias (k + base) ((n - t) / (base - t))
termination_by n
decreasing_by
  have := threshold_pos k bias
  exact Nat.lt_of_le_of_lt (Nat.div_le_self _ _) (by omega)

/-- What has been written of the characters outside ASCII. -/
structure Written where
  /-- The digits so far. -/
  out : List Char
  /-- The distance from the last character written. -/
  delta : Nat
  /-- The bias for the next number. -/
  bias : Nat
  /-- How many characters have been written, those of ASCII included. -/
  count : Nat

/-- Passes one character of the text while the characters of code point `point` are being
written, the text having `plain` characters of ASCII. -/
def Written.pass (plain point : Nat) (w : Written) (c : Char) : Written :=
  if c.toNat < point then { w with delta := w.delta + 1 }
  else if c.toNat = point then
    ⟨w.out ++ writeNumber w.bias base w.delta, 0,
      adapt w.delta (w.count + 1) (w.count == plain), w.count + 1⟩
  else w

/-- Writes the characters of the code points in `points`, which ascend from `last` on. -/
def writeRest (s : List Char) (plain : Nat) : List Nat → Nat → Written → List Char
  | [], _, w => w.out
  | point :: points, last, w =>
    let w := { w with delta := w.delta + (point - last) * (w.count + 1) }
    let w := s.foldl (Written.pass plain point) w
    writeRest s plain points (point + 1) { w with delta := w.delta + 1 }

/-- The encoded form of a text. -/
def encode (s : List Char) : List Char :=
  let plain := s.filter fun c => c.toNat < 0x80
  let points := ((s.map Char.toNat).filter (0x80 ≤ ·)).mergeSort.eraseDups
  (if plain.isEmpty then [] else plain ++ ['-']) ++
    writeRest s plain.length points 0x80 ⟨[], 0, 72, plain.length⟩

end Punycode

end Rerank.Domain
