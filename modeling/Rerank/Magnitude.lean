/-
Magnitudes: how strongly a rule moves a result.

A magnitude is an integer of 64 bits.  Whatever would leave this range stops at its end:
`clamp` brings an integer into the range, and negation and reading from text go through
it.  A text spells a magnitude by an optional sign and at least one decimal digit, and
whatever follows the digits is ignored.
-/

namespace Rerank

/-- The least magnitude. -/
def leastMagnitude : Int := -0x8000000000000000

/-- The greatest magnitude. -/
def greatestMagnitude : Int := 0x7FFFFFFFFFFFFFFF

/-- An integer of 64 bits. -/
structure Magnitude where
  /-- The integer. -/
  val : Int
  /-- It is not below the range. -/
  least_le : leastMagnitude ≤ val
  /-- It is not above the range. -/
  le_greatest : val ≤ greatestMagnitude
  deriving DecidableEq, Repr

namespace Magnitude

@[ext] theorem ext {m n : Magnitude} (h : m.val = n.val) : m = n := by
  cases m
  cases n
  simp_all

/-- The magnitude nearest to an integer. -/
def clamp (n : Int) : Magnitude where
  val := max leastMagnitude (min n greatestMagnitude)
  least_le := by simp only [leastMagnitude, greatestMagnitude]; omega
  le_greatest := by simp only [leastMagnitude, greatestMagnitude]; omega

@[simp] theorem val_clamp (n : Int) :
    (clamp n).val = max leastMagnitude (min n greatestMagnitude) := rfl

/-- An integer in the range is its own nearest magnitude. -/
@[simp] theorem clamp_val (m : Magnitude) : clamp m.val = m := by
  have h₁ := m.least_le
  have h₂ := m.le_greatest
  apply ext
  simp only [val_clamp]
  omega

/-- The magnitude of an integer that is in the range. -/
def ofInt? (n : Int) : Option Magnitude :=
  if h : leastMagnitude ≤ n ∧ n ≤ greatestMagnitude then some ⟨n, h.1, h.2⟩ else none

/-- The opposite magnitude; the least one has the greatest as its opposite. -/
def neg (m : Magnitude) : Magnitude :=
  clamp (-m.val)

/-- The decimal text of a magnitude. -/
def text (m : Magnitude) : String :=
  toString m.val

/-- Reads one more digit of a number of the given sign.  Each step stops at the ends of the
range, so any number of digits may follow. -/
def addDigit (negative : Bool) (m : Magnitude) (digit : Char) : Magnitude :=
  let d : Int := digit.toNat - '0'.toNat
  clamp ((clamp (m.val * 10)).val + if negative then -d else d)

/-- Takes an optional sign off a text and says whether it was a minus. -/
def sign : List Char → Bool × List Char
  | '-' :: s => (true, s)
  | '+' :: s => (false, s)
  | s => (false, s)

/-- The number that a text begins with, if it begins with one. -/
def leading? (s : List Char) : Option Magnitude :=
  let (negative, s) := sign s
  match s.takeWhile Char.isDigit with
  | [] => none
  | digits => some (digits.foldl (addDigit negative) (clamp 0))

/-- The magnitude that an option value asks for: 1 if the value is empty, and 0 if it does
not begin with a number. -/
def ofValue (value : String) : Magnitude :=
  if value.isEmpty then clamp 1 else (leading? value.toList).getD (clamp 0)

end Magnitude

end Rerank
