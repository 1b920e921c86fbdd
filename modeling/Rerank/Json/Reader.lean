/-
Reading JSON.

`Value.parse?` reads a text that holds one value and white space around it.  Numbers have no
leading zeros, lists no comma at the end, and texts no bare control characters; everything
is refused that the grammar does not allow.

Nesting is read by recursion with fuel.  Every level of it reads at least one character, so
the length of the text is fuel enough.
-/
import Rerank.Address.Percent
import Rerank.Json.Value

namespace Rerank.Json

/-- Whether a character is white space between the parts of JSON. -/
def isSpace (c : Char) : Bool :=
  c == ' ' || c == '\t' || c == '\n' || c == '\r'

/-- The text behind white space. -/
def skip (s : List Char) : List Char := s.dropWhile isSpace

/-! ### Texts -/

/-- The number of four hexadecimal digits. -/
def hex4? (a b c d : Char) : Option Nat := do
  let value := Address.digitValue?
  return ((← value a) * 16 + (← value b)) * 256 + (← value c) * 16 + (← value d)

/-- The character that a backslash and a letter stand for. -/
def shortEscape? : Char → Option Char
  | '"' => some '"'
  | '\\' => some '\\'
  | '/' => some '/'
  | 'b' => some '\x08'
  | 'f' => some '\x0c'
  | 'n' => some '\n'
  | 'r' => some '\r'
  | 't' => some '\t'
  | _ => none

/-- Whether a number is the first half of a surrogate pair. -/
def isHighHalf (n : Nat) : Bool := 0xD800 ≤ n && n ≤ 0xDBFF

/-- Whether a number is the second half of a surrogate pair. -/
def isLowHalf (n : Nat) : Bool := 0xDC00 ≤ n && n ≤ 0xDFFF

/-- The second half of a surrogate pair that a text begins with, and the text behind it. -/
def lowHalf? : List Char → Option (Nat × List Char)
  | '\\' :: 'u' :: a :: b :: c :: d :: s =>
    match hex4? a b c d with
    | some n => if isLowHalf n then some (n, s) else none
    | none => none
  | _ => none

theorem length_of_lowHalf? {s rest : List Char} {n : Nat} (h : lowHalf? s = some (n, rest)) :
    rest.length < s.length := by
  unfold lowHalf? at h
  split at h
  · split at h
    · split at h
      · simp only [Option.some.injEq, Prod.mk.injEq] at h
        simp only [← h.2, List.length_cons]
        omega
      · simp at h
    · simp at h
  · simp at h

/-- Reads a text behind its opening quotation mark.  Half of a surrogate pair leaves it
without characters to stand for. -/
def readText (s : List Char) : Option (Option (List Char) × List Char) :=
  match s with
  | [] => none
  | '"' :: s => some (some [], s)
  | '\\' :: 'u' :: a :: b :: c :: d :: s =>
    match hex4? a b c d with
    | none => none
    | some n =>
      if isHighHalf n then
        match _h : lowHalf? s with
        | some (m, rest) =>
          let c := Char.ofNat (0x10000 + (n - 0xD800) * 0x400 + (m - 0xDC00))
          (readText rest).map fun (t, s) => (t.map (c :: ·), s)
        | none => (readText s).map fun (_, s) => (none, s)
      else if isLowHalf n then (readText s).map fun (_, s) => (none, s)
      else (readText s).map fun (t, s) => (t.map (Char.ofNat n :: ·), s)
  | '\\' :: c :: s =>
    match shortEscape? c with
    | none => none
    | some c => (readText s).map fun (t, s) => (t.map (c :: ·), s)
  | c :: s =>
    if c.toNat < 0x20 ∨ c = '\\' then none
    else (readText s).map fun (t, s) => (t.map (c :: ·), s)
termination_by s.length
decreasing_by
  · have := length_of_lowHalf? _h
    simp only [List.length_cons]
    omega
  all_goals
    simp only [List.length_cons]
    omega

@[simp] theorem readText_nil : readText [] = none := by
  rw [readText]

/-! ### Numbers -/

/-- Reads at least one decimal digit. -/
def readDigits (s : List Char) : Option (List Char × List Char) :=
  match s.takeWhile Char.isDigit with
  | [] => none
  | digits => some (digits, s.dropWhile Char.isDigit)

/-- The number of a row of decimal digits. -/
def digitsValue (digits : List Char) : Nat :=
  digits.foldl (fun n c => n * 10 + (c.toNat - '0'.toNat)) 0

/-- Takes a fraction off the front of a text, if there is one. -/
def skipFraction : List Char → Option (List Char)
  | '.' :: s => (readDigits s).map (·.2)
  | s => some s

/-- Takes an exponent off the front of a text, if there is one. -/
def skipExponent : List Char → Option (List Char)
  | c :: s =>
    if c = 'e' ∨ c = 'E' then
      match s with
      | '+' :: s => (readDigits s).map (·.2)
      | '-' :: s => (readDigits s).map (·.2)
      | s => (readDigits s).map (·.2)
    else some (c :: s)
  | [] => some []

/-- Reads a number behind its sign. -/
def readUnsigned (negative : Bool) (s : List Char) : Option (Value × List Char) := do
  let (digits, s) ← readDigits s
  if digits.head? = some '0' ∧ 1 < digits.length then none
  let rest ← skipExponent (← skipFraction s)
  let n := digitsValue digits
  if rest.length < s.length ∨ (negative = true ∧ n = 0) then return (.decimal, rest)
  return (.integer (if negative then -n else n), rest)

/-- Reads a number. -/
def readNumber : List Char → Option (Value × List Char)
  | '-' :: s => readUnsigned true s
  | s => readUnsigned false s

/-! ### Values -/

mutual

/-- Reads a value. -/
def readValue : Nat → List Char → Option (Value × List Char)
  | 0, _ => none
  | fuel + 1, s =>
    match s with
    | 'n' :: 'u' :: 'l' :: 'l' :: s => some (.null, s)
    | 't' :: 'r' :: 'u' :: 'e' :: s => some (.bool true, s)
    | 'f' :: 'a' :: 'l' :: 's' :: 'e' :: s => some (.bool false, s)
    | '"' :: s => (readText s).map fun (t, s) => (.string (t.map String.ofList), s)
    | '[' :: s =>
      match skip s with
      | ']' :: s => some (.array [], s)
      | s => (readItems fuel s).map fun (items, s) => (.array items, s)
    | '\x7b' :: s =>
      match skip s with
      | '\x7d' :: s => some (.object [], s)
      | s => (readMembers fuel s).map fun (members, s) => (.object members, s)
    | s => readNumber s

/-- Reads the values of a list that is not empty, and its closing bracket. -/
def readItems : Nat → List Char → Option (List Value × List Char)
  | 0, _ => none
  | fuel + 1, s => do
    let (v, s) ← readValue fuel s
    match skip s with
    | ']' :: s => some ([v], s)
    | ',' :: s => (readItems fuel (skip s)).map fun (rest, s) => (v :: rest, s)
    | _ => none

/-- Reads the members of an object that is not empty, and its closing brace. -/
def readMembers : Nat → List Char → Option (List (Option String × Value) × List Char)
  | 0, _ => none
  | fuel + 1, s => do
    match s with
    | '"' :: s =>
      let (key, s) ← readText s
      match skip s with
      | ':' :: s =>
        let (v, s) ← readValue fuel (skip s)
        let member := (key.map String.ofList, v)
        match skip s with
        | '\x7d' :: s => some ([member], s)
        | ',' :: s => (readMembers fuel (skip s)).map fun (rest, s) => (member :: rest, s)
        | _ => none
      | _ => none
    | _ => none

end

@[simp] theorem readValue_zero (s : List Char) : readValue 0 s = none := by
  rw [readValue]

@[simp] theorem readItems_zero (s : List Char) : readItems 0 s = none := by
  rw [readItems]

@[simp] theorem readMembers_zero (s : List Char) : readMembers 0 s = none := by
  rw [readMembers]

/-- The value that a text holds. -/
def Value.parse? (text : String) : Option Value := do
  let s := text.toList
  let (v, rest) ← readValue (s.length + 1) (skip s)
  if (skip rest).isEmpty then return v else none

end Rerank.Json
