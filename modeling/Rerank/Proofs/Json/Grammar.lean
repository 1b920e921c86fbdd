/-
The grammar of JSON.

A text holds a value if it is a spelling of the value with white space around it (`Holds`).  Spellings
are told piece by piece, without saying how they are read: the units between the quotation marks of a
text (`TextUnit.Spelled`) and the characters that they stand for together (`decode`), numbers
(`NumberSpelled`), and values, which nest (`Spelled`).  A value may have many spellings: with or
without escapes, white space, fractions and exponents.
-/
import Rerank.Json.Reader
import Rerank.Proofs.Magnitude.Decimal

namespace Rerank.Json

/-- Nothing but white space. -/
def AllSpace (s : List Char) : Prop := ∀ c ∈ s, isSpace c = true

/-! ### Texts -/

/-- What stands between the quotation marks of a text is made of: characters, and numbers of
characters or of halves of a surrogate pair. -/
inductive TextUnit
  | char (c : Char)
  | code (n : Nat)

/-- The letters that may stand behind a backslash, and the characters that they stand for. -/
def escapes : List (Char × Char) :=
  [('"', '"'), ('\\', '\\'), ('/', '/'), ('b', '\x08'), ('f', '\x0c'), ('n', '\n'), ('r', '\r'),
    ('t', '\t')]

/-- The spellings of a unit.  A character that is no control stands for itself, but for quotation
marks and backslashes; a number is written in four hexadecimal digits. -/
inductive TextUnit.Spelled : TextUnit → List Char → Prop
  | plain {c : Char} (hcontrol : 0x20 ≤ c.toNat) (hquote : c ≠ '"') (hbackslash : c ≠ '\\') :
      Spelled (.char c) [c]
  | escape {letter c : Char} (h : (letter, c) ∈ escapes) : Spelled (.char c) ['\\', letter]
  | code {a b c d : Char} {k l m n : Nat} (ha : Address.digitValue? a = some k)
      (hb : Address.digitValue? b = some l) (hc : Address.digitValue? c = some m)
      (hd : Address.digitValue? d = some n) :
      Spelled (.code (k * 16 ^ 3 + l * 16 ^ 2 + m * 16 + n)) ['\\', 'u', a, b, c, d]

/-- The spellings of units, one behind the other. -/
inductive UnitsSpelled : List TextUnit → List Char → Prop
  | nil : UnitsSpelled [] []
  | cons {u : TextUnit} {us : List TextUnit} {p q : List Char} (h : u.Spelled p)
      (hs : UnitsSpelled us q) : UnitsSpelled (u :: us) (p ++ q)

/-- The character that two halves of a surrogate pair stand for. -/
def pairChar (high low : Nat) : Char :=
  Char.ofNat (0x10000 + (high - 0xD800) * 0x400 + (low - 0xDC00))

/-- The characters that units stand for.  Two halves of a surrogate pair stand for one character, and
a half by itself for none, which leaves the text without a meaning. -/
def decode : List TextUnit → Option (List Char)
  | [] => some []
  | .char c :: us => (decode us).map (c :: ·)
  | .code n :: us =>
    if isHighHalf n then
      match us with
      | .code m :: us => if isLowHalf m then (decode us).map (pairChar n m :: ·) else none
      | _ => none
    else if isLowHalf n then none
    else (decode us).map (Char.ofNat n :: ·)

/-- The spellings of a text, in quotation marks. -/
inductive TextSpelled : Option String → List Char → Prop
  | quoted {us : List TextUnit} {p : List Char} (h : UnitsSpelled us p) :
      TextSpelled ((decode us).map String.ofList) ('"' :: (p ++ ['"']))

/-! ### Numbers -/

/-- At least one digit. -/
structure IsDigits (digits : List Char) : Prop where
  /-- There is one. -/
  ne_nil : digits ≠ []
  /-- All are digits. -/
  isDigit : ∀ c ∈ digits, c.isDigit = true

/-- The digits of a number before its fraction.  A zero is followed by none. -/
structure IsNumeral (digits : List Char) : Prop extends IsDigits digits where
  /-- There are no leading zeros. -/
  eq_zero : digits.head? = some '0' → digits = ['0']

/-- A fraction, or none. -/
inductive Fraction : List Char → Prop
  | none : Fraction []
  | some {digits : List Char} (h : IsDigits digits) : Fraction ('.' :: digits)

/-- An exponent, or none. -/
inductive Exponent : List Char → Prop
  | none : Exponent []
  | some {e : Char} {sign digits : List Char} (he : e = 'e' ∨ e = 'E')
      (hsign : sign = [] ∨ sign = ['+'] ∨ sign = ['-']) (h : IsDigits digits) :
      Exponent (e :: (sign ++ digits))

/-- The sign of a number. -/
def minus (negative : Bool) : List Char := if negative then ['-'] else []

/-- The spellings of numbers.  A number without fraction and exponent is an integer, unless it is a
negative zero. -/
inductive NumberSpelled : Value → List Char → Prop
  | integer {negative : Bool} {digits : List Char} (h : IsNumeral digits)
      (hzero : negative = true → Magnitude.placeValue digits ≠ 0) :
      NumberSpelled (.integer (Magnitude.signed negative (Magnitude.placeValue digits)))
        (minus negative ++ digits)
  | decimal {negative : Bool} {digits fraction exponent : List Char} (h : IsNumeral digits)
      (hfraction : Fraction fraction) (hexponent : Exponent exponent)
      (hother : fraction ≠ [] ∨ exponent ≠ [] ∨
        negative = true ∧ Magnitude.placeValue digits = 0) :
      NumberSpelled .decimal (minus negative ++ (digits ++ (fraction ++ exponent)))

/-! ### Values -/

/-- What nests: values, what stands between the brackets of a list, and what stands between the
braces of an object. -/
inductive Part
  | value (v : Value)
  | items (vs : List Value)
  | members (ms : List (Option String × Value))

/-- The spellings of a key, with the colon and the white space before the value. -/
inductive KeySpelled : Option String → List Char → Prop
  | colon {key : Option String} {p before behind : List Char} (h : TextSpelled key p)
      (hbefore : AllSpace before) (hbehind : AllSpace behind) :
      KeySpelled key (p ++ (before ++ ':' :: behind))

/-- The spellings of values, and of the items and members of which there is at least one. -/
inductive Spelled : Part → List Char → Prop
  | null : Spelled (.value .null) ['n', 'u', 'l', 'l']
  | isTrue : Spelled (.value (.bool true)) ['t', 'r', 'u', 'e']
  | isFalse : Spelled (.value (.bool false)) ['f', 'a', 'l', 's', 'e']
  | number {v : Value} {p : List Char} (h : NumberSpelled v p) : Spelled (.value v) p
  | text {t : Option String} {p : List Char} (h : TextSpelled t p) : Spelled (.value (.string t)) p
  | emptyArray {space : List Char} (hspace : AllSpace space) :
      Spelled (.value (.array [])) ('[' :: (space ++ [']']))
  | array {vs : List Value} {space p : List Char} (hspace : AllSpace space)
      (h : Spelled (.items vs) p) : Spelled (.value (.array vs)) ('[' :: (space ++ (p ++ [']'])))
  | emptyObject {space : List Char} (hspace : AllSpace space) :
      Spelled (.value (.object [])) ('\x7b' :: (space ++ ['\x7d']))
  | object {ms : List (Option String × Value)} {space p : List Char} (hspace : AllSpace space)
      (h : Spelled (.members ms) p) :
      Spelled (.value (.object ms)) ('\x7b' :: (space ++ (p ++ ['\x7d'])))
  | item {v : Value} {p space : List Char} (h : Spelled (.value v) p) (hspace : AllSpace space) :
      Spelled (.items [v]) (p ++ space)
  | moreItems {v : Value} {vs : List Value} {p before behind q : List Char}
      (h : Spelled (.value v) p) (hbefore : AllSpace before) (hbehind : AllSpace behind)
      (hs : Spelled (.items vs) q) :
      Spelled (.items (v :: vs)) (p ++ (before ++ ',' :: (behind ++ q)))
  | member {key : Option String} {v : Value} {k p space : List Char} (hkey : KeySpelled key k)
      (h : Spelled (.value v) p) (hspace : AllSpace space) :
      Spelled (.members [(key, v)]) (k ++ (p ++ space))
  | moreMembers {key : Option String} {v : Value} {ms : List (Option String × Value)}
      {k p before behind q : List Char} (hkey : KeySpelled key k) (h : Spelled (.value v) p)
      (hbefore : AllSpace before) (hbehind : AllSpace behind) (hs : Spelled (.members ms) q) :
      Spelled (.members ((key, v) :: ms)) (k ++ (p ++ (before ++ ',' :: (behind ++ q))))

/-- A text holds a value. -/
inductive Holds : List Char → Value → Prop
  | around {v : Value} {before p behind : List Char} (hbefore : AllSpace before)
      (h : Spelled (.value v) p) (hbehind : AllSpace behind) :
      Holds (before ++ (p ++ behind)) v

end Rerank.Json
