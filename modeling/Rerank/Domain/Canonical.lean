/-
Canonical composition of text.

Two texts that differ only in how accented letters and Hangul syllables are put together
have the same composed form.  It is reached in three steps: every character is taken apart
as far as possible, the marks after a base character are sorted by their combining
classes, and what composes is put together again.
-/
import Rerank.Domain.Canonical.Table

namespace Rerank.Domain

namespace Canonical

/-- The canonical combining class of a character; base characters have class 0. -/
def combiningClass (c : Char) : Nat :=
  combiningClassTable.get c

/-! ### Hangul syllables, by arithmetic -/

/-- The first leading consonant. -/
def leadBase : Nat := 0x1100

/-- The first vowel. -/
def vowelBase : Nat := 0x1161

/-- The code point before the first trailing consonant. -/
def trailBase : Nat := 0x11A7

/-- The first syllable. -/
def syllableBase : Nat := 0xAC00

/-- The parts of a Hangul syllable. -/
def hangulParts? (c : Char) : Option (List Char) :=
  let n := c.toNat
  if syllableBase ≤ n ∧ n < syllableBase + 11172 then
    let i := n - syllableBase
    let lead := Char.ofNat (leadBase + i / 588)
    let vowel := Char.ofNat (vowelBase + i % 588 / 28)
    if i % 28 = 0 then some [lead, vowel]
    else some [lead, vowel, Char.ofNat (trailBase + i % 28)]
  else none

/-- The Hangul syllable of two parts: of a leading consonant and a vowel, or of such a
syllable and a trailing consonant. -/
def hangulWhole? (a b : Char) : Option Char :=
  let m := a.toNat
  let n := b.toNat
  if leadBase ≤ m ∧ m < leadBase + 19 ∧ vowelBase ≤ n ∧ n < vowelBase + 21 then
    some (Char.ofNat (syllableBase + ((m - leadBase) * 21 + (n - vowelBase)) * 28))
  else if syllableBase ≤ m ∧ m < syllableBase + 11172 ∧ (m - syllableBase) % 28 = 0 ∧
      trailBase < n ∧ n < trailBase + 28 then
    some (Char.ofNat (m + (n - trailBase)))
  else none

/-! ### Taking apart, sorting and putting together -/

/-- The parts of a character that the tables list. -/
def listedParts? (c : Char) : Option (List Char) :=
  compositeTable.find? c <|> singletonTable.find? c

/-- The parts of a character, taken apart at most `depth` times over, where `listed?` lists the
parts of the characters that are no syllables of Hangul. -/
def charParts (listed? : Char → Option (List Char)) : Nat → Char → List Char
  | 0, c => [c]
  | depth + 1, c =>
    match hangulParts? c with
    | some parts => parts
    | none =>
      match listed? c with
      | some parts => parts.flatMap (charParts listed? depth)
      | none => [c]

/-- The parts of all characters of a text.  Decompositions nest no deeper than four. -/
def textParts (s : List Char) : List Char :=
  s.flatMap (charParts listedParts? 8)

/-- Puts a character after a text whose last characters come first.  A mark moves forward
past marks of a higher class, and past nothing else. -/
def insertMark (c : Char) : List Char → List Char
  | [] => [c]
  | x :: back =>
    if combiningClass c ≠ 0 ∧ combiningClass c < combiningClass x then x :: insertMark c back
    else c :: x :: back

/-- Sorts the marks after each base character by class, and keeps the order of marks of
one class. -/
def sortMarks (s : List Char) : List Char :=
  (s.foldl (fun back c => insertMark c back) []).reverse

/-- The character composed of two others, if there is one. -/
def whole? (a b : Char) : Option Char :=
  match hangulWhole? a b with
  | some c => some c
  | none => (compositeTable.entries.find? (·.2 == [a, b])).map fun e => Char.ofNat e.1

/-- What has been put together: a base character and the marks behind it that did not
compose with it. -/
structure Open where
  /-- The text before the base character, last character first. -/
  back : List Char
  /-- The base character. -/
  base : Char
  /-- The marks after the base character, last mark first. -/
  marks : List Char

/-- Reads one more character.  It composes with the base character unless a mark of its
own class or a higher one stands between them. -/
def Open.read (o : Open) (c : Char) : Open :=
  let reaches :=
    match o.marks with
    | [] => true
    | m :: _ => combiningClass m < combiningClass c
  match if reaches then whole? o.base c else none with
  | some base => { o with base }
  | none =>
    if combiningClass c = 0 then ⟨o.marks ++ o.base :: o.back, c, []⟩
    else { o with marks := c :: o.marks }

/-- Puts characters together, from the left. -/
def putTogether : List Char → List Char
  | [] => []
  | c :: s =>
    if combiningClass c ≠ 0 then c :: putTogether s
    else
      let o := s.foldl Open.read ⟨[], c, []⟩
      (o.marks ++ o.base :: o.back).reverse

/-- The composed form of a text. -/
def compose (s : List Char) : List Char :=
  putTogether (sortMarks (textParts s))

end Canonical

end Rerank.Domain
