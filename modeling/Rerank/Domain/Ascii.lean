/-
The ASCII form of a domain.

Domains that people write hold letters of any script and any case; the form that is looked
up holds ASCII only.  `toAscii?` gives this form, or nothing if the domain is invalid: if
it holds a character that no domain may hold, or a label that begins with a mark, misplaces
a joiner, runs in two directions, or claims to be encoded and is not.

A label may be empty and of any length here.  Domains of plain ASCII are lower-cased and
checked for forbidden characters, and nothing else happens to them; they do not reach the
tables.
-/
import Rerank.Domain.Bidi
import Rerank.Domain.Joining
import Rerank.Domain.Mapping
import Rerank.Domain.Punycode

namespace Rerank.Domain

/-- The characters of ASCII that no domain may hold. -/
def isForbidden (c : Char) : Bool :=
  c.toNat ≤ 0x20 || c.toNat == 0x7F || "%#/:<>?@[\\]^|".toList.contains c

/-- Whether a character belongs to ASCII. -/
def isAscii (c : Char) : Bool :=
  c.toNat < 0x80

/-- What an encoded label begins with. -/
def encodedMark : List Char := ['x', 'n', '-', '-']

/-- A label with the characters it stands for. -/
structure Label where
  /-- The characters, decoded. -/
  chars : List Char
  /-- The form in ASCII. -/
  ascii : List Char

namespace Label

/-- The longest encoded text that is decoded. -/
def maxEncoded : Nat := 2000

/-- The most characters that an encoded label stands for. -/
def maxDecoded : Nat := 1000

/-- Reads a label of a mapped domain.  An encoded label ends in a digit of its own, and
stands for characters that the mapping and the composition leave alone.  Only a label of
plain ASCII may stand for more than `maxDecoded` characters. -/
def ofMapped? (s : List Char) : Option Label :=
  if encodedMark.isPrefixOf s then
    let rest := s.drop encodedMark.length
    if !rest.all isAscii || rest.isEmpty || rest.getLast? == some '-' ||
        maxEncoded < rest.length then none
    else
      match Punycode.decode? rest with
      | none => none
      | some chars =>
        if maxDecoded < chars.length then none
        else if chars.all Mapping.keeps && Canonical.compose chars == chars then some ⟨chars, s⟩
        else none
  else if s.all isAscii then some ⟨s, s⟩
  else if maxDecoded < s.length then none
  else some ⟨s, encodedMark ++ Punycode.encode s⟩

end Label

/-- Whether a domain is plain: of ASCII, with no encoded label. -/
def isPlain (s : List Char) : Bool :=
  s.all isAscii && (Text.pieces '.' (s.map Char.toLower)).all (!encodedMark.isPrefixOf ·)

/-- The ASCII form of a domain, if it is valid. -/
def toAscii? (s : List Char) : Option (List Char) :=
  if isPlain s then
    let lower := s.map Char.toLower
    if lower.any isForbidden then none else some lower
  else do
    let mapped ← Mapping.text? s
    let normal := Canonical.compose mapped
    if normal.any isForbidden then none
    let labels ← (Text.pieces '.' normal).mapM Label.ofMapped?
    let chars := labels.map Label.chars
    if chars.all Joining.obeys && Bidi.obeys chars then
      return Text.joined '.' (labels.map Label.ascii)
    else none

end Rerank.Domain
