/-
Reading a directive.

    directive = pattern [ "$" entries ]
    entries   = entry { "," entry }
    entry     = key [ "=" value ]

A pattern holds no dollar sign, a key no equals sign and no comma, and a value no comma; each
extends as far as it can.  Keys and values are trimmed of white space, patterns are not.
Every reader returns what it read together with the text that is left, so that nothing is
lost between one reader and the next.  All of them accept the empty text, and every line is
a directive.
-/
import Rerank.Directive.Basic
import Rerank.Text.Blank

namespace Rerank

namespace Directive

/-- Reads up to the first character of class `p`. -/
def readUntil (p : Char → Bool) (s : List Char) : List Char × List Char :=
  (s.takeWhile (!p ·), s.dropWhile (!p ·))

/-- Reads a key. -/
def readKey (s : List Char) : List Char × List Char :=
  readUntil (fun c => c == '=' || c == ',') s

/-- Reads a value, if an equals sign comes first. -/
def readValue : List Char → Option (List Char) × List Char
  | '=' :: s => let (value, rest) := readUntil (· == ',') s; (some value, rest)
  | s => (none, s)

/-- Reads an option. -/
def readEntry (s : List Char) : Entry × List Char :=
  let (key, s) := readKey s
  let (value, s) := readValue s
  (⟨String.ofList (Text.trim key), value.map fun v => String.ofList (Text.trim v)⟩, s)

theorem length_readUntil_le (p : Char → Bool) (s : List Char) :
    (readUntil p s).2.length ≤ s.length :=
  (List.dropWhile_suffix _).length_le

theorem length_readValue_le (s : List Char) : (readValue s).2.length ≤ s.length := by
  unfold readValue
  split
  · next t =>
    have := length_readUntil_le (· == ',') t
    simp only [List.length_cons]
    omega
  · exact Nat.le_refl _

/-- An option leaves no more text than there was. -/
theorem length_readEntry_le (s : List Char) : (readEntry s).2.length ≤ s.length :=
  Nat.le_trans (length_readValue_le _) (length_readUntil_le _ s)

/-- Reads options with commas between them. -/
def readEntries (s : List Char) : List Entry × List Char :=
  match _h : readEntry s with
  | (e, ',' :: more) =>
    let (rest, left) := readEntries more
    (e :: rest, left)
  | (e, left) => ([e], left)
termination_by s.length
decreasing_by
  have := length_readEntry_le s
  rw [_h] at this
  simp only [List.length_cons] at this
  omega

/-- Reads a directive. -/
def read (s : List Char) : Directive × List Char :=
  match readUntil (· == '$') s with
  | (pattern, '$' :: more) =>
    let (options, left) := readEntries more
    (⟨String.ofList pattern, some options⟩, left)
  | (pattern, left) => (⟨String.ofList pattern, none⟩, left)

/-- The directive that a line spells. -/
def parse (line : String) : Directive :=
  (read line.toList).1

end Directive

end Rerank
