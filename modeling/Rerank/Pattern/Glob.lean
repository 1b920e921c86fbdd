/-
Globs, the structure of a pattern.

A pattern is written as a fragment of text.  A bar at its beginning ties it to the start of
the text that it is matched against, a further bar at its end to the end of it.  Between
the bars a star stands for any text, a caret for a separator, and every other character for
itself.  A fragment of one bar is tied to the start.
-/

namespace Rerank

/-- A part of a pattern. -/
inductive Token
  /-- A character that stands for itself. -/
  | char (c : Char)
  /-- A star: any text. -/
  | star
  /-- A caret: one character that separates parts of an address, or the end of the text. -/
  | separator
  deriving DecidableEq, Repr

namespace Token

/-- The part that a character of a fragment stands for. -/
def ofChar (c : Char) : Token :=
  if c = '*' then .star else if c = '^' then .separator else .char c

/-- The character that a part is written as. -/
def toChar : Token → Char
  | .char c => c
  | .star => '*'
  | .separator => '^'

@[simp] theorem toChar_ofChar (c : Char) : (ofChar c).toChar = c := by
  unfold ofChar
  split
  · next h => exact h.symm
  · split
    · next h => exact h.symm
    · rfl

end Token

/-- Whether a character separates parts of an address: all do but the letters and digits of
ASCII and the characters `_`, `.`, `%` and `-`. -/
def isSeparator (c : Char) : Bool :=
  !(c.isAlphanum || c == '_' || c == '.' || c == '%' || c == '-')

/-- The structure of a pattern. -/
structure Glob where
  /-- Whether it is tied to the start of the text. -/
  atStart : Bool
  /-- Whether it is tied to the end of the text. -/
  atEnd : Bool
  /-- The parts between the bars. -/
  tokens : List Token
  deriving DecidableEq, Repr

namespace Glob

/-- Takes a bar off the front of a text. -/
def takeFront : List Char → Bool × List Char
  | '|' :: s => (true, s)
  | s => (false, s)

/-- Takes a bar off the end of a text. -/
def takeBack (s : List Char) : Bool × List Char :=
  if s.getLast? = some '|' then (true, s.dropLast) else (false, s)

/-- The structure of a fragment. -/
def ofFragment (s : List Char) : Glob :=
  let (atStart, s) := takeFront s
  let (atEnd, s) := takeBack s
  ⟨atStart, atEnd, s.map Token.ofChar⟩

/-- The fragment of a structure. -/
def fragment (g : Glob) : List Char :=
  (if g.atStart then ['|'] else []) ++ g.tokens.map Token.toChar ++
    (if g.atEnd then ['|'] else [])

end Glob

end Rerank
