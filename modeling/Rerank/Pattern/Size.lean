/-
How large a pattern may be.

Expressions are matched by two programs, one that searches forwards and one that searches
backwards.  Each grows by a fixed number of bytes for every part of the pattern, and
neither may exceed 10 MiB.  A program is smaller if the pattern is tied to the end of the text at
which it begins: the forward program begins at the start, the backward one at the end.
-/
import Rerank.Pattern.Glob

namespace Rerank

/-- What the parts of a pattern cost in a program, in bytes. -/
structure PartCost where
  /-- The frame of a program that may start its match anywhere. -/
  floating : Nat
  /-- The frame of a program that starts its match at one end. -/
  anchored : Nat
  /-- A test for an end of the text. -/
  anchor : Nat
  /-- One byte of a character. -/
  byte : Nat
  /-- A star. -/
  star : Nat
  /-- A separator. -/
  separator : Nat

namespace PartCost

/-- The costs in the program that searches forwards. -/
def forward : PartCost := ⟨208, 128, 32, 32, 456, 568⟩

/-- The costs in the program that searches backwards. -/
def backward : PartCost := ⟨144, 64, 32, 32, 1004, 1284⟩

/-- The cost of a part of a pattern. -/
def token (k : PartCost) : Token → Nat
  | .char c => k.byte * c.utf8Size
  | .star => k.star
  | .separator => k.separator

/-- The frame of a program, for a pattern that is tied to the end at which the program begins, or is
not. -/
def frame (k : PartCost) (tied : Bool) : Nat :=
  if tied then k.anchored else k.floating

/-- The size of what a program holds in its frame: the tests for the ends of the text and the parts
between them. -/
def body (k : PartCost) (g : Glob) : Nat :=
  (if g.atStart then k.anchor else 0) + (if g.atEnd then k.anchor else 0) +
    g.tokens.foldr (fun t size => k.token t + size) 0

end PartCost

/-- The greatest size of a program, in bytes. -/
def maxProgramSize : Nat := 10 * 1024 * 1024

namespace Glob

/-- The size of the program that searches forwards. -/
def forwardSize (g : Glob) : Nat :=
  PartCost.forward.frame g.atStart + PartCost.forward.body g

/-- The size of the program that searches backwards. -/
def backwardSize (g : Glob) : Nat :=
  PartCost.backward.frame g.atEnd + PartCost.backward.body g

/-- Whether both programs of a pattern can be built. -/
def fits (g : Glob) : Bool :=
  g.forwardSize ≤ maxProgramSize && g.backwardSize ≤ maxProgramSize

end Glob

end Rerank
