/-
Patterns that can be matched.

A pattern is a fragment whose programs can be built; patterns are equal if their fragments
are.
-/
import Rerank.Pattern.Expression
import Rerank.Pattern.Matching
import Rerank.Pattern.Size

namespace Rerank

/-- A pattern that can be matched. -/
structure Pattern where
  /-- The fragment that it is written as. -/
  source : String
  /-- The fragment is not too large. -/
  fits : (Glob.ofFragment source.toList).fits = true
  deriving DecidableEq, Repr

namespace Pattern

/-- Why a fragment is no pattern. -/
inductive Fault
  /-- Its programs would be too large. -/
  | tooLarge
  deriving DecidableEq, Repr

/-- The fault in words. -/
def Fault.message : Fault → String
  | .tooLarge =>
    "Compiled regex exceeds size limit of " ++ toString maxProgramSize ++ " bytes."

/-- The pattern of a fragment. -/
def compile (source : String) : Except Fault Pattern :=
  if h : (Glob.ofFragment source.toList).fits then .ok ⟨source, h⟩ else .error .tooLarge

/-- The structure of a pattern. -/
def glob (p : Pattern) : Glob := Glob.ofFragment p.source.toList

/-- The regular expression of a pattern. -/
def expression (p : Pattern) : String := String.ofList p.glob.expression

/-- Whether a pattern matches a text. -/
def isMatch (p : Pattern) (text : String) : Bool := p.glob.isMatch text.toList

end Pattern

end Rerank
