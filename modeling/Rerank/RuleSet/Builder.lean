/-
Making sets of rules.

A builder gathers lines, one by one or as texts of many lines, and compiles them under
limits.  The other ways to make a set of rules go through a builder without limits.
-/
import Rerank.Rule.Compilation
import Rerank.RuleSet.Basic
import Rerank.Text.Split

namespace Rerank

/-- Lines that are to be compiled. -/
structure Builder where
  /-- The lines, in order. -/
  lines : List String
  /-- The limits on each line. -/
  limits : Limits
  deriving DecidableEq, Repr

namespace Builder

/-- A builder without lines and limits. -/
def new : Builder := ⟨[], .none⟩

/-- Adds a line. -/
def directive (b : Builder) (line : String) : Builder :=
  { b with lines := b.lines ++ [line] }

/-- Adds the lines of a text. -/
def directives (b : Builder) (text : String) : Builder :=
  { b with lines := b.lines ++ (Text.lines text.toList).map String.ofList }

/-- Replaces the limits. -/
def withLimits (b : Builder) (limits : Limits) : Builder :=
  { b with limits }

/-- Compiles the lines. -/
def compile (b : Builder) : Logged (Except CompileFault RuleSet) := do
  match ← Rule.compileLines b.limits b.lines with
  | .error fault => pure (.error fault)
  | .ok rules => pure (.ok ⟨rules⟩)

end Builder

namespace RuleSet

/-- The rules of a text. -/
def ofText (text : String) : Logged (Except CompileFault RuleSet) :=
  (Builder.new.directives text).compile

/-- The rules of some lines, which are taken as they are. -/
def ofLines (lines : List String) : Logged (Except CompileFault RuleSet) :=
  (lines.foldl Builder.directive .new).compile

/-- Why a file gives no set of rules. -/
inductive LoadFault
  /-- There is no file. -/
  | notFound
  /-- The bytes of the file are no text. -/
  | notText
  /-- A line cannot be compiled. -/
  | compile (cause : CompileFault)
  deriving DecidableEq, Repr

/-- The fault in words. -/
def LoadFault.message : LoadFault → String
  | .notFound => "No such file or directory (os error 2)"
  | .notText => "stream did not contain valid UTF-8"
  | .compile cause => cause.message

/-- The rules of a file with the given bytes, if it exists. -/
def ofFile (bytes : Option ByteArray) : Logged (Except LoadFault RuleSet) :=
  match bytes with
  | none => pure (.error .notFound)
  | some bytes =>
    match String.fromUTF8? bytes with
    | none => pure (.error .notText)
    | some text => do
      match ← ofText text with
      | .error cause => pure (.error (.compile cause))
      | .ok rules => pure (.ok rules)

end RuleSet

end Rerank
