/-
Writing a directive.

An option is written as its key alone or as key, equals sign and value, the options with
commas between them, and a dollar sign before them even if there is none.
-/
import Rerank.Directive.Basic

namespace Rerank

/-- The text of an option. -/
def Entry.text (e : Entry) : String :=
  match e.value with
  | some value => e.key ++ "=" ++ value
  | none => e.key

/-- The line of a directive. -/
def Directive.text (d : Directive) : String :=
  match d.options with
  | some options => d.pattern ++ "$" ++ ",".intercalate (options.map Entry.text)
  | none => d.pattern

end Rerank
