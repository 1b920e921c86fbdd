/-
Directives, the lines that rules are written in.

A directive is a pattern, and behind a dollar sign a list of options: `/blog/$boost=2,inurl`.
An option is a key, and behind an equals sign a value.  What the options mean is a matter of
rules; here they are texts.
-/

namespace Rerank

/-- An option of a directive. -/
structure Entry where
  /-- The key. -/
  key : String
  /-- The value, if an equals sign follows the key. -/
  value : Option String
  deriving DecidableEq, Repr

/-- A line taken apart. -/
structure Directive where
  /-- The text before the dollar sign. -/
  pattern : String
  /-- The options, if there is a dollar sign. -/
  options : Option (List Entry)
  deriving DecidableEq, Repr

/-- The options; a line without a dollar sign has none. -/
def Directive.entries (d : Directive) : List Entry :=
  d.options.getD []

end Rerank
