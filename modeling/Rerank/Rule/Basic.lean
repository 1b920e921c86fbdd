/-
Rules.

A rule applies to a search result if its site is the host of the result and its pattern
matches the text of its preferred field; then it asks for its action.  Site, pattern and
action may each be missing.
-/
import Rerank.Action
import Rerank.Field
import Rerank.Pattern.Basic

namespace Rerank

/-- A rule. -/
structure Rule where
  /-- The line that it was written as. -/
  source : String
  /-- The number of that line, counted from 1. -/
  line : Nat
  /-- The pattern that must match; without one, any text does. -/
  pattern : Option Pattern
  /-- The fields that the rule names, or the address if it names none. -/
  fields : FieldSet
  /-- The host that the rule is for; without one, it is for all. -/
  site : Option String
  /-- The action that the rule asks for. -/
  action : Option Action
  deriving DecidableEq, Repr

end Rerank
