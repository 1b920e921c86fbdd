/-
Testing a rule on a search result.
-/
import Rerank.Document
import Rerank.Log.Logged
import Rerank.Rule.Basic

namespace Rerank

namespace Rule

/-- Whether the site of a rule is a given host; a rule without a site is for all hosts. -/
def admits (r : Rule) (host : String) : Bool :=
  match r.site with
  | some site => site == host
  | none => true

/-- The field whose text a rule is tested on. -/
def target (r : Rule) : Field := r.fields.primary?.getD .url

/-- Whether the pattern of a rule matches a text; a rule without a pattern matches any. -/
def accepts (r : Rule) (text : String) : Bool :=
  match r.pattern with
  | some p => p.isMatch text
  | none => true

/-- Whether a rule applies to a search result. -/
def applies (r : Rule) (d : Document) : Bool :=
  r.admits d.host &&
    match d.text? r.target with
    | some text => r.accepts text
    | none => false

/-- The action that a rule asks for on a search result; a rule that applies is recorded. -/
def test (r : Rule) (d : Document) : Logged (Option Action) :=
  if r.applies d then
    match r.action with
    | some action => do
      Logged.record (.fired r.line d.url action)
      pure (some action)
    | none => do
      Logged.record (.idle r.line d.url)
      pure none
  else pure none

end Rule

end Rerank
