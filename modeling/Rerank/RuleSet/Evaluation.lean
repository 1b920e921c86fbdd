/-
Applying a set of rules to a search result.

`evaluate` gives the decision of the greatest action that any rule asks for.
`evaluateDetailed` also reports which rules asked for one, and which of them decided; of
several rules with the greatest action it is the first.  Both test every rule once, in
order, and so record the same events.
-/
import Rerank.Rule.Application
import Rerank.RuleSet.Basic

namespace Rerank

/-- What came of applying a set of rules to a search result. -/
structure Report where
  /-- The decision. -/
  outcome : Outcome
  /-- The lines of the rules that asked for an action, in order. -/
  fired : List Nat
  /-- The line of the rule that decided. -/
  winner : Option Nat
  deriving DecidableEq, Repr

/-- The report in words. -/
def Report.text (r : Report) : String :=
  "outcome: " ++ r.outcome.text ++
    (match r.winner with
      | some line => " (line " ++ toString line ++ ")"
      | none => "") ++
    ", fired: [" ++ ", ".intercalate (r.fired.map toString) ++ "]"

namespace RuleSet

/-- The actions that some rules ask for, in order. -/
def actions (d : Document) : List Rule → Logged (List Action)
  | [] => pure []
  | r :: rest => do
    match ← r.test d with
    | none => actions d rest
    | some a => do pure (a :: (← actions d rest))

/-- The decision on a search result. -/
def evaluate (s : RuleSet) (d : Document) : Logged Outcome := do
  match Action.greatest? (← actions d s.rules) with
  | some a => pure a.outcome
  | none => pure .noOpinion

/-- The decision on the search result of an address. -/
def evaluateUrl (s : RuleSet) (url : String) : Except Document.Fault (Logged Outcome) :=
  (Document.ofUrl url).map s.evaluate

/-- What is known after testing the first rules. -/
structure Standing where
  /-- The lines of the rules that asked for an action, in order. -/
  fired : List Nat
  /-- The greatest action so far, and the line of the first rule that asked for it. -/
  best : Option (Action × Nat)

/-- Takes in that the rule of a line asks for an action. -/
def Standing.add (t : Standing) (line : Nat) (a : Action) : Standing where
  fired := t.fired ++ [line]
  best :=
    match t.best with
    | none => some (a, line)
    | some (b, first) => if b < a then some (a, line) else some (b, first)

/-- Tests rules, in order, and keeps the standing. -/
def standing (d : Document) (t : Standing) : List Rule → Logged Standing
  | [] => pure t
  | r :: rest => do
    match ← r.test d with
    | none => standing d t rest
    | some a => standing d (t.add r.line a) rest

/-- The decision on a search result, with the rules that led to it. -/
def evaluateDetailed (s : RuleSet) (d : Document) : Logged Report := do
  let t ← standing d ⟨[], none⟩ s.rules
  match t.best with
  | some (a, line) => pure ⟨a.outcome, t.fired, some line⟩
  | none => pure ⟨.noOpinion, t.fired, none⟩

end RuleSet

end Rerank
