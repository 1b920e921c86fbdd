/-
Sets of rules, and how many rules of each kind they hold.
-/
import Rerank.Rule.Basic

namespace Rerank

/-- The rules of some lines, in the order of the lines. -/
structure RuleSet where
  /-- The rules. -/
  rules : List Rule
  deriving DecidableEq, Repr

/-- How many rules of each kind there are.  The counts have 32 bits. -/
structure Census where
  /-- Rules that boost. -/
  boost : Int32
  /-- Rules that downrank. -/
  downrank : Int32
  /-- Rules that discard. -/
  discard : Int32
  /-- Rules without an action. -/
  inert : Int32
  deriving DecidableEq, Repr

namespace Census

/-- No rules. -/
def zero : Census := ⟨0, 0, 0, 0⟩

/-- Counts a rule. -/
def add (n : Census) (r : Rule) : Census :=
  match r.action with
  | none => { n with inert := n.inert + 1 }
  | some .genericDiscard => { n with discard := n.discard + 1 }
  | some .specificDiscard => { n with discard := n.discard + 1 }
  | some (.boost _) => { n with boost := n.boost + 1 }
  | some (.downrank _) => { n with downrank := n.downrank + 1 }

end Census

namespace RuleSet

/-- The number of rules. -/
def size (s : RuleSet) : Nat := s.rules.length

/-- Whether there are no rules. -/
def isEmpty (s : RuleSet) : Bool := s.rules.isEmpty

/-- The rules, counted by kind. -/
def census (s : RuleSet) : Census := s.rules.foldl Census.add .zero

/-- A summary of the rules. -/
def text (s : RuleSet) : String :=
  let n := s.census
  "RuleSet(" ++ toString s.size ++ " rules, " ++ toString n.boost.toInt ++ " boost, " ++
    toString n.downrank.toInt ++ " downrank, " ++ toString n.discard.toInt ++ " discard, " ++
    toString n.inert.toInt ++ " inert)"

end RuleSet

end Rerank
