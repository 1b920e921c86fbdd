/-
What a set of rules decides about a search result.
-/
import Rerank.Magnitude

namespace Rerank

/-- The decision on a search result. -/
inductive Outcome
  /-- No rule speaks about it. -/
  | noOpinion
  /-- It is removed. -/
  | discard
  /-- It is moved by a score. -/
  | score (m : Magnitude)
  deriving DecidableEq, Repr

namespace Outcome

instance : Inhabited Outcome := ⟨.noOpinion⟩

/-- The score, if the result is moved. -/
def score? : Outcome → Option Magnitude
  | .score m => some m
  | _ => none

/-- Whether the result is removed. -/
def isDiscard : Outcome → Bool
  | .discard => true
  | _ => false

/-- Whether no rule speaks about the result. -/
def isNoOpinion : Outcome → Bool
  | .noOpinion => true
  | _ => false

/-- The decision in words. -/
def text : Outcome → String
  | .noOpinion => "no opinion"
  | .discard => "discard"
  | .score m => "score " ++ m.text

end Outcome

end Rerank
