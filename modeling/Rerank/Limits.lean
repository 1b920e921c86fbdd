/-
Limits on the size of a directive.
-/

namespace Rerank

/-- How large a directive may be.  What is not limited is absent; a limit is a number of 64
bits. -/
structure Limits where
  /-- The greatest length of a pattern, in bytes. -/
  patternLength : Option UInt64
  /-- The greatest number of options. -/
  optionCount : Option UInt64
  deriving DecidableEq, Repr

namespace Limits

/-- No limits. -/
def none : Limits := ⟨.none, .none⟩

instance : Inhabited Limits := ⟨none⟩

/-- The limit that a number exceeds. -/
def exceeded? (limit : Option UInt64) (n : Nat) : Option Nat :=
  match limit with
  | some l => if l.toNat < n then some l.toNat else .none
  | .none => .none

/-- No number exceeds an absent limit. -/
@[simp] theorem exceeded?_none (n : Nat) : exceeded? .none n = .none := rfl

end Limits

end Rerank
