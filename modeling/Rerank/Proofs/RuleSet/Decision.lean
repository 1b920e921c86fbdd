/-
What a set of rules decides, read off the actions that its rules ask for.

`evaluate` takes the greatest action that any rule asks for.  Here its decision is described
without an order: which kinds of action are asked for, and for a boost or a downrank which
magnitude is the largest (`Outcome.DecidedBy`).  The main result is `evaluate_eq_iff_decidedBy`.
-/
import Mathlib.Data.List.Basic
import Rerank.Proofs.Action
import Rerank.RuleSet.Evaluation

namespace Rerank

namespace Action

/-- `Strongest kind asked m` says that `m` is the largest magnitude that is asked for in actions of
a kind. -/
def Strongest (kind : Magnitude → Action) (asked : List Action) (m : Magnitude) : Prop :=
  kind m ∈ asked ∧ ∀ n, kind n ∈ asked → n.val ≤ m.val

end Action

/-- The decision that some actions lead to.  Without any there is none.  The result is removed if a
specific discard is asked for, or nothing but generic ones.  Otherwise it is moved, by the largest
boost, or by the largest downrank if there is no boost. -/
def Outcome.DecidedBy (asked : List Action) : Outcome → Prop
  | .noOpinion => asked = []
  | .discard =>
    .specificDiscard ∈ asked ∨ asked ≠ [] ∧ ∀ a ∈ asked, a = .genericDiscard
  | .score m =>
    .specificDiscard ∉ asked ∧ (Action.Strongest .boost asked m ∨
      (∀ n, .boost n ∉ asked) ∧ Action.Strongest .downrank asked m)

namespace Outcome

open Rerank.Action

variable {asked : List Action} {a : Action}

lemma decidedBy_discard_iff (h : greatest? asked = some a) :
    discard.DecidedBy asked ↔ a = .specificDiscard ∨ a = .genericDiscard := by
  obtain ⟨hmem, hmax⟩ := greatest?_eq_some_iff.1 h
  constructor
  · rintro (hspecific | ⟨-, hgeneric⟩)
    · exact Or.inl (specificDiscard_le_iff.1 (hmax _ hspecific))
    · exact Or.inr (hgeneric a hmem)
  · rintro (rfl | rfl)
    · exact Or.inl hmem
    · exact Or.inr ⟨List.ne_nil_of_mem hmem, fun b hb => le_genericDiscard_iff.1 (hmax b hb)⟩

lemma decidedBy_score_iff (h : greatest? asked = some a) (m : Magnitude) :
    (score m).DecidedBy asked ↔ a = .boost m ∨ a = .downrank m := by
  obtain ⟨hmem, hmax⟩ := greatest?_eq_some_iff.1 h
  constructor
  · rintro ⟨hspecific, ⟨hboost, hlargest⟩ | ⟨hnone, hdownrank, hlargest⟩⟩
    · rcases boost_le_iff.1 (hmax _ hboost) with ⟨n, rfl, hmn⟩ | rfl
      · exact Or.inl (congrArg _ (Magnitude.ext (Int.le_antisymm (hlargest n hmem) hmn)))
      · exact absurd hmem hspecific
    · rcases downrank_le_iff.1 (hmax _ hdownrank) with ⟨n, rfl, hmn⟩ | ⟨n, rfl⟩ | rfl
      · exact Or.inr (congrArg _ (Magnitude.ext (Int.le_antisymm (hlargest n hmem) hmn)))
      · exact absurd hmem (hnone n)
      · exact absurd hmem hspecific
  · have hspecific : a ≠ .specificDiscard → .specificDiscard ∉ asked := fun hne hs =>
      hne (specificDiscard_le_iff.1 (hmax _ hs))
    rintro (rfl | rfl)
    · exact ⟨hspecific (by simp), Or.inl ⟨hmem, fun n hn => boost_le_boost_iff.1 (hmax _ hn)⟩⟩
    · refine ⟨hspecific (by simp), Or.inr ⟨fun n hn => ?_, hmem, fun n hn => ?_⟩⟩
      · exact not_boost_le_downrank _ _ (hmax _ hn)
      · exact downrank_le_downrank_iff.1 (hmax _ hn)

/-- The greatest action stands for the decision that all actions lead to. -/
lemma decidedBy_iff_of_greatest (h : greatest? asked = some a) (o : Outcome) :
    o.DecidedBy asked ↔ a.outcome = o := by
  cases o with
  | noOpinion =>
    have hne : asked ≠ [] := List.ne_nil_of_mem (greatest?_eq_some_iff.1 h).1
    cases a <;> simp [DecidedBy, hne]
  | discard =>
    rw [decidedBy_discard_iff h]
    cases a <;> simp
  | score m =>
    rw [decidedBy_score_iff h]
    cases a <;> simp

/-- Without actions there is no other decision than none. -/
lemma decidedBy_nil_iff (o : Outcome) : o.DecidedBy [] ↔ noOpinion = o := by
  cases o <;> simp [DecidedBy, Strongest]

end Outcome

namespace RuleSet

/-- The actions that the rules of a set ask for, in order. -/
def asked (s : RuleSet) (d : Document) : List Action :=
  s.rules.filterMap fun r => (r.test d).value

lemma value_actions (d : Document) (rules : List Rule) :
    (actions d rules).value = rules.filterMap fun r => (r.test d).value := by
  induction rules with
  | nil => rfl
  | cons r rules ih =>
    rw [actions, Logged.value_bind, List.filterMap_cons]
    rcases (r.test d).value with _ | a
    · exact ih
    · simp only [Logged.value_bind, Logged.value_pure, ih]

/-- A set of rules decides what the greatest action stands for. -/
lemma value_evaluate (s : RuleSet) (d : Document) :
    (s.evaluate d).value = ((Action.greatest? (s.asked d)).map Action.outcome).getD .noOpinion := by
  rw [evaluate, Logged.value_bind, value_actions, ← asked]
  rcases Action.greatest? (s.asked d) with _ | a <;> rfl

/-- **The decision of a set of rules.**  A set of rules decides what the actions that its rules ask
for lead to, and nothing else.  So a boost prevails over every downrank, whatever the signs of
their magnitudes: if no specific discard is asked for, the result is moved by a boost that is at
least as large. -/
theorem evaluate_eq_iff_decidedBy (s : RuleSet) (d : Document) :
    (∀ o, (s.evaluate d).value = o ↔ o.DecidedBy (s.asked d)) ∧
      ∀ m, .boost m ∈ s.asked d → .specificDiscard ∉ s.asked d →
        ∃ n, (s.evaluate d).value = .score n ∧ .boost n ∈ s.asked d ∧ m.val ≤ n.val := by
  rcases h : Action.greatest? (s.asked d) with _ | a
  · have hvalue : (s.evaluate d).value = .noOpinion := by rw [value_evaluate, h]; rfl
    have hnil := Action.greatest?_eq_none_iff.1 h
    refine ⟨fun o => ?_, fun m hm => ?_⟩
    · rw [hvalue, hnil, Outcome.decidedBy_nil_iff]
    · simp [hnil] at hm
  · have hvalue : (s.evaluate d).value = a.outcome := by rw [value_evaluate, h]; rfl
    obtain ⟨hmem, hmax⟩ := Action.greatest?_eq_some_iff.1 h
    refine ⟨fun o => ?_, fun m hm hspecific => ?_⟩
    · rw [hvalue, Outcome.decidedBy_iff_of_greatest h]
    · rcases Action.boost_le_iff.1 (hmax _ hm) with ⟨n, rfl, hmn⟩ | rfl
      · exact ⟨n, hvalue, hmem, hmn⟩
      · exact absurd hmem hspecific

end RuleSet

end Rerank
