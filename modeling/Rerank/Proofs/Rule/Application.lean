/-
When a rule applies, and what it asks for then.

A rule asks for its action if it applies (`value_test`).  It applies if its site, if it has one, is
the host, and if the text of its field is known and matched by its pattern, if it has one
(`applies_iff`).  So it asks for the same on two search results that agree on the host and on this
text (`value_test_congr`).
-/
import Mathlib.Data.List.Basic
import Rerank.Rule.Application

namespace Rerank

namespace Rule

/-- What a rule asks for: its action, if it applies. -/
lemma value_test (r : Rule) (d : Document) :
    (r.test d).value = if r.applies d then r.action else none := by
  rw [test]
  split
  · rcases r.action with _ | a <;> rfl
  · rfl

lemma admits_iff {r : Rule} {host : String} :
    r.admits host = true ↔ ∀ site ∈ r.site, site = host := by
  unfold admits
  rcases r.site with _ | site <;> simp

lemma accepts_iff {r : Rule} {text : String} :
    r.accepts text = true ↔ ∀ p ∈ r.pattern, p.isMatch text = true := by
  unfold accepts
  rcases r.pattern with _ | p <;> simp

lemma applies_iff {r : Rule} {d : Document} : r.applies d = true ↔
    (∀ site ∈ r.site, site = d.host) ∧
      ∃ text, d.text? r.target = some text ∧ ∀ p ∈ r.pattern, p.isMatch text = true := by
  rw [applies, Bool.and_eq_true, admits_iff]
  refine and_congr_right fun _ => ?_
  rcases d.text? r.target with _ | text
  · simp
  · simp [accepts_iff]

/-- **A rule looks at the host and at one text.** -/
lemma value_test_congr {r : Rule} {d d' : Document} (hhost : d.host = d'.host)
    (htext : d.text? r.target = d'.text? r.target) : (r.test d).value = (r.test d').value := by
  have happlies : r.applies d = r.applies d' := by
    rw [applies, applies, hhost, htext]
  rw [value_test, value_test, happlies]

/-- The preferred field of a rule, as the first of all fields that it names. -/
lemma target_eq (r : Rule) : r.target = (Field.all.find? r.fields.contains).getD .url := by
  rw [target, FieldSet.primary?, FieldSet.toList, List.head?_filter]

end Rule

end Rerank
