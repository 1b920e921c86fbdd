/-
Missing texts that are supplied.

Of a search result title, description and content may be missing, and a rule that looks at a missing
text does not apply.  If missing texts are supplied, whatever was known stays as it was
(`Document.Supplied.keeps`), so every rule that asked for an action still asks for it, and others
may ask for one as well.  Hence the firings before are among the firings after, in order
(`firings_sublist`), and the greatest action can only grow.  What is decided follows the greatest
action, but not in its order: a boost may give way to a removal.

This is about texts that were missing.  Nothing of it holds if a text is replaced.

The main result is `strengthens_of_supplied`.
-/
import Mathlib.Data.List.Basic
import Rerank.Proofs.Rule.Application
import Rerank.Proofs.RuleSet.Reordering

namespace Rerank

namespace Document

/-- Texts that a search result `d` lacks are supplied, one after the other.  One that is supplied
twice counts as it was supplied last. -/
inductive Supplied (d : Document) : Document → Prop
  | refl : Supplied d d
  | title {d' : Document} (h : Supplied d d') (hlacks : d.title = none) (text : String) :
      Supplied d (d'.withTitle text)
  | description {d' : Document} (h : Supplied d d') (hlacks : d.description = none)
      (text : String) : Supplied d (d'.withDescription text)
  | content {d' : Document} (h : Supplied d d') (hlacks : d.content = none) (text : String) :
      Supplied d (d'.withContent text)

/-- A search result has the host of another one, and all its texts. -/
structure Keeps (d d' : Document) : Prop where
  /-- The host is the same. -/
  host_eq : d'.host = d.host
  /-- What is known stays as it is. -/
  text?_eq : ∀ {f text}, d.text? f = some text → d'.text? f = some text

section Texts

variable {d d' d'' : Document} {f : Field}

lemma text?_withTitle (d : Document) (text : String) (h : f ≠ .title) :
    (d.withTitle text).text? f = d.text? f := by
  cases f with
  | title => exact absurd rfl h
  | _ => rfl

lemma text?_withDescription (d : Document) (text : String) (h : f ≠ .description) :
    (d.withDescription text).text? f = d.text? f := by
  cases f with
  | description => exact absurd rfl h
  | _ => rfl

lemma text?_withContent (d : Document) (text : String) (h : f ≠ .content) :
    (d.withContent text).text? f = d.text? f := by
  cases f with
  | content => exact absurd rfl h
  | _ => rfl

/-- One more text is supplied, in a field that was missing at first. -/
lemma Keeps.supply (h : d.Keeps d') (hlacks : d.text? f = none) (hhost : d''.host = d'.host)
    (htext : ∀ g, g ≠ f → d''.text? g = d'.text? g) : d.Keeps d'' where
  host_eq := hhost.trans h.host_eq
  text?_eq {g known} hknown := by
    have hne : g ≠ f := by
      rintro rfl
      rw [hlacks] at hknown
      cases hknown
    rw [htext g hne]
    exact h.text?_eq hknown

/-- **Supplying texts changes none that are known.** -/
lemma Supplied.keeps (h : d.Supplied d') : d.Keeps d' := by
  induction h with
  | refl => exact ⟨rfl, id⟩
  | @title d' _ hlacks text ih =>
    have hmissing : d.text? .title = none := hlacks
    exact ih.supply hmissing rfl fun g hg => text?_withTitle d' text hg
  | @description d' _ hlacks text ih =>
    have hmissing : d.text? .description = none := hlacks
    exact ih.supply hmissing rfl fun g hg => text?_withDescription d' text hg
  | @content d' _ hlacks text ih =>
    have hmissing : d.text? .content = none := hlacks
    exact ih.supply hmissing rfl fun g hg => text?_withContent d' text hg

end Texts

end Document

/-- A rule that asks for an action still asks for it. -/
lemma Rule.value_test_of_keeps {r : Rule} {d d' : Document} (h : d.Keeps d') {a : Action}
    (ha : (r.test d).value = some a) : (r.test d').value = some a := by
  rw [value_test] at ha
  split at ha
  · next happlies =>
    obtain ⟨hsite, text, htext, hpattern⟩ := applies_iff.1 happlies
    have happlies' : r.applies d' = true := by
      refine applies_iff.2 ⟨?_, text, h.text?_eq htext, hpattern⟩
      rwa [h.host_eq]
    rw [value_test, if_pos happlies', ha]
  · cases ha

namespace RuleSet

variable {s : RuleSet} {d d' : Document}

/-- **The firings before are among the firings after.** -/
lemma firings_sublist (h : d.Keeps d') (rules : List Rule) :
    (firings d rules).Sublist (firings d' rules) := by
  induction rules with
  | nil => exact .slnil
  | cons r rules ih =>
    rw [firings, firings, List.filterMap_cons, List.filterMap_cons]
    rcases ha : (r.test d).value with _ | a
    · rcases (r.test d').value with _ | b
      · exact ih
      · exact ih.cons (r.line, b)
    · rw [Rule.value_test_of_keeps h ha]
      exact ih.cons_cons (r.line, a)

/-- What is asked for is still asked for. -/
lemma asked_sublist (h : d.Keeps d') : (s.asked d).Sublist (s.asked d') := by
  rw [← map_snd_firings, ← map_snd_firings]
  exact (firings_sublist h s.rules).map Prod.snd

/-- **The greatest action grows.** -/
lemma exists_greatest?_of_keeps (h : d.Keeps d') {a : Action}
    (ha : Action.greatest? (s.asked d) = some a) :
    ∃ b, Action.greatest? (s.asked d') = some b ∧ a ≤ b := by
  have hmem := (asked_sublist h).subset (Action.greatest?_eq_some_iff.1 ha).1
  rcases hb : Action.greatest? (s.asked d') with _ | b
  · rw [Action.greatest?_eq_none_iff.1 hb] at hmem
    cases hmem
  · exact ⟨b, rfl, (Action.greatest?_eq_some_iff.1 hb).2 a hmem⟩

/-- Without a decision nothing is asked for. -/
lemma exists_greatest?_of_evaluate_ne (h : (s.evaluate d).value ≠ .noOpinion) :
    ∃ a, Action.greatest? (s.asked d) = some a := by
  rw [value_evaluate] at h
  rcases ha : Action.greatest? (s.asked d) with _ | a
  · rw [ha] at h
    exact absurd rfl h
  · exact ⟨a, rfl⟩

lemma value_evaluate_of_greatest? {a : Action} (h : Action.greatest? (s.asked d) = some a) :
    (s.evaluate d).value = a.outcome := by
  rw [value_evaluate, h]
  rfl

/-- To a set of rules, `d'` is a search result with more to go by than `d`. -/
structure Strengthens (s : RuleSet) (d d' : Document) : Prop where
  /-- Each rule that asks for an action asks for the same. -/
  value_test : ∀ r ∈ s.rules, ∀ a, (r.test d).value = some a → (r.test d').value = some a
  /-- The lines of the rules that ask for an action are still there, in order. -/
  fired_sublist : (s.evaluateDetailed d).value.fired.Sublist (s.evaluateDetailed d').value.fired
  /-- The greatest action that is asked for is at least the one before. -/
  greatest?_le : ∀ a, Action.greatest? (s.asked d) = some a →
    ∃ b, Action.greatest? (s.asked d') = some b ∧ a ≤ b
  /-- What was decided about is still decided about. -/
  evaluate_ne_noOpinion : (s.evaluate d).value ≠ .noOpinion → (s.evaluate d').value ≠ .noOpinion
  /-- What a specific discard removed is still removed. -/
  evaluate_eq_discard : Action.greatest? (s.asked d) = some .specificDiscard →
    (s.evaluate d).value = .discard ∧ (s.evaluate d').value = .discard
  /-- What a boost moved is removed, or moved by a score that is no smaller. -/
  evaluate_eq_score : ∀ m, Action.greatest? (s.asked d) = some (.boost m) →
    (s.evaluate d').value = .discard ∨ ∃ n, (s.evaluate d').value = .score n ∧ m.val ≤ n.val

/-- **Supplying missing texts can only make more rules fire.**  Whatever the rules are, those that
ask for an action ask for the same when texts are supplied that were missing, so the report lists
them all, the greatest action only grows, and a decision that was made does not turn into none. -/
theorem strengthens_of_supplied (h : d.Supplied d') : s.Strengthens d d' where
  value_test r _ _ ha := Rule.value_test_of_keeps h.keeps ha
  fired_sublist := by
    rw [fired_evaluateDetailed, fired_evaluateDetailed]
    exact (firings_sublist h.keeps s.rules).map Prod.fst
  greatest?_le a ha := exists_greatest?_of_keeps h.keeps ha
  evaluate_ne_noOpinion hne := by
    obtain ⟨a, ha⟩ := exists_greatest?_of_evaluate_ne hne
    obtain ⟨b, hb, -⟩ := exists_greatest?_of_keeps h.keeps ha
    rw [value_evaluate_of_greatest? hb]
    exact b.outcome_ne_noOpinion
  evaluate_eq_discard ha := by
    obtain ⟨b, hb, hle⟩ := exists_greatest?_of_keeps h.keeps ha
    obtain rfl := Action.specificDiscard_le_iff.1 hle
    exact ⟨value_evaluate_of_greatest? ha, value_evaluate_of_greatest? hb⟩
  evaluate_eq_score m ha := by
    obtain ⟨b, hb, hle⟩ := exists_greatest?_of_keeps h.keeps ha
    rw [value_evaluate_of_greatest? hb]
    rcases Action.boost_le_iff.1 hle with ⟨n, rfl, hmn⟩ | rfl
    · exact Or.inr ⟨n, rfl, hmn⟩
    · exact Or.inl rfl

/-- A title and a description are supplied: a boost gives way to a larger one, and that to a
removal. -/
theorem strengthens_of_title_of_description :
    let b : Builder := ⟨["$boost=2", "news$intitle,boost=5", "spam$indescription,discard",
      "$downrank=9,incontent"], .none⟩
    let d : Document := ⟨"http://h/", "h", none, none, none⟩
    let d₁ := d.withTitle "old news"
    let d₂ := d₁.withDescription "no spam"
    ∃ s, b.compile.value = .ok s ∧ s.Strengthens d d₁ ∧ s.Strengthens d₁ d₂ ∧ s.Strengthens d d₂ ∧
      (s.evaluateDetailed d).value = ⟨.score (.clamp 2), [1], some 1⟩ ∧
      (s.evaluateDetailed d₁).value = ⟨.score (.clamp 5), [1, 2], some 2⟩ ∧
      (s.evaluateDetailed d₂).value = ⟨.discard, [1, 2, 3], some 3⟩ := by
  intro b d d₁ d₂
  obtain ⟨s, hs, hreports⟩ := exists_of_map_toOption (x := b.compile.value)
    (f := fun s => [d, d₁, d₂].map fun d => (s.evaluateDetailed d).value)
    (b := [⟨.score (.clamp 2), [1], some 1⟩, ⟨.score (.clamp 5), [1, 2], some 2⟩,
      ⟨.discard, [1, 2, 3], some 3⟩]) (by decide +kernel)
  have htitle : d.Supplied d₁ := .title .refl rfl _
  have hdescription : d₁.Supplied d₂ := .description .refl rfl _
  have hboth : d.Supplied d₂ := .description htitle rfl _
  simp only [List.map_cons, List.map_nil, List.cons.injEq, and_true] at hreports
  exact ⟨s, hs, strengthens_of_supplied htitle, strengthens_of_supplied hdescription,
    strengthens_of_supplied hboth, hreports⟩

end RuleSet

end Rerank
