/-
What a decision depends on.

A rule looks at the host of a search result and at the text of one field, the first that it names
in the order of preference (`FieldSet.First`).  Further fields that it names do not matter.  So two
search results with the same host and the same text there are the same to the rule
(`Rule.value_test_congr`), and if this holds for every rule of a set, they are the same to the set:
its decision and its report are read off what each rule asks for.

The main result is `treatsAlike_of_agree`.
-/
import Rerank.Proofs.Rule.Invariant
import Rerank.Proofs.RuleSet.Answers

namespace Rerank

namespace FieldSet

/-- A field is the first of a set: it is in the set, and none that is preferred to it is. -/
def First (s : FieldSet) (f : Field) : Prop :=
  s.contains f = true ∧
    ∃ before behind, Field.all = before ++ f :: behind ∧ ∀ g ∈ before, s.contains g = false

/-- The first field of a set is the preferred one. -/
lemma first_iff {s : FieldSet} {f : Field} : s.First f ↔ s.primary? = some f := by
  rw [primary?, toList, List.head?_filter, List.find?_eq_some_iff_append, First]
  simp only [Bool.not_eq_true']

/-- The address comes first wherever it is named. -/
lemma first_url {s : FieldSet} (h : s.contains .url = true) : s.First .url :=
  ⟨h, [], [.title, .description, .content], rfl, by simp⟩

end FieldSet

namespace Rule

/-- Some line compiles to a rule. -/
def IsCompiled (r : Rule) : Prop :=
  ∃ limits line source, (compile limits line source).value = .ok r

end Rule

namespace RuleSet

/-- Two search results are the same to a set of rules. -/
structure TreatsAlike (s : RuleSet) (d d' : Document) : Prop where
  /-- Each rule asks for the same. -/
  value_test : ∀ r ∈ s.rules, (r.test d).value = (r.test d').value
  /-- The decision is the same. -/
  value_evaluate : (s.evaluate d).value = (s.evaluate d').value
  /-- The report is the same: the decision, the lines of the rules that ask for an action, and the
  line of the rule that decides. -/
  value_evaluateDetailed : (s.evaluateDetailed d).value = (s.evaluateDetailed d').value

/-- The rules that a builder makes are compiled. -/
lemma isCompiled_of_compile {b : Builder} {s : RuleSet} (h : b.compile.value = .ok s) :
    ∀ r ∈ s.rules, r.IsCompiled := by
  intro r hr
  have hrules := compileLines_of_compile h
  rw [Rule.value_compileLines, Rule.value_compileFrom] at hrules
  obtain ⟨p, -, hp⟩ := Rule.exists_of_mem_of_mapM_eq_ok hrules hr
  exact ⟨b.limits, p.2, p.1, hp⟩

section Alike

variable {s : RuleSet} {d d' : Document}

/-- **What is the same to each rule is the same to the set.** -/
lemma treatsAlike_of_value_test (h : ∀ r ∈ s.rules, (r.test d).value = (r.test d').value) :
    s.TreatsAlike d d' := by
  have hfirings : firings d s.rules = firings d' s.rules := by
    refine List.filterMap_congr fun r hr => ?_
    rw [h r hr]
  exact ⟨h, evaluate_congr hfirings, evaluateDetailed_congr hfirings⟩

/-- What agrees on the host and on the first field of each rule is the same to the set. -/
lemma treatsAlike_of_primary? (hs : ∀ r ∈ s.rules, r.IsCompiled) (hhost : d.host = d'.host)
    (htext : ∀ r ∈ s.rules, ∀ f ∈ r.fields.primary?, d.text? f = d'.text? f) :
    s.TreatsAlike d d' := by
  refine treatsAlike_of_value_test fun r hr => ?_
  -- a rule that is compiled names a field, so it is not tested on a substitute
  obtain ⟨limits, line, source, hcompile⟩ := hs r hr
  have hprimary := Rule.primary?_of_compile hcompile
  exact Rule.value_test_congr hhost (htext r hr r.target hprimary)

/-- A field that is the first of no rule does not matter. -/
lemma treatsAlike_of_not_first {f : Field} (hs : ∀ r ∈ s.rules, r.IsCompiled)
    (hfirst : ∀ r ∈ s.rules, ¬ r.fields.First f) (hhost : d.host = d'.host)
    (htext : ∀ g, g ≠ f → d.text? g = d'.text? g) : s.TreatsAlike d d' := by
  refine treatsAlike_of_primary? hs hhost fun r hr g hg => htext g ?_
  rintro rfl
  exact hfirst r hr (FieldSet.first_iff.2 hg)

end Alike

/-- **A decision depends on the host, and on one text for each rule.**  If two search results have
the same host, and for each rule the same text in its preferred field, or none, then each rule asks
for the same on both, and decision and report are the same.  So a text may be added or changed if no
rule names its field before all others, and what a rule asks for that names the address depends on
no other text. -/
theorem treatsAlike_of_agree {s : RuleSet} (hs : ∀ r ∈ s.rules, r.IsCompiled) :
    (∀ d d' : Document, d.host = d'.host →
      (∀ r ∈ s.rules, ∀ f ∈ r.fields.primary?, d.text? f = d'.text? f) → s.TreatsAlike d d') ∧
    (∀ (f : Field) (d d' : Document), (∀ r ∈ s.rules, ¬ r.fields.First f) → d.host = d'.host →
      (∀ g, g ≠ f → d.text? g = d'.text? g) → s.TreatsAlike d d') ∧
    (∀ (d : Document) (text : String),
      ((∀ r ∈ s.rules, ¬ r.fields.First .title) → s.TreatsAlike d (d.withTitle text)) ∧
      ((∀ r ∈ s.rules, ¬ r.fields.First .description) →
        s.TreatsAlike d (d.withDescription text)) ∧
      ((∀ r ∈ s.rules, ¬ r.fields.First .content) → s.TreatsAlike d (d.withContent text))) ∧
    ∀ r ∈ s.rules, r.fields.contains .url = true → ∀ d d' : Document, d.host = d'.host →
      d.url = d'.url → (r.test d).value = (r.test d').value := by
  refine ⟨fun d d' hhost htext => treatsAlike_of_primary? hs hhost htext,
    fun f d d' hfirst hhost htext => treatsAlike_of_not_first hs hfirst hhost htext,
    fun d text => ⟨fun hfirst => ?_, fun hfirst => ?_, fun hfirst => ?_⟩, ?_⟩
  · refine treatsAlike_of_not_first hs hfirst rfl fun g hg => ?_
    cases g with
    | title => exact absurd rfl hg
    | _ => rfl
  · refine treatsAlike_of_not_first hs hfirst rfl fun g hg => ?_
    cases g with
    | description => exact absurd rfl hg
    | _ => rfl
  · refine treatsAlike_of_not_first hs hfirst rfl fun g hg => ?_
    cases g with
    | content => exact absurd rfl hg
    | _ => rfl
  · intro r hr hurl d d' hhost haddress
    have htarget : r.target = .url := by
      rw [Rule.target, FieldSet.first_iff.1 (FieldSet.first_url hurl)]
      rfl
    refine Rule.value_test_congr hhost ?_
    rw [htarget, Document.text?_url, Document.text?_url, haddress]

/-- Both rules that name the content name another field before it, so another content changes
nothing. -/
theorem treatsAlike_of_other_content :
    let b : Builder := ⟨["a b$incontent,intitle,boost=2", "/x$incontent,inurl,discard"], .none⟩
    let d : Document := ⟨"http://h/", "h", some "a b", none, some "/x"⟩
    ∃ s, b.compile.value = .ok s ∧ (∀ r ∈ s.rules, r.IsCompiled) ∧
      s.TreatsAlike d (d.withContent "a b") ∧
      (s.evaluateDetailed d).value = ⟨.score (.clamp 2), [1], some 1⟩ := by
  intro b d
  obtain ⟨s, hs, hparts⟩ := exists_of_map_toOption (x := b.compile.value)
    (f := fun s => (s.rules.map fun r => r.fields.primary?, (s.evaluateDetailed d).value))
    (b := ([some .title, some .url], ⟨.score (.clamp 2), [1], some 1⟩)) (by decide +kernel)
  obtain ⟨hprimary, hreport⟩ := Prod.mk.inj hparts
  have hcompiled := isCompiled_of_compile hs
  have hfirst : ∀ r ∈ s.rules, ¬ r.fields.First .content := by
    intro r hr hcontent
    have hmem : r.fields.primary? ∈ [some Field.title, some Field.url] := by
      rw [← hprimary]
      exact List.mem_map_of_mem hr
    rw [FieldSet.first_iff.1 hcontent] at hmem
    simp at hmem
  exact ⟨s, hs, hcompiled, ((treatsAlike_of_agree hcompiled).2.2.1 d "a b").2.2 hfirst, hreport⟩

end RuleSet

end Rerank
