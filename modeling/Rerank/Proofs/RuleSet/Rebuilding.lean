/-
Making a set of rules again from what its rules were written as.

A rule keeps the text of its line, and this text alone made it.  So the texts of the rules, taken as
lines, give the same rules again, under the numbers 1, 2, ... (`renumbered`).  Tests do not look at
numbers, and the pass over the rules only hands them on, whatever they are
(`Standing.map_add`), so under new numbers everything is reported as before, under these numbers
(`value_evaluateDetailed_of_numbers`).

The main result is `ofLines_sources`.
-/
import Mathlib.Data.List.Basic
import Mathlib.Data.List.Forall2
import Rerank.Proofs.RuleSet.Answers

namespace Rerank

/-- A report under other numbers. -/
def Report.withNumbers (p : Report) (f : ℕ → ℕ) : Report :=
  { p with fired := p.fired.map f, winner := p.winner.map f }

/-- A rule under another number. -/
def Rule.withLine (r : Rule) (line : ℕ) : Rule :=
  { r with line }

/-- The number of a rule does not matter for what it asks for. -/
@[simp] lemma Rule.value_test_withLine (r : Rule) (line : ℕ) (d : Document) :
    ((r.withLine line).test d).value = (r.test d).value := by
  rw [value_test, value_test]
  rfl

namespace RuleSet

/-- The rules of a set under the numbers 1, 2, ... -/
def renumbered (s : RuleSet) : RuleSet :=
  ⟨(s.rules.zipIdx 1).map fun p => p.1.withLine p.2⟩

/-- The number that the rule of a line gets when the rules are numbered 1, 2, ... -/
def place (s : RuleSet) (line : ℕ) : ℕ :=
  (s.rules.map Rule.line).idxOf line + 1

/-! ### Other numbers for the same rules -/

section Numbers

variable {d : Document} {s s' : RuleSet} {f : ℕ → ℕ}

/-- What is known after testing some rules, under other numbers. -/
def Standing.map (t : Standing) (f : ℕ → ℕ) : Standing where
  fired := t.fired.map f
  best := t.best.map (Prod.map id f)

/-- **One more action**, under another number. -/
lemma Standing.map_add (t : Standing) (f : ℕ → ℕ) (line : ℕ) (a : Action) :
    (t.add line a).map f = (t.map f).add (f line) a := by
  rcases t with ⟨fired, _ | ⟨b, first⟩⟩
  · simp [add, map]
  · by_cases h : b < a <;> simp [add, map, h]

/-- **All actions**, under other numbers. -/
lemma Standing.map_foldl_add (t : Standing) (f : ℕ → ℕ) (fs : List (ℕ × Action)) :
    (fs.foldl (fun t x => t.add x.1 x.2) t).map f =
      (fs.map (Prod.map f id)).foldl (fun t x => t.add x.1 x.2) (t.map f) := by
  induction fs generalizing t with
  | nil => rfl
  | cons x fs ih => rw [List.foldl_cons, ih, map_add, List.map_cons, List.foldl_cons]; rfl

lemma firings_map_withLine (d : Document) (f : ℕ → ℕ) (rules : List Rule) :
    firings d (rules.map fun r => r.withLine (f r.line)) =
      (firings d rules).map (Prod.map f id) := by
  rw [firings, List.filterMap_map, firings, List.map_filterMap]
  refine List.filterMap_congr fun r _ => ?_
  rw [Function.comp_apply, Rule.value_test_withLine, Option.map_map]
  rfl

/-- **The report under other numbers.**  If the actions that are asked for are the same but for
their numbers, so is the report. -/
lemma value_evaluateDetailed_of_numbers
    (h : firings d s'.rules = (firings d s.rules).map (Prod.map f id)) :
    (s'.evaluateDetailed d).value = (s.evaluateDetailed d).value.withNumbers f := by
  have hstanding : (standing d ⟨[], none⟩ s'.rules).value =
      (standing d ⟨[], none⟩ s.rules).value.map f := by
    rw [value_standing, value_standing, h, Standing.map_foldl_add]
    rfl
  have hfired : (firings d s'.rules).map Prod.fst = ((firings d s.rules).map Prod.fst).map f := by
    rw [h, List.map_map, List.map_map]
    rfl
  rw [value_evaluateDetailed, value_evaluateDetailed, hstanding, hfired]
  rcases (standing d ⟨[], none⟩ s.rules).value with ⟨fired, _ | ⟨a, line⟩⟩ <;> rfl

end Numbers

/-! ### The rules of the texts -/

section Sources

variable {b : Builder} {s : RuleSet} {limits : Limits} {rules : List Rule}

/-- If no two rules have the same line, each gets its number by its line. -/
lemma rules_renumbered (h : (s.rules.map Rule.line).Nodup) :
    s.renumbered.rules = s.rules.map fun r => r.withLine (s.place r.line) := by
  refine List.ext_getElem (by simp [renumbered]) fun i hi hi' => ?_
  have hlt : i < (s.rules.map Rule.line).length := by simpa using hi'
  have hidx := h.idxOf_getElem i hlt
  rw [List.getElem_map] at hidx
  simp [renumbered, place, hidx, Nat.add_comm]

/-- The lines of the rules get the numbers 1, 2, ..., in order. -/
lemma map_place (h : (s.rules.map Rule.line).Nodup) :
    (s.rules.map Rule.line).map s.place = List.range' 1 s.size := by
  refine List.ext_getElem (by simp [size]) fun i hi hi' => ?_
  have hlt : i < (s.rules.map Rule.line).length := by simpa using hi
  have hidx := h.idxOf_getElem i hlt
  rw [List.getElem_map, place, hidx, List.getElem_range', Nat.one_mul, Nat.add_comm]

@[simp] lemma map_source_renumbered (s : RuleSet) :
    s.renumbered.rules.map Rule.source = s.rules.map Rule.source := by
  refine List.ext_getElem (by simp [renumbered]) fun i hi hi' => ?_
  simp [renumbered, Rule.withLine]

/-- The texts of the rules of compiled lines are not blank. -/
lemma not_isBlankLine_source {first : ℕ} {lines : List String}
    (h : (Rule.compileFrom limits first lines).value = .ok rules) {r : Rule} (hr : r ∈ rules) :
    ¬ Text.isBlankLine r.source = true := by
  rw [Rule.value_compileFrom] at h
  obtain ⟨p, hp, hcompile⟩ := Rule.exists_of_mem_of_mapM_eq_ok h hr
  rw [(Rule.line_of_compile hcompile).2]
  simpa using (List.mem_filter.1 hp).2

/-- **The texts of rules give the same rules**, numbered from any number on. -/
lemma forall₂_sources {numbered : List (String × ℕ)}
    (h : List.Forall₂ (fun p r => (Rule.compile limits p.2 p.1).value = .ok r) numbered rules)
    (hblank : ∀ r ∈ rules, ¬ Text.isBlankLine r.source = true) (first : ℕ) :
    List.Forall₂ (fun p r => (Rule.compile .none p.2 p.1).value = .ok r)
      (Rule.numbered first (rules.map Rule.source))
      ((rules.zipIdx first).map fun p => p.1.withLine p.2) := by
  induction h generalizing first with
  | nil => exact .nil
  | @cons p r numbered rules hcompile _ ih =>
    obtain ⟨hr, hrules⟩ := List.forall_mem_cons.1 hblank
    rw [List.map_cons, Rule.numbered_cons hr, List.zipIdx_cons, List.map_cons]
    refine .cons ?_ (ih hrules (first + 1))
    rw [(Rule.line_of_compile hcompile).2]
    exact Rule.value_compile_none_of_compile hcompile first

/-- The texts of the rules of compiled lines compile to these rules. -/
lemma ofLines_map_source (h : b.compile.value = .ok s) :
    (ofLines (s.rules.map Rule.source)).value = .ok s.renumbered := by
  have hrules := compileLines_of_compile h
  rw [Rule.value_compileLines] at hrules
  have hsources := forall₂_sources (Rule.compileFrom_eq_ok_iff.1 hrules)
    (fun _ => not_isBlankLine_source hrules) 1
  rw [ofLines_eq, compile_eq_ok_iff, Rule.value_compileLines]
  exact Rule.compileFrom_eq_ok_iff.2 hsources

end Sources

/-- **A set of rules can be made again from what its rules were written as.**  If lines compile
under some limits, the texts of the rules compile without limits to the same rules, which only get
the numbers 1, 2, ... in order.  These decide the same on every search result, and their report
tells the same under these numbers.  Doing so once more changes nothing. -/
theorem ofLines_sources {b : Builder} {s : RuleSet} (h : b.compile.value = .ok s) :
    (ofLines (s.rules.map Rule.source)).value = .ok s.renumbered ∧
    (s.rules.map Rule.line).map s.place = List.range' 1 s.size ∧
    (∀ d, (s.renumbered.evaluate d).value = (s.evaluate d).value ∧
      (s.renumbered.evaluateDetailed d).value =
        (s.evaluateDetailed d).value.withNumbers s.place) ∧
    (ofLines (s.renumbered.rules.map Rule.source)).value = .ok s.renumbered := by
  have hnodup : (s.rules.map Rule.line).Nodup := (pairwise_line_of_compile h).imp Nat.ne_of_lt
  have hsame := ofLines_map_source h
  refine ⟨hsame, map_place hnodup, fun d => ?_, ?_⟩
  · have hfirings : firings d s.renumbered.rules =
        (firings d s.rules).map (Prod.map s.place id) := by
      rw [rules_renumbered hnodup, firings_map_withLine]
    have hreport := value_evaluateDetailed_of_numbers hfirings
    have houtcome := congrArg Report.outcome hreport
    rw [outcome_evaluateDetailed] at houtcome
    exact ⟨houtcome.trans (outcome_evaluateDetailed s d), hreport⟩
  · rwa [map_source_renumbered]

/-- Three rules of five lines, made under limits that just allow them.  The first of two equal
boosts decides, as line 2 and then as line 1. -/
theorem sources_of_spaced_lines :
    let b : Builder := ⟨["", "$boost=2", " ", "$boost=2", "/a$downrank=1"], ⟨some 2, some 1⟩⟩
    let d : Document := ⟨"http://x/a", "x", none, none, none⟩
    ∃ s, b.compile.value = .ok s ∧
      (s.evaluateDetailed d).value = ⟨.score (.clamp 2), [2, 4, 5], some 2⟩ ∧
      (ofLines (s.rules.map Rule.source)).value = .ok s.renumbered ∧
      (s.renumbered.evaluateDetailed d).value = ⟨.score (.clamp 2), [1, 2, 3], some 1⟩ := by
  intro b d
  have heval : b.compile.value.toOption.map (fun s =>
      ((s.evaluateDetailed d).value, [2, 4, 5].map s.place)) =
        some (⟨.score (.clamp 2), [2, 4, 5], some 2⟩, [1, 2, 3]) := by decide +kernel
  obtain ⟨s, hs, hvalue⟩ := exists_of_map_toOption heval
  obtain ⟨hreport, hplaces⟩ := Prod.mk.inj hvalue
  obtain ⟨hsources, -, hsame, -⟩ := ofLines_sources hs
  refine ⟨s, hs, hreport, hsources, ?_⟩
  simp only [List.map_cons, List.map_nil, List.cons.injEq] at hplaces
  rw [(hsame d).2, hreport]
  simp [Report.withNumbers, hplaces]

end RuleSet

end Rerank
