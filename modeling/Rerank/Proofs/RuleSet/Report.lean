/-
The report of a set of rules tells what its decision came from.

The decision alone is that of the greatest action, found from the last rule to the first.  The
report is made in one pass over the rules, which keeps the first of the greatest actions so far.
The invariant of that pass is `Standing.Describes`: what is known after some rules describes the
actions that they ask for, each with the line of its rule.  It is kept by each action
(`Standing.Describes.add`) and so by the whole pass (`describes_standing`).

The main result is `evaluateDetailed_faithful`.  It is about the rules of compiled lines, because
only there a line belongs to one rule.
-/
import Mathlib.Data.List.Basic
import Mathlib.Data.List.Nodup
import Rerank.Proofs.Rule.Lines
import Rerank.Proofs.RuleSet.Decision
import Rerank.RuleSet.Builder

namespace Rerank

namespace RuleSet

/-- The actions that some rules ask for, each with the line of its rule, in order. -/
def firings (d : Document) (rules : List Rule) : List (Nat × Action) :=
  rules.filterMap fun r => (r.test d).value.map (r.line, ·)

section Firings

variable {d : Document} {rules : List Rule}

lemma mem_firings_iff {line : Nat} {a : Action} :
    (line, a) ∈ firings d rules ↔ ∃ r ∈ rules, r.line = line ∧ (r.test d).value = some a := by
  simp only [firings, List.mem_filterMap, Option.map_eq_some_iff, Prod.mk.injEq]
  constructor
  · rintro ⟨r, hr, b, hb, hline, rfl⟩
    exact ⟨r, hr, hline, hb⟩
  · rintro ⟨r, hr, hline, ha⟩
    exact ⟨r, hr, a, ha, hline, rfl⟩

lemma map_snd_firings (s : RuleSet) (d : Document) :
    (firings d s.rules).map Prod.snd = s.asked d := by
  rw [firings, List.map_filterMap, asked]
  congr 1
  funext r
  rcases (r.test d).value with _ | a <;> rfl

lemma map_fst_firings (d : Document) (rules : List Rule) : (firings d rules).map Prod.fst =
    (rules.filter fun r => (r.test d).value.isSome).map Rule.line := by
  induction rules with
  | nil => rfl
  | cons r rules ih =>
    rw [firings, List.filterMap_cons, List.filter_cons]
    rcases (r.test d).value with _ | a
    · exact ih
    · exact congrArg (r.line :: ·) ih

end Firings

/-! ### The pass over the rules -/

/-- An action is the first of the greatest: it exceeds those before it, and no other exceeds it. -/
def FirstGreatest (fs : List (Nat × Action)) (line : Nat) (a : Action) : Prop :=
  ∃ before behind, fs = before ++ (line, a) :: behind ∧ (∀ f ∈ before, f.2 < a) ∧
    ∀ f ∈ behind, f.2 ≤ a

lemma FirstGreatest.mem {fs : List (Nat × Action)} {line : Nat} {a : Action}
    (h : FirstGreatest fs line a) : (line, a) ∈ fs := by
  obtain ⟨before, behind, rfl, -, -⟩ := h
  simp

lemma FirstGreatest.le {fs : List (Nat × Action)} {line : Nat} {a : Action}
    (h : FirstGreatest fs line a) {f : Nat × Action} (hf : f ∈ fs) : f.2 ≤ a := by
  obtain ⟨before, behind, rfl, hbefore, hbehind⟩ := h
  rcases List.mem_append.1 hf with hf | hf
  · exact Action.le_of_lt (hbefore f hf)
  · rcases List.mem_cons.1 hf with rfl | hf
    · exact Action.le_refl a
    · exact hbehind f hf

/-- What is known after some actions describes them. -/
structure Standing.Describes (t : Standing) (fs : List (Nat × Action)) : Prop where
  /-- The lines are those of the actions. -/
  fired_eq : t.fired = fs.map Prod.fst
  /-- Nothing is the best only if there are no actions. -/
  eq_nil_of_best : t.best = none → fs = []
  /-- The best is the first of the greatest. -/
  firstGreatest_of_best : ∀ {a line}, t.best = some (a, line) → FirstGreatest fs line a

/-- **One more action.** -/
lemma Standing.Describes.add {t : Standing} {fs : List (Nat × Action)} (h : t.Describes fs)
    (line : Nat) (a : Action) : (t.add line a).Describes (fs ++ [(line, a)]) := by
  have hfired : (t.add line a).fired = (fs ++ [(line, a)]).map Prod.fst := by
    simp [Standing.add, h.fired_eq]
  rcases hbest : t.best with _ | ⟨b, first⟩
  · obtain rfl := h.eq_nil_of_best hbest
    have hnew : (t.add line a).best = some (a, line) := by simp [Standing.add, hbest]
    refine ⟨hfired, by simp [hnew], ?_⟩
    rintro a' line' hsome
    rw [hnew] at hsome
    cases hsome
    exact ⟨[], [], rfl, by simp, by simp⟩
  · have hfirst := h.firstGreatest_of_best hbest
    -- only a greater action takes the place of the best
    by_cases hlt : b < a
    · have hnew : (t.add line a).best = some (a, line) := by simp [Standing.add, hbest, hlt]
      refine ⟨hfired, by simp [hnew], ?_⟩
      rintro a' line' hsome
      rw [hnew] at hsome
      cases hsome
      exact ⟨fs, [], rfl, fun f hf => Action.lt_of_le_of_lt (hfirst.le hf) hlt, by simp⟩
    · have hold : (t.add line a).best = some (b, first) := by simp [Standing.add, hbest, hlt]
      refine ⟨hfired, by simp [hold], ?_⟩
      rintro a' line' hsome
      rw [hold] at hsome
      cases hsome
      obtain ⟨before, behind, rfl, hbefore, hbehind⟩ := hfirst
      refine ⟨before, behind ++ [(line, a)], by simp, hbefore, fun f hf => ?_⟩
      rcases List.mem_append.1 hf with hf | hf
      · exact hbehind f hf
      · rw [List.mem_singleton.1 hf]
        exact Action.le_of_not_lt hlt

/-- **The whole pass.** -/
lemma describes_standing (d : Document) (rules : List Rule) {t : Standing}
    {fs : List (Nat × Action)} (h : t.Describes fs) :
    (standing d t rules).value.Describes (fs ++ firings d rules) := by
  induction rules generalizing t fs with
  | nil => simpa [standing, firings] using h
  | cons r rules ih =>
    rw [standing, Logged.value_bind, firings, List.filterMap_cons]
    rcases (r.test d).value with _ | a
    · exact ih h
    · have hadd := ih (h.add r.line a)
      rwa [List.append_assoc] at hadd

/-- What the report is read off. -/
lemma describes_evaluateDetailed (s : RuleSet) (d : Document) :
    (standing d ⟨[], none⟩ s.rules).value.Describes (firings d s.rules) :=
  describes_standing d s.rules ⟨rfl, fun _ => rfl, fun h => by cases h⟩

lemma value_evaluateDetailed (s : RuleSet) (d : Document) : (s.evaluateDetailed d).value =
    match (standing d ⟨[], none⟩ s.rules).value.best with
    | some (a, line) => ⟨a.outcome, (firings d s.rules).map Prod.fst, some line⟩
    | none => ⟨.noOpinion, (firings d s.rules).map Prod.fst, none⟩ := by
  rw [← (describes_evaluateDetailed s d).fired_eq, evaluateDetailed, Logged.value_bind]
  rcases (standing d ⟨[], none⟩ s.rules).value.best with _ | ⟨a, line⟩ <;> rfl

/-- The report tells the decision that is made without it. -/
lemma outcome_evaluateDetailed (s : RuleSet) (d : Document) :
    (s.evaluateDetailed d).value.outcome = (s.evaluate d).value := by
  have hdescribes := describes_evaluateDetailed s d
  rw [value_evaluateDetailed, value_evaluate, ← map_snd_firings]
  rcases hbest : (standing d ⟨[], none⟩ s.rules).value.best with _ | ⟨a, line⟩
  · rw [hdescribes.eq_nil_of_best hbest]
    rfl
  · have hfirst := hdescribes.firstGreatest_of_best hbest
    have hgreatest : Action.greatest? ((firings d s.rules).map Prod.snd) = some a := by
      refine Action.greatest?_eq_some_iff.2 ⟨List.mem_map_of_mem hfirst.mem, fun b hb => ?_⟩
      obtain ⟨f, hf, rfl⟩ := List.mem_map.1 hb
      exact hfirst.le hf
    rw [hgreatest]
    rfl

end RuleSet

/-! ### The report -/

/-- A report is faithful if it tells what the decision of a set of rules came from. -/
structure Report.Faithful (p : Report) (s : RuleSet) (d : Document) : Prop where
  /-- The decision is the one that is made without a report. -/
  outcome_eq : p.outcome = (s.evaluate d).value
  /-- The lines are those of the rules that ask for an action, in order. -/
  fired_eq : p.fired = (s.rules.filter fun r => (r.test d).value.isSome).map Rule.line
  /-- The lines ascend. -/
  pairwise_fired : p.fired.Pairwise (· < ·)
  /-- No rule decides only if no rule asks for an action. -/
  winner_eq_none_iff : p.winner = none ↔ p.fired = []
  /-- Otherwise one of them decides: the only rule of its line asks for the greatest action, and no
  rule of an earlier line asks for the same. -/
  winner_spec : ∀ line, p.winner = some line → line ∈ p.fired ∧
    ∃ r ∈ s.rules, r.line = line ∧ (∀ other ∈ s.rules, other.line = line → other = r) ∧
      ∃ a, (r.test d).value = some a ∧ (∀ b ∈ s.asked d, b ≤ a) ∧ p.outcome = a.outcome ∧
        ∀ other ∈ s.rules, other.line < line → (other.test d).value ≠ some a

namespace RuleSet

/-- The rules that a builder makes are those of its lines. -/
lemma compile_eq_ok_iff {b : Builder} {s : RuleSet} :
    b.compile.value = .ok s ↔ (Rule.compileLines b.limits b.lines).value = .ok s.rules := by
  rw [Builder.compile, Logged.value_bind]
  rcases (Rule.compileLines b.limits b.lines).value with fault | rules
  · constructor <;> rintro ⟨⟩
  · constructor <;> rintro ⟨⟩ <;> rfl

lemma compileLines_of_compile {b : Builder} {s : RuleSet} (h : b.compile.value = .ok s) :
    (Rule.compileLines b.limits b.lines).value = .ok s.rules :=
  compile_eq_ok_iff.1 h

/-- Lines by themselves are compiled as they are. -/
lemma ofLines_eq (lines : List String) : ofLines lines = Builder.compile ⟨lines, .none⟩ := by
  have hfoldl (b : Builder) :
      lines.foldl Builder.directive b = { b with lines := b.lines ++ lines } := by
    induction lines generalizing b with
    | nil => simp
    | cons line lines ih => simp [ih, Builder.directive]
  rw [ofLines, hfoldl]
  rfl

/-- The rules of compiled lines have ascending numbers. -/
lemma pairwise_line_of_compile {b : Builder} {s : RuleSet} (h : b.compile.value = .ok s) :
    (s.rules.map Rule.line).Pairwise (· < ·) :=
  Rule.pairwise_line_of_compileLines (compileLines_of_compile h)

/-- If the lines of the actions ascend, the first of the greatest is not asked for earlier. -/
lemma FirstGreatest.not_mem_of_lt {fs : List (Nat × Action)} {line other : Nat} {a : Action}
    (h : FirstGreatest fs line a) (hsorted : (fs.map Prod.fst).Pairwise (· < ·))
    (hlt : other < line) : (other, a) ∉ fs := by
  obtain ⟨before, behind, rfl, hbefore, -⟩ := h
  rw [List.map_append, List.map_cons, List.pairwise_append, List.pairwise_cons] at hsorted
  intro hmem
  rcases List.mem_append.1 hmem with hmem | hmem
  · exact Action.lt_iff_not_le.1 (hbefore _ hmem) (Action.le_refl a)
  · rcases List.mem_cons.1 hmem with heq | hmem
    · cases heq
      omega
    · have := hsorted.2.1.1 other (List.mem_map_of_mem hmem)
      omega

/-- **The report is faithful.**  For the rules of compiled lines, the report tells the decision that
is made without it, all rules that ask for an action, and the first of those that ask for the
greatest. -/
theorem evaluateDetailed_faithful {b : Builder} {s : RuleSet} (h : b.compile.value = .ok s)
    (d : Document) : (s.evaluateDetailed d).value.Faithful s d := by
  have hsorted := pairwise_line_of_compile h
  have hfired := map_fst_firings d s.rules
  have hasked := map_snd_firings s d
  have hfiredSorted : ((firings d s.rules).map Prod.fst).Pairwise (· < ·) := by
    rw [hfired]
    exact hsorted.sublist (List.filter_sublist.map _)
  have hdescribes := describes_evaluateDetailed s d
  rw [value_evaluateDetailed]
  rcases hbest : (standing d ⟨[], none⟩ s.rules).value.best with _ | ⟨a, line⟩
  · have hnil := hdescribes.eq_nil_of_best hbest
    have hnone : (s.evaluate d).value = .noOpinion := by
      rw [value_evaluate, ← hasked, hnil]
      rfl
    exact
      { outcome_eq := hnone.symm
        fired_eq := hfired
        pairwise_fired := hfiredSorted
        winner_eq_none_iff := by simp [hnil]
        winner_spec := by rintro line ⟨⟩ }
  · have hfirst := hdescribes.firstGreatest_of_best hbest
    have hmax : ∀ c ∈ s.asked d, c ≤ a := by
      intro c hc
      rw [← hasked] at hc
      obtain ⟨f, hf, rfl⟩ := List.mem_map.1 hc
      exact hfirst.le hf
    have hgreatest : Action.greatest? (s.asked d) = some a := by
      refine Action.greatest?_eq_some_iff.2 ⟨?_, hmax⟩
      rw [← hasked]
      exact List.mem_map_of_mem hfirst.mem
    have hne : firings d s.rules ≠ [] := List.ne_nil_of_mem hfirst.mem
    refine
      { outcome_eq := by simp [value_evaluate, hgreatest]
        fired_eq := hfired
        pairwise_fired := hfiredSorted
        winner_eq_none_iff := by simp [hne]
        winner_spec := ?_ }
    rintro _ ⟨⟩
    obtain ⟨r, hr, hrline, hra⟩ := mem_firings_iff.1 hfirst.mem
    -- no two rules have the same line, so the one that is found is the only one
    have hunique : ∀ other ∈ s.rules, other.line = line → other = r := by
      intro other ho hline
      have hnodup : (s.rules.map Rule.line).Nodup := hsorted.imp Nat.ne_of_lt
      exact List.inj_on_of_nodup_map hnodup ho hr (hline.trans hrline.symm)
    have hearlier : ∀ other ∈ s.rules, other.line < line → (other.test d).value ≠ some a := by
      intro other ho hlt hoa
      have hmem := mem_firings_iff.2 ⟨other, ho, rfl, hoa⟩
      exact hfirst.not_mem_of_lt hfiredSorted hlt hmem
    exact ⟨List.mem_map_of_mem hfirst.mem, r, hr, hrline, hunique, a, hra, hmax, rfl, hearlier⟩

/-- Two lines ask for the same boost, and a third for less: the first line decides. -/
theorem faithful_of_equal_boosts :
    let b : Builder := ⟨["$boost=2", "", "$boost=2", "/a$downrank=1"], .none⟩
    let d : Document := ⟨"http://x/a", "x", none, none, none⟩
    ∃ s, b.compile.value = .ok s ∧ (s.evaluateDetailed d).value.Faithful s d ∧
      (s.evaluateDetailed d).value = ⟨.score (.clamp 2), [1, 3, 4], some 1⟩ := by
  intro b d
  have heval : b.compile.value.toOption.map (fun s => (s.evaluateDetailed d).value) =
      some ⟨.score (.clamp 2), [1, 3, 4], some 1⟩ := by decide +kernel
  rcases hcompile : b.compile.value with fault | s
  · rw [hcompile] at heval
    cases heval
  · rw [hcompile] at heval
    exact ⟨s, rfl, evaluateDetailed_faithful hcompile d, Option.some.inj heval⟩

end RuleSet

end Rerank
