/-
What a set of rules asks for, line by line.

Each line answers a search result by itself, so the rules of some lines ask for the answers of these
lines, in the order of the lines and under their numbers (`firings_of_compile`).  Lines without a
dollar sign have no answer (`Rule.answer_eq_none`), and neither have blank ones, so it does not
matter here that blank lines have no rule.  The decision and the report are read off the firings
(`evaluate_congr`, `evaluateDetailed_congr`).
-/
import Mathlib.Data.List.Basic
import Rerank.Proofs.Rule.Invariant
import Rerank.Proofs.RuleSet.Reordering

namespace Rerank

open Text

namespace Rule

/-- A line without a dollar sign has no answer. -/
lemma answer_eq_none {source : String} (h : '$' ∉ source.toList) (d : Document) :
    answer d source = none :=
  Idle.answer_eq_none fun _ hr => Or.inl (bare_of_compile hr h).2.2

lemma dollar_not_mem_of_blank {source : String} (h : isBlankLine source = true) :
    '$' ∉ source.toList := by
  intro hmem
  have hblank : isBlank '$' = true := List.all_eq_true.1 h '$' hmem
  exact ne_of_isBlank hblank (by decide) rfl

/-- The answers of some lines, each with the number of its line, when the first line has a given
one. -/
def answers (d : Document) (first : Nat) (lines : List String) : List (Nat × Action) :=
  (lines.zipIdx first).filterMap fun p => (answer d p.1).map (p.2, ·)

section Answers

variable {d : Document} {first : Nat} {lines more : List String}

lemma answers_append (d : Document) (first : Nat) (lines more : List String) :
    answers d first (lines ++ more) =
      answers d first lines ++ answers d (first + lines.length) more := by
  rw [answers, List.zipIdx_append, List.filterMap_append]
  rfl

lemma answers_cons (d : Document) (first : Nat) (source : String) (lines : List String) :
    answers d first (source :: lines) =
      ((answer d source).map (first, ·)).toList ++ answers d (first + 1) lines := by
  rw [answers, List.zipIdx_cons, List.filterMap_cons]
  rcases answer d source with _ | a <;> rfl

/-- Blank lines do not answer. -/
lemma filterMap_numbered (d : Document) (first : Nat) (lines : List String) :
    ((numbered first lines).filterMap fun p => (answer d p.1).map (p.2, ·)) =
      answers d first lines := by
  rw [numbered, List.filterMap_filter, answers]
  congr 1
  funext p
  by_cases hblank : isBlankLine p.1 = true
  · simp [hblank, answer_eq_none (dollar_not_mem_of_blank hblank)]
  · simp [hblank]

/-- Without their numbers, the answers are those of the lines, in order. -/
lemma map_snd_answers (d : Document) (first : Nat) (lines : List String) :
    (answers d first lines).map Prod.snd = lines.filterMap (answer d) := by
  induction lines generalizing first with
  | nil => rfl
  | cons source lines ih =>
    rw [answers_cons, List.map_append, ih, List.filterMap_cons]
    rcases answer d source with _ | a <;> rfl

end Answers

end Rule

namespace RuleSet

variable {b : Builder} {s s' : RuleSet} {d d' : Document}

/-- Rules that lines compile to, one by one, ask for the answers of these lines. -/
lemma firings_of_forall₂ {limits : Limits} {numbered : List (String × Nat)} {rules : List Rule}
    (h : List.Forall₂ (fun p r => (Rule.compile limits p.2 p.1).value = .ok r) numbered rules)
    (d : Document) :
    firings d rules = numbered.filterMap fun p => (Rule.answer d p.1).map (p.2, ·) := by
  induction h with
  | nil => rfl
  | @cons p r numbered rules hr _ ih =>
    have hline := (Rule.line_of_compile hr).1
    rw [firings, List.filterMap_cons, List.filterMap_cons, ← firings, ih,
      Rule.value_test_of_compile hr d, hline]

/-- **The rules of some lines ask for the answers of the lines.** -/
lemma firings_of_compile (h : b.compile.value = .ok s) (d : Document) :
    firings d s.rules = Rule.answers d 1 b.lines := by
  have hrules := compileLines_of_compile h
  rw [Rule.value_compileLines, Rule.compileFrom_eq_ok_iff] at hrules
  rw [firings_of_forall₂ hrules, Rule.filterMap_numbered]

/-- Without the numbers: a set of rules asks for the answers of its lines, in order. -/
lemma asked_of_compile (h : b.compile.value = .ok s) (d : Document) :
    s.asked d = b.lines.filterMap (Rule.answer d) := by
  rw [← map_snd_firings, firings_of_compile h, Rule.map_snd_answers]

/-- The decision is read off the firings. -/
lemma evaluate_congr (h : firings d s.rules = firings d' s'.rules) :
    (s.evaluate d).value = (s'.evaluate d').value := by
  rw [value_evaluate, value_evaluate, ← map_snd_firings, ← map_snd_firings, h]

/-- The pass over the rules goes over the firings. -/
lemma value_standing (d : Document) (t : Standing) (rules : List Rule) :
    (standing d t rules).value = (firings d rules).foldl (fun t f => t.add f.1 f.2) t := by
  induction rules generalizing t with
  | nil => rfl
  | cons r rules ih =>
    rw [standing, Logged.value_bind, firings, List.filterMap_cons]
    rcases (r.test d).value with _ | a
    · exact ih t
    · exact ih (t.add r.line a)

/-- The report is read off the firings. -/
lemma evaluateDetailed_congr (h : firings d s.rules = firings d' s'.rules) :
    (s.evaluateDetailed d).value = (s'.evaluateDetailed d').value := by
  rw [value_evaluateDetailed, value_evaluateDetailed, value_standing, value_standing, h]

end RuleSet

end Rerank
