/-
The order of lines carries no weight, nor do repeated, blank and idle lines.

What a rule asks for depends on the text of its line alone (`Rule.answer`), so a set of rules asks
for what its lines answer (`mem_asked_iff`), and its decision depends on which answers there are.
The report depends on the order, but only through the numbers of the lines: if lines are
rearranged, the rules that ask for an action are the same under their new numbers
(`asksAt_renumber`), and of those that ask for the greatest action the first one wins
(`winner_cases`).

The main result is `evaluate_eq_of_same_lines`.
-/
import Mathlib.Data.List.Basic
import Mathlib.Data.List.Nodup
import Mathlib.Logic.Equiv.Defs
import Rerank.Proofs.Rule.Application
import Rerank.Proofs.RuleSet.Report

namespace Rerank

namespace Rule

/-- The action that a line by itself asks for on a search result. -/
def answer (d : Document) (source : String) : Option Action :=
  match (parse source).value with
  | .ok r => (r.test d).value
  | .error _ => none

/-- A line does nothing to a search result: its rule has no action or does not fire. -/
def Idle (d : Document) (source : String) : Prop :=
  ∀ r, (parse source).value = .ok r → r.action = none ∨ (r.test d).value = none

/-- An idle line has no answer. -/
lemma Idle.answer_eq_none {d : Document} {source : String} (h : Idle d source) :
    answer d source = none := by
  unfold answer
  split
  · next r hr =>
    rcases h r hr with haction | htest
    · rw [value_test, haction, ite_self]
    · exact htest
  · rfl

/-- The rule of a line asks for what the line answers, whatever its number and the limits. -/
lemma value_test_of_compile {limits : Limits} {line : Nat} {source : String} {r : Rule}
    (h : (compile limits line source).value = .ok r) (d : Document) :
    (r.test d).value = answer d source := by
  rw [answer, parse_of_compile h, value_test]
  exact (value_test { r with line := 1 } d).symm

/-- The number that a line gets when lines are rearranged. -/
def renumber {m n : ℕ} (σ : Fin m ≃ Fin n) (line : ℕ) : ℕ :=
  if h : line - 1 < m then (σ ⟨line - 1, h⟩).val + 1 else line

lemma renumber_succ {m n : ℕ} (σ : Fin m ≃ Fin n) (i : Fin m) :
    renumber σ (i.val + 1) = (σ i).val + 1 := by
  simp [renumber]

/-- The lines that are not blank, by their places. -/
lemma mem_numbered_iff {lines : List String} {source : String} {line : ℕ} :
    (source, line) ∈ numbered 1 lines ↔ ∃ i : Fin lines.length,
      lines[i] = source ∧ i.val + 1 = line ∧ ¬ Text.isBlankLine source = true := by
  have hzip : (source, line) ∈ lines.zipIdx 1 ↔
      ∃ i : Fin lines.length, lines[i] = source ∧ i.val + 1 = line := by
    rw [List.mk_mem_zipIdx_iff_le_and_getElem?_sub]
    constructor
    · rintro ⟨hle, hget⟩
      obtain ⟨hlt, hsource⟩ := List.getElem?_eq_some_iff.1 hget
      exact ⟨⟨line - 1, hlt⟩, hsource, Nat.sub_add_cancel hle⟩
    · rintro ⟨i, rfl, rfl⟩
      refine ⟨Nat.le_add_left 1 i, ?_⟩
      simp
  rw [numbered, List.mem_filter, hzip, Bool.not_eq_true', Bool.not_eq_true]
  constructor
  · rintro ⟨⟨i, hsource, hline⟩, hblank⟩
    exact ⟨i, hsource, hline, hblank⟩
  · rintro ⟨i, hsource, hline, hblank⟩
    exact ⟨⟨i, hsource, hline⟩, hblank⟩

end Rule

namespace RuleSet

/-- A rule of a set, with a given line, asks for an action. -/
def AsksAt (s : RuleSet) (d : Document) (line : ℕ) (a : Action) : Prop :=
  ∃ r ∈ s.rules, r.line = line ∧ (r.test d).value = some a

section Compiled

variable {b b' : Builder} {s s' : RuleSet} {d : Document}

/-- **What a set of rules asks for is what its lines answer**, each at its number. -/
lemma asksAt_iff (h : b.compile.value = .ok s) {line : ℕ} {a : Action} :
    s.AsksAt d line a ↔ ∃ i : Fin b.lines.length, i.val + 1 = line ∧
      ¬ Text.isBlankLine b.lines[i] = true ∧ Rule.answer d b.lines[i] = some a := by
  have hrules := compileLines_of_compile h
  rw [Rule.value_compileLines, Rule.value_compileFrom] at hrules
  constructor
  · rintro ⟨r, hr, hline, ha⟩
    obtain ⟨p, hp, hcompile⟩ := Rule.exists_of_mem_of_mapM_eq_ok hrules hr
    obtain ⟨i, hsource, hnumber, hblank⟩ := Rule.mem_numbered_iff.1 hp
    refine ⟨i, ?_, ?_, ?_⟩
    · rw [hnumber, ← (Rule.line_of_compile hcompile).1, hline]
    · rwa [hsource]
    · rw [hsource, ← Rule.value_test_of_compile hcompile d, ha]
  · rintro ⟨i, hline, hblank, ha⟩
    have hp : (b.lines[i], i.val + 1) ∈ Rule.numbered 1 b.lines :=
      Rule.mem_numbered_iff.2 ⟨i, rfl, rfl, hblank⟩
    obtain ⟨r, hr, hcompile⟩ := Rule.exists_of_mapM_eq_ok hrules hp
    refine ⟨r, hr, ?_, ?_⟩
    · rw [(Rule.line_of_compile hcompile).1, hline]
    · rw [Rule.value_test_of_compile hcompile d, ha]

/-- A set of rules asks for the answers of its lines. -/
lemma mem_asked_iff (h : b.compile.value = .ok s) {a : Action} : a ∈ s.asked d ↔
    ∃ source ∈ b.lines, ¬ Text.isBlankLine source = true ∧ Rule.answer d source = some a := by
  have hasked : a ∈ s.asked d ↔ ∃ line, s.AsksAt d line a := by
    rw [asked, List.mem_filterMap]
    constructor
    · rintro ⟨r, hr, ha⟩
      exact ⟨r.line, r, hr, rfl, ha⟩
    · rintro ⟨line, r, hr, -, ha⟩
      exact ⟨r, hr, ha⟩
  rw [hasked]
  simp only [asksAt_iff h]
  constructor
  · rintro ⟨line, i, -, hblank, ha⟩
    exact ⟨b.lines[i], List.getElem_mem i.isLt, hblank, ha⟩
  · rintro ⟨source, hmem, hblank, ha⟩
    obtain ⟨i, hi, rfl⟩ := List.getElem_of_mem hmem
    exact ⟨i + 1, ⟨i, hi⟩, rfl, hblank, ha⟩

/-- Of some actions the greatest one depends only on which they are. -/
lemma greatest?_congr {l l' : List Action} (h : ∀ a, a ∈ l ↔ a ∈ l') :
    Action.greatest? l = Action.greatest? l' := by
  refine Option.ext fun a => ?_
  rw [Action.greatest?_eq_some_iff, Action.greatest?_eq_some_iff, h a]
  simp only [h]

/-- **Which lines there are decides**, up to blank lines and lines that are idle. -/
lemma value_evaluate_congr (h : b.compile.value = .ok s) (h' : b'.compile.value = .ok s')
    (hlines : ∀ source, ¬ Text.isBlankLine source = true →
      (source ∈ b.lines ↔ source ∈ b'.lines) ∨ Rule.Idle d source) :
    (s.evaluate d).value = (s'.evaluate d).value := by
  have hasked : ∀ a, a ∈ s.asked d ↔ a ∈ s'.asked d := by
    intro a
    rw [mem_asked_iff h, mem_asked_iff h']
    refine exists_congr fun source => and_congr_left fun ⟨hblank, ha⟩ => ?_
    refine (hlines source hblank).resolve_right fun hidle => ?_
    rw [hidle.answer_eq_none] at ha
    cases ha
  rw [value_evaluate, value_evaluate, greatest?_congr hasked]

/-! ### The report -/

lemma mem_firings_iff_asksAt {line : ℕ} {a : Action} :
    (line, a) ∈ firings d s.rules ↔ s.AsksAt d line a :=
  mem_firings_iff

lemma fired_evaluateDetailed (s : RuleSet) (d : Document) :
    (s.evaluateDetailed d).value.fired = (firings d s.rules).map Prod.fst := by
  rw [value_evaluateDetailed]
  split <;> rfl

lemma pairwise_fired (h : b.compile.value = .ok s) (d : Document) :
    ((firings d s.rules).map Prod.fst).Pairwise (· < ·) := by
  rw [map_fst_firings]
  exact (pairwise_line_of_compile h).sublist (List.filter_sublist.map _)

/-- **Who wins.**  Either no rule asks for an action, or the first of those that ask for the
greatest one wins. -/
lemma winner_cases (h : b.compile.value = .ok s) (d : Document) :
    ((s.evaluateDetailed d).value.winner = none ∧
        (s.evaluateDetailed d).value.outcome = .noOpinion ∧ ∀ line a, ¬ s.AsksAt d line a) ∨
      ∃ line a, (s.evaluateDetailed d).value.winner = some line ∧
        (s.evaluateDetailed d).value.outcome = a.outcome ∧ s.AsksAt d line a ∧
        (∀ other c, s.AsksAt d other c → c ≤ a) ∧ ∀ other, s.AsksAt d other a → line ≤ other := by
  have hdescribes := describes_evaluateDetailed s d
  rw [value_evaluateDetailed]
  rcases hbest : (standing d ⟨[], none⟩ s.rules).value.best with _ | ⟨a, line⟩
  · refine Or.inl ⟨rfl, rfl, fun line a hasks => ?_⟩
    have hmem := mem_firings_iff_asksAt.2 hasks
    rw [hdescribes.eq_nil_of_best hbest] at hmem
    cases hmem
  · have hfirst := hdescribes.firstGreatest_of_best hbest
    refine Or.inr ⟨line, a, rfl, rfl, mem_firings_iff_asksAt.1 hfirst.mem, ?_, ?_⟩
    · intro other c hasks
      exact hfirst.le (mem_firings_iff_asksAt.2 hasks)
    · intro other hasks
      refine Nat.le_of_not_lt fun hlt => ?_
      exact hfirst.not_mem_of_lt (pairwise_fired h d) hlt (mem_firings_iff_asksAt.2 hasks)

lemma mem_fired_iff {line : ℕ} :
    line ∈ (s.evaluateDetailed d).value.fired ↔ ∃ a, s.AsksAt d line a := by
  rw [fired_evaluateDetailed, List.mem_map]
  constructor
  · rintro ⟨⟨line, a⟩, hmem, rfl⟩
    exact ⟨a, mem_firings_iff_asksAt.1 hmem⟩
  · rintro ⟨a, hasks⟩
    exact ⟨(line, a), mem_firings_iff_asksAt.2 hasks, rfl⟩

/-- **Rearranged lines** ask for the same under their new numbers. -/
lemma asksAt_renumber (h : b.compile.value = .ok s) (h' : b'.compile.value = .ok s')
    (σ : Fin b.lines.length ≃ Fin b'.lines.length)
    (hσ : ∀ i, b'.lines[σ i] = b.lines[i]) (line : ℕ) {a : Action} :
    s'.AsksAt d line a ↔ ∃ other, s.AsksAt d other a ∧ Rule.renumber σ other = line := by
  simp only [asksAt_iff h, asksAt_iff h']
  constructor
  · rintro ⟨j, hline, hblank, ha⟩
    obtain ⟨i, rfl⟩ := σ.surjective j
    refine ⟨i.val + 1, ⟨i, rfl, ?_, ?_⟩, ?_⟩
    · rwa [← hσ]
    · rwa [← hσ]
    · rw [Rule.renumber_succ, hline]
  · rintro ⟨other, ⟨i, hother, hblank, ha⟩, hline⟩
    refine ⟨σ i, ?_, ?_, ?_⟩
    · rw [← hline, ← hother, Rule.renumber_succ]
    · rwa [hσ]
    · rwa [hσ]

/-- Different lines have different new numbers. -/
lemma renumber_inj (h : b.compile.value = .ok s) (σ : Fin b.lines.length ≃ Fin b'.lines.length)
    {line other : ℕ} {a c : Action} (hline : s.AsksAt d line a) (hother : s.AsksAt d other c)
    (heq : Rule.renumber σ line = Rule.renumber σ other) : line = other := by
  obtain ⟨i, rfl, -⟩ := (asksAt_iff h).1 hline
  obtain ⟨j, rfl, -⟩ := (asksAt_iff h).1 hother
  rw [Rule.renumber_succ, Rule.renumber_succ, Nat.succ_inj, Fin.val_inj, σ.apply_eq_iff_eq] at heq
  rw [heq]

/-- The lines that fire, under their new numbers and in ascending order, are those that fire when
the lines are rearranged. -/
lemma fired_renumber (h : b.compile.value = .ok s) (h' : b'.compile.value = .ok s')
    (σ : Fin b.lines.length ≃ Fin b'.lines.length)
    (hσ : ∀ i, b'.lines[σ i] = b.lines[i]) :
    (s'.evaluateDetailed d).value.fired =
      ((s.evaluateDetailed d).value.fired.map (Rule.renumber σ)).mergeSort := by
  have hsorted : (s.evaluateDetailed d).value.fired.Pairwise (· < ·) := by
    rw [fired_evaluateDetailed]
    exact pairwise_fired h d
  have hsorted' : (s'.evaluateDetailed d).value.fired.Pairwise (· < ·) := by
    rw [fired_evaluateDetailed]
    exact pairwise_fired h' d
  have hnodup : ((s.evaluateDetailed d).value.fired.map (Rule.renumber σ)).Nodup := by
    refine List.Nodup.map_on ?_ (hsorted.imp Nat.ne_of_lt)
    intro line hline other hother heq
    obtain ⟨a, ha⟩ := mem_fired_iff.1 hline
    obtain ⟨c, hc⟩ := mem_fired_iff.1 hother
    exact renumber_inj h σ ha hc heq
  have hmem : ∀ line, line ∈ (s'.evaluateDetailed d).value.fired ↔
      line ∈ (s.evaluateDetailed d).value.fired.map (Rule.renumber σ) := by
    intro line
    simp only [mem_fired_iff, asksAt_renumber h h' σ hσ, List.mem_map]
    constructor
    · rintro ⟨a, other, ha, hline⟩
      exact ⟨other, ⟨a, ha⟩, hline⟩
    · rintro ⟨other, ⟨a, ha⟩, hline⟩
      exact ⟨a, other, ha, hline⟩
  have hperm : (s'.evaluateDetailed d).value.fired.Perm
      ((s.evaluateDetailed d).value.fired.map (Rule.renumber σ)).mergeSort :=
    ((List.perm_ext_iff_of_nodup (hsorted'.imp Nat.ne_of_lt) hnodup).2 hmem).trans
      (List.mergeSort_perm _ _).symm
  have hascending : (((s.evaluateDetailed d).value.fired.map (Rule.renumber σ)).mergeSort).Pairwise
      (· ≤ ·) := by
    have htrans : ∀ m n k : ℕ, decide (m ≤ n) = true → decide (n ≤ k) = true →
        decide (m ≤ k) = true := by
      simp only [decide_eq_true_eq]
      omega
    have htotal : ∀ m n : ℕ, (decide (m ≤ n) || decide (n ≤ m)) = true := by
      simp only [Bool.or_eq_true, decide_eq_true_eq]
      omega
    simpa using List.pairwise_mergeSort htrans htotal
      ((s.evaluateDetailed d).value.fired.map (Rule.renumber σ))
  exact hperm.eq_of_pairwise (fun m n _ _ => Nat.le_antisymm) (hsorted'.imp Nat.le_of_lt) hascending

/-- What wins among rearranged lines: the same action, for the first of the lines that ask for
it. -/
lemma winner_renumber (h : b.compile.value = .ok s) (h' : b'.compile.value = .ok s')
    (σ : Fin b.lines.length ≃ Fin b'.lines.length)
    (hσ : ∀ i, b'.lines[σ i] = b.lines[i]) (d : Document) :
    (s'.evaluateDetailed d).value.outcome = (s.evaluateDetailed d).value.outcome ∧
      ((s'.evaluateDetailed d).value.winner = none ↔
        (s.evaluateDetailed d).value.winner = none) ∧
      ∀ line, (s.evaluateDetailed d).value.winner = some line → ∃ line' a,
        (s'.evaluateDetailed d).value.winner = some line' ∧ s.AsksAt d line a ∧
        s'.AsksAt d line' a ∧ (∃ other, s.AsksAt d other a ∧ Rule.renumber σ other = line') ∧
        ∀ other, s.AsksAt d other a → line' ≤ Rule.renumber σ other := by
  have hasks (line : ℕ) (a : Action) := asksAt_renumber (d := d) (a := a) h h' σ hσ line
  rcases winner_cases h d with ⟨hwinner, hout, hnone⟩ | ⟨line, a, hwinner, hout, hline, hmax, -⟩
  · rcases winner_cases h' d with ⟨hwinner', hout', -⟩ | ⟨line', a', -, -, hline', -⟩
    · refine ⟨by rw [hout, hout'], iff_of_true hwinner' hwinner, fun line hline => ?_⟩
      rw [hwinner] at hline
      cases hline
    · obtain ⟨other, hother, -⟩ := (hasks line' a').1 hline'
      exact absurd hother (hnone other a')
  · have hline₂ := (hasks _ a).2 ⟨line, hline, rfl⟩
    rcases winner_cases h' d with
      ⟨-, -, hnone'⟩ | ⟨line', a', hwinner', hout', hline', hmax', hfirst'⟩
    · exact absurd hline₂ (hnone' _ a)
    -- the same actions are asked for, so the greatest ones are equal
    · obtain ⟨other, hother, hrenumber⟩ := (hasks line' a').1 hline'
      obtain rfl : a' = a := Action.le_antisymm (hmax other a' hother) (hmax' _ a hline₂)
      refine ⟨by rw [hout, hout'], by simp [hwinner, hwinner'], fun winner heq => ?_⟩
      rw [hwinner, Option.some.injEq] at heq
      subst heq
      refine ⟨line', a', hwinner', hline, hline', ⟨other, hother, hrenumber⟩, fun other hother => ?_⟩
      exact hfirst' _ ((hasks _ a').2 ⟨other, hother, rfl⟩)

end Compiled

/-- **Order, repetition and idle lines carry no weight.**  Two sets of rules decide the same on every
search result if the same lines that are not blank are compiled to them, in whatever order and
however often, under whatever limits; and on one search result, if they differ only in lines that do
nothing to it.  If the lines are rearranged, the report tells the same rules under their new
numbers, in ascending order, and the same action wins, for the first of the rules that ask for
it. -/
theorem evaluate_eq_of_same_lines {b b' : Builder} {s s' : RuleSet}
    (h : b.compile.value = .ok s) (h' : b'.compile.value = .ok s') :
    ((∀ source, ¬ Text.isBlankLine source = true → (source ∈ b.lines ↔ source ∈ b'.lines)) →
      ∀ d, (s.evaluate d).value = (s'.evaluate d).value) ∧
    (∀ d, (∀ source, ¬ Text.isBlankLine source = true →
        (source ∈ b.lines ↔ source ∈ b'.lines) ∨ Rule.Idle d source) →
      (s.evaluate d).value = (s'.evaluate d).value) ∧
    ∀ σ : Fin b.lines.length ≃ Fin b'.lines.length, (∀ i, b'.lines[σ i] = b.lines[i]) → ∀ d,
      (s'.evaluateDetailed d).value.outcome = (s.evaluateDetailed d).value.outcome ∧
      (s'.evaluateDetailed d).value.fired =
        ((s.evaluateDetailed d).value.fired.map (Rule.renumber σ)).mergeSort ∧
      ((s'.evaluateDetailed d).value.winner = none ↔
        (s.evaluateDetailed d).value.winner = none) ∧
      ∀ line, (s.evaluateDetailed d).value.winner = some line → ∃ line' a,
        (s'.evaluateDetailed d).value.winner = some line' ∧ s.AsksAt d line a ∧
        s'.AsksAt d line' a ∧ (∃ other, s.AsksAt d other a ∧ Rule.renumber σ other = line') ∧
        ∀ other, s.AsksAt d other a → line' ≤ Rule.renumber σ other := by
  refine ⟨fun hlines d => ?_, fun d => value_evaluate_congr h h', fun σ hσ d => ?_⟩
  · exact value_evaluate_congr h h' fun source hblank => Or.inl (hlines source hblank)
  · obtain ⟨houtcome, hwinner⟩ := winner_renumber h h' σ hσ d
    exact ⟨houtcome, fired_renumber h h' σ hσ, hwinner⟩

/-- Four lines are moved on by one place, the last one to the front.  The two that ask for the same
boost swap neither their order nor the win, and the report follows their numbers. -/
theorem report_of_rotated_lines :
    let b : Builder := ⟨["$boost=2", "", "$boost=2", "/a$downrank=1"], .none⟩
    let b' : Builder := ⟨["/a$downrank=1", "$boost=2", "", "$boost=2"], .none⟩
    let σ : Fin b.lines.length ≃ Fin b'.lines.length :=
      ⟨fun i => i + (1 : Fin 4), fun i => i - (1 : Fin 4),
        (by decide : ∀ i : Fin 4, i + 1 - 1 = i), (by decide : ∀ i : Fin 4, i - 1 + 1 = i)⟩
    let d : Document := ⟨"http://x/a", "x", none, none, none⟩
    ∃ s s', b.compile.value = .ok s ∧ b'.compile.value = .ok s' ∧
      (∀ i, b'.lines[σ i] = b.lines[i]) ∧
      (s.evaluateDetailed d).value = ⟨.score (.clamp 2), [1, 3, 4], some 1⟩ ∧
      (s'.evaluateDetailed d).value = ⟨.score (.clamp 2), [1, 2, 4], some 2⟩ ∧
      (s.evaluate d).value = (s'.evaluate d).value ∧
      (s'.evaluateDetailed d).value.fired =
        ((s.evaluateDetailed d).value.fired.map (Rule.renumber σ)).mergeSort := by
  intro b b' σ d
  have heval : b.compile.value.toOption.map (fun s => (s.evaluateDetailed d).value) =
      some ⟨.score (.clamp 2), [1, 3, 4], some 1⟩ := by decide +kernel
  have heval' : b'.compile.value.toOption.map (fun s => (s.evaluateDetailed d).value) =
      some ⟨.score (.clamp 2), [1, 2, 4], some 2⟩ := by decide +kernel
  have hσ : ∀ i, b'.lines[σ i] = b.lines[i] := by decide
  have hlines : ∀ source, source ∈ b.lines ↔ source ∈ b'.lines := by
    intro source
    simp only [b, b', List.mem_cons, List.not_mem_nil, or_false]
    tauto
  rcases hcompile : b.compile.value with fault | s
  · rw [hcompile] at heval
    cases heval
  · rcases hcompile' : b'.compile.value with fault | s'
    · rw [hcompile'] at heval'
      cases heval'
    · rw [hcompile] at heval
      rw [hcompile'] at heval'
      obtain ⟨hsame, -, hrearranged⟩ := evaluate_eq_of_same_lines hcompile hcompile'
      exact ⟨s, s', rfl, rfl, hσ, Option.some.inj heval, Option.some.inj heval',
        hsame (fun source _ => hlines source) d, (hrearranged σ hσ d).2.1⟩

end RuleSet

end Rerank
