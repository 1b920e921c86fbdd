/-
Compiling lines, one by one.

Lines are compiled in order.  Blank lines are passed over but counted, and the first line at fault
ends the work.  The lines that hold a directive, each with its number, are `numbered`, and
compiling lines is compiling these in order until one is at fault (`value_compileFrom`).  Two facts
about such a run (`mapM_eq_ok_iff` and `mapM_eq_error_iff`) say what a success and what a fault
come from.

The main result is `compileLines_spec`.
-/
import Mathlib.Data.List.Forall2
import Rerank.Proofs.Rule.Line

namespace Rerank

namespace Rule

/-! ### Doing the same for each of some things until it fails -/

section MapM

variable {ε α β : Type} {f : α → Except ε β}

lemma mapM_cons_eq_ok_iff {a : α} {l : List α} {bs : List β} : (a :: l).mapM f = .ok bs ↔
    ∃ b cs, f a = .ok b ∧ l.mapM f = .ok cs ∧ bs = b :: cs := by
  rw [List.mapM_cons]
  rcases f a with e | b
  · constructor
    · rintro ⟨⟩
    · rintro ⟨b, cs, ⟨⟩, -, -⟩
  · rcases l.mapM f with e | cs
    · constructor
      · rintro ⟨⟩
      · rintro ⟨b', cs', -, ⟨⟩, -⟩
    · constructor
      · rintro ⟨⟩
        exact ⟨b, cs, rfl, rfl, rfl⟩
      · rintro ⟨b', cs', ⟨⟩, ⟨⟩, rfl⟩
        rfl

lemma mapM_cons_eq_error_iff {a : α} {l : List α} {e : ε} : (a :: l).mapM f = .error e ↔
    f a = .error e ∨ ∃ b, f a = .ok b ∧ l.mapM f = .error e := by
  rw [List.mapM_cons]
  rcases f a with e' | b
  · constructor
    · rintro ⟨⟩
      exact Or.inl rfl
    · rintro (⟨⟨⟩⟩ | ⟨b, ⟨⟩, -⟩)
      rfl
  · rcases l.mapM f with e' | cs
    · constructor
      · rintro ⟨⟩
        exact Or.inr ⟨b, rfl, rfl⟩
      · rintro (⟨⟨⟩⟩ | ⟨b', -, ⟨⟩⟩)
        rfl
    · constructor
      · rintro ⟨⟩
      · rintro (⟨⟨⟩⟩ | ⟨b', -, ⟨⟩⟩)

/-- The run succeeds if every step does. -/
lemma mapM_eq_ok_iff {l : List α} {bs : List β} :
    l.mapM f = .ok bs ↔ List.Forall₂ (fun a b => f a = .ok b) l bs := by
  induction l generalizing bs with
  | nil =>
    rw [List.mapM_nil, List.forall₂_nil_left_iff]
    exact ⟨fun h => by cases h; rfl, fun h => by rw [h]; rfl⟩
  | cons a l ih =>
    simp only [mapM_cons_eq_ok_iff, List.forall₂_cons_left_iff, ih]

/-- Every step of a run that succeeds has a result among those of the run. -/
lemma exists_of_mapM_eq_ok {l : List α} {bs : List β} (h : l.mapM f = .ok bs) {a : α}
    (ha : a ∈ l) : ∃ b ∈ bs, f a = .ok b := by
  induction l generalizing bs with
  | nil => cases ha
  | cons c l ih =>
    obtain ⟨b, cs, hc, hl, rfl⟩ := mapM_cons_eq_ok_iff.1 h
    rcases List.mem_cons.1 ha with rfl | ha
    · exact ⟨b, List.mem_cons_self, hc⟩
    · obtain ⟨b', hb', hab'⟩ := ih hl ha
      exact ⟨b', List.mem_cons_of_mem b hb', hab'⟩

/-- Every result of a run that succeeds is that of a step. -/
lemma exists_of_mem_of_mapM_eq_ok {l : List α} {bs : List β} (h : l.mapM f = .ok bs) {b : β}
    (hb : b ∈ bs) : ∃ a ∈ l, f a = .ok b := by
  induction l generalizing bs with
  | nil =>
    rw [List.mapM_nil] at h
    cases h
    cases hb
  | cons a l ih =>
    obtain ⟨c, cs, hac, hl, rfl⟩ := mapM_cons_eq_ok_iff.1 h
    rcases List.mem_cons.1 hb with rfl | hb
    · exact ⟨a, List.mem_cons_self, hac⟩
    · obtain ⟨a', ha', hab'⟩ := ih hl hb
      exact ⟨a', List.mem_cons_of_mem a ha', hab'⟩

/-- The first failure ends the run. -/
lemma mapM_eq_error_iff {l : List α} {e : ε} :
    l.mapM f = .error e ↔ ∃ before a behind, l = before ++ a :: behind ∧
      (∀ x ∈ before, ∃ b, f x = .ok b) ∧ f a = .error e := by
  induction l with
  | nil =>
    rw [List.mapM_nil]
    constructor
    · rintro ⟨⟩
    · rintro ⟨before, a, behind, h, -, -⟩
      simp at h
  | cons c l ih =>
    rw [mapM_cons_eq_error_iff, ih]
    constructor
    · rintro (hc | ⟨b, hc, before, a, behind, rfl, hok, ha⟩)
      · exact ⟨[], c, l, rfl, by simp, hc⟩
      · exact ⟨c :: before, a, behind, rfl, List.forall_mem_cons.2 ⟨⟨b, hc⟩, hok⟩, ha⟩
    · rintro ⟨before, a, behind, h, hok, ha⟩
      rcases before with _ | ⟨d, before⟩
      · obtain ⟨rfl, -⟩ := List.cons.inj h
        exact Or.inl ha
      · obtain ⟨rfl, rfl⟩ := List.cons.inj h
        obtain ⟨⟨b, hc⟩, hok⟩ := List.forall_mem_cons.1 hok
        exact Or.inr ⟨b, hc, before, a, behind, rfl, hok, ha⟩

/-- What is done to the results of the steps can be done to the result of the run. -/
lemma mapM_map_mapError {γ δ : Type} (g : β → γ) (h : ε → δ) (l : List α) :
    l.mapM (fun a => ((f a).map g).mapError h) = ((l.mapM f).map (List.map g)).mapError h := by
  induction l with
  | nil => rfl
  | cons a l ih =>
    rw [List.mapM_cons, List.mapM_cons, ih]
    rcases f a with e | b
    · rfl
    · rcases l.mapM f with e | cs <;> rfl

end MapM

/-! ### The lines that hold a directive -/

/-- The lines that are not blank, each with its number, when the first line has a given one. -/
def numbered (first : Nat) (lines : List String) : List (String × Nat) :=
  (lines.zipIdx first).filter fun (source, _) => !Text.isBlankLine source

section Numbered

variable {first : Nat} {lines : List String}

lemma numbered_cons_of_blank {source : String} (h : Text.isBlankLine source = true) :
    numbered first (source :: lines) = numbered (first + 1) lines := by
  simp [numbered, h]

lemma numbered_cons {source : String} (h : ¬ Text.isBlankLine source = true) :
    numbered first (source :: lines) = (source, first) :: numbered (first + 1) lines := by
  simp [numbered, h]

lemma numbered_append (first : Nat) (lines more : List String) :
    numbered first (lines ++ more) =
      numbered first lines ++ numbered (first + lines.length) more := by
  rw [numbered, List.zipIdx_append, List.filter_append]
  rfl

/-- Lines further on have the same texts. -/
lemma numbered_add (first n : Nat) (lines : List String) :
    numbered (first + n) lines = (numbered first lines).map (Prod.map id (· + n)) := by
  induction lines generalizing first with
  | nil => rfl
  | cons source lines ih =>
    have hnext : numbered (first + n + 1) lines =
        (numbered (first + 1) lines).map (Prod.map id (· + n)) := by
      rw [← ih, Nat.add_right_comm]
    by_cases h : Text.isBlankLine source = true
    · rw [numbered_cons_of_blank h, numbered_cons_of_blank h, hnext]
    · rw [numbered_cons h, numbered_cons h, hnext]
      rfl

/-- The numbers ascend. -/
lemma numbered_pairwise (first : Nat) (lines : List String) :
    ((numbered first lines).map Prod.snd).Pairwise (· < ·) := by
  have hsub : ((numbered first lines).map Prod.snd).Sublist (List.range' first lines.length) := by
    rw [← List.zipIdx_map_snd]
    exact List.filter_sublist.map _
  exact List.Pairwise.sublist hsub List.pairwise_lt_range'

lemma bounds_of_mem_numbered {p : String × Nat} (h : p ∈ numbered first lines) :
    first ≤ p.2 ∧ p.2 < first + lines.length := by
  have hmem : p ∈ lines.zipIdx first := List.mem_of_mem_filter h
  exact ⟨List.le_snd_of_mem_zipIdx hmem, List.snd_lt_add_of_mem_zipIdx hmem⟩

lemma numbered_eq_nil (h : ∀ source ∈ lines, Text.isBlankLine source = true) :
    numbered first lines = [] := by
  induction lines generalizing first with
  | nil => rfl
  | cons source lines ih =>
    obtain ⟨hblank, hlines⟩ := List.forall_mem_cons.1 h
    rw [numbered_cons_of_blank hblank, ih hlines]

end Numbered

/-! ### The run over the lines -/

section Run

variable {limits : Limits} {first : Nat} {lines more : List String}

/-- **Compiling lines** is compiling those that are not blank, in order, until one is at fault. -/
lemma value_compileFrom (limits : Limits) (first : Nat) (lines : List String) :
    (compileFrom limits first lines).value =
      (numbered first lines).mapM fun p => (compile limits p.2 p.1).value := by
  induction lines generalizing first with
  | nil => rfl
  | cons source lines ih =>
    by_cases h : Text.isBlankLine source = true
    · rw [compileFrom, if_pos h, numbered_cons_of_blank h, ih]
    · rw [compileFrom, if_neg h, numbered_cons h, List.mapM_cons, ← ih, Logged.value_bind]
      rcases (compile limits first source).value with fault | rule
      · rfl
      · rw [Logged.value_bind]
        rcases (compileFrom limits (first + 1) lines).value with fault | rules <;> rfl

lemma value_compileLines (limits : Limits) (lines : List String) :
    (compileLines limits lines).value = (compileFrom limits 1 lines).value := by
  rw [compileLines, Logged.value_bind]
  rcases (compileFrom limits 1 lines).value with fault | rules <;> rfl

lemma compileFrom_eq_ok_iff {rules : List Rule} :
    (compileFrom limits first lines).value = .ok rules ↔
      List.Forall₂ (fun p r => (compile limits p.2 p.1).value = .ok r) (numbered first lines)
        rules := by
  rw [value_compileFrom, mapM_eq_ok_iff]

/-- The fault is that of the first line that is at fault. -/
lemma compileFrom_eq_error_iff {fault : CompileFault} :
    (compileFrom limits first lines).value = .error fault ↔
      ∃ p ∈ numbered first lines, (compile limits p.2 p.1).value = .error fault ∧
        ∀ q ∈ numbered first lines, q.2 < p.2 → ∃ r, (compile limits q.2 q.1).value = .ok r := by
  rw [value_compileFrom, mapM_eq_error_iff]
  have hsorted := numbered_pairwise first lines
  constructor
  · rintro ⟨before, p, behind, hlines, hok, hp⟩
    refine ⟨p, by simp [hlines], hp, fun q hq hlt => ?_⟩
    rw [hlines, List.map_append, List.map_cons, List.pairwise_append, List.pairwise_cons] at hsorted
    rw [hlines, List.mem_append, List.mem_cons] at hq
    rcases hq with hq | rfl | hq
    · exact hok q hq
    -- the line at fault and those behind it are not before it
    · omega
    · have := hsorted.2.1.1 q.2 (List.mem_map_of_mem hq)
      omega
  · rintro ⟨p, hmem, hp, hok⟩
    obtain ⟨before, behind, hlines⟩ := List.append_of_mem hmem
    refine ⟨before, p, behind, hlines, fun q hq => hok q (by simp [hlines, hq]) ?_, hp⟩
    rw [hlines, List.map_append, List.map_cons, List.pairwise_append] at hsorted
    exact hsorted.2.2 q.2 (List.mem_map_of_mem hq) p.2 (by simp)

/-- Lines further on compile to the same, further on. -/
lemma value_compileFrom_add (limits : Limits) (first n : Nat) (lines : List String) :
    (compileFrom limits (first + n) lines).value =
      ((compileFrom limits first lines).value.map (List.map (shift n))).mapError
        (CompileFault.shift n) := by
  rw [value_compileFrom, value_compileFrom, numbered_add, List.mapM_map, ← mapM_map_mapError]
  exact congrArg (List.mapM · _) (funext fun p => value_compile_shift n)

lemma value_compileFrom_append (limits : Limits) (first : Nat) (lines more : List String) :
    (compileFrom limits first (lines ++ more)).value =
      match (compileFrom limits first lines).value,
          (compileFrom limits (first + lines.length) more).value with
      | .error fault, _ => .error fault
      | .ok _, .error fault => .error fault
      | .ok rules, .ok others => .ok (rules ++ others) := by
  rw [value_compileFrom, numbered_append, List.mapM_append, ← value_compileFrom,
    ← value_compileFrom]
  rcases (compileFrom limits first lines).value with fault | rules
  · rfl
  · rcases (compileFrom limits (first + lines.length) more).value with fault | others <;> rfl

/-- If lines compile, every line that is not blank does. -/
lemma compile_of_compileFrom {rules : List Rule}
    (h : (compileFrom limits first lines).value = .ok rules) :
    ∀ p ∈ numbered first lines, ∃ r, (compile limits p.2 p.1).value = .ok r := by
  intro p hp
  rw [value_compileFrom] at h
  obtain ⟨r, -, hr⟩ := exists_of_mapM_eq_ok h hp
  exact ⟨r, hr⟩

/-- The rules of lines have ascending numbers. -/
lemma pairwise_line_of_compileLines {rules : List Rule}
    (h : (compileLines limits lines).value = .ok rules) :
    (rules.map line).Pairwise (· < ·) := by
  rw [value_compileLines, compileFrom_eq_ok_iff] at h
  have hlines : (numbered 1 lines).map Prod.snd = rules.map line := by
    rw [← List.forall₂_eq_eq_eq, List.forall₂_map_left_iff, List.forall₂_map_right_iff]
    refine h.imp ?_
    intro p r hr
    exact (line_of_compile hr).1.symm
  rw [← hlines]
  exact numbered_pairwise 1 lines

/-- What stands behind a line at fault does not matter, if no line before it is at fault. -/
lemma compileFrom_take_append {p : String × Nat} {fault : CompileFault}
    (hmem : p ∈ numbered 1 lines) (hfault : (compile limits p.2 p.1).value = .error fault)
    (hok : ∀ q ∈ numbered 1 lines, q.2 < p.2 → ∃ r, (compile limits q.2 q.1).value = .ok r)
    (others : List String) :
    (compileFrom limits 1 (lines.take p.2 ++ others)).value = .error fault := by
  have hbounds := bounds_of_mem_numbered hmem
  have hlength : (lines.take p.2).length = p.2 := by
    rw [List.length_take]
    omega
  have hsplit : numbered 1 lines =
      numbered 1 (lines.take p.2) ++ numbered (1 + p.2) (lines.drop p.2) := by
    have happend := numbered_append 1 (lines.take p.2) (lines.drop p.2)
    rwa [List.take_append_drop, hlength] at happend
  refine compileFrom_eq_error_iff.2 ⟨p, ?_, hfault, fun q hq hlt => ?_⟩
  · rw [hsplit, List.mem_append] at hmem
    rw [numbered_append, List.mem_append]
    rcases hmem with hmem | hmem
    · exact Or.inl hmem
    -- `p.2` is not among the numbers behind the first `p.2` lines
    · have := bounds_of_mem_numbered hmem
      omega
  · rw [numbered_append, hlength, List.mem_append] at hq
    rcases hq with hq | hq
    · exact hok q (by simp [hsplit, hq]) hlt
    · have := bounds_of_mem_numbered hq
      omega

end Run

/-- **Lines compile one by one.**  If every line that is not blank compiles, the result has a rule
for each of them, in order, with the number and the text of its line, and that rule is what the
line compiles to when it stands alone and without limits.  Otherwise the result is the fault of the
first line that is at fault, whatever lines stand behind it.  So the rules of some lines followed
by others are their rules followed by those of the others, which are moved to their numbers.  Blank
lines are not subject to limits. -/
theorem compileLines_spec (limits : Limits) (lines : List String) :
    ((∀ p ∈ numbered 1 lines, ∃ r, (compile limits p.2 p.1).value = .ok r) →
      ∃ rules, (compileLines limits lines).value = .ok rules ∧
        rules.length = (numbered 1 lines).length ∧
        List.Forall₂ (fun p r => r.line = p.2 ∧ r.source = p.1 ∧
          (parse p.1).value = .ok { r with line := 1 }) (numbered 1 lines) rules) ∧
    ((¬ ∀ p ∈ numbered 1 lines, ∃ r, (compile limits p.2 p.1).value = .ok r) →
      ∃ p ∈ numbered 1 lines, ∃ fault, (compile limits p.2 p.1).value = .error fault ∧
        (∀ q ∈ numbered 1 lines, q.2 < p.2 → ∃ r, (compile limits q.2 q.1).value = .ok r) ∧
        fault.line = p.2 ∧ (compileLines limits lines).value = .error fault ∧
        ∀ others, (compileLines limits (lines.take p.2 ++ others)).value = .error fault) ∧
    (∀ more, (compileLines limits (lines ++ more)).value =
      match (compileLines limits lines).value, (compileLines limits more).value with
      | .error fault, _ => .error fault
      | .ok _, .error fault => .error (fault.shift lines.length)
      | .ok rules, .ok others => .ok (rules ++ others.map (shift lines.length))) ∧
    ((∀ source ∈ lines, Text.isBlankLine source = true) →
      (compileLines limits lines).value = .ok []) := by
  simp only [value_compileLines]
  refine ⟨fun hall => ?_, fun hnot => ?_, fun more => ?_, fun hblank => ?_⟩
  · rcases h : (compileFrom limits 1 lines).value with fault | rules
    · obtain ⟨p, hmem, hp, -⟩ := compileFrom_eq_error_iff.1 h
      obtain ⟨r, hr⟩ := hall p hmem
      rw [hp] at hr
      cases hr
    · have hrules := compileFrom_eq_ok_iff.1 h
      refine ⟨rules, rfl, hrules.length_eq.symm, hrules.imp fun p r hr => ?_⟩
      exact ⟨(line_of_compile hr).1, (line_of_compile hr).2, parse_of_compile hr⟩
  · rcases h : (compileFrom limits 1 lines).value with fault | rules
    · obtain ⟨p, hmem, hp, hok⟩ := compileFrom_eq_error_iff.1 h
      exact ⟨p, hmem, fault, hp, hok, line_of_compile_error hp, rfl,
        compileFrom_take_append hmem hp hok⟩
    · exact absurd (compile_of_compileFrom h) hnot
  · rw [value_compileFrom_append, value_compileFrom_add]
    rcases (compileFrom limits 1 lines).value with fault | rules
    · rfl
    · rcases (compileFrom limits 1 more).value with fault | others <;> rfl
  · rw [value_compileFrom, numbered_eq_nil hblank]
    rfl

/-- A blank line has a number, but no rule. -/
example : (compileLines .none ["ads", " ", "/track"]).value.toOption.map (List.map line) =
    some [1, 3] := by
  decide +kernel

end Rule

end Rerank
