/-
What the summary of a set of rules counts.

A census looks at rules one by one and adds one to the counter of the rule's kind
(`Census.counter_add`), so after all of them a counter has grown by the number of rules of its kind
(`Census.counter_foldl_add`).  A counter has 32 bits.  Up to a multiple of 2 ^ 32 it is right
(`toInt_counter_census`), and it is right as it stands for a set of fewer than 2 ^ 31 rules
(`text_eq_of_size_lt`).  A larger set is made without complaint, and then a counter may be negative
(`text_of_replicate`).

The kind of a rule depends on the text of its line alone, so the summary does not depend on the
order of lines (`text_eq_of_perm`).
-/
import Mathlib.Algebra.Group.Nat.Defs
import Mathlib.Data.Int.Notation
import Mathlib.Data.List.Count
import Rerank.Proofs.RuleSet.Report

namespace Rerank

namespace Rule

/-- The kinds of rules that a summary tells apart. -/
inductive Kind
  /-- It boosts. -/
  | boost
  /-- It downranks. -/
  | downrank
  /-- It discards, one way or the other. -/
  | discard
  /-- It has no action. -/
  | inert
  deriving DecidableEq, Repr

/-- The kind of a rule. -/
def kind (r : Rule) : Kind :=
  match r.action with
  | none => .inert
  | some .genericDiscard => .discard
  | some .specificDiscard => .discard
  | some (.boost _) => .boost
  | some (.downrank _) => .downrank

/-- The kind of the rule of a line, if the line has one. -/
def kindOf? (source : String) : Option Kind :=
  (parse source).value.toOption.map kind

/-- The number of a rule and the limits do not matter for its kind. -/
lemma kindOf?_of_compile {limits : Limits} {line : ℕ} {source : String} {r : Rule}
    (h : (compile limits line source).value = .ok r) : kindOf? source = some r.kind := by
  rw [kindOf?, parse_of_compile h]
  rfl

/-- The rules of a kind are counted by their lines. -/
lemma countP_kind_of_compileFrom {limits : Limits} {first : ℕ} {lines : List String}
    {rules : List Rule} (h : (compileFrom limits first lines).value = .ok rules) (k : Kind) :
    rules.countP (fun r => r.kind = k) =
      lines.countP fun source => ! Text.isBlankLine source && kindOf? source = some k := by
  rw [compileFrom_eq_ok_iff] at h
  induction lines generalizing first rules with
  | nil =>
    cases h
    rfl
  | cons source lines ih =>
    by_cases hblank : Text.isBlankLine source = true
    -- a blank line makes no rule, and is not counted
    · rw [numbered_cons_of_blank hblank] at h
      rw [ih h, List.countP_cons, hblank]
      rfl
    · rw [numbered_cons hblank] at h
      obtain ⟨r, rest, hcompile, hrest, rfl⟩ := List.forall₂_cons_left_iff.1 h
      rw [List.countP_cons, List.countP_cons, ih hrest, kindOf?_of_compile hcompile]
      simp [hblank]

end Rule

namespace Census

/-- The counter of a kind. -/
def counter (n : Census) : Rule.Kind → Int32
  | .boost => n.boost
  | .downrank => n.downrank
  | .discard => n.discard
  | .inert => n.inert

@[simp] lemma counter_zero (k : Rule.Kind) : zero.counter k = 0 := by
  cases k <;> rfl

/-- **One more rule** adds one to the counter of its kind, and nothing to the others. -/
lemma counter_add (n : Census) (r : Rule) (k : Rule.Kind) :
    (n.add r).counter k = n.counter k + if r.kind = k then 1 else 0 := by
  rcases haction : r.action with _ | _ | m | m | _ <;>
    cases k <;> simp [add, counter, Rule.kind, haction]

/-- **All rules** add their number to the counter of a kind. -/
lemma counter_foldl_add (n : Census) (rules : List Rule) (k : Rule.Kind) :
    (rules.foldl add n).counter k =
      n.counter k + Int32.ofNat (rules.countP fun r => r.kind = k) := by
  induction rules generalizing n with
  | nil => simp
  | cons r rules ih =>
    rw [List.foldl_cons, ih, counter_add, List.countP_cons, Int32.ofNat_add]
    by_cases h : r.kind = k
    · simp only [if_pos h, decide_eq_true h]
      rw [Int32.add_assoc, Int32.add_comm 1]
      rfl
    · simp [h]

end Census

namespace RuleSet

/-- The number of rules of a kind. -/
def tally (s : RuleSet) (k : Rule.Kind) : ℕ :=
  s.rules.countP fun r => r.kind = k

/-- A summary of some numbers. -/
def summary (size : ℕ) (counts : Rule.Kind → ℤ) : String :=
  "RuleSet(" ++ toString size ++ " rules, " ++ toString (counts .boost) ++ " boost, " ++
    toString (counts .downrank) ++ " downrank, " ++ toString (counts .discard) ++ " discard, " ++
    toString (counts .inert) ++ " inert)"

lemma counter_census (s : RuleSet) (k : Rule.Kind) :
    s.census.counter k = Int32.ofNat (s.tally k) := by
  rw [census, Census.counter_foldl_add, Census.counter_zero, Int32.zero_add, tally]

/-- **The counters are right up to a multiple of 2 ^ 32.** -/
theorem toInt_counter_census (s : RuleSet) (k : Rule.Kind) :
    (s.census.counter k).toInt = (s.tally k : ℤ).bmod (2 ^ 32) := by
  rw [counter_census]
  exact Int32.toInt_ofNat'

/-- **Every rule is of one kind**: the numbers of rules of the kinds add up to the number of
rules. -/
theorem size_eq_sum_tally (s : RuleSet) :
    s.size = s.tally .boost + s.tally .downrank + s.tally .discard + s.tally .inert := by
  obtain ⟨rules⟩ := s
  show rules.length = rules.countP _ + rules.countP _ + rules.countP _ + rules.countP _
  induction rules with
  | nil => rfl
  | cons r rules ih =>
    simp only [List.length_cons, List.countP_cons, ih]
    cases r.kind <;> simp <;> omega

lemma tally_le_size (s : RuleSet) (k : Rule.Kind) : s.tally k ≤ s.size :=
  List.countP_le_length

lemma text_eq_summary (s : RuleSet) :
    s.text = summary s.size fun k => (s.tally k : ℤ).bmod (2 ^ 32) := by
  unfold text summary
  simp only [← toInt_counter_census, Census.counter]

/-- **The summary is right** for fewer than 2 ^ 31 rules. -/
theorem text_eq_of_size_lt {s : RuleSet} (h : s.size < 2 ^ 31) :
    s.text = summary s.size fun k => s.tally k := by
  rw [text_eq_summary]
  have hexact (k : Rule.Kind) : (s.tally k : ℤ).bmod (2 ^ 32) = s.tally k := by
    have hle := s.tally_le_size k
    exact Int.bmod_eq_of_le (by omega) (by omega)
  simp only [hexact]

/-- Sets with as many rules of each kind have the same summary. -/
lemma text_congr {s s' : RuleSet} (h : ∀ k, s'.tally k = s.tally k) : s'.text = s.text := by
  rw [text_eq_summary, text_eq_summary, size_eq_sum_tally, size_eq_sum_tally]
  simp only [h]

section Compiled

variable {b b' : Builder} {s s' : RuleSet}

/-- The rules of a kind are counted by the lines. -/
lemma tally_of_compile (h : b.compile.value = .ok s) (k : Rule.Kind) : s.tally k =
    b.lines.countP fun source => ! Text.isBlankLine source && Rule.kindOf? source = some k := by
  have hrules := compileLines_of_compile h
  rw [Rule.value_compileLines] at hrules
  exact Rule.countP_kind_of_compileFrom hrules k

/-- **The order of lines does not change the summary**, whatever the number of lines and the
limits. -/
theorem text_eq_of_perm (h : b.compile.value = .ok s) (h' : b'.compile.value = .ok s')
    (hperm : b'.lines.Perm b.lines) : s'.text = s.text := by
  refine text_congr fun k => ?_
  rw [tally_of_compile h, tally_of_compile h', hperm.countP_eq]

/-- A line that compiles may be repeated any number of times. -/
lemma exists_compile_replicate {source : String} {r : Rule}
    (h : (Rule.parse source).value = .ok r) (n : ℕ) :
    ∃ s, (Builder.mk (List.replicate n source) .none).compile.value = .ok s := by
  rcases hrules : (Rule.compileFrom .none 1 (List.replicate n source)).value with fault | rules
  · obtain ⟨p, hp, hfault, -⟩ := Rule.compileFrom_eq_error_iff.1 hrules
    have hsource : p.1 = source :=
      List.eq_of_mem_replicate (List.fst_mem_of_mem_zipIdx (List.mem_of_mem_filter hp))
    have hcompile := Rule.value_compile_none_of_compile h p.2
    rw [hsource, hcompile] at hfault
    cases hfault
  · refine ⟨⟨rules⟩, compile_eq_ok_iff.2 ?_⟩
    rw [Rule.value_compileLines, hrules]

end Compiled

/-- **A counter may run over.**  A line that boosts, 2 ^ 31 times: as many rules are made, and the
summary says that there are fewer than none. -/
theorem text_of_replicate :
    ∃ s, (Builder.mk (List.replicate (2 ^ 31) "$boost") .none).compile.value = .ok s ∧
      s.tally .boost = 2 ^ 31 ∧
      s.text =
        "RuleSet(2147483648 rules, -2147483648 boost, 0 downrank, 0 discard, 0 inert)" := by
  obtain ⟨r, hr⟩ : ∃ r, (Rule.parse "$boost").value = .ok r :=
    ⟨_, Rule.value_compile_of_pattern_eq_empty rfl⟩
  obtain ⟨s, hs⟩ := exists_compile_replicate hr (2 ^ 31)
  have hkind : Rule.kindOf? "$boost" = some .boost := by decide +kernel
  have hblank : Text.isBlankLine "$boost" = false := by decide +kernel
  have htally (k : Rule.Kind) : s.tally k = if k = .boost then 2 ^ 31 else 0 := by
    rw [tally_of_compile hs, List.countP_replicate, hkind, hblank]
    simp [eq_comm]
  refine ⟨s, hs, htally .boost, ?_⟩
  -- 2 ^ 31 wraps to its negative, and is not evaluated rule by rule
  rw [text_eq_summary, size_eq_sum_tally]
  simp only [htally]
  decide +kernel

end RuleSet

end Rerank
