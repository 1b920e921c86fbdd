/-
Compiling a line by itself.

What a line compiles to depends on its text alone.  Its number is only recorded: under another
number the same rule or the same fault comes out, moved to that number (`value_compile_shift`).
Of its text only the directive matters that it spells (`value_compile_congr`).  Limits only refuse
lines: a line that compiles under some limits compiles to the same rule without
any (`parse_of_compile`).
-/
import Mathlib.Data.List.Basic
import Rerank.Rule.Compilation

namespace Rerank

/-- Something that is told of a result of which there is one. -/
lemma exists_of_map_toOption {ε α β : Type} {x : Except ε α} {f : α → β} {b : β}
    (h : x.toOption.map f = some b) : ∃ a, x = .ok a ∧ f a = b := by
  rcases x with e | a
  · cases h
  · exact ⟨a, rfl, Option.some.inj h⟩

/-- A fault, as many lines further on. -/
def CompileFault.shift (n : Nat) : CompileFault → CompileFault
  | .patternTooLong line length limit => .patternTooLong (line + n) length limit
  | .tooManyOptions line count limit => .tooManyOptions (line + n) count limit
  | .pattern line source cause => .pattern (line + n) source cause

namespace Directive

variable {d : Directive} {line : Nat} {limits : Limits}

lemma line_of_exceeds? {fault : CompileFault} (h : d.exceeds? line limits = some fault) :
    fault.line = line := by
  unfold exceeds? at h
  split at h
  · cases h
    rfl
  · split at h
    · cases h
    · obtain ⟨limit, -, rfl⟩ := Option.map_eq_some_iff.1 h
      rfl

lemma exceeds?_shift (n : Nat) : d.exceeds? (line + n) limits =
    (d.exceeds? line limits).map (CompileFault.shift n) := by
  unfold exceeds?
  split
  · rfl
  · split
    · rfl
    · rw [Option.map_map]
      rfl

/-- No directive exceeds absent limits. -/
@[simp] lemma exceeds?_none (d : Directive) (line : Nat) : d.exceeds? line .none = none := by
  unfold exceeds?
  split
  · next h => cases h
  · split <;> rfl

lemma line_of_pattern? {fault : CompileFault} (h : d.pattern? line = .error fault) :
    fault.line = line := by
  unfold pattern? at h
  split at h
  · cases h
  · split at h
    · cases h
    · cases h
      rfl

lemma pattern?_shift (n : Nat) : d.pattern? (line + n) =
    (d.pattern? line).mapError (CompileFault.shift n) := by
  unfold pattern?
  split
  · rfl
  · split <;> rfl

/-- Whether a directive has a pattern, and which, does not depend on its line. -/
lemma pattern?_of_ok {p : Option Pattern} (h : d.pattern? line = .ok p) (other : Nat) :
    d.pattern? other = .ok p := by
  unfold pattern? at h ⊢
  split at h
  · next hempty => rw [if_pos hempty, h]
  · next hempty =>
    rw [if_neg hempty]
    split at h
    · exact h
    · cases h

end Directive

namespace Rule

/-- A rule, as many lines further on. -/
def shift (n : Nat) (r : Rule) : Rule :=
  { r with line := r.line + n }

section Line

variable {limits : Limits} {line : Nat} {source : String}

/-- What a line compiles to: the limits come first, then the pattern, and then the options. -/
lemma value_compile (limits : Limits) (line : Nat) (source : String) :
    (compile limits line source).value =
      match (Directive.parse source).exceeds? line limits with
      | some fault => .error fault
      | none =>
        match (Directive.parse source).pattern? line with
        | .error fault => .error fault
        | .ok pattern =>
          .ok (ofOptions source line pattern
            (Options.collect (Directive.parse source).entries).value) := by
  rw [compile]
  rcases (Directive.parse source).exceeds? line limits with _ | fault
  · rcases (Directive.parse source).pattern? line with fault | pattern
    · rfl
    · rw [Logged.value_bind]
      -- whether several kinds of action are warned of makes no difference to the value
      split <;> rfl
  · rfl

/-- **What a rule comes from.**  A line compiles if it exceeds no limit and its pattern compiles, and
its rule is that of its options. -/
lemma compile_eq_ok_iff {r : Rule} : (compile limits line source).value = .ok r ↔
    (Directive.parse source).exceeds? line limits = none ∧
      ∃ pattern, (Directive.parse source).pattern? line = .ok pattern ∧
        ofOptions source line pattern (Options.collect (Directive.parse source).entries).value =
          r := by
  rw [value_compile]
  rcases (Directive.parse source).exceeds? line limits with _ | fault
  · rcases (Directive.parse source).pattern? line with fault | pattern <;> simp
  · simp

/-- **What a fault comes from.**  A line is at fault if it exceeds a limit, and only otherwise if its
pattern does not compile. -/
lemma compile_eq_error_iff {fault : CompileFault} :
    (compile limits line source).value = .error fault ↔
      (Directive.parse source).exceeds? line limits = some fault ∨
        (Directive.parse source).exceeds? line limits = none ∧
          (Directive.parse source).pattern? line = .error fault := by
  rw [value_compile]
  rcases (Directive.parse source).exceeds? line limits with _ | exceeded
  · rcases (Directive.parse source).pattern? line with cause | pattern <;> simp
  · simp

/-- A line without a pattern compiles. -/
lemma value_compile_of_pattern_eq_empty (h : (Directive.parse source).pattern = "") :
    (compile .none line source).value =
      .ok (ofOptions source line none
        (Options.collect (Directive.parse source).entries).value) := by
  refine compile_eq_ok_iff.2 ⟨Directive.exceeds?_none _ line, none, ?_, rfl⟩
  rw [Directive.pattern?, h]
  rfl

/-- **Lines that spell the same directive** compile to the same rule, which only records its text,
or to the same fault. -/
lemma value_compile_congr {other : String}
    (h : Directive.parse other = Directive.parse source) : (compile limits line other).value =
      (compile limits line source).value.map fun r => { r with source := other } := by
  rw [value_compile, value_compile, h]
  rcases (Directive.parse source).exceeds? line limits with _ | fault
  · rcases (Directive.parse source).pattern? line with fault | pattern <;> rfl
  · rfl

/-- A rule has the number and the text of its line. -/
lemma line_of_compile {r : Rule} (h : (compile limits line source).value = .ok r) :
    r.line = line ∧ r.source = source := by
  obtain ⟨-, pattern, -, rfl⟩ := compile_eq_ok_iff.1 h
  exact ⟨rfl, rfl⟩

/-- A fault has the number of its line. -/
lemma line_of_compile_error {fault : CompileFault}
    (h : (compile limits line source).value = .error fault) : fault.line = line := by
  rcases compile_eq_error_iff.1 h with hexceeds | ⟨-, hpattern⟩
  · exact Directive.line_of_exceeds? hexceeds
  · exact Directive.line_of_pattern? hpattern

/-- **The number of a line is only recorded.** -/
lemma value_compile_shift (n : Nat) : (compile limits (line + n) source).value =
    ((compile limits line source).value.map (shift n)).mapError (CompileFault.shift n) := by
  rw [value_compile, value_compile, Directive.exceeds?_shift, Directive.pattern?_shift]
  rcases (Directive.parse source).exceeds? line limits with _ | fault
  · rcases (Directive.parse source).pattern? line with fault | pattern <;> rfl
  · rfl

/-- **Limits only refuse lines.**  A line that compiles under limits compiles without them and under
any number, to the same rule. -/
lemma value_compile_none_of_compile {r : Rule} (h : (compile limits line source).value = .ok r)
    (other : Nat) : (compile .none other source).value = .ok { r with line := other } := by
  obtain ⟨-, pattern, hpattern, rfl⟩ := compile_eq_ok_iff.1 h
  have hother := Directive.pattern?_of_ok hpattern other
  exact compile_eq_ok_iff.2 ⟨Directive.exceeds?_none _ other, pattern, hother, rfl⟩

/-- In particular it compiles when it stands alone. -/
lemma parse_of_compile {r : Rule} (h : (compile limits line source).value = .ok r) :
    (parse source).value = .ok { r with line := 1 } :=
  value_compile_none_of_compile h 1

end Line

end Rule

end Rerank
