/-
Limits refuse the lines that are too large, and change nothing else.

The limits are looked at before the pattern is compiled, and the length of the pattern before the
number of options.  A line is too large if the text before its first dollar sign has too many bytes,
or if too many options follow that sign, one more than commas (`Oversized`).  Wider limits accept
every line that narrower ones accept, as the same rule (`compile_of_le`), so a run over lines that
succeeds also does so under wider limits, and one that is at fault is at fault no later under
narrower ones.

The main result is `compileLines_limits`.
-/
import Rerank.Proofs.Directive.Spelling
import Rerank.Proofs.Rule.Lines

namespace Rerank

open Text

namespace Limits

/-- A limit is at most as wide as another one; an absent limit is the widest. -/
def AtMost (limit wider : Option UInt64) : Prop :=
  ∀ n ∈ wider, ∃ m ∈ limit, m ≤ n

/-- Limits are at most as wide as others if each of them is. -/
instance : LE Limits :=
  ⟨fun l l' => AtMost l.patternLength l'.patternLength ∧ AtMost l.optionCount l'.optionCount⟩

variable {limit wider : Option UInt64} {n : Nat}

lemma exceeded?_eq_some_iff {l : Nat} :
    exceeded? limit n = some l ↔ ∃ m ∈ limit, m.toNat < n ∧ m.toNat = l := by
  rcases limit with _ | m
  · simp
  · by_cases h : m.toNat < n <;> simp [exceeded?, h]

lemma exceeded?_eq_none_iff : exceeded? limit n = .none ↔ ∀ m ∈ limit, n ≤ m.toNat := by
  rcases limit with _ | m
  · simp
  · by_cases h : m.toNat < n
    · simp [exceeded?, h]
    · simp [exceeded?, h, Nat.le_of_not_lt h]

/-- What a limit allows, a wider one allows. -/
lemma exceeded?_of_atMost (h : AtMost limit wider) (hnone : exceeded? limit n = .none) :
    exceeded? wider n = .none := by
  rw [exceeded?_eq_none_iff] at hnone ⊢
  intro m' hm'
  obtain ⟨m, hm, hle⟩ := h m' hm'
  have hmm' : m.toNat ≤ m'.toNat := UInt64.le_iff_toNat_le.1 hle
  have hn : n ≤ m.toNat := hnone m hm
  omega

end Limits

/-- A fault says that a limit is exceeded. -/
def CompileFault.IsLimit : CompileFault → Prop
  | .patternTooLong _ _ _ => True
  | .tooManyOptions _ _ _ => True
  | .pattern _ _ _ => False

namespace Rule

/-- A line with a number is too large for some limits. -/
inductive Oversized (limits : Limits) (line : Nat) (source : List Char) : CompileFault → Prop
  /-- The text before the first dollar sign has too many bytes, whatever follows. -/
  | pattern {pattern tail : List Char} {limit : UInt64} (hsource : source = pattern ++ tail)
      (hdollar : '$' ∉ pattern) (htail : ∀ c ∈ tail.head?, c = '$')
      (hlimit : limits.patternLength = some limit)
      (hlt : limit.toNat < (String.ofList pattern).utf8ByteSize) :
      Oversized limits line source
        (.patternTooLong line (String.ofList pattern).utf8ByteSize limit.toNat)
  /-- That text is not too long, but too many options follow: one more than there are commas. -/
  | options {pattern behind : List Char} {limit : UInt64}
      (hsource : source = pattern ++ '$' :: behind) (hdollar : '$' ∉ pattern)
      (hfits : ∀ l ∈ limits.patternLength, (String.ofList pattern).utf8ByteSize ≤ l.toNat)
      (hlimit : limits.optionCount = some limit) (hlt : limit.toNat < behind.count ',' + 1) :
      Oversized limits line source (.tooManyOptions line (behind.count ',' + 1) limit.toNat)

end Rule

/-! ### A single line -/

namespace Directive

variable {d : Directive} {limits wider : Limits} {line : Nat} {fault : CompileFault}

lemma exceeds?_eq_some_iff : d.exceeds? line limits = some fault ↔
    (∃ l, Limits.exceeded? limits.patternLength d.pattern.utf8ByteSize = some l ∧
      .patternTooLong line d.pattern.utf8ByteSize l = fault) ∨
    (Limits.exceeded? limits.patternLength d.pattern.utf8ByteSize = none ∧
      ∃ options l, d.options = some options ∧
        Limits.exceeded? limits.optionCount options.length = some l ∧
        .tooManyOptions line options.length l = fault) := by
  unfold exceeds?
  rcases Limits.exceeded? limits.patternLength d.pattern.utf8ByteSize with _ | l
  · rcases d.options with _ | options <;> simp
  · simp

lemma exceeds?_eq_none_iff : d.exceeds? line limits = none ↔
    Limits.exceeded? limits.patternLength d.pattern.utf8ByteSize = none ∧
      ∀ options ∈ d.options, Limits.exceeded? limits.optionCount options.length = none := by
  unfold exceeds?
  rcases Limits.exceeded? limits.patternLength d.pattern.utf8ByteSize with _ | l
  · rcases d.options with _ | options <;> simp
  · simp

/-- A directive that is not too large for some limits is not too large for wider ones. -/
lemma exceeds?_of_le (h : limits ≤ wider) (hnone : d.exceeds? line limits = none) :
    d.exceeds? line wider = none := by
  rw [exceeds?_eq_none_iff] at hnone ⊢
  obtain ⟨hpattern, hoptions⟩ := hnone
  refine ⟨Limits.exceeded?_of_atMost h.1 hpattern, fun options hmem => ?_⟩
  exact Limits.exceeded?_of_atMost h.2 (hoptions options hmem)

/-- The pattern of a line ends before its first dollar sign. -/
lemma pattern_ofCuts {pattern tail : List Char} (h : '$' ∉ pattern)
    (htail : ∀ c ∈ tail.head?, c = '$') :
    (ofCuts (pattern ++ tail)).pattern = String.ofList pattern := by
  rcases tail with _ | ⟨c, behind⟩
  · rw [List.append_nil, ofCuts_of_not_mem h]
  · obtain rfl : c = '$' := htail c rfl
    rw [ofCuts_append_cons h]

/-- **A directive exceeds a limit exactly if its line is too large.** -/
lemma exceeds?_eq_some_iff_oversized {source : List Char} :
    (ofCuts source).exceeds? line limits = some fault ↔
      Rule.Oversized limits line source fault := by
  rw [exceeds?_eq_some_iff]
  constructor
  · intro h
    obtain ⟨pattern, tail, hsource, hdollar, htail⟩ : ∃ pattern tail,
        source = pattern ++ tail ∧ '$' ∉ pattern ∧ ∀ c ∈ tail.head?, c = '$' := by
      by_cases hmem : '$' ∈ source
      · obtain ⟨pattern, behind, hsource, hdollar⟩ := List.eq_append_cons_of_mem hmem
        exact ⟨pattern, '$' :: behind, hsource, hdollar, by simp⟩
      · exact ⟨source, [], by simp, hmem, by simp⟩
    subst hsource
    rw [pattern_ofCuts hdollar htail] at h
    rcases h with ⟨l, hl, rfl⟩ | ⟨hfits, options, l, hoptions, hl, rfl⟩
    · obtain ⟨limit, hlimit, hlt, rfl⟩ := Limits.exceeded?_eq_some_iff.1 hl
      exact .pattern rfl hdollar htail hlimit hlt
    · obtain ⟨limit, hlimit, hlt, rfl⟩ := Limits.exceeded?_eq_some_iff.1 hl
      rcases tail with _ | ⟨c, behind⟩
      -- without a dollar sign there are no options
      · rw [List.append_nil, ofCuts_of_not_mem hdollar] at hoptions
        cases hoptions
      · obtain rfl : c = '$' := htail c rfl
        rw [ofCuts_append_cons hdollar] at hoptions
        obtain rfl := Option.some.inj hoptions
        rw [List.length_map, length_pieces] at hlt ⊢
        exact .options rfl hdollar (Limits.exceeded?_eq_none_iff.1 hfits) hlimit hlt
  · intro h
    cases h with
    | pattern hsource hdollar htail hlimit hlt =>
      rw [hsource, pattern_ofCuts hdollar htail]
      exact Or.inl ⟨_, Limits.exceeded?_eq_some_iff.2 ⟨_, hlimit, hlt, rfl⟩, rfl⟩
    | @options pattern behind limit hsource hdollar hfits hlimit hlt =>
      have hcount : ((pieces ',' behind).map Entry.ofPiece).length = behind.count ',' + 1 := by
        rw [List.length_map, length_pieces]
      rw [hsource, ofCuts_append_cons hdollar]
      refine Or.inr ⟨Limits.exceeded?_eq_none_iff.2 hfits, _, limit.toNat, rfl, ?_, ?_⟩
      · rw [hcount]
        exact Limits.exceeded?_eq_some_iff.2 ⟨limit, hlimit, hlt, rfl⟩
      · rw [hcount]

end Directive

namespace Rule

variable {limits wider : Limits} {line : Nat} {source : String} {lines : List String}

lemma Oversized.isLimit {source : List Char} {fault : CompileFault}
    (h : Oversized limits line source fault) : fault.IsLimit := by
  cases h <;> trivial

/-- **A line is refused for a limit exactly if it is too large**, whether its pattern compiles or
not. -/
lemma compile_eq_limit_iff {fault : CompileFault} :
    (compile limits line source).value = .error fault ∧ fault.IsLimit ↔
      Oversized limits line source.toList fault := by
  rw [compile_eq_error_iff, ← Directive.exceeds?_eq_some_iff_oversized, ← Directive.parse_eq]
  constructor
  · rintro ⟨hexceeds | ⟨-, hpattern⟩, hlimit⟩
    · exact hexceeds
    · exfalso
      unfold Directive.pattern? at hpattern
      split at hpattern
      · cases hpattern
      · split at hpattern
        · cases hpattern
        · cases hpattern
          exact hlimit
  · intro hexceeds
    refine ⟨Or.inl hexceeds, ?_⟩
    rw [Directive.parse_eq, Directive.exceeds?_eq_some_iff_oversized] at hexceeds
    exact hexceeds.isLimit

/-- **A line that compiles under limits compiles under wider ones**, to the same rule. -/
lemma compile_of_le (h : limits ≤ wider) {r : Rule}
    (hr : (compile limits line source).value = .ok r) :
    (compile wider line source).value = .ok r := by
  obtain ⟨hexceeds, pattern, hpattern, hrule⟩ := compile_eq_ok_iff.1 hr
  exact compile_eq_ok_iff.2 ⟨Directive.exceeds?_of_le h hexceeds, pattern, hpattern, hrule⟩

/-! ### All lines -/

/-- Lines that compile under limits compile under wider ones, to the same rules. -/
lemma compileLines_of_le (h : limits ≤ wider) {rules : List Rule}
    (hrules : (compileLines limits lines).value = .ok rules) :
    (compileLines wider lines).value = .ok rules := by
  rw [value_compileLines, compileFrom_eq_ok_iff] at hrules ⊢
  exact hrules.imp fun p r hr => compile_of_le h hr

/-- Lines that are at fault under limits are at fault under narrower ones, and not later. -/
lemma exists_fault_of_le (h : limits ≤ wider) {fault : CompileFault}
    (hfault : (compileLines wider lines).value = .error fault) :
    ∃ earlier, (compileLines limits lines).value = .error earlier ∧
      earlier.line ≤ fault.line := by
  rcases hvalue : (compileLines limits lines).value with earlier | rules
  · refine ⟨earlier, rfl, ?_⟩
    rw [value_compileLines] at hvalue hfault
    obtain ⟨p, hp, hpfault, hpok⟩ := compileFrom_eq_error_iff.1 hfault
    obtain ⟨q, hq, hqfault, hqok⟩ := compileFrom_eq_error_iff.1 hvalue
    rw [line_of_compile_error hpfault, line_of_compile_error hqfault]
    by_contra hlt
    -- the line at fault under the wider limits would compile under the narrower ones
    obtain ⟨r, hr⟩ := hqok p hp (by omega)
    rw [compile_of_le h hr] at hpfault
    cases hpfault
  · rw [compileLines_of_le h hvalue] at hfault
    cases hfault

/-- **Limits refuse exactly the lines that are too large.**  A run over lines ends with the fault
that a limit is exceeded exactly if the first line at fault is too large, and then the fault says by
what, the pattern before the options.  Under wider limits a run that succeeds gives the same rules,
and a run that is at fault is at fault at the same line or an earlier one under narrower limits.
Blank lines are subject to no limits. -/
theorem compileLines_limits (limits : Limits) (lines : List String) :
    (∀ fault, (compileLines limits lines).value = .error fault ∧ fault.IsLimit ↔
      ∃ p ∈ numbered 1 lines, Oversized limits p.2 p.1.toList fault ∧
        ∀ q ∈ numbered 1 lines, q.2 < p.2 → ∃ r, (compile limits q.2 q.1).value = .ok r) ∧
    ∀ wider, limits ≤ wider →
      (∀ rules, (compileLines limits lines).value = .ok rules →
        (compileLines wider lines).value = .ok rules) ∧
      ∀ fault, (compileLines wider lines).value = .error fault →
        ∃ earlier, (compileLines limits lines).value = .error earlier ∧
          earlier.line ≤ fault.line := by
  refine ⟨fun fault => ?_, fun wider h =>
    ⟨fun rules => compileLines_of_le h, fun fault => exists_fault_of_le h⟩⟩
  rw [value_compileLines, compileFrom_eq_error_iff]
  constructor
  · rintro ⟨⟨p, hp, hfault, hok⟩, hlimit⟩
    exact ⟨p, hp, compile_eq_limit_iff.1 ⟨hfault, hlimit⟩, hok⟩
  · rintro ⟨p, hp, hoversized, hok⟩
    obtain ⟨hfault, hlimit⟩ := compile_eq_limit_iff.2 hoversized
    exact ⟨⟨p, hp, hfault, hok⟩, hlimit⟩

/-- Two bytes for a letter outside ASCII are within the limit, three are not; blank lines are passed
over.  Under wider limits the same line is at fault, for its options. -/
theorem limits_of_two_bytes :
    let lines := ["é$boost", "   ", "éa$b,c", "abc"]
    let limits : Limits := ⟨some 2, some 1⟩
    let wider : Limits := ⟨none, some 1⟩
    limits ≤ wider ∧ (∃ p ∈ numbered 1 lines,
        Oversized limits p.2 p.1.toList (.patternTooLong 3 3 2)) ∧
      (compileLines wider lines).value = .error (.tooManyOptions 3 2 1) ∧
      ∃ earlier, (compileLines limits lines).value = .error earlier ∧ earlier.line ≤ 3 := by
  intro lines limits wider
  have hle : limits ≤ wider := ⟨by rintro _ ⟨⟩, fun n hn => ⟨n, hn, UInt64.le_refl n⟩⟩
  have hfault : (compileLines limits lines).value = .error (.patternTooLong 3 3 2) := by
    decide +kernel
  have hwider : (compileLines wider lines).value = .error (.tooManyOptions 3 2 1) := by
    decide +kernel
  obtain ⟨hfaults, hmonotone⟩ := compileLines_limits limits lines
  obtain ⟨p, hp, hoversized, -⟩ := (hfaults _).1 ⟨hfault, trivial⟩
  exact ⟨hle, ⟨p, hp, hoversized⟩, hwider, (hmonotone wider hle).2 _ hwider⟩

end Rule

end Rerank
