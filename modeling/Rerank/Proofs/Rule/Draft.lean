/-
Directives that are drafted from what a rule should do.

A draft says which pattern, site and fields a rule should have and what it should ask for; its line
is written from these parts.  The line is read back as the options that were written
(`Draft.parse_line`), because no part of a draft holds a character at which a line is cut, and the
options are collected into the parts again (`Draft.value_collect`).

The main result is `Draft.rule_of_line`: the rule of the line does what the draft says.
-/
import Mathlib.Data.List.Basic
import Rerank.Proofs.Directive.Writing
import Rerank.Proofs.Magnitude.Decimal
import Rerank.Proofs.Pattern.Matching
import Rerank.Proofs.Rule.Application
import Rerank.Proofs.Rule.Meaning

namespace Rerank

open Text

/-- What a drafted rule should ask for. -/
inductive Wish
  /-- Nothing. -/
  | nothing
  /-- A boost by a magnitude. -/
  | boost (m : Magnitude)
  /-- A downrank by a magnitude. -/
  | downrank (m : Magnitude)
  /-- A discard. -/
  | discard
  deriving DecidableEq, Repr

/-- The options that ask for it. -/
def Wish.entries : Wish → List Entry
  | .nothing => []
  | .boost m => [⟨"boost", some m.text⟩]
  | .downrank m => [⟨"downrank", some m.text⟩]
  | .discard => [⟨"discard", none⟩]

/-- What a rule should do. -/
structure Draft where
  /-- The pattern that must match; an empty one is none. -/
  pattern : String
  /-- The host that the rule is for, if it is for one. -/
  site : Option String
  /-- The fields that the rule names, perhaps several times. -/
  fields : List Field
  /-- What the rule asks for. -/
  wish : Wish
  /-- The pattern holds no dollar sign. -/
  dollar_not_mem_pattern : '$' ∉ pattern.toList
  /-- The host is not empty. -/
  site_ne_empty : ∀ host ∈ site, host ≠ ""
  /-- The host holds no comma. -/
  comma_not_mem_site : ∀ host ∈ site, ',' ∉ host.toList
  /-- The host is trimmed. -/
  trim_site : ∀ host ∈ site, trim host.toList = host.toList

namespace Draft

/-- The options of a draft: the site, the fields, and what is asked for. -/
def entries (s : Draft) : List Entry :=
  s.site.toList.map (fun host => ⟨"site", some host⟩) ++ s.fields.map (fun f => ⟨f.key, none⟩) ++
    s.wish.entries

/-- The directive of a draft; without options it has no dollar sign. -/
def directive (s : Draft) : Directive :=
  ⟨s.pattern, if s.entries = [] then none else some s.entries⟩

/-- The line of a draft. -/
def line (s : Draft) : String := s.directive.text

/-- The action of a draft.  A discard is generic if nothing narrows the rule down. -/
def action? (s : Draft) : Option Action :=
  match s.wish with
  | .nothing => none
  | .boost m => some (.boost m)
  | .downrank m => some (.downrank m.neg)
  | .discard =>
    some (if s.pattern = "" ∧ s.site = none ∧ s.fields = [] then .genericDiscard
      else .specificDiscard)

/-- The field that is tested: the first in the order of preference that the draft names, and the
address if it names none. -/
def target (s : Draft) : Field := (Field.all.find? (· ∈ s.fields)).getD .url

/-- A draft is about a search result: its site is the host of the result, and the text of its field
is known and denoted by its pattern, as far as it has a site and a pattern. -/
def IsAbout (s : Draft) (d : Document) : Prop :=
  (∀ site ∈ s.site, site = d.host) ∧ ∃ text, d.text? s.target = some text ∧
    (s.pattern = "" ∨ Fragment.Denotes s.pattern.toList text.toList)

end Draft

/-- A rule follows a draft. -/
structure Rule.Follows (r : Rule) (s : Draft) : Prop where
  /-- There is a pattern, with the text of the draft, exactly if that is not empty. -/
  pattern_eq : r.pattern.map Pattern.source = if s.pattern = "" then none else some s.pattern
  /-- The site is that of the draft. -/
  site_eq : r.site = s.site
  /-- The fields are those of the draft, or the address if there are none. -/
  contains_fields_iff : ∀ f, r.fields.contains f = true ↔ f ∈ s.fields ∨ s.fields = [] ∧ f = .url
  /-- The action is that of the draft. -/
  action_eq : r.action = s.action?
  /-- The rule asks for it on the search results that the draft is about, and for nothing on
  others. -/
  value_test_iff : ∀ d a, (r.test d).value = some a ↔ s.action? = some a ∧ s.IsAbout d

/-! ### The line -/

/-- A magnitude in decimal is a value that can be written. -/
lemma Magnitude.writable_text (m : Magnitude) {key : String}
    (h : Entry.Writable ⟨key, none⟩) : Entry.Writable ⟨key, some m.text⟩ := by
  refine ⟨h.equals_not_mem_key, h.comma_not_mem_key, h.trim_key, ?_, ?_⟩
  · rintro _ ⟨⟩ hcomma
    rcases mem_text hcomma with heq | hdigit
    · exact absurd heq (by decide)
    · exact absurd hdigit (by decide)
  · rintro _ ⟨⟩
    refine trim_eq_self fun c hc => ?_
    rcases mem_text hc with rfl | hdigit
    · decide
    · exact isBlank_of_isDigit hdigit

namespace Draft

variable (s : Draft)

lemma writable_bare {key : String} (h : key ∈ ["site", "boost", "downrank", "discard"] ∨
    ∃ f : Field, key = f.key) : Entry.Writable ⟨key, none⟩ := by
  have hkey : '=' ∉ key.toList ∧ ',' ∉ key.toList ∧ trim key.toList = key.toList := by
    rcases h with h | ⟨f, rfl⟩
    · revert key
      decide
    · cases f <;> decide
  exact ⟨hkey.1, hkey.2.1, hkey.2.2, by simp, by simp⟩

/-- Each option of a draft can be written. -/
lemma writable_of_mem {e : Entry} (h : e ∈ s.entries) : e.Writable := by
  rcases List.mem_append.1 h with h | h
  · rcases List.mem_append.1 h with h | h
    · obtain ⟨host, hhost, rfl⟩ := List.mem_map.1 h
      have hbare : Entry.Writable ⟨"site", none⟩ := writable_bare (by simp)
      rw [Option.mem_toList] at hhost
      refine ⟨hbare.equals_not_mem_key, hbare.comma_not_mem_key, hbare.trim_key, ?_, ?_⟩
      · rintro _ ⟨⟩
        exact s.comma_not_mem_site host hhost
      · rintro _ ⟨⟩
        exact s.trim_site host hhost
    · obtain ⟨f, -, rfl⟩ := List.mem_map.1 h
      exact writable_bare (Or.inr ⟨f, rfl⟩)
  · rcases hwish : s.wish with _ | m | m | _
    all_goals rw [hwish] at h
    · cases h
    · rw [List.mem_singleton.1 h]
      exact m.writable_text (writable_bare (by simp))
    · rw [List.mem_singleton.1 h]
      exact m.writable_text (writable_bare (by simp))
    · rw [List.mem_singleton.1 h]
      exact writable_bare (by simp)

lemma entries_directive : s.directive.entries = s.entries := by
  rw [Directive.entries, directive]
  split
  · next hnil => exact hnil.symm
  · rfl

lemma writable_directive : s.directive.Writable := by
  refine ⟨s.dollar_not_mem_pattern, ?_, fun e he => ?_⟩
  · rw [directive]
    split
    · simp
    · next hne => simpa using hne
  · rw [entries_directive] at he
    exact s.writable_of_mem he

/-- **The line of a draft is read as the directive that was written.** -/
lemma parse_line : Directive.parse s.line = s.directive :=
  Directive.parse_text s.writable_directive

/-! ### The options -/

/-- What the options of a draft ask for. -/
def options : Options where
  site := s.site
  hasSiteKey := s.site.isSome
  fields := s.fields.foldl FieldSet.insert .empty
  boost :=
    match s.wish with
    | .boost m => some m.text
    | _ => none
  downrank :=
    match s.wish with
    | .downrank m => some m.text
    | _ => none
  discard := s.wish = .discard

end Draft

/-- Fields that are put in one after the other are all there. -/
lemma FieldSet.contains_foldl_insert (fields : List Field) (set : FieldSet) (f : Field) :
    (fields.foldl FieldSet.insert set).contains f = true ↔
      f ∈ fields ∨ set.contains f = true := by
  induction fields generalizing set with
  | nil => simp
  | cons g fields ih =>
    rw [List.foldl_cons, ih, FieldSet.contains_insert, Bool.or_eq_true, beq_iff_eq, List.mem_cons,
      eq_comm (a := g)]
    tauto

namespace Options

lemma value_addAll_append (o : Options) (entries more : List Entry) :
    (o.addAll (entries ++ more)).value = ((o.addAll entries).value.addAll more).value := by
  induction entries generalizing o with
  | nil => rfl
  | cons e entries ih => exact ih (o.add e).value

lemma value_add_field (o : Options) (f : Field) :
    (o.add ⟨f.key, .none⟩).value = { o with fields := o.fields.insert f } := by
  obtain ⟨hsite, hboost, hdownrank, hdiscard⟩ := fieldKey_ne f
  simp only [add, if_neg hsite, if_neg hboost, if_neg hdownrank, if_neg hdiscard,
    Field.ofKey?_key, Logged.value_pure]

lemma value_addAll_fields (o : Options) (fields : List Field) :
    (o.addAll (fields.map fun f => ⟨f.key, .none⟩)).value =
      { o with fields := fields.foldl FieldSet.insert o.fields } := by
  induction fields generalizing o with
  | nil => rfl
  | cons f fields ih =>
    rw [List.map_cons, addAll, Logged.value_bind, value_add_field, ih]
    rfl

end Options

namespace Draft

variable (s : Draft)

/-- **The options of a draft are collected into its parts again.** -/
lemma value_collect : (Options.collect s.entries).value = s.options := by
  have hsite : (Options.none.addAll (s.site.toList.map fun host => ⟨"site", some host⟩)).value =
      { Options.none with site := s.site, hasSiteKey := s.site.isSome } := by
    rcases hsome : s.site with _ | host
    · rfl
    · have hne : host.isEmpty = false := by
        simpa using s.site_ne_empty host hsome
      have hadd : (Options.none.addAll [⟨"site", some host⟩]).value =
          (Options.none.add ⟨"site", some host⟩).value := rfl
      simp [hadd, Options.add, hne]
  rw [Options.collect, entries, Options.value_addAll_append, Options.value_addAll_append, hsite,
    Options.value_addAll_fields]
  rcases hwish : s.wish with _ | m | m | _ <;> simp [options, hwish] <;> rfl

/-- The action that the options of a draft ask for is the action of the draft. -/
lemma action?_options {narrowed : Bool}
    (h : narrowed = true ↔ ¬ (s.pattern = "" ∧ s.site = none ∧ s.fields = [])) :
    s.options.action? narrowed = s.action? := by
  rcases hwish : s.wish with _ | m | m | _
  · simp [Options.action?, options, action?, hwish]
  · simp [Options.action?, options, action?, hwish, Magnitude.ofValue_text]
  · simp [Options.action?, options, action?, hwish, Magnitude.ofValue_text]
  · rcases narrowed with _ | _
    · have hbare := not_not.1 (mt h.2 Bool.false_ne_true)
      simp [Options.action?, options, action?, hwish, hbare]
    · have hnarrowed := h.1 rfl
      simp [Options.action?, options, action?, hwish, if_neg hnarrowed]

lemma isEmpty_fields_iff : s.options.fields.isEmpty = true ↔ s.fields = [] := by
  rw [FieldSet.isEmpty_iff, List.eq_nil_iff_forall_not_mem]
  refine forall_congr' fun f => ?_
  rw [← Bool.not_eq_true]
  simp [options, FieldSet.contains_foldl_insert]

end Draft

/-! ### The rule -/

/-- A directive has a pattern or none, unless its pattern does not compile. -/
lemma Directive.exists_pattern?_iff {d : Directive} {line : Nat} : (∃ p, d.pattern? line = .ok p) ↔
    d.pattern = "" ∨ ∃ p, Pattern.compile d.pattern = .ok p := by
  by_cases hempty : d.pattern = ""
  · simp [pattern?, hempty]
  · rcases hcompile : Pattern.compile d.pattern with cause | p <;>
      simp [pattern?, hempty, hcompile]

/-- A pattern matches what its text denotes, and an absent one anything. -/
lemma Pattern.forall_isMatch_iff {pattern : Option Pattern} {source : String}
    (h : pattern.map Pattern.source = if source = "" then none else some source) (text : String) :
    (∀ p ∈ pattern, p.isMatch text = true) ↔
      source = "" ∨ Fragment.Denotes source.toList text.toList := by
  rcases pattern with _ | p
  · have hempty : source = "" := by
      by_contra hne
      rw [if_neg hne] at h
      cases h
    simp [hempty]
  · have hne : source ≠ "" := by
      intro hempty
      rw [if_pos hempty] at h
      cases h
    rw [if_neg hne] at h
    obtain rfl : p.source = source := Option.some.inj h
    have hdenotes : p.isMatch text = true ↔ Fragment.Denotes p.source.toList text.toList :=
      Glob.isMatch_ofFragment_iff p.source.toList text.toList
    simp [hne, hdenotes]

namespace Draft

variable {s : Draft} {r : Rule}

/-- The line of a draft compiles to the rule of its options, if its pattern compiles. -/
lemma value_parse (s : Draft) : (Rule.parse s.line).value =
    (s.directive.pattern? 1).map fun pattern => Rule.ofOptions s.line 1 pattern s.options := by
  rw [Rule.parse, Rule.value_compile, parse_line, Directive.exceeds?_none, entries_directive,
    value_collect]
  rcases s.directive.pattern? 1 with fault | pattern <;> rfl

/-- A rule with the fields of a draft is tested on the field of the draft. -/
lemma target_eq_of_contains
    (h : ∀ f, r.fields.contains f = true ↔ f ∈ s.fields ∨ s.fields = [] ∧ f = .url) :
    r.target = s.target := by
  rw [Rule.target_eq, target]
  by_cases hnil : s.fields = []
  · have hcontains : r.fields.contains = fun f => decide (f = .url) := by
      funext f
      rw [Bool.eq_iff_iff, h f, hnil]
      simp
    rw [hcontains, hnil]
    rfl
  · have hcontains : r.fields.contains = fun f => decide (f ∈ s.fields) := by
      funext f
      rw [Bool.eq_iff_iff, h f]
      simp [hnil]
    rw [hcontains]

/-- A rule with the pattern, site and fields of a draft applies to what the draft is about. -/
lemma applies_iff_isAbout
    (hpattern : r.pattern.map Pattern.source = if s.pattern = "" then none else some s.pattern)
    (hsite : r.site = s.site)
    (hfields : ∀ f, r.fields.contains f = true ↔ f ∈ s.fields ∨ s.fields = [] ∧ f = .url)
    (d : Document) : r.applies d = true ↔ s.IsAbout d := by
  rw [Rule.applies_iff, hsite, target_eq_of_contains hfields, IsAbout]
  simp only [Pattern.forall_isMatch_iff hpattern]

lemma follows_ofOptions {pattern : Option Pattern} (h : s.directive.pattern? 1 = .ok pattern) :
    (Rule.ofOptions s.line 1 pattern s.options).Follows s := by
  have hpattern : pattern.map Pattern.source = if s.pattern = "" then none else some s.pattern :=
    Rule.pattern_eq_of_pattern? h
  have hfields (f : Field) : (Rule.ofOptions s.line 1 pattern s.options).fields.contains f = true ↔
      f ∈ s.fields ∨ s.fields = [] ∧ f = .url := by
    show (if s.options.fields.isEmpty then FieldSet.single .url else s.options.fields).contains f =
      true ↔ _
    by_cases hnil : s.fields = []
    · rw [if_pos (s.isEmpty_fields_iff.2 hnil), FieldSet.single, FieldSet.contains_insert,
        FieldSet.contains_empty, Bool.or_false, beq_iff_eq, hnil]
      simp [eq_comm]
    · rw [if_neg (mt s.isEmpty_fields_iff.1 hnil)]
      simp [options, FieldSet.contains_foldl_insert, hnil]
  -- a site of a draft is not empty, so its key is never recorded without it
  have hnarrowed : (s.options.hasSiteKey || !s.options.fields.isEmpty || pattern.isSome) = true ↔
      ¬ (s.pattern = "" ∧ s.site = none ∧ s.fields = []) := by
    have hsome : pattern.isSome = true ↔ s.pattern ≠ "" := by
      rw [← Option.isSome_map, hpattern]
      split <;> simp [*]
    have hsite : s.options.hasSiteKey = true ↔ s.site ≠ none := Option.isSome_iff_ne_none
    have hany : (!s.options.fields.isEmpty) = true ↔ s.fields ≠ [] := by
      rw [Bool.not_eq_true', ← Bool.not_eq_true, isEmpty_fields_iff]
    rw [Bool.or_eq_true, Bool.or_eq_true, hsite, hany, hsome]
    tauto
  have haction : (Rule.ofOptions s.line 1 pattern s.options).action = s.action? :=
    s.action?_options hnarrowed
  refine ⟨hpattern, rfl, hfields, haction, fun d a => ?_⟩
  have happlies := applies_iff_isAbout (r := Rule.ofOptions s.line 1 pattern s.options) hpattern
    rfl hfields d
  rw [Rule.value_test, haction]
  by_cases habout : s.IsAbout d
  · rw [if_pos (happlies.2 habout), and_iff_left habout]
  · rw [if_neg (mt happlies.1 habout)]
    simp [habout]

/-- The rule of the line of a draft follows the draft. -/
lemma follows_of_parse (h : (Rule.parse s.line).value = .ok r) : r.Follows s := by
  rw [value_parse] at h
  rcases hpattern : s.directive.pattern? 1 with fault | pattern
  · rw [hpattern] at h
    cases h
  · rw [hpattern] at h
    cases h
    exact follows_ofOptions hpattern

/-- **A draft means what it says.**  The rule of the line of a draft has its pattern, site, fields
and action, and asks for that action on exactly the search results that the draft is about.  There
is such a rule if and only if the pattern is empty or compiles. -/
theorem rule_of_line (s : Draft) :
    (∀ r, (Rule.parse s.line).value = .ok r → r.Follows s) ∧
      ((∃ r, (Rule.parse s.line).value = .ok r) ↔
        s.pattern = "" ∨ ∃ p, Pattern.compile s.pattern = .ok p) := by
  have hexists : (∃ pattern, s.directive.pattern? 1 = .ok pattern) ↔
      s.pattern = "" ∨ ∃ p, Pattern.compile s.pattern = .ok p := Directive.exists_pattern?_iff
  refine ⟨fun r hr => follows_of_parse hr, ?_⟩
  rw [value_parse, ← hexists]
  rcases s.directive.pattern? 1 with fault | pattern <;> simp [Except.map]

/-- A host with an equals sign and a dollar sign, fields in the wrong order and one of them twice,
and the least magnitude, whose opposite is the greatest. -/
theorem follows_of_least_downrank :
    let s : Draft :=
      { pattern := "|a b*^", site := some "x=$y", fields := [.content, .title, .content],
        wish := .downrank (.clamp leastMagnitude), dollar_not_mem_pattern := by decide,
        site_ne_empty := by decide, comma_not_mem_site := by decide, trim_site := by decide }
    let d : Document := ⟨"http://x=$y/", "x=$y", some "a bc", none, some "a"⟩
    s.line = "|a b*^$site=x=$y,incontent,intitle,incontent,downrank=-9223372036854775808" ∧
      ∃ r, (Rule.parse s.line).value = .ok r ∧ r.Follows s ∧
        (r.test d).value = some (.downrank (.clamp greatestMagnitude)) := by
  intro s d
  have hline : s.line =
      "|a b*^$site=x=$y,incontent,intitle,incontent,downrank=-9223372036854775808" := by
    decide +kernel
  obtain ⟨r, hr, htest⟩ := exists_of_map_toOption (x := (Rule.parse s.line).value)
    (f := fun r => (r.test d).value) (b := some (.downrank (.clamp greatestMagnitude)))
    (by decide +kernel)
  exact ⟨hline, r, hr, (rule_of_line s).1 r hr, htest⟩

end Draft

end Rerank
