/-
How strongly the rule of a line moves a result.

The last boost option of a line says it, or the last downrank option if there is no boost.  If its
value spells an integer (`Directive.WritesBoost`, `Directive.WritesDownrank`), the rule stores this
integer or its opposite, brought into the range once and never wrapped around: a boost anywhere in
the range, a downrank between the greatest magnitude and its opposite, since the opposite of the
least magnitude is out of the range (`Rule.IsOf.storesBoost`, `Rule.IsOf.storesDownrank`).

The main result is `strength_of_written`.
-/
import Mathlib.Data.Bool.AllAny
import Rerank.Proofs.Directive.Spelling
import Rerank.Proofs.Magnitude.Decimal
import Rerank.Proofs.Rule.Line
import Rerank.Proofs.Rule.Meaning

namespace Rerank

open Text
open Magnitude (Spells)

namespace Directive

/-- A directive writes an integer as its boost: the value of its last boost option spells it. -/
def WritesBoost (d : Directive) (n : Int) : Prop :=
  ∃ value, LastValue "boost" d.entries (some value) ∧ Spells value.toList n

/-- A directive writes an integer as its downrank: it has no boost option, and the value of its last
downrank option spells the integer. -/
def WritesDownrank (d : Directive) (n : Int) : Prop :=
  ¬ HasKey "boost" d.entries ∧
    ∃ value, LastValue "downrank" d.entries (some value) ∧ Spells value.toList n

end Directive

namespace Rule

/-- A rule is one of a directive: a line that spells the directive compiles to it. -/
def IsOf (r : Rule) (d : Directive) : Prop :=
  ∃ limits line source, (compile limits line source).value = .ok r ∧ Directive.parse source = d

/-- A rule stores an integer as its boost. -/
def StoresBoost (r : Rule) (n : Int) : Prop :=
  ∃ m, r.action = some (.boost m) ∧ m.val = n

/-- A rule stores an integer as its downrank. -/
def StoresDownrank (r : Rule) (n : Int) : Prop :=
  ∃ m, r.action = some (.downrank m) ∧ m.val = n

/-- The line of one option with a value, and without a pattern. -/
def optionLine (key value : String) : String :=
  "$" ++ key ++ "=" ++ value

end Rule

/-! ### Trimming a value -/

/-- A digit is not white space, so trimming keeps a run of digits, and what follows it still does not
begin with a digit. -/
lemma Magnitude.IsRun.trimEndBy {digits rest : List Char} (h : IsRun digits rest) :
    IsRun digits (trimEndBy isBlank rest) := by
  refine ⟨h.ne_nil, h.isDigit, fun c hc => h.maximal c ?_⟩
  obtain ⟨behind, hrest⟩ := isPrefix_trimEndBy isBlank rest
  obtain ⟨front, hfront⟩ := List.head?_eq_some_iff.1 hc
  rw [← hrest, hfront]
  rfl

lemma Magnitude.IsRun.trimEndBy_append {digits rest : List Char} (h : IsRun digits rest) :
    Text.trimEndBy isBlank (digits ++ rest) = digits ++ Text.trimEndBy isBlank rest :=
  Text.trimEndBy_append
    (fun c hc => isBlank_of_isDigit (h.isDigit c (List.mem_of_getLast? hc))) rest

/-- **A text spells the same integer when it is trimmed.** -/
lemma Magnitude.Spells.trim {s : List Char} {n : Int} (h : Spells s n) :
    Spells (Text.trim s) n := by
  cases h with
  | @bare digits rest h =>
    obtain ⟨c, more, hdigits⟩ := List.exists_cons_of_ne_nil h.ne_nil
    have hc : isBlank c = false := isBlank_of_isDigit (h.isDigit c (by simp [hdigits]))
    have hfront : (digits ++ rest).dropWhile isBlank = digits ++ rest := by
      rw [hdigits, List.cons_append, List.dropWhile_cons_of_neg (by simp [hc])]
    rw [Text.trim, trimBy, hfront, h.trimEndBy_append]
    exact .bare h.trimEndBy
  | @plus digits rest h =>
    rw [Text.trim, trimBy, List.dropWhile_cons_of_neg (by decide),
      trimEndBy_cons_of_not (by decide), h.trimEndBy_append]
    exact .plus h.trimEndBy
  | @minus digits rest h =>
    rw [Text.trim, trimBy, List.dropWhile_cons_of_neg (by decide),
      trimEndBy_cons_of_not (by decide), h.trimEndBy_append]
    exact .minus h.trimEndBy

namespace Rule

variable {r r' : Rule} {d d' : Directive} {n n' : Int}

/-! ### What a rule stores -/

/-- The action of a rule is what its options ask for. -/
lemma IsOf.exists_action_eq (h : r.IsOf d) :
    ∃ narrowed, r.action = (Options.collect d.entries).value.action? narrowed := by
  obtain ⟨limits, line, source, hcompile, rfl⟩ := h
  obtain ⟨-, pattern, -, rfl⟩ := compile_eq_ok_iff.1 hcompile
  exact ⟨_, rfl⟩

/-- **A written boost is stored as it is**, brought into the range. -/
lemma IsOf.storesBoost (h : r.IsOf d) (hn : d.WritesBoost n) :
    r.StoresBoost (max leastMagnitude (min n greatestMagnitude)) := by
  obtain ⟨value, hlast, hspells⟩ := hn
  obtain ⟨narrowed, haction⟩ := h.exists_action_eq
  have hboost : (Options.collect d.entries).value.boost = some value :=
    ((Options.describes_collect d.entries).boost_iff value).2 ⟨some value, hlast, rfl⟩
  refine ⟨.clamp n, ?_, rfl⟩
  simp only [haction, Options.action?, hboost, hspells.ofValue_eq]

/-- **A written downrank is stored as its opposite**, which is brought into the range; the least
magnitude is never reached. -/
lemma IsOf.storesDownrank (h : r.IsOf d) (hn : d.WritesDownrank n) :
    r.StoresDownrank (max (-greatestMagnitude) (min (-n) greatestMagnitude)) := by
  obtain ⟨hnoBoost, value, hlast, hspells⟩ := hn
  obtain ⟨narrowed, haction⟩ := h.exists_action_eq
  have hdescribes := Options.describes_collect d.entries
  have hboost : (Options.collect d.entries).value.boost = none :=
    (Options.eq_none_iff_not_hasKey hdescribes.boost_iff).2 hnoBoost
  have hdownrank : (Options.collect d.entries).value.downrank = some value :=
    (hdescribes.downrank_iff value).2 ⟨some value, hlast, rfl⟩
  refine ⟨(Magnitude.clamp n).neg, ?_, ?_⟩
  · simp only [haction, Options.action?, hboost, hdownrank, hspells.ofValue_eq]
  · simp only [Magnitude.neg, Magnitude.val_clamp, leastMagnitude, greatestMagnitude]
    omega

/-! ### Lines of one option -/

/-- The line of an option is read as that option, with its value trimmed. -/
lemma parse_optionLine {key value : String} (hkey : '=' ∉ key.toList ∧ ',' ∉ key.toList)
    (htrim : trim key.toList = key.toList) (hvalue : ',' ∉ value.toList) :
    Directive.parse (optionLine key value) =
      ⟨"", some [⟨key, some (String.ofList (trim value.toList))⟩]⟩ := by
  have hline : (optionLine key value).toList = [] ++ '$' :: (key.toList ++ '=' :: value.toList) := by
    simp [optionLine]
  have hpiece : ',' ∉ key.toList ++ '=' :: value.toList := by
    simp [hkey.2, hvalue]
  rw [Directive.parse_eq, hline, Directive.ofCuts_append_cons List.not_mem_nil,
    pieces_of_not_mem hpiece, List.map_singleton, Entry.ofPiece, cut_append_cons hkey.1, htrim,
    String.ofList_toList]
  rfl

/-- The line of an option has no pattern, so it compiles. -/
lemma exists_isOf_optionLine {key value : String} {entries : List Entry}
    (h : Directive.parse (optionLine key value) = ⟨"", some entries⟩) :
    ∃ r, (parse (optionLine key value)).value = .ok r ∧ r.IsOf ⟨"", some entries⟩ := by
  have hcompile : (parse (optionLine key value)).value = _ :=
    value_compile_of_pattern_eq_empty (by rw [h])
  exact ⟨_, hcompile, _, _, _, hcompile, h⟩

/-- **A boost by a written integer compiles.** -/
lemma exists_storesBoost {value : String} (hvalue : ',' ∉ value.toList)
    (hn : Spells value.toList n) : ∃ r, (parse (optionLine "boost" value)).value = .ok r ∧
      r.StoresBoost (max leastMagnitude (min n greatestMagnitude)) := by
  obtain ⟨r, hr, hof⟩ := exists_isOf_optionLine
    (parse_optionLine (by decide : '=' ∉ "boost".toList ∧ ',' ∉ "boost".toList) (by decide) hvalue)
  refine ⟨r, hr, hof.storesBoost ⟨_, lastValue_singleton _ _, ?_⟩⟩
  rw [String.toList_ofList]
  exact hn.trim

/-- **A downrank by a written integer compiles.** -/
lemma exists_storesDownrank {value : String} (hvalue : ',' ∉ value.toList)
    (hn : Spells value.toList n) : ∃ r, (parse (optionLine "downrank" value)).value = .ok r ∧
      r.StoresDownrank (max (-greatestMagnitude) (min (-n) greatestMagnitude)) := by
  obtain ⟨r, hr, hof⟩ := exists_isOf_optionLine
    (parse_optionLine (by decide : '=' ∉ "downrank".toList ∧ ',' ∉ "downrank".toList) (by decide)
      hvalue)
  have hnoBoost : ¬ HasKey "boost" [⟨"downrank", some (String.ofList (trim value.toList))⟩] := by
    simp [HasKey]
  refine ⟨r, hr, hof.storesDownrank ⟨hnoBoost, _, lastValue_singleton _ _, ?_⟩⟩
  rw [String.toList_ofList]
  exact hn.trim

/-- **Written numbers are exact up to the ends of the range.**  A number is read exactly where a text
begins with one.  Such a text spells one integer, whatever the number of its digits and whatever
follows them, and what is read is this integer, brought into the range.

A boost stores the integer that its value spells, brought into the range, and a downrank the
opposite, brought between the greatest magnitude and its opposite.  A line of such an option alone
compiles, and a magnitude that is written in decimal is the boost that is stored.  Of two integers
the larger one gives no smaller boost, and no larger downrank. -/
theorem strength_of_written :
    ((∀ s, (Magnitude.leading? s).isSome = true ↔ Magnitude.BeginsWithNumber s) ∧
      (∀ s, Magnitude.BeginsWithNumber s → ∃! n, Spells s n) ∧
      ∀ s n, Spells s n → Magnitude.leading? s = some (.clamp n)) ∧
    (∀ r d n, IsOf r d →
      (d.WritesBoost n → r.StoresBoost (max leastMagnitude (min n greatestMagnitude))) ∧
      (d.WritesDownrank n →
        r.StoresDownrank (max (-greatestMagnitude) (min (-n) greatestMagnitude)))) ∧
    (∀ value n, ',' ∉ String.toList value → Spells value.toList n →
      (∃ r, (parse (optionLine "boost" value)).value = .ok r ∧
        r.StoresBoost (max leastMagnitude (min n greatestMagnitude))) ∧
      ∃ r, (parse (optionLine "downrank" value)).value = .ok r ∧
        r.StoresDownrank (max (-greatestMagnitude) (min (-n) greatestMagnitude))) ∧
    (∀ m : Magnitude, Spells m.text.toList m.val ∧
      ∃ r, (parse (optionLine "boost" m.text)).value = .ok r ∧ r.action = some (.boost m)) ∧
    ∀ r r' d d' n n', IsOf r d → IsOf r' d' → n ≤ n' →
      (d.WritesBoost n → d'.WritesBoost n' →
        ∃ b b', r.StoresBoost b ∧ r'.StoresBoost b' ∧ b ≤ b') ∧
      (d.WritesDownrank n → d'.WritesDownrank n' →
        ∃ b b', r.StoresDownrank b ∧ r'.StoresDownrank b' ∧ b' ≤ b) := by
  refine ⟨⟨Magnitude.isSome_leading?_iff, fun s => Magnitude.existsUnique_spells,
      fun s n hn => hn.leading?_eq⟩,
    fun r d n hof => ⟨hof.storesBoost, hof.storesDownrank⟩,
    fun value n hvalue hn => ⟨exists_storesBoost hvalue hn, exists_storesDownrank hvalue hn⟩,
    fun m => ⟨m.spells_text, ?_⟩, ?_⟩
  · have hcomma : ',' ∉ m.text.toList := by
      intro hmem
      rcases Magnitude.mem_text hmem with heq | hdigit
      · exact absurd heq (by decide)
      · exact absurd hdigit (by decide)
    obtain ⟨r, hr, stored, haction, hval⟩ := exists_storesBoost hcomma m.spells_text
    have hstored : stored = m := by
      rw [← m.clamp_val]
      exact Magnitude.ext hval
    exact ⟨r, hr, hstored ▸ haction⟩
  · intro r r' d d' n n' hof hof' hle
    refine ⟨fun hn hn' => ⟨_, _, hof.storesBoost hn, hof'.storesBoost hn', ?_⟩,
      fun hn hn' => ⟨_, _, hof.storesDownrank hn, hof'.storesDownrank hn', ?_⟩⟩
    · omega
    · omega

/-- Of two boosts the last one counts, with zeros in front and more digits than fit, and the downrank
behind it does not; the opposite of the least magnitude is the greatest. -/
theorem strength_of_oversized_numbers :
    let source := "/a$boost=7, boost = +0099999999999999999999.5 ,downrank=3"
    (∃ r, (parse source).value = .ok r ∧ (Directive.parse source).WritesBoost 99999999999999999999 ∧
      r.StoresBoost greatestMagnitude) ∧
    ∃ r, (parse (optionLine "downrank" "-9223372036854775808")).value = .ok r ∧
      r.StoresDownrank greatestMagnitude := by
  intro source
  have hspells : Spells "+0099999999999999999999.5".toList 99999999999999999999 := by
    have hrun : Magnitude.IsRun "0099999999999999999999".toList ".5".toList := by
      refine ⟨by decide, List.all_iff_forall_prop.1 (by decide), ?_⟩
      rintro _ ⟨⟩
      decide
    have hvalue : Magnitude.placeValue "0099999999999999999999".toList = 99999999999999999999 := by
      decide +kernel
    have hplus := Spells.plus hrun
    rw [hvalue] at hplus
    exact hplus
  have hentries : (Directive.parse source).entries = [⟨"boost", some "7"⟩] ++
      ⟨"boost", some "+0099999999999999999999.5"⟩ :: [⟨"downrank", some "3"⟩] := by
    decide +kernel
  have hwrites : (Directive.parse source).WritesBoost 99999999999999999999 :=
    ⟨_, ⟨_, _, hentries, by simp [HasKey]⟩, hspells⟩
  refine ⟨?_, ?_⟩
  · obtain ⟨r, hr, -⟩ := exists_of_map_toOption (x := (parse source).value) (f := fun _ => ())
      (b := ()) (by decide +kernel)
    exact ⟨r, hr, hwrites, (strength_of_written.2.1 r _ _ ⟨_, _, _, hr, rfl⟩).1 hwrites⟩
  · have hleast := (strength_of_written.2.2.2.1 (.clamp leastMagnitude)).1
    exact (strength_of_written.2.2.1 "-9223372036854775808" leastMagnitude (by decide) hleast).2

end Rule

end Rerank
