/-
Writing a directive and reading it again.

Not every directive can be written: a pattern with a dollar sign, a key with an equals sign or a
comma, a value with a comma, or blanks around a key or a value would be read as something else, and
an empty list of options as one empty option.  `Directive.Writable` excludes just these.  A writable
directive is spelled by its text (`Directive.Writable.spelled`), and whatever a line spells is
writable (`Directive.writable_of_spelled`).

So the text of the directive of a line is a normal form of that line.  The main result is
`parse?_text_iff_writable`.
-/
import Mathlib.Data.List.Basic
import Rerank.Directive.Writer
import Rerank.Proofs.Directive.Spelling
import Rerank.Proofs.Rule.Line

namespace Rerank

open Text

/-- An option that can be written: its key ends before an equals sign or a comma, its value before
a comma, and both are trimmed. -/
structure Entry.Writable (e : Entry) : Prop where
  /-- The key holds no equals sign. -/
  equals_not_mem_key : '=' ∉ e.key.toList
  /-- The key holds no comma. -/
  comma_not_mem_key : ',' ∉ e.key.toList
  /-- The key is trimmed. -/
  trim_key : trim e.key.toList = e.key.toList
  /-- The value, if there is one, holds no comma. -/
  comma_not_mem_value : ∀ value ∈ e.value, ',' ∉ value.toList
  /-- The value, if there is one, is trimmed. -/
  trim_value : ∀ value ∈ e.value, trim value.toList = value.toList

/-- A directive that can be written: its pattern ends before a dollar sign, its options can be
written, and if it has options at all, there is at least one. -/
structure Directive.Writable (d : Directive) : Prop where
  /-- The pattern holds no dollar sign. -/
  dollar_not_mem_pattern : '$' ∉ d.pattern.toList
  /-- There is no empty list of options. -/
  options_ne_nil : d.options ≠ some []
  /-- Each option can be written. -/
  writable_of_mem : ∀ e ∈ d.entries, e.Writable

namespace Entry

lemma toList_text (e : Entry) : e.text.toList =
    match e.value with
    | some value => e.key.toList ++ '=' :: value.toList
    | none => e.key.toList := by
  rcases e with ⟨key, _ | value⟩
  · rfl
  · simp [text]

/-- An option that can be written is written without a comma. -/
lemma Writable.comma_not_mem_text {e : Entry} (h : e.Writable) : ',' ∉ e.text.toList := by
  have hkey := h.comma_not_mem_key
  rw [toList_text]
  split
  · next value hvalue =>
    have hcomma := h.comma_not_mem_value value hvalue
    simp [hkey, hcomma]
  · exact hkey

/-- **The text of an option spells it**, if it can be written. -/
lemma Writable.spelled {e : Entry} (h : e.Writable) : Spelled e.text.toList e := by
  have hkey : String.ofList (trim e.key.toList) = e.key := by
    rw [h.trim_key, String.ofList_toList]
  rw [toList_text]
  rcases e with ⟨key, _ | value⟩
  · have hbare := Spelled.bare h.equals_not_mem_key
    rwa [hkey] at hbare
  · have hvalue : String.ofList (trim value.toList) = value := by
      rw [h.trim_value value rfl, String.ofList_toList]
    have hvalued := Spelled.valued value.toList h.equals_not_mem_key
    rwa [hkey, hvalue] at hvalued

/-- What a piece between commas spells can be written. -/
lemma writable_of_spelled {piece : List Char} {e : Entry} (h : Spelled piece e)
    (hcomma : ',' ∉ piece) : e.Writable := by
  cases h with
  | bare hequals =>
    refine ⟨?_, ?_, by simp, by simp, by simp⟩
    · rw [String.toList_ofList]
      exact fun hmem => hequals (mem_of_mem_trim hmem)
    · rw [String.toList_ofList]
      exact fun hmem => hcomma (mem_of_mem_trim hmem)
  | @valued key value hequals =>
    have hkey : ',' ∉ key := fun hmem => hcomma (by simp [hmem])
    have hvalue : ',' ∉ value := fun hmem => hcomma (by simp [hmem])
    refine ⟨?_, ?_, by simp, ?_, ?_⟩
    · rw [String.toList_ofList]
      exact fun hmem => hequals (mem_of_mem_trim hmem)
    · rw [String.toList_ofList]
      exact fun hmem => hkey (mem_of_mem_trim hmem)
    · rintro _ ⟨⟩
      rw [String.toList_ofList]
      exact fun hmem => hvalue (mem_of_mem_trim hmem)
    · rintro _ ⟨⟩
      rw [String.toList_ofList, trim_trim]

end Entry

namespace Directive

/-- The text of a directive with options, as pieces between commas behind a dollar sign. -/
lemma toList_text_of_options (pattern : String) (entries : List Entry) :
    (text ⟨pattern, some entries⟩).toList =
      pattern.toList ++ '$' :: joined ',' (entries.map fun e => e.text.toList) := by
  have hjoined : (",".intercalate (entries.map Entry.text)).toList =
      joined ',' (entries.map fun e => e.text.toList) := by
    rw [String.toList_intercalate, joined_eq_intercalate, List.map_map]
    rfl
  simp [text, hjoined]

/-- **The text of a directive spells it**, if it can be written. -/
lemma Writable.spelled {d : Directive} (h : d.Writable) : Spelled d.text.toList d := by
  rcases d with ⟨pattern, _ | entries⟩
  · have hbare := Spelled.bare h.dollar_not_mem_pattern
    rwa [String.ofList_toList] at hbare
  · have hne : (entries.map fun e => e.text.toList) ≠ [] := by
      intro hnil
      exact h.options_ne_nil (by rw [List.map_eq_nil_iff.1 hnil])
    have hcomma : ∀ piece ∈ entries.map fun e => e.text.toList, ',' ∉ piece := by
      intro piece hpiece
      obtain ⟨e, he, rfl⟩ := List.mem_map.1 hpiece
      exact (h.writable_of_mem e he).comma_not_mem_text
    have hentries : List.Forall₂ Entry.Spelled
        (pieces ',' (joined ',' (entries.map fun e => e.text.toList))) entries := by
      rw [pieces_joined hne hcomma, List.forall₂_map_left_iff, List.forall₂_same]
      exact fun e he => (h.writable_of_mem e he).spelled
    have hoptioned := Spelled.optioned h.dollar_not_mem_pattern hentries
    rwa [String.ofList_toList, ← toList_text_of_options] at hoptioned

/-- What a line spells can be written. -/
lemma writable_of_spelled {line : List Char} {d : Directive} (h : Spelled line d) :
    d.Writable := by
  cases h with
  | bare hdollar =>
    refine ⟨by rwa [String.toList_ofList], by simp, ?_⟩
    rintro e ⟨⟩
  | @optioned pattern behind entries hdollar hentries =>
    refine ⟨by rwa [String.toList_ofList], ?_, ?_⟩
    · rintro ⟨⟩
      exact pieces_ne_nil ',' behind (List.forall₂_nil_right_iff.1 hentries)
    · intro e he
      rw [Entry.forall₂_spelled_iff.1 hentries] at he
      obtain ⟨piece, hpiece, hspelled⟩ := List.mem_map.1 he
      exact Entry.writable_of_spelled (Entry.spelled_iff.2 hspelled.symm) (not_mem_pieces hpiece)

lemma writable_parse (line : String) : (parse line).Writable :=
  writable_of_spelled (spelled_iff.2 (parse_eq line))

lemma parse_text {d : Directive} (h : d.Writable) : parse d.text = d := by
  rw [parse_eq]
  exact (spelled_iff.1 h.spelled).symm

/-- **Reading undoes writing, and writing what was read is a normal form.**  A directive is read
from its own text exactly if it can be written.  Every line is a directive that can be written, so
it has the same directive as the text of that directive, and the two compile to the same rule but
for the recorded text, or to the same fault. -/
theorem parse?_text_iff_writable :
    (∀ d : Directive, Grammar.parse? d.text = some d ↔ d.Writable) ∧
      ∀ line, ∃ d, Grammar.parse? line = some d ∧ d.Writable ∧ Grammar.parse? d.text = some d ∧
        ∀ limits number, (Rule.compile limits number d.text).value =
          (Rule.compile limits number line).value.map fun r => { r with source := d.text } := by
  have hwritten (d : Directive) : Grammar.parse? d.text = some d ↔ d.Writable := by
    rw [parse?_eq, Option.some.injEq]
    exact ⟨fun h => h ▸ writable_parse d.text, parse_text⟩
  refine ⟨hwritten, fun line => ?_⟩
  have hwritable := writable_parse line
  refine ⟨parse line, parse?_eq line, hwritable, (hwritten _).2 hwritable, fun limits number => ?_⟩
  exact Rule.value_compile_congr (parse_text hwritable)

/-- Blanks around keys and values are not written, and nothing else is lost. -/
example : (parse "a $ b = c=$ , ,d=").text = "a $b=c=$,,d=" := by
  decide +kernel

end Directive

end Rerank
