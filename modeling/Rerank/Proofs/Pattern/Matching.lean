/-
Matching finds what the fragment denotes.

Patterns are matched by rows, one for every place of the text, which follow from each other from
the end of the text to its start.  The invariant is `Describes`: an entry of the row of a place
says whether a rest of the body begins there, `Fragment.Begins`.  It holds at the end of the text
(`describes_lastRow`) and is kept by a step (`describes_rowBefore`), because the lemmas
`begins_*_nil` and `begins_*_cons` reduce a rest of the body at one place to shorter rests there
and to the place behind it.

The main result is `isMatch_ofFragment_iff`: the structure of a fragment matches exactly the texts
that the fragment denotes.
-/
import Mathlib.Data.List.Basic
import Rerank.Pattern.Matching
import Rerank.Proofs.Pattern.Fragment

namespace Rerank

namespace Fragment

/-- A body begins at the start of a text if it consumes a piece there, which is all of the text
if it must reach the end. -/
def Begins (toEnd : Bool) (body text : List Char) : Prop :=
  ∃ piece behind, text = piece ++ behind ∧ Consumes body piece behind ∧
    (toEnd = true → behind = [])

section Begins

variable {toEnd : Bool} {body text : List Char} {c : Char}

lemma begins_nil_iff : Begins toEnd [] text ↔ (toEnd = true → text = []) := by
  constructor
  · rintro ⟨piece, behind, rfl, h, hend⟩ htoEnd
    rw [consumes_nil_iff.1 h, hend htoEnd, List.append_nil]
  · intro h
    exact ⟨[], text, rfl, .nil, h⟩

lemma begins_star_nil : Begins toEnd ('*' :: body) [] ↔ Begins toEnd body [] := by
  constructor
  · rintro ⟨piece, behind, htext, h, hend⟩
    obtain ⟨run, rest, rfl, hrest⟩ := consumes_star_iff.1 h
    obtain ⟨-, rfl, rfl⟩ : run = [] ∧ rest = [] ∧ behind = [] := by simpa using htext.symm
    exact ⟨[], [], rfl, hrest, hend⟩
  · rintro ⟨piece, behind, htext, h, hend⟩
    exact ⟨piece, behind, htext, .star [] h, hend⟩

/-- A star takes nothing at a place, or the character there and whatever it takes behind it. -/
lemma begins_star_cons : Begins toEnd ('*' :: body) (c :: text) ↔
    Begins toEnd body (c :: text) ∨ Begins toEnd ('*' :: body) text := by
  constructor
  · rintro ⟨piece, behind, htext, h, hend⟩
    obtain ⟨run, rest, rfl, hrest⟩ := consumes_star_iff.1 h
    rcases run with _ | ⟨d, run⟩
    · exact Or.inl ⟨rest, behind, htext, hrest, hend⟩
    · obtain ⟨-, rfl⟩ : c = d ∧ text = run ++ (rest ++ behind) := by simpa using htext
      exact Or.inr ⟨run ++ rest, behind, by simp, .star run hrest, hend⟩
  · rintro (⟨piece, behind, htext, h, hend⟩ | ⟨piece, behind, rfl, h, hend⟩)
    · exact ⟨piece, behind, htext, .star [] h, hend⟩
    · obtain ⟨run, rest, rfl, hrest⟩ := consumes_star_iff.1 h
      exact ⟨c :: run ++ rest, behind, rfl, .star (c :: run) hrest, hend⟩

lemma begins_caret_nil : Begins toEnd ('^' :: body) [] ↔ Begins toEnd body [] := by
  constructor
  · rintro ⟨piece, behind, htext, h, hend⟩
    obtain ⟨rfl, rfl⟩ : piece = [] ∧ behind = [] := by simpa using htext.symm
    rcases consumes_caret_iff.1 h with ⟨d, rest, hd, -, -⟩ | ⟨-, -, h⟩
    · cases hd
    · exact ⟨[], [], rfl, h, hend⟩
  · rintro ⟨piece, behind, htext, h, hend⟩
    obtain ⟨rfl, rfl⟩ : piece = [] ∧ behind = [] := by simpa using htext.symm
    exact ⟨[], [], rfl, .textEnd h, hend⟩

/-- Before the end of the text a caret takes one character. -/
lemma begins_caret_cons : Begins toEnd ('^' :: body) (c :: text) ↔
    isSeparator c = true ∧ Begins toEnd body text := by
  constructor
  · rintro ⟨piece, behind, htext, h, hend⟩
    rcases consumes_caret_iff.1 h with ⟨d, rest, rfl, hd, hrest⟩ | ⟨rfl, rfl, -⟩
    · obtain ⟨rfl, rfl⟩ : c = d ∧ text = rest ++ behind := by simpa using htext
      exact ⟨hd, rest, behind, rfl, hrest, hend⟩
    · cases htext
  · rintro ⟨hc, piece, behind, rfl, h, hend⟩
    exact ⟨c :: piece, behind, rfl, .separator ((isSeparator_iff c).1 hc) h, hend⟩

lemma not_begins_char_nil {d : Char} (hstar : d ≠ '*') (hcaret : d ≠ '^') :
    ¬ Begins toEnd (d :: body) [] := by
  rintro ⟨piece, behind, htext, h, -⟩
  obtain ⟨rest, rfl, -⟩ := (consumes_char_iff hstar hcaret).1 h
  cases htext

lemma begins_char_cons {d : Char} (hstar : d ≠ '*') (hcaret : d ≠ '^') :
    Begins toEnd (d :: body) (c :: text) ↔ c = d ∧ Begins toEnd body text := by
  constructor
  · rintro ⟨piece, behind, htext, h, hend⟩
    obtain ⟨rest, rfl, hrest⟩ := (consumes_char_iff hstar hcaret).1 h
    obtain ⟨rfl, rfl⟩ : c = d ∧ text = rest ++ behind := by simpa using htext
    exact ⟨rfl, rest, behind, rfl, hrest, hend⟩
  · rintro ⟨rfl, piece, behind, rfl, h, hend⟩
    exact ⟨c :: piece, behind, rfl, .char hstar hcaret h, hend⟩

/-- A fragment denotes a text if its body begins at some place of it. -/
lemma denotes_iff_begins {fragment : List Char} : Denotes fragment text ↔
    ∃ before rest, text = before ++ rest ∧
      Begins (endAnchored fragment) (Fragment.body fragment) rest ∧
      (startAnchored fragment = true → before = []) := by
  constructor
  · rintro ⟨before, piece, behind, rfl, h, hstart, hend⟩
    exact ⟨before, piece ++ behind, by simp, ⟨piece, behind, rfl, h, hend⟩, hstart⟩
  · rintro ⟨before, rest, rfl, ⟨piece, behind, rfl, h, hend⟩, hstart⟩
    exact ⟨before, piece, behind, by simp, h, hstart, hend⟩

end Begins

end Fragment

namespace Glob

open Fragment

/-- A row describes a place of the text if every entry says whether the rest of the body that it
stands for begins there. -/
def Describes (toEnd : Bool) (text body : List Char) (row : Row) : Prop :=
  List.Forall₂ (fun rest entry => entry = true ↔ Begins toEnd rest text) body.tails row

section Rows

variable {toEnd : Bool} {body text : List Char} {row : Row} {c : Char}

lemma describes_nil_iff {entry : Bool} :
    Describes toEnd text [] [entry] ↔ (entry = true ↔ Begins toEnd [] text) := by
  simp [Describes]

lemma describes_cons_iff {entry : Bool} : Describes toEnd text (c :: body) (entry :: row) ↔
    (entry = true ↔ Begins toEnd (c :: body) text) ∧ Describes toEnd text body row := by
  simp [Describes]

/-- The first entry stands for the whole body. -/
lemma Describes.headD (h : Describes toEnd text body row) :
    row.headD false = true ↔ Begins toEnd body text := by
  rcases body with _ | ⟨c, body⟩ <;> cases h with
  | cons hentry _ => exact hentry

/-- The entries behind the first one stand for the rests of the body behind its first character. -/
lemma Describes.tail (h : Describes toEnd text (c :: body) row) :
    Describes toEnd text body row.tail := by
  cases h with
  | cons _ hrow => exact hrow

lemma describes_lastRow (toEnd : Bool) (body : List Char) :
    Describes toEnd [] body (lastRow (body.map Token.ofChar)) := by
  induction body with
  | nil => exact describes_nil_iff.2 (by simp [begins_nil_iff])
  | cons c body ih =>
    refine describes_cons_iff.2 ⟨?_, ih⟩
    -- at the end a star and a caret take nothing, so the entry behind theirs decides
    by_cases hstar : c = '*'
    · subst hstar
      exact ih.headD.trans begins_star_nil.symm
    · by_cases hcaret : c = '^'
      · subst hcaret
        exact ih.headD.trans begins_caret_nil.symm
      · simp [Token.ofChar, hstar, hcaret, not_begins_char_nil]

/-- **One step of the pass.**  If a row describes a place, the row that is made of it and of the
character before that place describes the place before. -/
lemma describes_rowBefore (h : Describes toEnd text body row) (c : Char) :
    Describes toEnd (c :: text) body (rowBefore toEnd c (body.map Token.ofChar) row) := by
  induction body generalizing row with
  | nil => exact describes_nil_iff.2 (by simp [begins_nil_iff])
  | cons d body ih =>
    have hbehind : Describes toEnd text body row.tail := h.tail
    -- the rest of the new row is made first, because a star looks at its front as well
    have hnew := ih hbehind
    refine describes_cons_iff.2 ⟨?_, hnew⟩
    by_cases hstar : d = '*'
    · subst hstar
      rw [begins_star_cons, ← hnew.headD, ← h.headD]
      exact Bool.or_eq_true_iff
    · by_cases hcaret : d = '^'
      · subst hcaret
        rw [begins_caret_cons, ← hbehind.headD]
        exact Bool.and_eq_true_iff
      · rw [begins_char_cons hstar hcaret, ← hbehind.headD]
        simp [Token.ofChar, hstar, hcaret]

end Rows

/-! ### The whole pass -/

section Scan

variable (fromStart toEnd : Bool) (body : List Char)

lemma describes_scan (text : List Char) :
    Describes toEnd text body (scan ⟨fromStart, toEnd, body.map Token.ofChar⟩ text).1 := by
  induction text with
  | nil => exact describes_lastRow toEnd body
  | cons c text ih => exact describes_rowBefore ih c

/-- The pass remembers whether the body begins at any place behind the start. -/
lemma scan_behind (text : List Char) :
    (scan ⟨fromStart, toEnd, body.map Token.ofChar⟩ text).2 = true ↔
      ∃ c before rest, text = c :: before ++ rest ∧ Begins toEnd body rest := by
  induction text with
  | nil => simp [scan]
  | cons c text ih =>
    have hstep : (scan ⟨fromStart, toEnd, body.map Token.ofChar⟩ (c :: text)).2 =
        ((scan ⟨fromStart, toEnd, body.map Token.ofChar⟩ text).2 ||
          (scan ⟨fromStart, toEnd, body.map Token.ofChar⟩ text).1.headD false) := rfl
    rw [hstep, Bool.or_eq_true, ih, (describes_scan fromStart toEnd body text).headD]
    constructor
    · rintro (⟨d, before, rest, rfl, h⟩ | h)
      · exact ⟨c, d :: before, rest, rfl, h⟩
      · exact ⟨c, [], text, rfl, h⟩
    · rintro ⟨d, before, rest, htext, h⟩
      obtain ⟨rfl, rfl⟩ : c = d ∧ text = before ++ rest := by simpa using htext
      rcases before with _ | ⟨e, before⟩
      · exact Or.inr h
      · exact Or.inl ⟨e, before, rest, rfl, h⟩

end Scan

/-- **Matching is denotation.**  The structure of a fragment matches exactly the texts that the
fragment denotes. -/
theorem isMatch_ofFragment_iff (fragment text : List Char) :
    (ofFragment fragment).isMatch text = true ↔ Denotes fragment text := by
  rw [ofFragment_eq, isMatch, Bool.or_eq_true, Bool.and_eq_true, (describes_scan ..).headD,
    scan_behind, denotes_iff_begins]
  constructor
  · rintro (h | ⟨hstart, c, before, rest, rfl, h⟩)
    · exact ⟨[], text, rfl, h, fun _ => rfl⟩
    · exact ⟨c :: before, rest, rfl, h, fun hs => by simp [hs] at hstart⟩
  · rintro ⟨before, rest, rfl, h, hstart⟩
    rcases before with _ | ⟨c, before⟩
    · exact Or.inl h
    · refine Or.inr ⟨?_, c, before, rest, rfl, h⟩
      by_contra hs
      exact absurd (hstart (by simpa using hs)) (by simp)

end Glob

end Rerank
