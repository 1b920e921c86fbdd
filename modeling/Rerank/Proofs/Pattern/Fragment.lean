/-
What the fragment of a pattern denotes.

A fragment is read off its characters.  A bar at its beginning ties it to the start of the text;
a bar at the end of what is left ties it to the end; what is left then is its body.  The
characters of the body, in order, consume a piece of the text: a star any run of characters, a
caret one character that cannot stand inside a component of an address, or nothing at the very
end of the text, and every other character itself.  `Fragment.Denotes` is the relation between
fragments and texts that arises in this way; it does not mention how patterns are matched.

`Fragment.ofFragment_eq` says that the structure of a pattern holds the same anchors and the same
body, and the lemmas `consumes_*_iff` say what each character of a body asks of the text.
-/
import Mathlib.Data.List.Basic
import Mathlib.Tactic.Tauto
import Rerank.Pattern.Glob

namespace Rerank

namespace Fragment

/-- The characters that can stand inside a component of an address. -/
def InComponent (c : Char) : Prop :=
  ('0' ≤ c ∧ c ≤ '9') ∨ ('A' ≤ c ∧ c ≤ 'Z') ∨ ('a' ≤ c ∧ c ≤ 'z') ∨ c ∈ ['_', '.', '%', '-']

/-- Whether a fragment is tied to the start of the text. -/
def startAnchored (fragment : List Char) : Bool :=
  fragment.head? == some '|'

/-- A fragment without the bar at its beginning. -/
def behindStart (fragment : List Char) : List Char :=
  if startAnchored fragment then fragment.tail else fragment

/-- Whether a fragment is tied to the end of the text. -/
def endAnchored (fragment : List Char) : Bool :=
  (behindStart fragment).getLast? == some '|'

/-- What stands between the bars of a fragment. -/
def body (fragment : List Char) : List Char :=
  if endAnchored fragment then (behindStart fragment).dropLast else behindStart fragment

/-- `Consumes body piece behind` says that the characters of `body`, in order, consume `piece`,
when `behind` is what follows it in the text. -/
inductive Consumes : List Char → List Char → List Char → Prop
  | nil {behind : List Char} : Consumes [] [] behind
  | star {body piece behind : List Char} (run : List Char) (h : Consumes body piece behind) :
      Consumes ('*' :: body) (run ++ piece) behind
  | separator {c : Char} {body piece behind : List Char} (hc : ¬ InComponent c)
      (h : Consumes body piece behind) : Consumes ('^' :: body) (c :: piece) behind
  | textEnd {body : List Char} (h : Consumes body [] []) : Consumes ('^' :: body) [] []
  | char {c : Char} {body piece behind : List Char} (hstar : c ≠ '*') (hcaret : c ≠ '^')
      (h : Consumes body piece behind) : Consumes (c :: body) (c :: piece) behind

/-- A fragment denotes a text if its body consumes some piece of it, which is at the start or at
the end of the text where the fragment is tied to that. -/
def Denotes (fragment text : List Char) : Prop :=
  ∃ before piece behind, text = before ++ piece ++ behind ∧ Consumes (body fragment) piece behind ∧
    (startAnchored fragment = true → before = []) ∧ (endAnchored fragment = true → behind = [])

/-- The structure of a pattern holds the anchors and the body of its fragment. -/
lemma ofFragment_eq (fragment : List Char) : Glob.ofFragment fragment =
    ⟨startAnchored fragment, endAnchored fragment, (body fragment).map Token.ofChar⟩ := by
  have hfront : Glob.takeFront fragment = (startAnchored fragment, behindStart fragment) := by
    unfold Glob.takeFront
    split
    · rfl
    · next hs =>
      rcases fragment with _ | ⟨c, s⟩
      · rfl
      · have hc : c ≠ '|' := fun h => hs s (by rw [h])
        simp [startAnchored, behindStart, hc]
  have hback : Glob.takeBack (behindStart fragment) = (endAnchored fragment, body fragment) := by
    unfold Glob.takeBack body endAnchored
    by_cases h : (behindStart fragment).getLast? = some '|'
    · simp [h]
    · simp [h]
  simp only [Glob.ofFragment, hfront, hback]

/-- The separators are the characters that cannot stand inside a component. -/
lemma isSeparator_iff (c : Char) : isSeparator c = true ↔ ¬ InComponent c := by
  have hin : (c.isAlphanum || c == '_' || c == '.' || c == '%' || c == '-') = true ↔
      InComponent c := by
    -- letters and digits are given by the numbers of their characters, which order them
    show (((decide ('A' ≤ c ∧ c ≤ 'Z') || 'a' ≤ c && c ≤ 'z') || '0' ≤ c && c ≤ '9') ||
      c == '_' || c == '.' || c == '%' || c == '-') = true ↔ InComponent c
    simp only [InComponent, Bool.or_eq_true, Bool.and_eq_true, decide_eq_true_eq, beq_iff_eq,
      List.mem_cons, List.not_mem_nil, or_false]
    tauto
  rw [isSeparator, Bool.not_eq_true', ← hin, Bool.not_eq_true]

/-! ### What each character of a body asks for -/

section Consumes

variable {body piece behind : List Char}

lemma consumes_nil_iff : Consumes [] piece behind ↔ piece = [] :=
  ⟨fun h => by cases h; rfl, fun h => h ▸ .nil⟩

lemma consumes_star_iff : Consumes ('*' :: body) piece behind ↔
    ∃ run rest, piece = run ++ rest ∧ Consumes body rest behind := by
  constructor
  · intro h
    cases h with
    | @star _ rest _ run h => exact ⟨run, rest, rfl, h⟩
    | char hstar => exact absurd rfl hstar
  · rintro ⟨run, rest, rfl, h⟩
    exact .star run h

lemma consumes_caret_iff : Consumes ('^' :: body) piece behind ↔
    (∃ c rest, piece = c :: rest ∧ isSeparator c = true ∧ Consumes body rest behind) ∨
      (piece = [] ∧ behind = [] ∧ Consumes body [] []) := by
  constructor
  · intro h
    cases h with
    | @separator c _ rest _ hc h => exact Or.inl ⟨c, rest, rfl, (isSeparator_iff c).2 hc, h⟩
    | textEnd h => exact Or.inr ⟨rfl, rfl, h⟩
    | char _ hcaret => exact absurd rfl hcaret
  · rintro (⟨c, rest, rfl, hc, h⟩ | ⟨rfl, rfl, h⟩)
    · exact .separator ((isSeparator_iff c).1 hc) h
    · exact .textEnd h

lemma consumes_char_iff {c : Char} (hstar : c ≠ '*') (hcaret : c ≠ '^') :
    Consumes (c :: body) piece behind ↔ ∃ rest, piece = c :: rest ∧ Consumes body rest behind := by
  constructor
  · intro h
    cases h with
    | star => exact absurd rfl hstar
    | separator | textEnd => exact absurd rfl hcaret
    | @char _ _ rest _ _ _ h => exact ⟨rest, rfl, h⟩
  · rintro ⟨rest, rfl, h⟩
    exact .char hstar hcaret h

end Consumes

end Fragment

end Rerank
