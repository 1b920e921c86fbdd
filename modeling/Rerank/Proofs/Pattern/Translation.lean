/-
The regular expression of a pattern means what the pattern denotes.

Every part of a pattern is written as a piece of the expression, and the piece is read back as one
part, whatever follows it (`readFrom?_token`).  So the expression is read as the sequence of the
parts of the pattern between its anchors (`read?_expression`), and a part matches what the
character that it was made of consumes (`consumes_cons_iff`).

The main result is `isMatch_iff_denotes`: the pattern of a fragment matches a text exactly if the
fragment denotes it, and exactly if the expression that is shown of the pattern is found in it.
-/
import Mathlib.Data.List.Basic
import Rerank.Pattern.Basic
import Rerank.Proofs.Pattern.Matching
import Rerank.Proofs.Pattern.Regex

namespace Rerank

namespace Regex

open Fragment

/-- The ranges of the characters that can stand inside a component of an address. -/
def componentRanges : List (Char × Char) :=
  [('0', '9'), ('A', 'Z'), ('a', 'z'), ('_', '_'), ('.', '.'), ('%', '%'), ('-', '-')]

/-- The part of an expression that a part of a pattern is read as. -/
def ofToken : Token → Regex
  | .char c => .char c
  | .star => seqOf [.star (.any true)]
  | .separator => .alt (seqOf [.oneOf true componentRanges]) (seqOf [.textEnd])

/-- The parts of the expression of a pattern. -/
def parts (g : Glob) : List Regex :=
  (if g.atStart then [.textStart] else []) ++ g.tokens.map ofToken ++
    (if g.atEnd then [.textEnd] else [])

/-! ### Reading the expression back -/

lemma next?_char (c : Char) (rest : List Char) :
    next? (Expression.char c ++ rest) = some (.char c, rest) := by
  unfold Expression.char
  split
  · next hc =>
    show next? ('\\' :: c :: rest) = some (.char c, rest)
    rw [next?, if_pos hc]
  · next hc =>
    simp only [Expression.metacharacters, List.contains_cons, List.contains_nil, Bool.or_false,
      Bool.or_eq_true, beq_iff_eq, not_or] at hc
    -- none of the symbols that are longer begins with a character without a meaning
    rw [List.singleton_append, next?]
    all_goals simp_all [single?]

/-- The piece of a part is read as one part, whatever follows. -/
lemma readFrom?_token (t : Token) (g : Group) (gs : List Group) (rest : List Char) :
    readFrom? (g :: gs) (Expression.token t ++ rest) =
      readFrom? (g.add (ofToken t) :: gs) rest := by
  cases t with
  | char c => exact readFrom?_of_next (next?_char c rest) rfl
  | star =>
    -- the flag of the group is taken in, whatever it was outside
    have hopen : (g.lineFeed || true) = true := Bool.or_true _
    calc readFrom? (g :: gs) (Expression.anyText ++ rest)
        = readFrom? (⟨g.lineFeed || true, [], []⟩ :: g :: gs) ('.' :: '*' :: ')' :: rest) :=
          readFrom?_of_next rfl rfl
      _ = readFrom? (⟨g.lineFeed || true, [], [.any (g.lineFeed || true)]⟩ :: g :: gs)
            ('*' :: ')' :: rest) := readFrom?_of_next rfl rfl
      _ = readFrom? (⟨g.lineFeed || true, [], [.star (.any (g.lineFeed || true))]⟩ :: g :: gs)
            (')' :: rest) := readFrom?_of_next rfl rfl
      _ = readFrom? (g.add (seqOf [.star (.any (g.lineFeed || true))]) :: gs) rest :=
          readFrom?_of_next rfl rfl
      _ = readFrom? (g.add (ofToken .star) :: gs) rest := by rw [hopen]; rfl
  | separator =>
    calc readFrom? (g :: gs) (Expression.separator ++ rest)
        = readFrom? (⟨g.lineFeed || false, [], []⟩ :: g :: gs)
            (Expression.separator.drop 3 ++ rest) := readFrom?_of_next rfl rfl
      _ = readFrom? (⟨g.lineFeed || false, [], [.oneOf true componentRanges]⟩ :: g :: gs)
            ('|' :: '$' :: ')' :: rest) := readFrom?_of_next rfl rfl
      _ = readFrom? (⟨g.lineFeed || false, [seqOf [.oneOf true componentRanges]], []⟩ :: g :: gs)
            ('$' :: ')' :: rest) := readFrom?_of_next rfl rfl
      _ = readFrom?
            (⟨g.lineFeed || false, [seqOf [.oneOf true componentRanges]], [.textEnd]⟩ :: g :: gs)
            (')' :: rest) := readFrom?_of_next rfl rfl
      _ = readFrom? (g.add (ofToken .separator) :: gs) rest := readFrom?_of_next rfl rfl

lemma readFrom?_tokens (ts : List Token) (g : Group) (gs : List Group) (rest : List Char) :
    readFrom? (g :: gs) (ts.flatMap Expression.token ++ rest) =
      readFrom? ({ g with parts := (ts.map ofToken).reverse ++ g.parts } :: gs) rest := by
  induction ts generalizing g with
  | nil => rfl
  | cons t ts ih =>
    rw [List.flatMap_cons, List.append_assoc, readFrom?_token, ih]
    simp [Group.add]

/-- **The expression of a pattern is read as the sequence of its parts.** -/
lemma read?_expression (g : Glob) : read? g.expression = some (seqOf (parts g)) := by
  obtain ⟨atStart, atEnd, tokens⟩ := g
  -- the anchor at the start leaves its part on the stack before the others
  have hstart : ∀ rest : List Char,
      read? ((if atStart then ['^'] else []) ++ rest) =
        readFrom? [⟨false, [], if atStart then [.textStart] else []⟩] rest := by
    intro rest
    cases atStart with
    | true => exact readFrom?_of_next rfl rfl
    | false => rfl
  have hend : ∀ es : List Regex,
      readFrom? [⟨false, [], es⟩] (if atEnd then ['$'] else []) =
        some (seqOf (es.reverse ++ if atEnd then [.textEnd] else [])) := by
    intro es
    cases atEnd with
    | true =>
      have hnext : next? ['$'] = some (.textEnd, []) := rfl
      rw [if_pos rfl, if_pos rfl, readFrom?_of_next hnext rfl, readFrom?_nil]
      simp [Group.regex, Group.add]
    | false => simp [readFrom?_nil, Group.regex]
  rw [Glob.expression, List.append_assoc, hstart, readFrom?_tokens, hend, parts]
  cases atStart <;> simp

/-! ### The parts of the expression match what the body consumes -/

section Meaning

variable {before piece behind : List Char}

lemma matches_star : Matches (ofToken .star) before piece behind :=
  matches_seq_iff.2 ⟨piece, [], by simp, matches_star_any _ _ _, .empty⟩

lemma inRanges_componentRanges (c : Char) :
    inRanges componentRanges c = true ↔ InComponent c := by
  have hsingle : ∀ d : Char, d ≤ c ∧ c ≤ d ↔ c = d := fun d =>
    ⟨fun h => Char.le_antisymm h.2 h.1, fun h => by simp [h]⟩
  simp [inRanges, componentRanges, InComponent, hsingle]

lemma matches_separator_iff : Matches (ofToken .separator) before piece behind ↔
    (∃ c, piece = [c] ∧ isSeparator c = true) ∨ (piece = [] ∧ behind = []) := by
  have hclass : ∀ c, inRanges componentRanges c = !true ↔ isSeparator c = true := by
    intro c
    rw [isSeparator_iff, ← inRanges_componentRanges, Bool.not_true, Bool.not_eq_true]
  simp only [ofToken, seqOf, matches_alt_iff, matches_seq_iff, matches_empty_iff,
    matches_oneOf_iff, matches_textEnd_iff, hclass]
  constructor
  · rintro (⟨u, v, rfl, ⟨c, rfl, hc⟩, rfl⟩ | ⟨u, v, rfl, ⟨rfl, hv⟩, rfl⟩)
    · exact Or.inl ⟨c, rfl, hc⟩
    · exact Or.inr ⟨rfl, hv⟩
  · rintro (⟨c, rfl, hc⟩ | ⟨rfl, rfl⟩)
    · exact Or.inl ⟨[c], [], rfl, ⟨c, rfl, hc⟩, rfl⟩
    · exact Or.inr ⟨[], [], rfl, ⟨rfl, rfl⟩, rfl⟩

/-- A body consumes a piece if the part of its first character matches the front of it and the
other characters consume the rest. -/
lemma consumes_cons_iff {c : Char} {body : List Char} (before : List Char) :
    Consumes (c :: body) piece behind ↔
      ∃ u v, piece = u ++ v ∧ Matches (ofToken (.ofChar c)) before u (v ++ behind) ∧
        Consumes body v behind := by
  by_cases hstar : c = '*'
  · subst hstar
    rw [consumes_star_iff]
    constructor
    · rintro ⟨u, v, rfl, h⟩
      exact ⟨u, v, rfl, matches_star, h⟩
    · rintro ⟨u, v, rfl, -, h⟩
      exact ⟨u, v, rfl, h⟩
  · by_cases hcaret : c = '^'
    · subst hcaret
      have htoken : Token.ofChar '^' = .separator := rfl
      simp only [consumes_caret_iff, htoken, matches_separator_iff]
      constructor
      · rintro (⟨d, rest, rfl, hd, h⟩ | ⟨rfl, rfl, h⟩)
        · exact ⟨[d], rest, rfl, Or.inl ⟨d, rfl, hd⟩, h⟩
        · exact ⟨[], [], rfl, Or.inr ⟨rfl, rfl⟩, h⟩
      · rintro ⟨u, v, rfl, ⟨d, rfl, hd⟩ | ⟨rfl, hv⟩, h⟩
        · exact Or.inl ⟨d, v, rfl, hd, h⟩
        · obtain ⟨rfl, rfl⟩ := List.append_eq_nil_iff.1 hv
          exact Or.inr ⟨rfl, rfl, h⟩
    · have htoken : ofToken (.ofChar c) = .char c := by simp [Token.ofChar, hstar, hcaret, ofToken]
      simp only [consumes_char_iff hstar hcaret, htoken, matches_char_iff]
      constructor
      · rintro ⟨rest, rfl, h⟩
        exact ⟨[c], rest, rfl, rfl, h⟩
      · rintro ⟨u, v, rfl, rfl, h⟩
        exact ⟨v, rfl, h⟩

/-- The parts of a body, followed by other parts, match what the body consumes, followed by what
the others match. -/
lemma matches_body_iff {body : List Char} {es : List Regex} :
    Matches (seqOf ((body.map Token.ofChar).map ofToken ++ es)) before piece behind ↔
      ∃ u v, piece = u ++ v ∧ Consumes body u (v ++ behind) ∧
        Matches (seqOf es) (before ++ u) v behind := by
  induction body generalizing before piece with
  | nil =>
    constructor
    · intro h
      exact ⟨[], piece, rfl, .nil, by simpa using h⟩
    · rintro ⟨u, v, rfl, hu, h⟩
      rw [consumes_nil_iff.1 hu] at h ⊢
      simpa using h
  | cons c body ih =>
    simp only [List.map_cons, List.cons_append, seqOf, matches_seq_iff, ih]
    constructor
    · rintro ⟨x, y, rfl, hc, u, v, rfl, hbody, h⟩
      refine ⟨x ++ u, v, by simp, ?_, by simpa using h⟩
      exact (consumes_cons_iff before).2 ⟨x, u, rfl, by simpa using hc, hbody⟩
    · rintro ⟨w, v, rfl, hw, h⟩
      obtain ⟨x, u, rfl, hc, hbody⟩ := (consumes_cons_iff before).1 hw
      exact ⟨x, u ++ v, by simp, by simpa using hc, u, v, rfl, hbody, by simpa using h⟩

/-- An anchor at the start asks for the start of the text and matches nothing there. -/
lemma matches_startAnchor_iff {anchored : Bool} {es : List Regex} :
    Matches (seqOf ((if anchored then [.textStart] else []) ++ es)) before piece behind ↔
      (anchored = true → before = []) ∧ Matches (seqOf es) before piece behind := by
  cases anchored with
  | false => simp
  | true =>
    simp only [if_true, List.singleton_append, seqOf, matches_seq_iff, matches_textStart_iff,
      forall_const]
    constructor
    · rintro ⟨u, v, rfl, ⟨rfl, rfl⟩, h⟩
      exact ⟨rfl, h⟩
    · rintro ⟨rfl, h⟩
      exact ⟨[], piece, rfl, ⟨rfl, rfl⟩, h⟩

/-- An anchor at the end asks for the end of the text and matches nothing there. -/
lemma matches_endAnchor_iff {anchored : Bool} :
    Matches (seqOf (if anchored then [.textEnd] else [])) before piece behind ↔
      piece = [] ∧ (anchored = true → behind = []) := by
  cases anchored with
  | false => simp [seqOf, matches_empty_iff]
  | true =>
    simp only [if_true, seqOf, matches_seq_iff, matches_textEnd_iff, matches_empty_iff,
      forall_const]
    constructor
    · rintro ⟨u, v, rfl, ⟨rfl, hbehind⟩, rfl⟩
      exact ⟨rfl, hbehind⟩
    · rintro ⟨rfl, rfl⟩
      exact ⟨[], [], rfl, ⟨rfl, rfl⟩, rfl⟩

end Meaning

/-- **The expression of a fragment is found in the texts that the fragment denotes.** -/
lemma foundIn_parts_iff (fragment text : List Char) :
    FoundIn (seqOf (parts (Glob.ofFragment fragment))) text ↔ Denotes fragment text := by
  simp only [ofFragment_eq, parts, List.append_assoc, FoundIn, matches_startAnchor_iff,
    matches_body_iff, matches_endAnchor_iff, Denotes]
  constructor
  · rintro ⟨before, piece, behind, rfl, hstart, u, v, rfl, hbody, rfl, hend⟩
    exact ⟨before, u, behind, by simp, hbody, hstart, hend⟩
  · rintro ⟨before, piece, behind, rfl, hbody, hstart, hend⟩
    exact ⟨before, piece, behind, rfl, hstart, piece, [], by simp, hbody, rfl, hend⟩

end Regex

namespace Pattern

/-- A pattern has the structure of the fragment that it was compiled from. -/
lemma glob_of_compile {fragment : String} {p : Pattern} (h : compile fragment = .ok p) :
    p.glob = Glob.ofFragment fragment.toList := by
  unfold compile at h
  split at h
  · cases h
    rfl
  · cases h

/-- **A pattern means what its fragment denotes.**  The pattern of a fragment matches a text exactly
if the fragment denotes the text.  Its expression is a regular expression, and is found in exactly
the same texts. -/
theorem isMatch_iff_denotes {fragment : String} {p : Pattern} (h : compile fragment = .ok p) :
    (∀ text : String, p.isMatch text = true ↔ Fragment.Denotes fragment.toList text.toList) ∧
      ∃ e, Regex.read? p.expression.toList = some e ∧
        ∀ text : String, e.FoundIn text.toList ↔ Fragment.Denotes fragment.toList text.toList := by
  have hglob := glob_of_compile h
  refine ⟨fun text => ?_, _, ?_, fun text => Regex.foundIn_parts_iff _ _⟩
  · rw [isMatch, hglob]
    exact Glob.isMatch_ofFragment_iff _ _
  · rw [expression, hglob, String.toList_ofList]
    exact Regex.read?_expression _

/-- A fragment with both anchors, a star and a caret that ends on the end of the text. -/
theorem denotes_whole_address : ∃ p, compile "|http*/p^|" = .ok p ∧
    Fragment.Denotes "|http*/p^|".toList "http://x/p".toList ∧
    Fragment.Denotes "|http*/p^|".toList "http://x/p?".toList ∧
    ¬ Fragment.Denotes "|http*/p^|".toList "http://x/pq".toList := by
  have hp : compile "|http*/p^|" = .ok ⟨"|http*/p^|", by decide⟩ := by decide
  have hmatch := (isMatch_iff_denotes hp).1
  refine ⟨_, hp, (hmatch _).1 (by decide), (hmatch _).1 (by decide), fun h => ?_⟩
  exact absurd ((hmatch _).2 h) (by decide)

end Pattern

end Rerank
