/-
Reading the expression of a pattern back.

An expression is put together from pieces, one for each character between the bars of the fragment,
and an anchor at either end for each bar (`Expression.Composed`).  No piece is the beginning of
another, and none begins like an anchor.  So the pieces can be taken off from the left one by one
(`Expression.readToken?_append`), and what was taken off is what was written
(`Expression.append_of_readToken?`).  Together this says that reading inverts writing
(`Glob.ofExpression?_eq_some_iff`), from which everything else follows: an expression has one
composition only, and its fragment is read off it.

The main result is `Expression.fragment?_expression`.
-/
import Mathlib.Data.List.Basic
import Mathlib.Data.List.Forall2
import Rerank.Proofs.Pattern.Translation

namespace Rerank

namespace Expression

/-! ### What an expression is made of -/

/-- A piece of an expression, and the part of a pattern that it stands for. -/
inductive Piece : Token → List Char → Prop
  | plain {c : Char} (h : c ∉ metacharacters) : Piece (.char c) [c]
  | escaped {c : Char} (h : c ∈ metacharacters) : Piece (.char c) ['\\', c]
  | anyText : Piece .star "(?s:.*)".toList
  | separator : Piece .separator "(?:[^0-9A-Za-z_.%\\-]|$)".toList

/-- A text is made of pieces for the parts of a pattern, with a caret before them if the pattern is
tied to the start, and with a dollar sign behind them if it is tied to the end. -/
structure Composed (s : List Char) (g : Glob) (pieces : List (List Char)) : Prop where
  /-- There is a piece for each part. -/
  forall₂_piece : List.Forall₂ Piece g.tokens pieces
  /-- The text is that of the pieces and the anchors. -/
  text_eq : s = (if g.atStart then ['^'] else []) ++ pieces.flatten ++ (if g.atEnd then ['$'] else [])

lemma char_of_mem {c : Char} (h : c ∈ metacharacters) : char c = ['\\', c] :=
  if_pos (List.contains_iff_mem.2 h)

lemma char_of_not_mem {c : Char} (h : c ∉ metacharacters) : char c = [c] :=
  if_neg (mt List.contains_iff_mem.1 h)

/-- A piece is the one that is written for its part. -/
lemma piece_iff {t : Token} {piece : List Char} : Piece t piece ↔ token t = piece := by
  constructor
  · intro h
    cases h with
    | plain h => exact char_of_not_mem h
    | escaped h => exact char_of_mem h
    | anyText => rfl
    | separator => rfl
  · rintro rfl
    cases t with
    | char c =>
      by_cases h : c ∈ metacharacters
      · rw [token, char_of_mem h]
        exact .escaped h
      · rw [token, char_of_not_mem h]
        exact .plain h
    | star => exact .anyText
    | separator => exact .separator

/-- The compositions of a text are those of which it is the expression. -/
lemma composed_iff {s : List Char} {g : Glob} {pieces : List (List Char)} :
    Composed s g pieces ↔ s = g.expression ∧ g.tokens.map token = pieces := by
  have hpieces : List.Forall₂ Piece g.tokens pieces ↔ g.tokens.map token = pieces := by
    rw [← List.forall₂_eq_eq_eq, List.forall₂_map_left_iff]
    exact ⟨fun h => h.imp fun _ _ => piece_iff.1, fun h => h.imp fun _ _ => piece_iff.2⟩
  constructor
  · rintro ⟨hforall, htext⟩
    obtain rfl := hpieces.1 hforall
    exact ⟨by rw [htext, Glob.expression, List.flatMap_def], rfl⟩
  · rintro ⟨rfl, rfl⟩
    exact ⟨hpieces.2 rfl, by rw [Glob.expression, List.flatMap_def]⟩

/-! ### Taking the pieces off again -/

/-- Takes the piece of one part off an expression. -/
def readToken? (s : List Char) : Option (Token × List Char) :=
  match s with
  | [] => none
  | '\\' :: c :: rest => if c ∈ metacharacters then some (.char c, rest) else none
  | '(' :: _ =>
    match anyText.isPrefixOf? s, separator.isPrefixOf? s with
    | some rest, _ => some (.star, rest)
    | none, some rest => some (.separator, rest)
    | none, none => none
  | c :: rest => if c ∈ metacharacters then none else some (.char c, rest)

/-- What is taken off was there, and it is the piece of the part. -/
lemma append_of_readToken? {s rest : List Char} {t : Token} (h : readToken? s = some (t, rest)) :
    token t ++ rest = s := by
  unfold readToken? at h
  split at h
  · cases h
  · next c behind =>
    split at h
    · next hc =>
      cases h
      rw [token, char_of_mem hc]
      rfl
    · cases h
  · next behind =>
    split at h
    · next hany =>
      cases h
      exact List.append_eq_of_isPrefixOf?_eq_some hany
    · next hseparator =>
      cases h
      exact List.append_eq_of_isPrefixOf?_eq_some hseparator
    · cases h
  · next c behind _ _ =>
    split at h
    · cases h
    · next hc =>
      cases h
      rw [token, char_of_not_mem hc]
      rfl

/-- **A piece is taken off whatever follows it.** -/
lemma readToken?_append (t : Token) (rest : List Char) :
    readToken? (token t ++ rest) = some (t, rest) := by
  cases t with
  | char c =>
    by_cases hc : c ∈ metacharacters
    · rw [token, char_of_mem hc]
      exact if_pos hc
    · -- the character is neither a backslash nor an opening bracket
      have hbackslash : c ≠ '\\' := by rintro rfl; exact hc (by decide)
      have hopening : c ≠ '(' := by rintro rfl; exact hc (by decide)
      rw [token, char_of_not_mem hc, List.singleton_append]
      unfold readToken?
      split
      · next heq => cases heq
      · next heq => exact absurd (List.cons.inj heq).1 hbackslash
      · next heq => exact absurd (List.cons.inj heq).1 hopening
      · next heq =>
        obtain ⟨rfl, rfl⟩ := List.cons.inj heq
        rw [if_neg hc]
  | star => rfl
  | separator => rfl

lemma token_ne_nil (t : Token) : token t ≠ [] := by
  cases t with
  | char c =>
    rw [token, char]
    split <;> simp
  | star => decide
  | separator => decide

lemma length_of_readToken? {s rest : List Char} {t : Token} (h : readToken? s = some (t, rest)) :
    rest.length < s.length := by
  have hpos := List.length_pos_iff.2 (token_ne_nil t)
  rw [← append_of_readToken? h, List.length_append]
  omega

/-- Takes the pieces off an expression up to its end, and says whether an anchor is left there. -/
def readTokens? (s : List Char) : Option (List Token × Bool) :=
  match s with
  | [] => some ([], false)
  | ['$'] => some ([], true)
  | c :: s =>
    match _h : readToken? (c :: s) with
    | some (t, rest) => (readTokens? rest).map (Prod.map (t :: ·) id)
    | none => none
termination_by s.length
decreasing_by exact length_of_readToken? _h

/-- Nothing but an anchor, or a piece and more behind it: what is read of an expression. -/
lemma readTokens?_of_readToken? {s rest : List Char} {t : Token}
    (h : readToken? s = some (t, rest)) :
    readTokens? s = (readTokens? rest).map (Prod.map (t :: ·) id) := by
  rw [readTokens?.eq_def]
  split
  · cases h
  · cases h
  · split
    · next h' =>
      rw [h] at h'
      cases h'
      rfl
    · next h' =>
      rw [h] at h'
      cases h'

/-- **The pieces of an expression are read back as the parts that were written**, and nothing else is
read. -/
lemma readTokens?_eq_some_iff {s : List Char} {ts : List Token} {atEnd : Bool} :
    readTokens? s = some (ts, atEnd) ↔
      s = ts.flatMap token ++ (if atEnd then ['$'] else []) := by
  constructor
  · intro h
    fun_induction readTokens? s generalizing ts with
    | case1 | case2 =>
      cases h
      rfl
    | case3 c s hend t rest hread ih =>
      obtain ⟨⟨more, ended⟩, hmore, heq⟩ := Option.map_eq_some_iff.1 h
      obtain ⟨rfl, rfl⟩ := Prod.mk.inj heq
      rw [← append_of_readToken? hread, ih hmore, List.flatMap_cons, List.append_assoc]
    | case4 => cases h
  · rintro rfl
    induction ts with
    | nil =>
      cases atEnd <;> rw [readTokens?.eq_def] <;> rfl
    | cons t ts ih =>
      rw [List.flatMap_cons, List.append_assoc, readTokens?_of_readToken? (readToken?_append t _),
        ih]
      rfl

/-- No piece begins with a caret, so a caret at the front is an anchor. -/
lemma readTokens?_caret (s : List Char) : readTokens? ('^' :: s) = none := by
  have hread : readToken? ('^' :: s) = none := rfl
  rw [readTokens?.eq_def]
  split
  · next heq => cases heq
  · next heq => cases heq
  · next heq =>
    cases heq
    split
    · next h =>
      rw [hread] at h
      cases h
    · rfl

end Expression

/-- The structure of the pattern that an expression belongs to. -/
def Glob.ofExpression? (s : List Char) : Option Glob :=
  match s with
  | '^' :: s => (Expression.readTokens? s).map fun p => ⟨true, p.2, p.1⟩
  | s => (Expression.readTokens? s).map fun p => ⟨false, p.2, p.1⟩

/-- **Reading an expression inverts writing it.** -/
lemma Glob.ofExpression?_eq_some_iff {s : List Char} {g : Glob} :
    ofExpression? s = some g ↔ s = g.expression := by
  constructor
  · intro h
    unfold ofExpression? at h
    split at h
    all_goals
      obtain ⟨⟨ts, atEnd⟩, hread, rfl⟩ := Option.map_eq_some_iff.1 h
      rw [Expression.readTokens?_eq_some_iff.1 hread, expression]
      simp
  · rintro rfl
    obtain ⟨atStart, atEnd, ts⟩ := g
    have hread := Expression.readTokens?_eq_some_iff.2
      (rfl : ts.flatMap Expression.token ++ (if atEnd then ['$'] else []) = _)
    rw [expression, List.append_assoc]
    cases atStart with
    | true => exact congrArg (Option.map fun p => (⟨true, p.2, p.1⟩ : Glob)) hread
    | false =>
      rw [if_neg Bool.false_ne_true, List.nil_append]
      unfold ofExpression?
      split
      · next heq =>
        rw [heq, Expression.readTokens?_caret] at hread
        cases hread
      · rw [hread]
        rfl

namespace Fragment

/-- A fragment is its body between its bars. -/
lemma bars_append_body (fragment : List Char) : (if startAnchored fragment then ['|'] else []) ++
    body fragment ++ (if endAnchored fragment then ['|'] else []) = fragment := by
  have hend : body fragment ++ (if endAnchored fragment then ['|'] else []) =
      behindStart fragment := by
    rw [body]
    split
    · next h => exact List.dropLast_append_getLast? _ (by simpa [endAnchored] using h)
    · exact List.append_nil _
  have hstart : (if startAnchored fragment then ['|'] else []) ++ behindStart fragment =
      fragment := by
    rw [behindStart]
    split
    · next h =>
      obtain ⟨rest, rfl⟩ := List.head?_eq_some_iff.1 (by simpa [startAnchored] using h)
      rfl
    · rfl
  rw [List.append_assoc, hend, hstart]

/-- **A fragment is written from its structure again.** -/
lemma fragment_ofFragment (fragment : List Char) :
    (Glob.ofFragment fragment).fragment = fragment := by
  have hchars : ((body fragment).map Token.ofChar).map Token.toChar = body fragment := by
    simp [List.map_map, Function.comp_def]
  rw [ofFragment_eq, Glob.fragment, hchars, bars_append_body]

end Fragment

namespace Expression

open Fragment

/-- The fragment that an expression belongs to. -/
def fragment? (s : List Char) : Option (List Char) :=
  (Glob.ofExpression? s).map Glob.fragment

lemma fragment?_ofFragment (fragment : List Char) :
    fragment? (Glob.ofFragment fragment).expression = some fragment := by
  rw [fragment?, Glob.ofExpression?_eq_some_iff.2 rfl, Option.map_some, fragment_ofFragment]

/-- A part that is a character is read as that character. -/
lemma ofToken_ofChar {c : Char} (hstar : c ≠ '*') (hcaret : c ≠ '^') :
    Regex.ofToken (.ofChar c) = .char c := by
  rw [Token.ofChar, if_neg hstar, if_neg hcaret, Regex.ofToken]

/-- **Expressions are well formed, and fragments are read off them.**  The expression of a fragment is
made of one piece for each character between the bars, and of an anchor for each bar.  A text is made
of pieces and anchors in one way at most, so the fragment can be read off its expression, and patterns
with the same expression are the same.  The expression is always one by the syntax of expressions,
and there every character but stars and carets stands for itself. -/
theorem fragment?_expression :
    (∀ fragment, ∃ pieces, Composed (Glob.ofFragment fragment).expression
      ⟨startAnchored fragment, endAnchored fragment, (body fragment).map Token.ofChar⟩ pieces) ∧
    (∀ s g g' pieces pieces', Composed s g pieces → Composed s g' pieces' →
      g = g' ∧ pieces = pieces') ∧
    (∀ fragment, fragment? (Glob.ofFragment fragment).expression = some fragment) ∧
    (∀ p q : Pattern, p.expression = q.expression → p = q) ∧
    ∀ fragment, ∃ es, Regex.read? (Glob.ofFragment fragment).expression =
        some (.seqOf ((if startAnchored fragment then [.textStart] else []) ++ es ++
          (if endAnchored fragment then [.textEnd] else []))) ∧
      List.Forall₂ (fun c e => c ≠ '*' → c ≠ '^' → e = Regex.char c) (body fragment) es := by
  refine ⟨fun fragment => ?_, ?_, fragment?_ofFragment, ?_, fun fragment => ?_⟩
  · rw [ofFragment_eq]
    exact ⟨_, composed_iff.2 ⟨rfl, rfl⟩⟩
  · intro s g g' pieces pieces' h h'
    obtain ⟨hs, rfl⟩ := composed_iff.1 h
    obtain ⟨hs', rfl⟩ := composed_iff.1 h'
    have hread := Glob.ofExpression?_eq_some_iff.2 hs
    rw [Glob.ofExpression?_eq_some_iff.2 hs'] at hread
    obtain rfl := Option.some.inj hread
    exact ⟨rfl, rfl⟩
  · intro p q h
    have hfragments : some p.source.toList = some q.source.toList := by
      rw [← fragment?_ofFragment, ← fragment?_ofFragment]
      exact congrArg fragment? (String.ofList_injective h)
    obtain ⟨source, hfits⟩ := p
    obtain ⟨source', hfits'⟩ := q
    obtain rfl : source = source' := String.toList_inj.1 (Option.some.inj hfragments)
    rfl
  · refine ⟨((body fragment).map Token.ofChar).map Regex.ofToken, ?_, ?_⟩
    · rw [Regex.read?_expression, ofFragment_eq]
      rfl
    · rw [List.map_map, List.forall₂_map_right_iff, List.forall₂_same]
      exact fun c _ hstar hcaret => ofToken_ofChar hstar hcaret

/-- Two bars at either end, of which the inner ones stand for themselves, as do the backslash before
the star and the dollar sign before the end. -/
theorem composed_of_doubled_bars :
    let e := "^\\|a\\\\(?s:.*)(?:[^0-9A-Za-z_.%\\-]|$)\\$\\|$".toList
    (Glob.ofFragment "||a\\*^$||".toList).expression = e ∧
      fragment? e = some "||a\\*^$||".toList ∧
      ∃ g pieces, Composed e g pieces ∧ pieces = ["\\|", "a", "\\\\", "(?s:.*)",
        "(?:[^0-9A-Za-z_.%\\-]|$)", "\\$", "\\|"].map String.toList := by
  intro e
  have he : (Glob.ofFragment "||a\\*^$||".toList).expression = e := by decide +kernel
  obtain ⟨pieces, hpieces⟩ := fragment?_expression.1 "||a\\*^$||".toList
  have hwritten : Composed e
      ⟨true, true, [.char '|', .char 'a', .char '\\', .star, .separator, .char '$', .char '|']⟩
      (["\\|", "a", "\\\\", "(?s:.*)", "(?:[^0-9A-Za-z_.%\\-]|$)", "\\$", "\\|"].map
        String.toList) :=
    composed_iff.2 ⟨by decide +kernel, by decide +kernel⟩
  rw [he] at hpieces
  refine ⟨he, ?_, _, pieces, hpieces, (fragment?_expression.2.1 _ _ _ _ _ hpieces hwritten).2⟩
  rw [← he]
  exact fragment?_expression.2.2.1 _

end Expression

end Rerank
