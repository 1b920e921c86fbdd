/-
Regular expressions, their meaning and their syntax.

The text that is shown of a pattern is a regular expression.  This module says what such a
text means, as far as the texts of patterns go:

* a character without a meaning stands for itself, and so does a character that has one,
  behind a backslash;
* a point stands for any character but a line feed, and inside `(?s:...)` for that as well;
* `[...]` stands for one character of some ranges, and `[^...]` for one outside of them;
* `^` and `$` stand for nothing, at the start and at the end of the whole text only;
* a star stands for any number of copies of the part before it, a bar between two
  alternatives for either, and `(?:...)` holds parts together.

`Regex.Matches` is the meaning: an expression matches a piece of a text between what stands
before and what stands behind it.  `Regex.read?` finds the expression that a text spells.  It
goes through the text from left to right and keeps a stack of the groups that are open; a text
that uses more of the syntax is refused.  The main result is `readFrom?_of_next`: one symbol is
one move of the stack, whatever follows.
-/
import Mathlib.Data.List.Basic
import Rerank.Pattern.Expression

namespace Rerank

/-- A regular expression. -/
inductive Regex
  /-- The empty text. -/
  | empty
  /-- A character that stands for itself. -/
  | char (c : Char)
  /-- A point; whether it stands for a line feed as well. -/
  | any (lineFeed : Bool)
  /-- A class of characters: those in some ranges, or those outside of them. -/
  | oneOf (negated : Bool) (ranges : List (Char × Char))
  /-- The start of the text. -/
  | textStart
  /-- The end of the text. -/
  | textEnd
  /-- Two parts, one behind the other. -/
  | seq (a b : Regex)
  /-- Two alternatives. -/
  | alt (a b : Regex)
  /-- Any number of copies. -/
  | star (a : Regex)
  deriving DecidableEq, Repr

namespace Regex

/-- Whether a character is in one of some ranges. -/
def inRanges (ranges : List (Char × Char)) (c : Char) : Bool :=
  ranges.any fun (first, last) => first ≤ c && c ≤ last

/-! ### The meaning of an expression -/

/-- `e.Matches before piece behind` says that the expression `e` matches `piece` where it stands
between `before` and `behind`. -/
inductive Matches : Regex → List Char → List Char → List Char → Prop
  | empty {before behind : List Char} : Matches .empty before [] behind
  | char {c : Char} {before behind : List Char} : Matches (.char c) before [c] behind
  | any {lineFeed : Bool} {c : Char} {before behind : List Char}
      (h : lineFeed = true ∨ c ≠ '\n') : Matches (.any lineFeed) before [c] behind
  | oneOf {negated : Bool} {ranges : List (Char × Char)} {c : Char} {before behind : List Char}
      (h : inRanges ranges c = !negated) : Matches (.oneOf negated ranges) before [c] behind
  | textStart {behind : List Char} : Matches .textStart [] [] behind
  | textEnd {before : List Char} : Matches .textEnd before [] []
  | seq {a b : Regex} {before s t behind : List Char} (ha : Matches a before s (t ++ behind))
      (hb : Matches b (before ++ s) t behind) : Matches (.seq a b) before (s ++ t) behind
  | altLeft {a b : Regex} {before s behind : List Char} (h : Matches a before s behind) :
      Matches (.alt a b) before s behind
  | altRight {a b : Regex} {before s behind : List Char} (h : Matches b before s behind) :
      Matches (.alt a b) before s behind
  | starNone {a : Regex} {before behind : List Char} : Matches (.star a) before [] behind
  | starMore {a : Regex} {before s t behind : List Char} (ha : Matches a before s (t ++ behind))
      (h : Matches (.star a) (before ++ s) t behind) : Matches (.star a) before (s ++ t) behind

/-- An expression is found in a text if it matches some piece of it. -/
def FoundIn (e : Regex) (text : List Char) : Prop :=
  ∃ before piece behind, text = before ++ piece ++ behind ∧ e.Matches before piece behind

/-- Parts, one behind the other. -/
def seqOf : List Regex → Regex
  | [] => .empty
  | e :: es => .seq e (seqOf es)

section Meaning

variable {a b : Regex} {before s behind : List Char}

lemma matches_empty_iff : Matches .empty before s behind ↔ s = [] :=
  ⟨fun h => by cases h; rfl, fun h => h ▸ .empty⟩

lemma matches_char_iff {c : Char} : Matches (.char c) before s behind ↔ s = [c] :=
  ⟨fun h => by cases h; rfl, fun h => h ▸ .char⟩

lemma matches_oneOf_iff {negated : Bool} {ranges : List (Char × Char)} :
    Matches (.oneOf negated ranges) before s behind ↔
      ∃ c, s = [c] ∧ inRanges ranges c = !negated := by
  constructor
  · intro h
    cases h with
    | @oneOf _ _ c _ _ hc => exact ⟨c, rfl, hc⟩
  · rintro ⟨c, rfl, hc⟩
    exact .oneOf hc

lemma matches_textStart_iff : Matches .textStart before s behind ↔ before = [] ∧ s = [] := by
  constructor
  · intro h
    cases h
    exact ⟨rfl, rfl⟩
  · rintro ⟨rfl, rfl⟩
    exact .textStart

lemma matches_textEnd_iff : Matches .textEnd before s behind ↔ s = [] ∧ behind = [] := by
  constructor
  · intro h
    cases h
    exact ⟨rfl, rfl⟩
  · rintro ⟨rfl, rfl⟩
    exact .textEnd

lemma matches_seq_iff : Matches (.seq a b) before s behind ↔
    ∃ u v, s = u ++ v ∧ Matches a before u (v ++ behind) ∧ Matches b (before ++ u) v behind := by
  constructor
  · intro h
    cases h with
    | @seq _ _ _ u v _ ha hb => exact ⟨u, v, rfl, ha, hb⟩
  · rintro ⟨u, v, rfl, ha, hb⟩
    exact .seq ha hb

lemma matches_alt_iff :
    Matches (.alt a b) before s behind ↔ Matches a before s behind ∨ Matches b before s behind := by
  constructor
  · intro h
    cases h with
    | altLeft h => exact Or.inl h
    | altRight h => exact Or.inr h
  · rintro (h | h)
    · exact .altLeft h
    · exact .altRight h

/-- A starred point that stands for line feeds as well matches everything. -/
lemma matches_star_any (before s behind : List Char) :
    Matches (.star (.any true)) before s behind := by
  induction s generalizing before with
  | nil => exact .starNone
  | cons c s ih => exact .starMore (s := [c]) (.any (Or.inl rfl)) (ih (before ++ [c]))

end Meaning

/-! ### The symbols of the syntax -/

/-- A symbol of the syntax. -/
inductive Symbol
  /-- A character that stands for itself. -/
  | char (c : Char)
  /-- A point. -/
  | point
  /-- A class of characters. -/
  | oneOf (negated : Bool) (ranges : List (Char × Char))
  /-- The start of the text. -/
  | textStart
  /-- The end of the text. -/
  | textEnd
  /-- A star. -/
  | star
  /-- A bar. -/
  | bar
  /-- The beginning of a group; whether its points stand for line feeds as well. -/
  | opening (lineFeed : Bool)
  /-- The end of a group. -/
  | closing
  deriving DecidableEq, Repr

/-- Whether a character stands for itself between brackets. -/
def isPlainInClass (c : Char) : Bool :=
  !(['[', ']', '^', '-', '&', '~', '\\'].contains c)

/-- Takes a range to the front of those that follow it. -/
def addRange (first last : Char) :
    List (Char × Char) × List Char → List (Char × Char) × List Char :=
  Prod.map ((first, last) :: ·) id

/-- Reads the ranges of a class up to its bracket. -/
def readRanges? : List Char → Option (List (Char × Char) × List Char)
  | ']' :: s => some ([], s)
  | '\\' :: c :: s =>
    if Expression.metacharacters.contains c then (readRanges? s).map (addRange c c) else none
  | a :: '-' :: b :: s =>
    if isPlainInClass a && isPlainInClass b && a ≤ b then (readRanges? s).map (addRange a b)
    else none
  | a :: s => if isPlainInClass a then (readRanges? s).map (addRange a a) else none
  | [] => none

/-- Reads a class behind its opening bracket; a class without ranges is refused. -/
def readClass? (negated : Bool) (s : List Char) : Option (Symbol × List Char) :=
  match readRanges? s with
  | some (r :: ranges, rest) => some (.oneOf negated (r :: ranges), rest)
  | _ => none

/-- The symbol that a character is by itself. -/
def single? (c : Char) : Option Symbol :=
  match c with
  | '.' => some .point
  | '^' => some .textStart
  | '$' => some .textEnd
  | '*' => some .star
  | '|' => some .bar
  | ')' => some .closing
  | c =>
    if ['\\', '+', '?', '(', '[', ']', '\x7b', '\x7d'].contains c then none else some (.char c)

/-- Reads a symbol. -/
def next? : List Char → Option (Symbol × List Char)
  | '\\' :: c :: s => if Expression.metacharacters.contains c then some (.char c, s) else none
  | '(' :: '?' :: ':' :: s => some (.opening false, s)
  | '(' :: '?' :: 's' :: ':' :: s => some (.opening true, s)
  | '[' :: '^' :: s => readClass? true s
  | '[' :: s => readClass? false s
  | c :: s => (single? c).map (·, s)
  | [] => none

lemma length_of_readRanges? {s : List Char} {ranges : List (Char × Char)} {rest : List Char}
    (h : readRanges? s = some (ranges, rest)) : rest.length < s.length := by
  fun_induction readRanges? s generalizing ranges with
  | case1 s =>
    simp only [Option.some.injEq, Prod.mk.injEq] at h
    simp [← h.2]
  | case2 | case4 | case6 =>
    rename_i ih
    obtain ⟨⟨more, left⟩, hmore, heq⟩ := Option.map_eq_some_iff.1 h
    obtain rfl : left = rest := congrArg Prod.snd heq
    have := ih hmore
    simp only [List.length_cons]
    omega
  | case3 | case5 | case7 | case8 => cases h

lemma length_of_readClass? {negated : Bool} {s rest : List Char} {x : Symbol}
    (h : readClass? negated s = some (x, rest)) : rest.length < s.length := by
  unfold readClass? at h
  split at h
  · next hs =>
    simp only [Option.some.injEq, Prod.mk.injEq] at h
    exact h.2 ▸ length_of_readRanges? hs
  · cases h

/-- Every symbol takes something of the text. -/
lemma length_of_next? {s rest : List Char} {x : Symbol} (h : next? s = some (x, rest)) :
    rest.length < s.length := by
  revert h
  fun_cases next? s with
  | case1 c s hc | case3 s | case4 s =>
    intro h
    simp only [Option.some.injEq, Prod.mk.injEq] at h
    simp only [← h.2, List.length_cons]
    omega
  | case2 | case8 =>
    intro h
    cases h
  | case5 s | case6 s hs =>
    intro h
    have := length_of_readClass? h
    simp only [List.length_cons]
    omega
  | case7 c s =>
    intro h
    obtain ⟨y, -, heq⟩ := Option.map_eq_some_iff.1 h
    obtain rfl : s = rest := congrArg Prod.snd heq
    simp

/-! ### Reading -/

/-- A group that is open. -/
structure Group where
  /-- Whether its points stand for line feeds as well. -/
  lineFeed : Bool
  /-- The alternatives that are complete, the last one first. -/
  alternatives : List Regex
  /-- The parts of the alternative that is being read, the last one first. -/
  parts : List Regex

/-- The expression of a group. -/
def Group.regex (g : Group) : Regex :=
  g.alternatives.foldl (fun e a => .alt a e) (seqOf g.parts.reverse)

/-- The group with one more part. -/
def Group.add (g : Group) (e : Regex) : Group :=
  { g with parts := e :: g.parts }

/-- What a symbol does to the open groups, the innermost of which is the first.  A star takes the
part before it, and there must be one. -/
def advance : Symbol → List Group → Option (List Group)
  | .char c, g :: gs => some (g.add (.char c) :: gs)
  | .point, g :: gs => some (g.add (.any g.lineFeed) :: gs)
  | .oneOf negated ranges, g :: gs => some (g.add (.oneOf negated ranges) :: gs)
  | .textStart, g :: gs => some (g.add .textStart :: gs)
  | .textEnd, g :: gs => some (g.add .textEnd :: gs)
  | .star, g :: gs =>
    match g.parts with
    | e :: es => some ({ g with parts := .star e :: es } :: gs)
    | [] => none
  | .bar, g :: gs =>
    some ({ g with alternatives := seqOf g.parts.reverse :: g.alternatives, parts := [] } :: gs)
  | .opening lineFeed, g :: gs => some (⟨g.lineFeed || lineFeed, [], []⟩ :: g :: gs)
  | .closing, g :: outer :: gs => some (outer.add g.regex :: gs)
  | _, _ => none

/-- Reads the rest of a text when some groups are open. -/
def readFrom? (groups : List Group) (s : List Char) : Option Regex :=
  match s with
  | [] =>
    match groups with
    | [g] => some g.regex
    | _ => none
  | c :: s =>
    match _h : next? (c :: s) with
    | none => none
    | some (x, rest) =>
      match advance x groups with
      | none => none
      | some groups => readFrom? groups rest
termination_by s.length
decreasing_by exact length_of_next? _h

/-- The expression that a text spells. -/
def read? (s : List Char) : Option Regex :=
  readFrom? [⟨false, [], []⟩] s

/-- **One symbol is one move.**  Whatever follows a symbol is read when it has been taken in. -/
lemma readFrom?_of_next {groups groups' : List Group} {s rest : List Char} {x : Symbol}
    (hs : next? s = some (x, rest)) (hx : advance x groups = some groups') :
    readFrom? groups s = readFrom? groups' rest := by
  rcases s with _ | ⟨c, s⟩
  · cases hs
  · rw [readFrom?]
    split
    · next hn => simp [hn] at hs
    · next y left hn =>
      simp only [hn, Option.some.injEq, Prod.mk.injEq] at hs
      obtain ⟨rfl, rfl⟩ := hs
      rw [hx]

lemma readFrom?_nil (g : Group) : readFrom? [g] [] = some g.regex := by
  rw [readFrom?]

end Regex

end Rerank
