/-
Reading values of JSON.

Values nest, and so does their reader, which recurses with fuel.  Every level reads at least one
character, so a spelling is read with as much fuel as it has characters.  What carries the induction is
said for all that nests at once: for values whatever follows them, unless it goes on with a number,
and for items and members up to the bracket or brace that closes them (`ReadBack`).

The main result is `parse?_eq_some_iff`: a text is read as a value exactly if it holds the value.
-/
import Mathlib.Data.List.TakeWhile
import Rerank.Proofs.Json.Number
import Rerank.Proofs.Json.Text

namespace Rerank.Json

/-- A number, whether it is an integer or not. -/
def Value.IsNumber : Value → Prop
  | .integer _ => True
  | .decimal => True
  | _ => False

/-! ### White space -/

/-- The characters that follow a value, white space aside. -/
def closers : List Char := [',', ']', '\x7d']

section Space

variable {space s : List Char} {c : Char}

lemma AllSpace.nil : AllSpace [] := by simp [AllSpace]

/-- White space is passed over up to the first character that is none. -/
lemma skip_append (h : AllSpace space) (hs : ∀ c ∈ s.head?, isSpace c = false) :
    skip (space ++ s) = s := by
  rw [skip, List.dropWhile_append_of_pos h]
  rcases s with _ | ⟨c, s⟩
  · rfl
  · exact List.dropWhile_cons_of_neg (by simp [hs c rfl])

/-- So it is up to what may follow a value. -/
lemma skip_append_closer (h : AllSpace space) (hc : c ∈ closers) (rest : List Char) :
    skip (space ++ c :: rest) = c :: rest := by
  refine skip_append h fun d hd => ?_
  obtain rfl := Option.some.inj hd
  have hall : ∀ c ∈ closers, isSpace c = false := by simp [closers, isSpace]
  exact hall c hc

lemma isSpace_of_head?_skip (hc : c ∈ (skip s).head?) : isSpace c = false := by
  have hnot := List.head?_dropWhile_not isSpace s
  rw [← skip, Option.mem_def.1 hc] at hnot
  simpa using hnot

lemma exists_skip (s : List Char) : ∃ space, AllSpace space ∧ s = space ++ skip s :=
  ⟨s.takeWhile isSpace, fun _ hc => List.mem_takeWhile_imp hc,
    List.takeWhile_append_dropWhile.symm⟩

lemma exists_of_skip {t : List Char} (h : skip s = t) : ∃ space, AllSpace space ∧ s = space ++ t :=
  h ▸ exists_skip s

lemma skip_eq_nil_iff : skip s = [] ↔ AllSpace s := by
  rw [skip, List.dropWhile_eq_nil_iff]
  rfl

lemma mem_spaces_of_isSpace (h : isSpace c = true) : c ∈ [' ', '\t', '\n', '\r'] := by
  simpa [isSpace, or_assoc] using h

/-- White space and what may follow a value do not go on with a number. -/
lemma ends_append_closer (h : AllSpace space) (hc : c ∈ closers) (rest : List Char) :
    Ends (space ++ c :: rest) := by
  intro d hd
  have hmem : d ∈ [' ', '\t', '\n', '\r'] ++ closers := by
    rcases space with _ | ⟨e, space⟩
    · obtain rfl := Option.some.inj hd
      exact List.mem_append_right _ hc
    · obtain rfl := Option.some.inj hd
      exact List.mem_append_left _ (mem_spaces_of_isSpace (h e List.mem_cons_self))
  have hall : ∀ d ∈ [' ', '\t', '\n', '\r'] ++ closers,
      d.isDigit = false ∧ d ≠ '.' ∧ d ≠ 'e' ∧ d ≠ 'E' := by simp [closers]
  exact hall d hmem

lemma ends_of_allSpace (h : AllSpace space) : Ends space := by
  intro d hd
  have hall : ∀ d ∈ [' ', '\t', '\n', '\r'],
      d.isDigit = false ∧ d ≠ '.' ∧ d ≠ 'e' ∧ d ≠ 'E' := by simp
  exact hall d (mem_spaces_of_isSpace (h d (List.mem_of_mem_head? hd)))

end Space

/-! ### The first character -/

/-- The characters that a value begins with. -/
def Opens (c : Char) : Prop :=
  c ∈ ['n', 't', 'f', '"', '[', '\x7b'] ∨ c = '-' ∨ c.isDigit = true

lemma Opens.not_space {c : Char} (h : Opens c) : isSpace c = false ∧ c ∉ closers := by
  rcases h with h | rfl | h
  · have hall : ∀ c ∈ ['n', 't', 'f', '"', '[', '\x7b'], isSpace c = false ∧ c ∉ closers := by
      simp [isSpace, closers]
    exact hall c h
  · decide
  · have hall : ∀ c ∈ [' ', '\t', '\n', '\r'] ++ closers, c.isDigit = false := by
      simp [closers]
    have hnot : c ∉ [' ', '\t', '\n', '\r'] ++ closers := by
      intro hmem
      rw [hall c hmem] at h
      cases h
    rw [List.mem_append, not_or] at hnot
    exact ⟨Bool.eq_false_iff.2 fun hspace => hnot.1 (mem_spaces_of_isSpace hspace), hnot.2⟩

/-- A number begins with a sign or a digit. -/
lemma NumberSpelled.exists_head {v : Value} {p : List Char} (h : NumberSpelled v p) :
    ∃ c s, p = c :: s ∧ (c = '-' ∨ c.isDigit = true) := by
  obtain ⟨negative, digits, fraction, exponent, hdigits, -, -, rfl, -⟩ := h.exists_parts
  rcases negative with _ | _
  · obtain ⟨c, digits, rfl⟩ := List.exists_cons_of_ne_nil hdigits.ne_nil
    exact ⟨c, _, rfl, Or.inr (hdigits.isDigit c List.mem_cons_self)⟩
  · exact ⟨'-', _, rfl, Or.inl rfl⟩

lemma NumberSpelled.isNumber {v : Value} {p : List Char} (h : NumberSpelled v p) : v.IsNumber := by
  cases h <;> trivial

lemma Spelled.numberSpelled {v : Value} {p : List Char} (h : Spelled (.value v) p)
    (hv : v.IsNumber) : NumberSpelled v p := by
  cases h with
  | number h => exact h
  | null | isTrue | isFalse | text | emptyArray | array | emptyObject | object => cases hv

lemma KeySpelled.exists_head {key : Option String} {p : List Char} (h : KeySpelled key p) :
    ∃ s, p = '"' :: s := by
  rcases h with ⟨⟨_⟩, _, _⟩
  exact ⟨_, rfl⟩

/-- What nests begins with a character that opens a value. -/
lemma Spelled.exists_head {part : Part} {p : List Char} (h : Spelled part p) :
    ∃ c s, p = c :: s ∧ Opens c := by
  have hlist {c : Char} (hc : c ∈ ['n', 't', 'f', '"', '[', '\x7b']) : Opens c := Or.inl hc
  induction h with
  | null => exact ⟨_, _, rfl, hlist (by decide)⟩
  | isTrue => exact ⟨_, _, rfl, hlist (by decide)⟩
  | isFalse => exact ⟨_, _, rfl, hlist (by decide)⟩
  | number h =>
    obtain ⟨c, s, rfl, hc⟩ := h.exists_head
    exact ⟨c, s, rfl, Or.inr hc⟩
  | text h =>
    cases h
    exact ⟨_, _, rfl, hlist (by decide)⟩
  | emptyArray => exact ⟨_, _, rfl, hlist (by decide)⟩
  | array => exact ⟨_, _, rfl, hlist (by decide)⟩
  | emptyObject => exact ⟨_, _, rfl, hlist (by decide)⟩
  | object => exact ⟨_, _, rfl, hlist (by decide)⟩
  | item _ _ ih =>
    obtain ⟨c, s, rfl, hc⟩ := ih
    exact ⟨c, _, rfl, hc⟩
  | moreItems _ _ _ _ ih =>
    obtain ⟨c, s, rfl, hc⟩ := ih
    exact ⟨c, _, rfl, hc⟩
  | member hkey =>
    obtain ⟨s, rfl⟩ := hkey.exists_head
    exact ⟨_, _, rfl, hlist (by decide)⟩
  | moreMembers hkey =>
    obtain ⟨s, rfl⟩ := hkey.exists_head
    exact ⟨_, _, rfl, hlist (by decide)⟩

/-! ### One level of the reader -/

section Level

variable {fuel : Nat} {s t rest : List Char}

lemma readValue_text (fuel : Nat) (s : List Char) : readValue (fuel + 1) ('"' :: s) =
    (readText s).map fun p => (.string (p.1.map String.ofList), p.2) := by
  rw [readValue]

lemma readValue_emptyArray (h : skip s = ']' :: rest) :
    readValue (fuel + 1) ('[' :: s) = some (.array [], rest) := by
  rw [readValue, h]
  rfl

lemma readValue_array (h : skip s = t) (hne : ∀ u, t ≠ ']' :: u) :
    readValue (fuel + 1) ('[' :: s) = (readItems fuel t).map fun p => (.array p.1, p.2) := by
  rw [readValue, h]
  split
  · next u => exact absurd rfl (hne u)
  · rfl

lemma readValue_emptyObject (h : skip s = '\x7d' :: rest) :
    readValue (fuel + 1) ('\x7b' :: s) = some (.object [], rest) := by
  rw [readValue, h]
  rfl

lemma readValue_object (h : skip s = t) (hne : ∀ u, t ≠ '\x7d' :: u) :
    readValue (fuel + 1) ('\x7b' :: s) = (readMembers fuel t).map fun p => (.object p.1, p.2) := by
  rw [readValue, h]
  split
  · next u => exact absurd rfl (hne u)
  · rfl

lemma readValue_number {c : Char} (h : c = '-' ∨ c.isDigit = true) :
    readValue (fuel + 1) (c :: s) = readNumber (c :: s) := by
  have hne : ∀ d ∈ ['n', 't', 'f', '"', '[', '\x7b'], c ≠ d := by
    rintro d hd rfl
    have hall : ∀ c ∈ ['n', 't', 'f', '"', '[', '\x7b'], ¬ (c = '-' ∨ c.isDigit = true) := by
      simp
    exact hall c hd h
  simp only [List.mem_cons, List.not_mem_nil, or_false, forall_eq_or_imp, forall_eq] at hne
  rw [readValue] <;> simp [hne]

lemma readItems_last {v : Value} (hv : readValue fuel s = some (v, t))
    (ht : skip t = ']' :: rest) : readItems (fuel + 1) s = some ([v], rest) := by
  simp only [readItems, hv, Option.bind_eq_bind, Option.bind_some, ht]

lemma readItems_more {v : Value} {u : List Char} (hv : readValue fuel s = some (v, t))
    (ht : skip t = ',' :: u) : readItems (fuel + 1) s =
      (readItems fuel (skip u)).map fun p => (v :: p.1, p.2) := by
  simp only [readItems, hv, Option.bind_eq_bind, Option.bind_some, ht]

/-- What is read behind a member: a closing brace, or a comma and more members. -/
def readBehind (fuel : Nat) (member : Option String × Value) :
    List Char → Option (List (Option String × Value) × List Char)
  | '\x7d' :: t => some ([member], t)
  | ',' :: t => (readMembers fuel (skip t)).map fun p => (member :: p.1, p.2)
  | _ => none

/-- A member is read as its key and then as its value. -/
lemma readMembers_key {key : Option String} {k : List Char} (hkey : KeySpelled key k)
    (hs : ∀ c ∈ s.head?, isSpace c = false) : readMembers (fuel + 1) (k ++ s) =
      (readValue fuel s).bind fun p => readBehind fuel (key, p.1) (skip p.2) := by
  cases hkey with
  | @colon _ before behind htext hbefore hbehind =>
    cases htext with
    | @quoted us p hunits =>
      have hquote := readText_append hunits (before ++ ':' :: (behind ++ s))
      have hcolon : skip (before ++ ':' :: (behind ++ s)) = ':' :: (behind ++ s) :=
        skip_append hbefore (by simp [isSpace])
      simp only [List.cons_append, List.append_assoc, List.nil_append, readMembers, hquote, hcolon,
        skip_append hbehind hs, Option.bind_eq_bind, Option.bind_some]
      rfl

/-- Members are read from a key on. -/
lemma exists_key_of_readMembers {ms : List (Option String × Value)}
    (h : readMembers (fuel + 1) s = some (ms, rest)) :
    ∃ key k t, KeySpelled key k ∧ s = k ++ t ∧ ∀ c ∈ t.head?, isSpace c = false := by
  rw [readMembers.eq_def] at h
  dsimp only at h
  split at h
  · next s =>
    simp only [Option.bind_eq_bind, Option.bind_eq_some_iff] at h
    obtain ⟨⟨t, behind⟩, hread, h⟩ := h
    obtain ⟨us, p, hunits, rfl, rfl⟩ := quotes_of_readText hread
    split at h
    · next t hskip =>
      obtain ⟨before, hbefore, hcolon : behind = before ++ ':' :: t⟩ := exists_of_skip hskip
      obtain ⟨space, hspace, hvalue⟩ := exists_skip t
      refine ⟨_, _, skip t, .colon (.quoted hunits) hbefore hspace, ?_,
        fun c hc => isSpace_of_head?_skip hc⟩
      simp only [hcolon, List.cons_append, List.append_assoc, List.nil_append, ← hvalue]
    · cases h
  · cases h

end Level

/-! ### What is spelled is read -/

/-- What nests is read back.  A value needs as much fuel as it has characters, and items and members
one more, because they are followed by what closes them. -/
def ReadBack : Part → List Char → Prop
  | .value v, p => ∀ fuel rest, p.length ≤ fuel + 1 → (v.IsNumber → Ends rest) →
      readValue (fuel + 1) (p ++ rest) = some (v, rest)
  | .items vs, p => ∀ fuel rest, p.length ≤ fuel + 1 →
      readItems (fuel + 2) (p ++ ']' :: rest) = some (vs, rest)
  | .members ms, p => ∀ fuel rest, p.length ≤ fuel + 1 →
      readMembers (fuel + 2) (p ++ '\x7d' :: rest) = some (ms, rest)

lemma Spelled.length_pos {part : Part} {p : List Char} (h : Spelled part p) : 0 < p.length := by
  obtain ⟨c, p, rfl, -⟩ := h.exists_head
  exact Nat.succ_pos _

/-- What nests does not begin with white space. -/
lemma Spelled.head?_append {part : Part} {p : List Char} (h : Spelled part p) (rest : List Char) :
    ∀ c ∈ (p ++ rest).head?, isSpace c = false := by
  obtain ⟨c, p, rfl, hopens⟩ := h.exists_head
  intro d hd
  obtain rfl := Option.some.inj hd
  exact hopens.not_space.1

lemma Spelled.skip_append {part : Part} {space p : List Char} (h : Spelled part p)
    (hspace : AllSpace space) (rest : List Char) : skip (space ++ (p ++ rest)) = p ++ rest :=
  Json.skip_append hspace (h.head?_append rest)

/-- What nests does not begin with what closes it. -/
lemma Spelled.append_ne {part : Part} {p : List Char} (h : Spelled part p) {c : Char}
    (hc : c ∈ closers) (rest s : List Char) : p ++ rest ≠ c :: s := by
  obtain ⟨d, p, rfl, hopens⟩ := h.exists_head
  intro heq
  obtain ⟨rfl, -⟩ := List.cons.inj heq
  exact hopens.not_space.2 hc

/-- **Every spelling is read.** -/
lemma Spelled.readBack {part : Part} {p : List Char} (h : Spelled part p) : ReadBack part p := by
  induction h with
  | null => exact fun fuel rest _ _ => rfl
  | isTrue => exact fun fuel rest _ _ => rfl
  | isFalse => exact fun fuel rest _ _ => rfl
  | number h =>
    intro fuel rest _ hrest
    have hread := readNumber_append h (hrest h.isNumber)
    obtain ⟨c, s, rfl, hc⟩ := h.exists_head
    rw [← hread]
    exact readValue_number hc
  | text h =>
    intro fuel rest _ _
    cases h with
    | quoted hunits =>
      rw [List.cons_append, List.append_assoc, List.singleton_append, readValue_text,
        readText_append hunits]
      rfl
  | emptyArray hspace =>
    intro fuel rest _ _
    rw [List.cons_append, List.append_assoc, List.singleton_append]
    exact readValue_emptyArray (skip_append_closer hspace (by decide) rest)
  | @array vs space p hspace h ih =>
    intro fuel rest hfuel _
    -- the brackets are two characters, which leaves the items the fuel that they need
    have hpos := h.length_pos
    simp only [List.length_cons, List.length_append, List.length_nil] at hfuel
    obtain ⟨fuel, rfl⟩ := Nat.exists_eq_add_of_le' (show 2 ≤ fuel by omega)
    simp only [List.cons_append, List.append_assoc, List.nil_append]
    rw [readValue_array (h.skip_append hspace _) (h.append_ne (by decide) _),
      ih fuel rest (by omega)]
    rfl
  | emptyObject hspace =>
    intro fuel rest _ _
    rw [List.cons_append, List.append_assoc, List.singleton_append]
    exact readValue_emptyObject (skip_append_closer hspace (by decide) rest)
  | @object ms space p hspace h ih =>
    intro fuel rest hfuel _
    have hpos := h.length_pos
    simp only [List.length_cons, List.length_append, List.length_nil] at hfuel
    obtain ⟨fuel, rfl⟩ := Nat.exists_eq_add_of_le' (show 2 ≤ fuel by omega)
    simp only [List.cons_append, List.append_assoc, List.nil_append]
    rw [readValue_object (h.skip_append hspace _) (h.append_ne (by decide) _),
      ih fuel rest (by omega)]
    rfl
  | item h hspace ih =>
    intro fuel rest hfuel
    rw [List.length_append] at hfuel
    rw [List.append_assoc]
    exact readItems_last (ih fuel _ (by omega) fun _ => ends_append_closer hspace (by decide) rest)
      (skip_append_closer hspace (by decide) rest)
  | @moreItems v vs p before behind q h hbefore hbehind hs ih ihs =>
    intro fuel rest hfuel
    -- neither the first item nor the rest is empty, so each is shorter than all of them
    have hpos := h.length_pos
    have hpos' := hs.length_pos
    simp only [List.length_cons, List.length_append] at hfuel
    obtain ⟨fuel, rfl⟩ := Nat.exists_eq_add_of_le' (show 1 ≤ fuel by omega)
    simp only [List.cons_append, List.append_assoc]
    rw [readItems_more (ih (fuel + 1) _ (by omega) fun _ => ends_append_closer hbefore (by decide) _)
      (skip_append_closer hbefore (by decide) _), hs.skip_append hbehind, ihs fuel rest (by omega)]
    rfl
  | member hkey h hspace ih =>
    intro fuel rest hfuel
    simp only [List.length_append] at hfuel
    simp only [List.append_assoc]
    rw [readMembers_key hkey (h.head?_append _),
      ih fuel _ (by omega) fun _ => ends_append_closer hspace (by decide) rest, Option.bind_some,
      skip_append_closer hspace (by decide)]
    rfl
  | @moreMembers key v ms k p before behind q hkey h hbefore hbehind hs ih ihs =>
    intro fuel rest hfuel
    have hpos := h.length_pos
    have hpos' := hs.length_pos
    simp only [List.length_cons, List.length_append] at hfuel
    obtain ⟨fuel, rfl⟩ := Nat.exists_eq_add_of_le' (show 1 ≤ fuel by omega)
    simp only [List.cons_append, List.append_assoc]
    rw [readMembers_key hkey (h.head?_append _),
      ih (fuel + 1) _ (by omega) fun _ => ends_append_closer hbefore (by decide) _,
      Option.bind_some, skip_append_closer hbefore (by decide)]
    rw [readBehind, hs.skip_append hbehind, ihs fuel rest (by omega)]
    rfl

/-! ### What is read is spelled -/

/-- With some fuel, only spellings are read. -/
structure ReadsSpellings (fuel : Nat) : Prop where
  /-- Values are read off their spellings. -/
  value : ∀ {s rest v}, readValue fuel s = some (v, rest) →
    ∃ p, Spelled (.value v) p ∧ s = p ++ rest
  /-- Items are read off theirs and the bracket behind them. -/
  items : ∀ {s rest vs}, readItems fuel s = some (vs, rest) →
    ∃ p, Spelled (.items vs) p ∧ s = p ++ ']' :: rest
  /-- Members are read off theirs and the brace behind them. -/
  members : ∀ {s rest ms}, readMembers fuel s = some (ms, rest) →
    ∃ p, Spelled (.members ms) p ∧ s = p ++ '\x7d' :: rest

namespace ReadsSpellings

variable {fuel : Nat} {s rest : List Char}

lemma value_succ (h : ReadsSpellings fuel) {v : Value}
    (hread : readValue (fuel + 1) s = some (v, rest)) :
    ∃ p, Spelled (.value v) p ∧ s = p ++ rest := by
  rw [readValue.eq_def] at hread
  dsimp only at hread
  split at hread
  · cases hread
    exact ⟨_, .null, rfl⟩
  · cases hread
    exact ⟨_, .isTrue, rfl⟩
  · cases hread
    exact ⟨_, .isFalse, rfl⟩
  · obtain ⟨⟨t, rest⟩, htext, heq⟩ := Option.map_eq_some_iff.1 hread
    cases heq
    obtain ⟨us, p, hunits, rfl, rfl⟩ := quotes_of_readText htext
    exact ⟨_, .text (.quoted hunits), by simp⟩
  · next s =>
    obtain ⟨space, hspace, hs⟩ := exists_skip s
    split at hread
    · next t hskip =>
      cases hread
      rw [hskip] at hs
      exact ⟨_, .emptyArray hspace, by simp [hs]⟩
    · obtain ⟨vs, hitems, rfl⟩ := map_fst_eq_some_iff.1 hread
      obtain ⟨p, hp, hskip⟩ := h.items hitems
      rw [hskip] at hs
      exact ⟨_, .array hspace hp, by simp [hs]⟩
  · next s =>
    obtain ⟨space, hspace, hs⟩ := exists_skip s
    split at hread
    · next t hskip =>
      cases hread
      rw [hskip] at hs
      exact ⟨_, .emptyObject hspace, by simp [hs]⟩
    · obtain ⟨ms, hmembers, rfl⟩ := map_fst_eq_some_iff.1 hread
      obtain ⟨p, hp, hskip⟩ := h.members hmembers
      rw [hskip] at hs
      exact ⟨_, .object hspace hp, by simp [hs]⟩
  · obtain ⟨p, hp, rfl⟩ := exists_of_readNumber hread
    exact ⟨p, .number hp, rfl⟩

lemma items_succ (h : ReadsSpellings fuel) {vs : List Value}
    (hread : readItems (fuel + 1) s = some (vs, rest)) :
    ∃ p, Spelled (.items vs) p ∧ s = p ++ ']' :: rest := by
  simp only [readItems, Option.bind_eq_bind, Option.bind_eq_some_iff] at hread
  obtain ⟨⟨v, t⟩, hvalue, hread⟩ := hread
  obtain ⟨p, hp, rfl⟩ := h.value hvalue
  obtain ⟨before, hbefore, ht⟩ := exists_skip t
  split at hread
  · next u hskip =>
    cases hread
    rw [hskip] at ht
    exact ⟨_, .item hp hbefore, by simp [ht]⟩
  · next u hskip =>
    obtain ⟨vs, hitems, rfl⟩ := map_fst_eq_some_iff.1 hread
    obtain ⟨q, hq, hrest⟩ := h.items hitems
    obtain ⟨behind, hbehind, hu⟩ := exists_skip u
    rw [hrest] at hu
    rw [hskip, hu] at ht
    exact ⟨_, .moreItems hp hbefore hbehind hq, by simp [ht]⟩
  · cases hread

lemma members_succ (h : ReadsSpellings fuel) {ms : List (Option String × Value)}
    (hread : readMembers (fuel + 1) s = some (ms, rest)) :
    ∃ p, Spelled (.members ms) p ∧ s = p ++ '\x7d' :: rest := by
  obtain ⟨key, k, s, hkey, rfl, hs⟩ := exists_key_of_readMembers hread
  rw [readMembers_key hkey hs, Option.bind_eq_some_iff] at hread
  obtain ⟨⟨v, t⟩, hvalue, hread⟩ := hread
  obtain ⟨p, hp, rfl⟩ := h.value hvalue
  obtain ⟨before, hbefore, ht⟩ := exists_skip t
  dsimp only [readBehind] at hread
  split at hread
  · next u hskip =>
    cases hread
    rw [hskip] at ht
    exact ⟨_, .member hkey hp hbefore, by simp [ht]⟩
  · next u hskip =>
    obtain ⟨ms, hmembers, rfl⟩ := map_fst_eq_some_iff.1 hread
    obtain ⟨q, hq, hrest⟩ := h.members hmembers
    obtain ⟨behind, hbehind, hu⟩ := exists_skip u
    rw [hrest] at hu
    rw [hskip, hu] at ht
    exact ⟨_, .moreMembers hkey hp hbefore hbehind hq, by simp [ht]⟩
  · cases hread

end ReadsSpellings

/-- **Only spellings are read**, whatever the fuel. -/
lemma readsSpellings (fuel : Nat) : ReadsSpellings fuel := by
  induction fuel with
  | zero =>
    refine ⟨?_, ?_, ?_⟩ <;> intro s rest _ h
    · rw [readValue_zero] at h
      cases h
    · rw [readItems_zero] at h
      cases h
    · rw [readMembers_zero] at h
      cases h
  | succ fuel ih => exact ⟨ih.value_succ, ih.items_succ, ih.members_succ⟩

/-! ### The whole text -/

namespace Value

variable {text more : String} {v w : Value}

lemma parse?_eq : parse? text =
    (readValue (text.toList.length + 1) (skip text.toList)).bind fun p =>
      if (skip p.2).isEmpty then some p.1 else none := by
  rfl

/-- **Reading JSON.**  A text is read as a value exactly if it holds the value. -/
theorem parse?_eq_some_iff : parse? text = some v ↔ Holds text.toList v := by
  rw [parse?_eq, Option.bind_eq_some_iff]
  constructor
  · rintro ⟨⟨w, rest⟩, hread, hrest⟩
    obtain ⟨p, hp, hskip⟩ := (readsSpellings _).value hread
    obtain ⟨before, hbefore, htext⟩ := exists_skip text.toList
    rw [hskip] at htext
    split at hrest
    · next hempty =>
      cases hrest
      rw [htext]
      exact .around hbefore hp (skip_eq_nil_iff.1 (List.isEmpty_iff.1 hempty))
    · cases hrest
  · intro h
    generalize text.toList = s at h ⊢
    cases h with
    | @around _ before p behind hbefore hp hbehind =>
      have hlength : p.length ≤ (before ++ (p ++ behind)).length + 1 := by
        simp only [List.length_append]
        omega
      refine ⟨(v, behind), ?_, ?_⟩
      · rw [hp.skip_append hbefore]
        exact hp.readBack _ behind hlength fun _ => ends_of_allSpace hbehind
      · rw [if_pos (List.isEmpty_iff.2 (skip_eq_nil_iff.2 hbehind))]

/-- A text holds one value at most. -/
lemma eq_of_holds {s : List Char} (hv : Holds s v) (hw : Holds s w) : v = w := by
  rw [← String.toList_ofList (l := s), ← parse?_eq_some_iff] at hv hw
  exact Option.some.inj (hv.symm.trans hw)

/-- **Nothing but white space may follow.**  If more than that follows a text that holds a value, a
number at most is read. -/
lemma isNumber_of_parse?_append (h : Holds text.toList v) (hmore : ¬ AllSpace more.toList)
    (hread : parse? (text ++ more) = some w) : w.IsNumber := by
  rw [parse?_eq, String.toList_append, Option.bind_eq_some_iff] at hread
  obtain ⟨⟨u, rest⟩, hvalue, hrest⟩ := hread
  generalize text.toList = s at h hvalue
  cases h with
  | @around _ before p behind hbefore hp hbehind =>
    simp only [List.append_assoc] at hvalue
    rw [hp.skip_append hbefore] at hvalue
    by_cases hnumber : v.IsNumber
    -- the number may go on, and then it is another one
    · obtain ⟨c, s, rfl, hc⟩ := (hp.numberSpelled hnumber).exists_head
      rw [List.cons_append, readValue_number hc] at hvalue
      obtain ⟨q, hq, -⟩ := exists_of_readNumber hvalue
      split at hrest
      · cases hrest
        exact hq.isNumber
      · cases hrest
    · have hlength : p.length ≤ (before ++ (p ++ (behind ++ more.toList))).length + 1 := by
        simp only [List.length_append]
        omega
      rw [hp.readBack _ (behind ++ more.toList) hlength fun h => absurd h hnumber] at hvalue
      cases hvalue
      have hskip : ¬ (skip (behind ++ more.toList)).isEmpty = true := by
        rw [List.isEmpty_iff, skip_eq_nil_iff]
        exact fun h => hmore fun c hc => h c (List.mem_append_right _ hc)
      rw [if_neg hskip] at hrest
      cases hrest

end Value

end Rerank.Json
