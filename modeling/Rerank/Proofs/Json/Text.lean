/-
Reading texts of JSON.

A text is read behind its opening quotation mark, unit by unit, and halves of surrogate pairs are put
together on the way.  One lemma for each thing that a text may go on with says what reading it does to
the rest.  From these the reader takes exactly the spellings of units, up to the closing quotation
mark, and makes of them what they stand for (`readText_append`, `quotes_of_readText`).
-/
import Mathlib.Data.List.Basic
import Rerank.Proofs.Json.Grammar

namespace Rerank.Json

/-- Reading on and adding to what is read. -/
lemma map_fst_eq_some_iff {α β γ : Type} {o : Option (α × β)} {f : α → γ} {c : γ} {b : β} :
    (o.map fun p => (f p.1, p.2)) = some (c, b) ↔ ∃ a, o = some (a, b) ∧ f a = c := by
  rcases o with _ | ⟨a, b'⟩
  · simp
  · simp [and_comm]

/-! ### Units -/

section Units

variable {a b c d letter : Char} {m n : Nat} {us : List TextUnit} {s p rest : List Char}

lemma mem_escapes_iff : (letter, c) ∈ escapes ↔ shortEscape? letter = some c := by
  constructor
  · intro h
    simp only [escapes, List.mem_cons, Prod.mk.injEq, List.not_mem_nil, or_false] at h
    rcases h with ⟨rfl, rfl⟩ | ⟨rfl, rfl⟩ | ⟨rfl, rfl⟩ | ⟨rfl, rfl⟩ | ⟨rfl, rfl⟩ | ⟨rfl, rfl⟩ |
      ⟨rfl, rfl⟩ | ⟨rfl, rfl⟩ <;> rfl
  · intro h
    unfold shortEscape? at h
    split at h <;> cases h <;> simp [escapes]

/-- No letter of an escape begins a number. -/
lemma ne_u_of_mem_escapes (h : (letter, c) ∈ escapes) : letter ≠ 'u' := by
  rintro rfl
  rw [mem_escapes_iff] at h
  cases h

lemma spelled_code_of_hex4? (h : hex4? a b c d = some n) :
    TextUnit.Spelled (.code n) ['\\', 'u', a, b, c, d] := by
  simp only [hex4?, Option.bind_eq_bind, Option.bind_eq_some_iff, Option.pure_def,
    Option.some.injEq] at h
  obtain ⟨i, hi, j, hj, k, hk, l, hl, rfl⟩ := h
  have hspelled := TextUnit.Spelled.code hi hj hk hl
  rwa [show i * 16 ^ 3 + j * 16 ^ 2 + k * 16 + l = (i * 16 + j) * 256 + k * 16 + l by omega]
    at hspelled

/-- The spellings of a number. -/
lemma exists_hex4? (h : TextUnit.Spelled (.code n) p) :
    ∃ a b c d, p = ['\\', 'u', a, b, c, d] ∧ hex4? a b c d = some n := by
  cases h with
  | @code a b c d i j k l ha hb hc hd =>
    refine ⟨a, b, c, d, rfl, ?_⟩
    simp only [hex4?, ha, hb, hc, hd, Option.bind_eq_bind, Option.bind_some, Option.pure_def,
      Option.some.injEq]
    omega

lemma lowHalf?_code (h : hex4? a b c d = some m) (s : List Char) :
    lowHalf? ('\\' :: 'u' :: a :: b :: c :: d :: s) =
      if isLowHalf m then some (m, s) else none := by
  simp only [lowHalf?, h]

/-- Only the number of a second half is read as one. -/
lemma lowHalf?_append_eq_none (h : UnitsSpelled us p)
    (hnot : ∀ m, us.head? = some (.code m) → isLowHalf m = false) (rest : List Char) :
    lowHalf? (p ++ '"' :: rest) = none := by
  cases h with
  | nil => rfl
  | cons hu hs =>
    cases hu with
    | plain _ _ hbackslash => simp [lowHalf?, hbackslash]
    | escape hletter => simp [lowHalf?, ne_u_of_mem_escapes hletter]
    | code ha hb hc hd =>
      obtain ⟨a, b, c, d, hp, hhex⟩ := exists_hex4? (.code ha hb hc hd)
      rw [hp]
      exact (lowHalf?_code hhex _).trans (if_neg (by rw [hnot _ rfl]; exact Bool.false_ne_true))

/-- A second half that is read is the number that it is spelled as. -/
lemma exists_of_lowHalf? (h : lowHalf? s = some (m, rest)) :
    isLowHalf m = true ∧ ∃ p, TextUnit.Spelled (.code m) p ∧ s = p ++ rest := by
  unfold lowHalf? at h
  split at h
  · next a b c d s =>
    split at h
    · next n hhex =>
      split at h
      · next hlow =>
        cases h
        exact ⟨hlow, _, spelled_code_of_hex4? hhex, rfl⟩
      · cases h
    · cases h
  · cases h

/-! ### One step of the reader -/

lemma readText_quote (s : List Char) : readText ('"' :: s) = some (some [], s) := by
  rw [readText]

lemma readText_plain (hcontrol : 0x20 ≤ c.toNat) (hquote : c ≠ '"') (hbackslash : c ≠ '\\')
    (s : List Char) :
    readText (c :: s) = (readText s).map fun p => (p.1.map (c :: ·), p.2) := by
  rw [readText]
  · have hnot : ¬ (c.toNat < 0x20 ∨ c = '\\') := by
      rintro (hlt | heq)
      · omega
      · exact hbackslash heq
    rw [if_neg hnot]
  · exact hquote
  · exact fun _ _ _ _ _ heq => absurd heq hbackslash
  · exact fun _ _ heq => absurd heq hbackslash

lemma readText_escape (h : (letter, c) ∈ escapes) (s : List Char) :
    readText ('\\' :: letter :: s) = (readText s).map fun p => (p.1.map (c :: ·), p.2) := by
  rw [readText]
  · rw [mem_escapes_iff.1 h]
  · exact fun _ _ _ _ _ heq => absurd heq (ne_u_of_mem_escapes h)

lemma readText_code (hhex : hex4? a b c d = some n) (hhigh : isHighHalf n = false)
    (hlow : isLowHalf n = false) (s : List Char) :
    readText ('\\' :: 'u' :: a :: b :: c :: d :: s) =
      (readText s).map fun p => (p.1.map (Char.ofNat n :: ·), p.2) := by
  rw [readText, hhex]
  simp [hhigh, hlow]

lemma readText_low (hhex : hex4? a b c d = some n) (hhigh : isHighHalf n = false)
    (hlow : isLowHalf n = true) (s : List Char) :
    readText ('\\' :: 'u' :: a :: b :: c :: d :: s) =
      (readText s).map fun p => (none, p.2) := by
  rw [readText, hhex]
  simp [hhigh, hlow]

lemma readText_high (hhex : hex4? a b c d = some n) (hhigh : isHighHalf n = true)
    (hnone : lowHalf? s = none) :
    readText ('\\' :: 'u' :: a :: b :: c :: d :: s) =
      (readText s).map fun p => (none, p.2) := by
  rw [readText, hhex]
  simp only [hhigh, if_true]
  split
  · next heq => rw [hnone] at heq; cases heq
  · rfl

lemma readText_pair (hhex : hex4? a b c d = some n) (hhigh : isHighHalf n = true)
    (hsome : lowHalf? s = some (m, rest)) :
    readText ('\\' :: 'u' :: a :: b :: c :: d :: s) =
      (readText rest).map fun p => (p.1.map (pairChar n m :: ·), p.2) := by
  rw [readText, hhex]
  simp only [hhigh, if_true]
  split
  · next heq =>
    rw [hsome] at heq
    cases heq
    rfl
  · next heq => rw [hsome] at heq; cases heq

/-! ### What units stand for -/

lemma decode_code (hhigh : isHighHalf n = false) (hlow : isLowHalf n = false)
    (us : List TextUnit) : decode (.code n :: us) = (decode us).map (Char.ofNat n :: ·) := by
  rw [decode.eq_def]
  simp only [hhigh, hlow, Bool.false_eq_true, if_false]

lemma decode_low (hhigh : isHighHalf n = false) (hlow : isLowHalf n = true)
    (us : List TextUnit) : decode (.code n :: us) = none := by
  rw [decode.eq_def]
  simp only [hhigh, hlow, Bool.false_eq_true, if_false, if_true]

lemma decode_pair (hhigh : isHighHalf n = true) (hlow : isLowHalf m = true)
    (us : List TextUnit) :
    decode (.code n :: .code m :: us) = (decode us).map (pairChar n m :: ·) := by
  rw [decode.eq_def]
  simp only [hhigh, hlow, if_true]

lemma decode_high (hhigh : isHighHalf n = true)
    (hnot : ∀ m, us.head? = some (.code m) → isLowHalf m = false) :
    decode (.code n :: us) = none := by
  rw [decode.eq_def]
  simp only [hhigh, if_true]
  split
  · next m us => rw [hnot m rfl, if_neg Bool.false_ne_true]
  · rfl

end Units

/-! ### The whole text -/

/-- **Every spelling of units is read** as what they stand for. -/
lemma readText_append {us : List TextUnit} {p : List Char} (h : UnitsSpelled us p)
    (rest : List Char) : readText (p ++ '"' :: rest) = some (decode us, rest) := by
  -- the two halves of a pair are read at once, so the induction is not on the units one by one
  induction hlength : us.length using Nat.strong_induction_on generalizing us p with
  | _ length ih =>
    subst hlength
    cases h with
    | nil => exact readText_quote rest
    | @cons u us p q hu hs =>
      have hrest : readText (q ++ '"' :: rest) = some (decode us, rest) :=
        ih us.length (Nat.lt_succ_self _) hs rfl
      cases u with
      | char c =>
        cases hu with
        | plain hcontrol hquote hbackslash =>
          rw [List.singleton_append, List.cons_append,
            readText_plain hcontrol hquote hbackslash, hrest]
          rfl
        | escape hletter =>
          rw [List.append_assoc, List.cons_append, List.singleton_append,
            readText_escape hletter, hrest]
          rfl
      | code n =>
        obtain ⟨a, b, c, d, rfl, hhex⟩ := exists_hex4? hu
        simp only [List.cons_append, List.nil_append]
        rcases hhigh : isHighHalf n with _ | _
        · rcases hlow : isLowHalf n with _ | _
          · rw [readText_code hhex hhigh hlow, hrest, decode_code hhigh hlow]
            rfl
          · rw [readText_low hhex hhigh hlow, hrest, decode_low hhigh hlow]
            rfl
        · by_cases hnot : ∀ m, us.head? = some (.code m) → isLowHalf m = false
          · rw [readText_high hhex hhigh (lowHalf?_append_eq_none hs hnot rest), hrest,
              decode_high hhigh hnot]
            rfl
          · simp only [not_forall, Bool.not_eq_false] at hnot
            obtain ⟨m, hhead, hlow⟩ := hnot
            obtain ⟨us, rfl⟩ := List.head?_eq_some_iff.1 hhead
            cases hs with
            | @cons _ _ _ q hm hs =>
              obtain ⟨a', b', c', d', rfl, hhex'⟩ := exists_hex4? hm
              have hlast : readText (q ++ '"' :: rest) = some (decode us, rest) :=
                ih us.length (by simp only [List.length_cons]; omega) hs rfl
              have hpair := lowHalf?_code hhex' (q ++ '"' :: rest)
              rw [if_pos hlow] at hpair
              rw [decode_pair hhigh hlow]
              simp only [List.cons_append, List.nil_append]
              rw [readText_pair hhex hhigh hpair, hlast]
              rfl

/-- What stands behind an opening quotation mark: spellings of units, the closing mark and a rest. -/
def Quotes (s : List Char) (t : Option (List Char)) (rest : List Char) : Prop :=
  ∃ us p, UnitsSpelled us p ∧ s = p ++ '"' :: rest ∧ t = decode us

/-- One more unit, which stands for the same whatever follows. -/
lemma Quotes.cons {s q rest : List Char} {t : Option (List Char)} {u : TextUnit}
    {f : Option (List Char) → Option (List Char)} (h : Quotes s t rest) (hu : u.Spelled q)
    (hdecode : ∀ us, decode (u :: us) = f (decode us)) : Quotes (q ++ s) (f t) rest := by
  obtain ⟨us, p, hus, rfl, rfl⟩ := h
  exact ⟨u :: us, q ++ p, .cons hu hus, (List.append_assoc _ _ _).symm, (hdecode us).symm⟩

/-- **Only spellings of units are read.** -/
lemma quotes_of_readText {s rest : List Char} {t : Option (List Char)}
    (h : readText s = some (t, rest)) : Quotes s t rest := by
  induction s using readText.induct generalizing t rest with
  | case1 => rw [readText_nil] at h; cases h
  | case2 s =>
    rw [readText_quote] at h
    cases h
    exact ⟨[], [], .nil, rfl, rfl⟩
  | case3 a b c d s hhex => rw [readText, hhex] at h; cases h
  | case4 a b c d s n hhex hhigh m behind hsome ih =>
    rw [readText_pair hhex hhigh hsome] at h
    obtain ⟨t, hread, rfl⟩ := map_fst_eq_some_iff.1 h
    obtain ⟨hlow, q, hq, rfl⟩ := exists_of_lowHalf? hsome
    obtain ⟨us, p, hus, rfl, rfl⟩ := ih hread
    refine ⟨_, _, .cons (spelled_code_of_hex4? hhex) (.cons hq hus), by simp, ?_⟩
    rw [decode_pair hhigh hlow]
  | case5 a b c d s n hhex hhigh hnone ih =>
    rw [readText_high hhex hhigh hnone] at h
    obtain ⟨t, hread, rfl⟩ := (map_fst_eq_some_iff (f := fun _ => none)).1 h
    obtain ⟨us, p, hus, rfl, rfl⟩ := ih hread
    refine ⟨_, _, .cons (spelled_code_of_hex4? hhex) hus, by simp, (decode_high hhigh ?_).symm⟩
    -- a second half behind the first one would have been read with it
    intro m hhead
    obtain ⟨us, rfl⟩ := List.head?_eq_some_iff.1 hhead
    cases hus with
    | cons hm hs =>
      obtain ⟨a', b', c', d', rfl, hhex'⟩ := exists_hex4? hm
      have hpair := lowHalf?_code hhex'
      simp only [List.cons_append, List.nil_append, hpair] at hnone
      simpa using hnone
  | case6 a b c d s n hhex hhigh hlow ih =>
    rw [Bool.not_eq_true] at hhigh
    rw [readText_low hhex hhigh hlow] at h
    obtain ⟨t, hread, rfl⟩ := (map_fst_eq_some_iff (f := fun _ => none)).1 h
    exact (ih hread).cons (f := fun _ => none) (spelled_code_of_hex4? hhex) (decode_low hhigh hlow)
  | case7 a b c d s n hhex hhigh hlow ih =>
    rw [Bool.not_eq_true] at hhigh hlow
    rw [readText_code hhex hhigh hlow] at h
    obtain ⟨t, hread, rfl⟩ := map_fst_eq_some_iff.1 h
    exact (ih hread).cons (spelled_code_of_hex4? hhex) (decode_code hhigh hlow)
  | case8 letter s hu hnone =>
    rw [readText, hnone] at h
    · cases h
    · exact hu
  | case9 letter s hu c hletter ih =>
    have hmem := mem_escapes_iff.2 hletter
    rw [readText_escape hmem] at h
    obtain ⟨t, hread, rfl⟩ := map_fst_eq_some_iff.1 h
    exact (ih hread).cons (.escape hmem) fun us => rfl
  | case10 c s hquote hu hletter hnot =>
    rw [readText, if_pos hnot] at h
    · cases h
    · exact hquote
    · exact hu
    · exact hletter
  | case11 c s hquote hu hletter hnot ih =>
    rw [not_or, Nat.not_lt] at hnot
    rw [readText_plain hnot.1 hquote hnot.2] at h
    obtain ⟨t, hread, rfl⟩ := map_fst_eq_some_iff.1 h
    exact (ih hread).cons (.plain hnot.1 hquote hnot.2) fun us => rfl

end Rerank.Json
