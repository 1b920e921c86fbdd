/-
Reading numbers of JSON.

A number is read as far as it goes, so what follows a spelling of one must not go on with it
(`Ends`).  Then the reader takes exactly the spellings of numbers (`readNumber_append`,
`exists_of_readNumber`), and tells the integers from the rest by what it finds behind the digits.
-/
import Mathlib.Data.List.TakeWhile
import Rerank.Proofs.Json.Grammar

namespace Rerank.Json

/-- No digit follows. -/
def EndsDigits (rest : List Char) : Prop := ∀ c ∈ rest.head?, c.isDigit = false

/-- What follows does not go on with a number. -/
def Ends (rest : List Char) : Prop :=
  ∀ c ∈ rest.head?, c.isDigit = false ∧ c ≠ '.' ∧ c ≠ 'e' ∧ c ≠ 'E'

section Digits

variable {s digits rest : List Char}

lemma Ends.endsDigits (h : Ends rest) : EndsDigits rest := fun c hc => (h c hc).1

/-- Digits begin with no sign. -/
lemma IsDigits.ne_of_append {c : Char} (h : IsDigits digits) (heq : digits ++ rest = c :: s) :
    c ≠ '+' ∧ c ≠ '-' := by
  obtain ⟨d, digits, rfl⟩ := List.exists_cons_of_ne_nil h.ne_nil
  obtain ⟨rfl, -⟩ := List.cons.inj heq
  have hdigit := h.isDigit d List.mem_cons_self
  constructor <;> rintro rfl <;> exact absurd hdigit (by decide)

lemma readDigits_append (h : IsDigits digits) (hrest : EndsDigits rest) :
    readDigits (digits ++ rest) = some (digits, rest) := by
  have hstop : rest.takeWhile Char.isDigit = [] ∧ rest.dropWhile Char.isDigit = rest := by
    rcases rest with _ | ⟨c, rest⟩
    · exact ⟨rfl, rfl⟩
    · have hc := hrest c rfl
      simp [hc]
  rw [readDigits, List.takeWhile_append_of_pos h.isDigit, List.dropWhile_append_of_pos h.isDigit,
    hstop.1, hstop.2, List.append_nil]
  rcases digits with _ | ⟨c, digits⟩
  · exact absurd rfl h.ne_nil
  · rfl

lemma exists_of_readDigits (h : readDigits s = some (digits, rest)) :
    IsDigits digits ∧ s = digits ++ rest := by
  unfold readDigits at h
  split at h
  · cases h
  · next hne =>
    cases h
    exact ⟨⟨hne, fun c hc => List.mem_takeWhile_imp hc⟩, List.takeWhile_append_dropWhile.symm⟩

lemma exists_of_map_readDigits (h : (readDigits s).map (·.2) = some rest) :
    ∃ digits, IsDigits digits ∧ s = digits ++ rest := by
  obtain ⟨⟨digits, rest⟩, hread, rfl⟩ := Option.map_eq_some_iff.1 h
  exact ⟨digits, exists_of_readDigits hread⟩

lemma digitsValue_eq (digits : List Char) :
    digitsValue digits = Magnitude.placeValue digits := by
  rw [Magnitude.placeValue_eq, digitsValue]
  simp only [Nat.ofDigitChars, Nat.mul_comm]

end Digits

/-! ### Behind the digits -/

section Behind

variable {s fraction exponent rest : List Char}

lemma skipFraction_append (h : Fraction fraction) (hdigits : EndsDigits rest)
    (hdot : ∀ c ∈ rest.head?, c ≠ '.') : skipFraction (fraction ++ rest) = some rest := by
  cases h with
  | none =>
    rw [List.nil_append]
    unfold skipFraction
    split
    · exact absurd rfl (hdot '.' rfl)
    · rfl
  | some h =>
    rw [List.cons_append, skipFraction, readDigits_append h hdigits]
    rfl

lemma exists_of_skipFraction (h : skipFraction s = some rest) :
    ∃ fraction, Fraction fraction ∧ s = fraction ++ rest := by
  unfold skipFraction at h
  split at h
  · obtain ⟨digits, hdigits, rfl⟩ := exists_of_map_readDigits h
    exact ⟨_, .some hdigits, rfl⟩
  · cases h
    exact ⟨[], .none, rfl⟩

lemma skipExponent_append (h : Exponent exponent) (hrest : Ends rest) :
    skipExponent (exponent ++ rest) = some rest := by
  cases h with
  | none =>
    rcases rest with _ | ⟨c, rest⟩
    · rfl
    · obtain ⟨-, -, he, hE⟩ := hrest c rfl
      simp [skipExponent, he, hE]
  | @some e sign digits he hsign h =>
    have hread := readDigits_append h hrest.endsDigits
    rw [List.cons_append, List.append_assoc]
    rcases hsign with rfl | rfl | rfl
    · rw [List.nil_append, skipExponent, if_pos he, hread]
      · rfl
      · exact fun s hs => (h.ne_of_append hs).1 rfl
      · exact fun s hs => (h.ne_of_append hs).2 rfl
    · rw [List.singleton_append, skipExponent, if_pos he, hread]
      rfl
    · rw [List.singleton_append, skipExponent, if_pos he, hread]
      rfl

lemma exists_of_skipExponent (h : skipExponent s = some rest) :
    ∃ exponent, Exponent exponent ∧ s = exponent ++ rest := by
  unfold skipExponent at h
  split at h
  · split at h
    · next e s he =>
      split at h
      · obtain ⟨digits, hdigits, rfl⟩ := exists_of_map_readDigits h
        exact ⟨_, .some he (Or.inr (Or.inl rfl)) hdigits, rfl⟩
      · obtain ⟨digits, hdigits, rfl⟩ := exists_of_map_readDigits h
        exact ⟨_, .some he (Or.inr (Or.inr rfl)) hdigits, rfl⟩
      · obtain ⟨digits, hdigits, rfl⟩ := exists_of_map_readDigits h
        exact ⟨_, .some he (Or.inl rfl) hdigits, rfl⟩
    · cases h
      exact ⟨[], .none, rfl⟩
  · cases h
    exact ⟨[], .none, rfl⟩

/-- What stands before what follows a number does not go on with its digits, or with its fraction. -/
lemma Exponent.ne_of_head? (h : Exponent exponent) (hrest : Ends rest) :
    ∀ c ∈ (exponent ++ rest).head?, c.isDigit = false ∧ c ≠ '.' := by
  intro c hc
  cases h with
  | none => exact ⟨(hrest c hc).1, (hrest c hc).2.1⟩
  | some he _ _ =>
    obtain rfl := Option.some.inj hc
    rcases he with rfl | rfl <;> decide

lemma Fraction.endsDigits (h : Fraction fraction) (hrest : EndsDigits rest) :
    EndsDigits (fraction ++ rest) := by
  cases h with
  | none => exact hrest
  | some _ =>
    intro c hc
    obtain rfl := Option.some.inj hc
    decide

end Behind

/-! ### The whole number -/

section Number

variable {negative : Bool} {digits fraction exponent s p rest : List Char} {v : Value}

/-- The value of a number with given parts.  It is an integer if nothing stands behind the digits,
unless it is a negative zero. -/
def numberValue (negative : Bool) (digits fraction exponent : List Char) : Value :=
  if fraction ≠ [] ∨ exponent ≠ [] ∨ negative = true ∧ Magnitude.placeValue digits = 0 then .decimal
  else .integer (Magnitude.signed negative (Magnitude.placeValue digits))

/-- Every spelling has its parts. -/
lemma NumberSpelled.exists_parts (h : NumberSpelled v p) :
    ∃ negative digits fraction exponent, IsNumeral digits ∧ Fraction fraction ∧ Exponent exponent ∧
      p = minus negative ++ (digits ++ (fraction ++ exponent)) ∧
      v = numberValue negative digits fraction exponent := by
  cases h with
  | @integer negative digits h hzero =>
    refine ⟨negative, digits, [], [], h, .none, .none, by simp, (if_neg ?_).symm⟩
    simpa using hzero
  | decimal h hfraction hexponent hother =>
    exact ⟨_, _, _, _, h, hfraction, hexponent, rfl, (if_pos hother).symm⟩

/-- Parts make a spelling. -/
lemma numberSpelled_parts (h : IsNumeral digits) (hfraction : Fraction fraction)
    (hexponent : Exponent exponent) (negative : Bool) :
    NumberSpelled (numberValue negative digits fraction exponent)
      (minus negative ++ (digits ++ (fraction ++ exponent))) := by
  unfold numberValue
  split
  · next hother => exact .decimal h hfraction hexponent hother
  · next hother =>
    simp only [not_or, not_not] at hother
    obtain ⟨rfl, rfl, hzero⟩ := hother
    rw [List.append_nil, List.append_nil]
    exact .integer h fun hnegative heq => hzero ⟨hnegative, heq⟩

/-- Something has been read behind the digits if there is a fraction or an exponent. -/
lemma length_lt_iff (fraction exponent rest : List Char) :
    rest.length < (fraction ++ (exponent ++ rest)).length ↔ fraction ≠ [] ∨ exponent ≠ [] := by
  rw [← List.length_pos_iff, ← List.length_pos_iff, List.length_append, List.length_append]
  omega

lemma readUnsigned_append (h : IsNumeral digits) (hfraction : Fraction fraction)
    (hexponent : Exponent exponent) (hrest : Ends rest) :
    readUnsigned negative (digits ++ (fraction ++ (exponent ++ rest))) =
      some (numberValue negative digits fraction exponent, rest) := by
  have hbehind := hexponent.ne_of_head? hrest
  have hdigits := readDigits_append h.toIsDigits
    (hfraction.endsDigits fun c hc => (hbehind c hc).1)
  have hskip := skipFraction_append hfraction (fun c hc => (hbehind c hc).1)
    fun c hc => (hbehind c hc).2
  have hzero : ¬ (digits.head? = some '0' ∧ 1 < digits.length) := by
    rintro ⟨hhead, hlength⟩
    rw [h.eq_zero hhead] at hlength
    simp at hlength
  simp only [readUnsigned, hdigits, hskip, skipExponent_append hexponent hrest, hzero, if_false,
    Option.bind_eq_bind, Option.bind_some, Option.pure_def, length_lt_iff, digitsValue_eq, or_assoc,
    numberValue]
  split <;> rfl

lemma exists_of_readUnsigned (h : readUnsigned negative s = some (v, rest)) :
    ∃ digits fraction exponent, IsNumeral digits ∧ Fraction fraction ∧ Exponent exponent ∧
      s = digits ++ (fraction ++ (exponent ++ rest)) ∧
      v = numberValue negative digits fraction exponent := by
  simp only [readUnsigned, Option.bind_eq_bind, Option.bind_eq_some_iff, Option.pure_def] at h
  obtain ⟨⟨digits, behind⟩, hread, h⟩ := h
  obtain ⟨hdigits, rfl⟩ := exists_of_readDigits hread
  split at h
  · cases h
  · next hzero =>
    simp only [Option.bind_eq_some_iff] at h
    obtain ⟨_, hskip, rest', hskip', h⟩ := h
    obtain ⟨fraction, hfraction, rfl⟩ := exists_of_skipFraction hskip
    obtain ⟨exponent, hexponent, rfl⟩ := exists_of_skipExponent hskip'
    have hnumeral : IsNumeral digits := by
      refine ⟨hdigits, fun hhead => ?_⟩
      obtain ⟨digits, rfl⟩ := List.head?_eq_some_iff.1 hhead
      rcases digits with _ | ⟨c, digits⟩
      · rfl
      · exact absurd ⟨hhead, by simp⟩ hzero
    have hvalue : numberValue negative digits fraction exponent = v ∧ rest' = rest := by
      simp only [length_lt_iff, digitsValue_eq, or_assoc] at h
      unfold numberValue
      split at h
      · next hother =>
        cases h
        exact ⟨if_pos hother, rfl⟩
      · next hother =>
        cases h
        exact ⟨if_neg hother, rfl⟩
    obtain ⟨rfl, rfl⟩ := hvalue
    exact ⟨digits, fraction, exponent, hnumeral, hfraction, hexponent, rfl, rfl⟩

/-- **Every spelling of a number is read**, if what follows does not go on with it. -/
lemma readNumber_append (h : NumberSpelled v p) (hrest : Ends rest) :
    readNumber (p ++ rest) = some (v, rest) := by
  obtain ⟨negative, digits, fraction, exponent, hdigits, hfraction, hexponent, rfl, rfl⟩ :=
    h.exists_parts
  have hread : readUnsigned negative (digits ++ (fraction ++ (exponent ++ rest))) = _ :=
    readUnsigned_append hdigits hfraction hexponent hrest
  simp only [List.append_assoc]
  rcases negative with _ | _
  · rw [minus, if_neg Bool.false_ne_true, List.nil_append, readNumber]
    · exact hread
    · exact fun s heq => (hdigits.ne_of_append heq).2 rfl
  · exact hread

/-- **Only spellings of numbers are read.** -/
lemma exists_of_readNumber (h : readNumber s = some (v, rest)) :
    ∃ p, NumberSpelled v p ∧ s = p ++ rest := by
  unfold readNumber at h
  split at h
  · obtain ⟨digits, fraction, exponent, hdigits, hfraction, hexponent, rfl, rfl⟩ :=
      exists_of_readUnsigned h
    refine ⟨_, numberSpelled_parts hdigits hfraction hexponent true, ?_⟩
    simp [minus]
  · obtain ⟨digits, fraction, exponent, hdigits, hfraction, hexponent, rfl, rfl⟩ :=
      exists_of_readUnsigned h
    refine ⟨_, numberSpelled_parts hdigits hfraction hexponent false, ?_⟩
    simp [minus]

end Number

end Rerank.Json
