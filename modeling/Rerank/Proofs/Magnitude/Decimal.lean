/-
Magnitudes in decimal.

A text spells an integer if it begins with a numeral for it: a sign or none, at least one digit and
as many as there are, and anything else behind them (`Spells`).  Every text that begins with a number
spells exactly one integer (`existsUnique_spells`).

A number is read digit by digit, and each step stops at the ends of the range.  All digits of a
number pull it the same way, so nothing is lost by stopping early: what comes out is the exact
integer, brought into the range once (`foldl_addDigit`, `Spells.leading?_eq`).  In particular the
decimal text of a magnitude spells it (`spells_text`) and is read back as it (`ofValue_text`).
-/
import Mathlib.Algebra.Group.Nat.Defs
import Mathlib.Data.List.TakeWhile
import Rerank.Proofs.Magnitude

namespace Rerank

namespace Magnitude

/-- The integer of a sign and an absolute value. -/
def signed (negative : Bool) (n : Nat) : Int :=
  if negative then -(n : Int) else n

/-- The number that digits stand for by their places: the last one counts once, and each other one
ten times as much as the one behind it. -/
def placeValue : List Char → Nat
  | [] => 0
  | c :: digits => (c.toNat - '0'.toNat) * 10 ^ digits.length + placeValue digits

/-- All the digits that a text begins with, and what follows them. -/
structure IsRun (digits rest : List Char) : Prop where
  /-- There is a digit. -/
  ne_nil : digits ≠ []
  /-- They are digits of ASCII. -/
  isDigit : ∀ c ∈ digits, c.isDigit = true
  /-- No further digit follows. -/
  maximal : ∀ c ∈ rest.head?, c.isDigit = false

/-- A text spells an integer: it begins with a sign or none and with all the digits of a numeral for
the integer, whatever follows them. -/
inductive Spells : List Char → Int → Prop
  | bare {digits rest : List Char} (h : IsRun digits rest) :
      Spells (digits ++ rest) (placeValue digits)
  | plus {digits rest : List Char} (h : IsRun digits rest) :
      Spells ('+' :: (digits ++ rest)) (placeValue digits)
  | minus {digits rest : List Char} (h : IsRun digits rest) :
      Spells ('-' :: (digits ++ rest)) (-(placeValue digits : Int))

/-! ### Runs of digits -/

section Runs

variable {digits rest : List Char}

lemma placeValue_eq (digits : List Char) : placeValue digits = Nat.ofDigitChars 10 digits 0 := by
  induction digits with
  | nil => rfl
  | cons c digits ih =>
    rw [placeValue, ih, Nat.ofDigitChars_cons, Nat.mul_zero, Nat.zero_add,
      @Nat.ofDigitChars_eq_ofDigitChars_zero digits (c.toNat - '0'.toNat), Nat.mul_comm]

/-- A text that begins with a digit begins with a run of them. -/
lemma exists_isRun {c : Char} (h : c.isDigit = true) (s : List Char) :
    ∃ digits rest, c :: s = digits ++ rest ∧ IsRun digits rest := by
  refine ⟨(c :: s).takeWhile Char.isDigit, (c :: s).dropWhile Char.isDigit,
    List.takeWhile_append_dropWhile.symm, ?_, fun d hd => List.mem_takeWhile_imp hd, fun d hd => ?_⟩
  · rw [List.takeWhile_cons_of_pos h]
    exact List.cons_ne_nil _ _
  · have hnot := List.head?_dropWhile_not Char.isDigit (c :: s)
    rw [Option.mem_def.1 hd] at hnot
    simpa using hnot

/-- A run is found again. -/
lemma IsRun.takeWhile_eq (h : IsRun digits rest) :
    (digits ++ rest).takeWhile Char.isDigit = digits := by
  have hstop : rest.takeWhile Char.isDigit = [] := by
    rcases rest with _ | ⟨c, rest⟩
    · rfl
    · rw [List.takeWhile_cons_of_neg (by simp [h.maximal c rfl])]
  rw [List.takeWhile_append_of_pos h.isDigit, hstop, List.append_nil]

/-- Digits have no sign before them. -/
lemma IsRun.sign_eq (h : IsRun digits rest) : sign (digits ++ rest) = (false, digits ++ rest) := by
  obtain ⟨c, digits, rfl⟩ := List.exists_cons_of_ne_nil h.ne_nil
  have hc : c.isDigit = true := h.isDigit c List.mem_cons_self
  unfold sign
  split
  · next hs => exact absurd ((List.cons.inj hs).1 ▸ hc) (by decide)
  · next hs => exact absurd ((List.cons.inj hs).1 ▸ hc) (by decide)
  · rfl

/-- The decimal text of a natural number is a run of digits that stands for it. -/
lemma isRun_toDigits (n : Nat) : IsRun (Nat.toDigits 10 n) [] :=
  ⟨Nat.toDigits_ne_nil, fun _ hc => Nat.isDigit_of_mem_toDigits (by decide) (by decide) hc, by simp⟩

lemma placeValue_toDigits (n : Nat) : placeValue (Nat.toDigits 10 n) = n := by
  rw [placeValue_eq, Nat.ofDigitChars_ten_toDigits]

end Runs

/-! ### The integer that a text spells -/

section Spelling

variable {s : List Char} {n : Int}

/-- What a text spells is seen behind its sign. -/
lemma Spells.exists_run (h : Spells s n) : ∃ negative digits rest,
    sign s = (negative, digits ++ rest) ∧ IsRun digits rest ∧
      n = signed negative (placeValue digits) := by
  cases h with
  | bare h => exact ⟨false, _, _, h.sign_eq, h, rfl⟩
  | plus h => exact ⟨false, _, _, rfl, h, rfl⟩
  | minus h => exact ⟨true, _, _, rfl, h, rfl⟩

lemma Spells.unique {m : Int} (hn : Spells s n) (hm : Spells s m) : m = n := by
  obtain ⟨negative, digits, rest, hsign, hrun, rfl⟩ := hn.exists_run
  obtain ⟨negative', digits', rest', hsign', hrun', rfl⟩ := hm.exists_run
  rw [hsign] at hsign'
  obtain ⟨rfl, htext⟩ := Prod.mk.inj hsign'
  rw [← hrun.takeWhile_eq, htext, hrun'.takeWhile_eq]

/-- Exactly the texts that begin with a number spell an integer. -/
lemma beginsWithNumber_iff_exists_spells : BeginsWithNumber s ↔ ∃ n, Spells s n := by
  constructor
  · rintro ⟨front, digit, rest, rfl, hfront, hdigit⟩
    obtain ⟨digits, behind, hsplit, hrun⟩ := exists_isRun hdigit rest
    have hbare := Spells.bare hrun
    have hplus := Spells.plus hrun
    have hminus := Spells.minus hrun
    rw [← hsplit] at hbare hplus hminus
    simp only [List.mem_cons, List.not_mem_nil, or_false] at hfront
    rcases hfront with rfl | rfl | rfl
    · exact ⟨_, hbare⟩
    · exact ⟨_, hplus⟩
    · exact ⟨_, hminus⟩
  · rintro ⟨n, h⟩
    obtain ⟨negative, digits, rest, hsign, hrun, -⟩ := h.exists_run
    obtain ⟨c, digits, rfl⟩ := List.exists_cons_of_ne_nil hrun.ne_nil
    rw [beginsWithNumber_iff, hsign]
    exact ⟨c, rfl, hrun.isDigit c List.mem_cons_self⟩

lemma existsUnique_spells (h : BeginsWithNumber s) : ∃! n, Spells s n := by
  obtain ⟨n, hn⟩ := beginsWithNumber_iff_exists_spells.1 h
  exact ⟨n, hn, fun m hm => hn.unique hm⟩

end Spelling

/-! ### Reading digit by digit -/

/-- **One more digit.** -/
lemma addDigit_clamp (negative : Bool) {c : Char} (h : c.isDigit = true) (n : Nat) :
    addDigit negative (clamp (signed negative n)) c =
      clamp (signed negative (10 * n + (c.toNat - '0'.toNat))) := by
  have hzero : '0'.toNat = 48 := rfl
  have hlow : 48 ≤ c.toNat := by
    simp only [Char.isDigit, Bool.and_eq_true, decide_eq_true_eq] at h
    exact h.1
  apply ext
  rcases negative with _ | _
  · simp only [addDigit, signed, val_clamp, leastMagnitude, greatestMagnitude, hzero,
      Bool.false_eq_true, if_false]
    omega
  · simp only [addDigit, signed, val_clamp, leastMagnitude, greatestMagnitude, hzero, if_true]
    omega

/-- **All digits.**  Stopping at the ends of the range at each digit is the same as doing so once. -/
lemma foldl_addDigit (negative : Bool) {digits : List Char}
    (h : ∀ c ∈ digits, c.isDigit = true) (n : Nat) :
    digits.foldl (addDigit negative) (clamp (signed negative n)) =
      clamp (signed negative (Nat.ofDigitChars 10 digits n)) := by
  induction digits generalizing n with
  | nil => rfl
  | cons c digits ih =>
    obtain ⟨hc, hdigits⟩ := List.forall_mem_cons.1 h
    rw [List.foldl_cons, addDigit_clamp negative hc, ih hdigits]
    rfl

/-- **A text is read as the integer that it spells**, brought into the range. -/
lemma Spells.leading?_eq {s : List Char} {n : Int} (h : Spells s n) :
    leading? s = some (clamp n) := by
  obtain ⟨negative, digits, rest, hsign, hrun, rfl⟩ := h.exists_run
  have hzero : clamp 0 = clamp (signed negative 0) := by
    cases negative <;> rfl
  simp only [leading?, hsign, hrun.takeWhile_eq]
  rcases digits with _ | ⟨c, digits⟩
  · exact absurd rfl hrun.ne_nil
  · rw [hzero, placeValue_eq]
    exact congrArg some (foldl_addDigit negative hrun.isDigit 0)

/-- A value that spells an integer asks for it, brought into the range. -/
lemma Spells.ofValue_eq {value : String} {n : Int} (h : Spells value.toList n) :
    ofValue value = clamp n := by
  have hne : value.isEmpty = false := by
    rw [Bool.eq_false_iff, ne_eq, String.isEmpty_iff]
    rintro rfl
    have hread := h.leading?_eq
    cases hread
  rw [ofValue, hne, h.leading?_eq]
  rfl

/-! ### Magnitudes in decimal -/

/-- **The decimal text of a magnitude spells it**, whatever its sign and size. -/
lemma spells_text (m : Magnitude) : Spells m.text.toList m.val := by
  rcases m with ⟨n | n, hleast, hgreatest⟩
  · have htext : (text ⟨Int.ofNat n, hleast, hgreatest⟩).toList = Nat.toDigits 10 n ++ [] := by
      rw [List.append_nil]
      exact Nat.toList_repr
    have hspells := Spells.bare (isRun_toDigits n)
    rw [htext]
    rwa [placeValue_toDigits] at hspells
  · have htext : (text ⟨Int.negSucc n, hleast, hgreatest⟩).toList =
        '-' :: (Nat.toDigits 10 (n + 1) ++ []) := by
      show ("-" ++ (n + 1).repr).toList = _
      rw [String.toList_append, Nat.toList_repr, List.append_nil]
      rfl
    have hspells := Spells.minus (isRun_toDigits (n + 1))
    rw [htext]
    rwa [placeValue_toDigits, Int.natCast_succ, ← Int.negSucc_eq] at hspells

/-- A magnitude in decimal asks for itself. -/
lemma ofValue_text (m : Magnitude) : ofValue m.text = m := by
  rw [(spells_text m).ofValue_eq, clamp_val]

/-- The text of a magnitude holds digits only, but for a sign before them. -/
lemma mem_text {m : Magnitude} {c : Char} (h : c ∈ m.text.toList) :
    c = '-' ∨ c.isDigit = true := by
  have hdigits {n : Nat} (hc : c ∈ Nat.toDigits 10 n) : c.isDigit = true :=
    Nat.isDigit_of_mem_toDigits (by decide) (by decide) hc
  rcases m with ⟨n | n, hleast, hgreatest⟩
  · exact Or.inr (hdigits (Nat.toList_repr ▸ h))
  · replace h : c ∈ ("-" ++ (n + 1).repr).toList := h
    rw [String.toList_append, Nat.toList_repr] at h
    rcases List.mem_append.1 h with h | h
    · exact Or.inl (List.mem_singleton.1 h)
    · exact Or.inr (hdigits h)

end Magnitude

end Rerank
