/-
Which magnitude the value of an option asks for.

A value that is missing or empty asks for 1, one that begins with a number for that number, and
any other for 0 (`Magnitude.Asked`).  The main statement is `asked_ofValue`.
-/
import Mathlib.Data.List.Basic
import Rerank.Magnitude

namespace Rerank

namespace Magnitude

/-- A text begins with a number: with a digit of ASCII, or with a sign and a digit behind it. -/
def BeginsWithNumber (s : List Char) : Prop :=
  ∃ sign digit rest, s = sign ++ digit :: rest ∧ sign ∈ [[], ['+'], ['-']] ∧ digit.isDigit = true

/-- The magnitude that a value asks for. -/
inductive Asked : Option String → Magnitude → Prop
  | missing : Asked none (clamp 1)
  | empty : Asked (some "") (clamp 1)
  | number {value : String} {m : Magnitude} (h : BeginsWithNumber value.toList)
      (hm : leading? value.toList = some m) : Asked (some value) m
  | other {value : String} (hne : value ≠ "") (h : ¬ BeginsWithNumber value.toList) :
      Asked (some value) (clamp 0)

/-- Behind the sign, a text that begins with a number has a digit. -/
lemma beginsWithNumber_iff (s : List Char) :
    BeginsWithNumber s ↔ ∃ digit ∈ (sign s).2.head?, digit.isDigit = true := by
  constructor
  · rintro ⟨front, digit, rest, rfl, hfront, hdigit⟩
    simp only [List.mem_cons, List.not_mem_nil, or_false] at hfront
    rcases hfront with rfl | rfl | rfl
    · have hplus : digit ≠ '+' := by rintro rfl; exact absurd hdigit (by decide)
      have hminus : digit ≠ '-' := by rintro rfl; exact absurd hdigit (by decide)
      refine ⟨digit, ?_, hdigit⟩
      rw [List.nil_append, sign]
      · rfl
      · intro t ht
        exact hminus (List.cons.inj ht).1
      · intro t ht
        exact hplus (List.cons.inj ht).1
    · exact ⟨digit, rfl, hdigit⟩
    · exact ⟨digit, rfl, hdigit⟩
  · rintro ⟨digit, hhead, hdigit⟩
    unfold sign at hhead
    split at hhead
    · next t =>
      obtain ⟨rest, rfl⟩ := List.head?_eq_some_iff.1 hhead
      exact ⟨['-'], digit, rest, rfl, by simp, hdigit⟩
    · next t =>
      obtain ⟨rest, rfl⟩ := List.head?_eq_some_iff.1 hhead
      exact ⟨['+'], digit, rest, rfl, by simp, hdigit⟩
    · obtain ⟨rest, rfl⟩ := List.head?_eq_some_iff.1 hhead
      exact ⟨[], digit, rest, rfl, by simp, hdigit⟩

/-- A number is read where a text begins with one, and nowhere else. -/
lemma isSome_leading?_iff (s : List Char) : (leading? s).isSome = true ↔ BeginsWithNumber s := by
  rw [beginsWithNumber_iff]
  have hleading : (leading? s).isSome = !((sign s).2.takeWhile Char.isDigit).isEmpty := by
    rcases h : sign s with ⟨negative, t⟩
    simp only [leading?, h]
    rcases t.takeWhile Char.isDigit with _ | ⟨digit, digits⟩ <;> rfl
  rw [hleading]
  rcases (sign s).2 with _ | ⟨c, rest⟩
  · simp
  · by_cases hc : c.isDigit = true <;> simp [hc]

/-- **The magnitude of a value** is the one that it asks for. -/
lemma asked_ofValue (value : Option String) : Asked value (ofValue (value.getD "")) := by
  rcases value with _ | value
  · exact .missing
  · by_cases hempty : value = ""
    · subst hempty
      exact .empty
    · have hnot : value.isEmpty = false := by simpa using hempty
      rw [Option.getD_some, ofValue, hnot]
      by_cases h : BeginsWithNumber value.toList
      · obtain ⟨m, hm⟩ := Option.isSome_iff_exists.1 ((isSome_leading?_iff _).2 h)
        rw [hm]
        exact .number h hm
      · have hnone : leading? value.toList = none := by
          rw [← Option.not_isSome_iff_eq_none, isSome_leading?_iff]
          exact h
        rw [hnone]
        exact .other hempty h

end Magnitude

end Rerank
