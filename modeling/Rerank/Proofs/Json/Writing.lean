/-
What is written as JSON is a spelling.

Names without escapes, integers in decimal and objects of such members are spellings of the values that
they are meant for.
-/
import Rerank.Json.Form
import Rerank.Proofs.Json.Reading

namespace Rerank.Json

/-- A name that needs no escape. -/
def IsPlain (s : String) : Prop :=
  ∀ c ∈ s.toList, 0x20 ≤ c.toNat ∧ c ≠ '"' ∧ c ≠ '\\'

instance (s : String) : Decidable (IsPlain s) :=
  List.decidableBAll _ s.toList

/-! ### Names -/

lemma decode_map_char (s : List Char) : decode (s.map .char) = some s := by
  induction s with
  | nil => rfl
  | cons c s ih => rw [List.map_cons, decode, ih]; rfl

lemma unitsSpelled_map_char {s : List Char}
    (h : ∀ c ∈ s, 0x20 ≤ c.toNat ∧ c ≠ '"' ∧ c ≠ '\\') : UnitsSpelled (s.map .char) s := by
  induction s with
  | nil => exact .nil
  | cons c s ih =>
    obtain ⟨⟨hcontrol, hquote, hbackslash⟩, hs⟩ := List.forall_mem_cons.1 h
    exact .cons (.plain hcontrol hquote hbackslash) (ih hs)

lemma textSpelled_name {s : String} (h : IsPlain s) : TextSpelled (some s) (name s).toList := by
  have hspelled := TextSpelled.quoted (unitsSpelled_map_char h)
  rw [decode_map_char, Option.map_some, String.ofList_toList] at hspelled
  simpa [name] using hspelled

/-! ### Integers -/

/-- A number in decimal has no leading zeros. -/
lemma head?_toDigits_ne {n : Nat} (h : n ≠ 0) : (Nat.toDigits 10 n).head? ≠ some '0' := by
  induction n using Nat.strong_induction_on with
  | _ n ih =>
    by_cases hlt : n < 10
    · rw [Nat.toDigits_of_lt_base hlt]
      have hall : ∀ n < 10, n ≠ 0 → [n.digitChar].head? ≠ some '0' := by decide
      exact hall n hlt h
    · rw [Nat.toDigits_of_base_le (by decide) (Nat.le_of_not_lt hlt),
        List.head?_append_of_ne_nil _ Nat.toDigits_ne_nil]
      exact ih (n / 10) (by omega) (by omega)

lemma isNumeral_toDigits (n : Nat) : IsNumeral (Nat.toDigits 10 n) := by
  have hrun := Magnitude.isRun_toDigits n
  refine ⟨⟨hrun.ne_nil, hrun.isDigit⟩, fun hhead => ?_⟩
  by_cases h : n = 0
  · rw [h, Nat.toDigits_zero]
  · exact absurd hhead (head?_toDigits_ne h)

/-- **The decimal text of an integer spells it.** -/
lemma numberSpelled_int (n : Int) : NumberSpelled (.integer n) (toString n).toList := by
  rcases n with n | n
  · have hspelled := @NumberSpelled.integer false _ (isNumeral_toDigits n) (by simp)
    have htext : (toString (Int.ofNat n)).toList = minus false ++ Nat.toDigits 10 n :=
      Nat.toList_repr
    rw [Magnitude.placeValue_toDigits] at hspelled
    rw [htext]
    exact hspelled
  · have hspelled := @NumberSpelled.integer true _ (isNumeral_toDigits (n + 1)) (by
      rw [Magnitude.placeValue_toDigits]
      exact fun _ => Nat.succ_ne_zero n)
    have htext : (toString (Int.negSucc n)).toList = minus true ++ Nat.toDigits 10 (n + 1) := by
      show ("-" ++ (n + 1).repr).toList = _
      rw [String.toList_append, Nat.toList_repr]
      rfl
    rw [Magnitude.placeValue_toDigits] at hspelled
    rw [htext]
    exact hspelled

/-! ### Objects -/

/-- A member is spelled as its key and its value. -/
lemma toList_member (key value : String) :
    (member key value).toList = ((name key).toList ++ [':']) ++ value.toList := by
  simp [member, name]

lemma keySpelled_name {key : String} (h : IsPlain key) :
    KeySpelled (some key) ((name key).toList ++ [':']) :=
  .colon (textSpelled_name h) .nil .nil

lemma spelled_object_one {key text : String} {v : Value} (hkey : IsPlain key)
    (hv : Spelled (.value v) text.toList) :
    Spelled (.value (.object [(some key, v)])) (object [member key text]).toList := by
  have hspelled := Spelled.object .nil (.member (keySpelled_name hkey) hv .nil)
  simpa [object, toList_member] using hspelled

lemma spelled_object_two {key key' text text' : String} {v v' : Value} (hkey : IsPlain key)
    (hkey' : IsPlain key') (hv : Spelled (.value v) text.toList)
    (hv' : Spelled (.value v') text'.toList) :
    Spelled (.value (.object [(some key, v), (some key', v')]))
      (object [member key text, member key' text']).toList := by
  have hlast := Spelled.member (keySpelled_name hkey') hv' .nil
  have hspelled := Spelled.object .nil (.moreMembers (keySpelled_name hkey) hv .nil .nil hlast)
  have hmembers : ",".intercalate [member key text, member key' text'] =
      member key text ++ "," ++ member key' text' := rfl
  simpa [object, hmembers, toList_member] using hspelled

/-- A spelling by itself holds its value. -/
lemma Spelled.holds {v : Value} {p : List Char} (h : Spelled (.value v) p) : Holds p v := by
  have hholds := Holds.around .nil h .nil
  rwa [List.nil_append, List.append_nil] at hholds

end Rerank.Json
