/-
The order of actions, kind by kind, and the greatest of some actions.

Actions compare by kind before they compare by magnitude, so between two kinds the magnitudes do
not matter, whatever their signs.  The main result is `greatest?_eq_some_iff`: the greatest of some
actions is one of them, and none of them exceeds it.
-/
import Mathlib.Data.List.Basic
import Rerank.Action

namespace Rerank

namespace Action

lemma le_genericDiscard_iff {a : Action} : a ≤ .genericDiscard ↔ a = .genericDiscard := by
  cases a <;> simp [le_def, rank, weight, score?]

lemma specificDiscard_le_iff {a : Action} : .specificDiscard ≤ a ↔ a = .specificDiscard := by
  cases a <;> simp [le_def, rank, weight, score?]

lemma genericDiscard_le (a : Action) : .genericDiscard ≤ a := by
  cases a <;> simp [le_def, rank, weight, score?]

lemma le_specificDiscard (a : Action) : a ≤ .specificDiscard := by
  cases a <;> simp [le_def, rank, weight, score?]

lemma boost_le_boost_iff {m n : Magnitude} : boost m ≤ boost n ↔ m.val ≤ n.val := by
  simp [le_def, rank, weight, score?]

lemma downrank_le_downrank_iff {m n : Magnitude} : downrank m ≤ downrank n ↔ m.val ≤ n.val := by
  simp [le_def, rank, weight, score?]

/-- A boost is above every downrank. -/
lemma not_boost_le_downrank (m n : Magnitude) : ¬ boost m ≤ downrank n := by
  simp [le_def, rank]

/-- What is at least a boost is a boost that is no weaker, or a specific discard. -/
lemma boost_le_iff {m : Magnitude} {a : Action} :
    boost m ≤ a ↔ (∃ n, a = boost n ∧ m.val ≤ n.val) ∨ a = .specificDiscard := by
  cases a <;> simp [le_def, rank, weight, score?]

/-- What is at least a downrank is a downrank that is no weaker, a boost, or a specific discard. -/
lemma downrank_le_iff {m : Magnitude} {a : Action} :
    downrank m ≤ a ↔
      (∃ n, a = downrank n ∧ m.val ≤ n.val) ∨ (∃ n, a = boost n) ∨ a = .specificDiscard := by
  cases a <;> simp [le_def, rank, weight, score?]

@[simp] lemma outcome_genericDiscard : outcome .genericDiscard = .discard := rfl

@[simp] lemma outcome_downrank (m : Magnitude) : outcome (.downrank m) = .score m := rfl

@[simp] lemma outcome_boost (m : Magnitude) : outcome (.boost m) = .score m := rfl

@[simp] lemma outcome_specificDiscard : outcome .specificDiscard = .discard := rfl

/-- An action always decides something. -/
lemma outcome_ne_noOpinion (a : Action) : a.outcome ≠ .noOpinion := by
  cases a <;> simp

lemma le_of_lt {a b : Action} (h : a < b) : a ≤ b :=
  (le_total a b).resolve_right (lt_iff_not_le.1 h)

lemma le_of_not_lt {a b : Action} (h : ¬ a < b) : b ≤ a := by
  rwa [lt_iff_not_le, not_not] at h

lemma lt_of_le_of_lt {a b c : Action} (hab : a ≤ b) (hbc : b < c) : a < c :=
  lt_iff_not_le.2 fun hca => lt_iff_not_le.1 hbc (le_trans hca hab)

lemma max_eq (a b : Action) : max a b = if a ≤ b then b else a := rfl

/-- The greater of two actions is one of them, and is at least each of them. -/
lemma max_eq_iff {a b c : Action} : max a b = c ↔ (c = a ∨ c = b) ∧ a ≤ c ∧ b ≤ c := by
  rw [max_eq]
  constructor
  · rintro rfl
    split
    · next h => exact ⟨Or.inr rfl, h, le_refl b⟩
    · next h => exact ⟨Or.inl rfl, le_refl a, (le_total a b).resolve_left h⟩
  · rintro ⟨rfl | rfl, ha, hb⟩
    · split
      · next h => exact le_antisymm hb h
      · rfl
    · rw [if_pos ha]

lemma max_genericDiscard (a : Action) : max .genericDiscard a = a :=
  if_pos (genericDiscard_le a)

lemma max_specificDiscard_left (a : Action) : max .specificDiscard a = .specificDiscard :=
  max_eq_iff.2 ⟨Or.inl rfl, le_refl _, le_specificDiscard a⟩

lemma max_specificDiscard_right (a : Action) : max a .specificDiscard = .specificDiscard :=
  if_pos (le_specificDiscard a)

/-- The greater of two boosts is the larger one. -/
lemma max_boost_boost (m n : Magnitude) : ∃ k : Magnitude,
    k.val = max n.val m.val ∧ max (boost m) (boost n) = boost k := by
  by_cases h : m.val ≤ n.val
  · exact ⟨n, by omega, if_pos (boost_le_boost_iff.2 h)⟩
  · exact ⟨m, by omega, if_neg (mt boost_le_boost_iff.1 h)⟩

/-- A boost prevails over all but boosts and specific discards. -/
lemma max_boost_of_ne {m : Magnitude} {a : Action} (hspecific : a ≠ .specificDiscard)
    (hboost : ∀ n, a ≠ .boost n) : max (boost m) a = boost m := by
  refine if_neg fun hle => ?_
  rcases boost_le_iff.1 hle with ⟨n, rfl, -⟩ | rfl
  · exact hboost n rfl
  · exact hspecific rfl

lemma greatest?_eq_none_iff {l : List Action} : greatest? l = none ↔ l = [] := by
  rcases l with _ | ⟨a, l⟩
  · simp [greatest?]
  · rw [greatest?]
    split <;> simp

/-- **The greatest of some actions** is one of them, and none of them exceeds it. -/
theorem greatest?_eq_some_iff {l : List Action} {a : Action} :
    greatest? l = some a ↔ a ∈ l ∧ ∀ b ∈ l, b ≤ a := by
  induction l generalizing a with
  | nil => simp [greatest?]
  | cons c l ih =>
    rw [greatest?]
    split
    · next hnone =>
      obtain rfl := greatest?_eq_none_iff.1 hnone
      constructor
      · rintro ⟨⟩
        simp [le_refl]
      · rintro ⟨h, -⟩
        rw [List.mem_singleton.1 h]
    · next b hb =>
      obtain ⟨hmem, hmax⟩ := ih.1 hb
      rw [Option.some.injEq, max_eq_iff, List.forall_mem_cons, List.mem_cons]
      constructor
      · rintro ⟨hor, hc, hba⟩
        refine ⟨hor.imp_right (by rintro rfl; exact hmem), hc, fun x hx => ?_⟩
        exact le_trans (hmax x hx) hba
      · rintro ⟨hor, hc, hall⟩
        refine ⟨hor.imp_right fun h => ?_, hc, hall b hmem⟩
        exact le_antisymm (hmax a h) (hall b hmem)

end Action

end Rerank
