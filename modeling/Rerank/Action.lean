/-
What a rule does to a search result, and which of several rules prevails.

Actions are ordered: a generic discard is below every downrank, a downrank below every
boost, and a boost below a specific discard; two downranks or two boosts compare by their
magnitudes.  The greatest action that any rule asks for decides.

The order is linear (`le_refl`, `le_trans`, `le_antisymm`, `le_total`), so it does not matter
in which order actions are asked for, or how often.
-/
import Rerank.Outcome

namespace Rerank

/-- What a rule does to a search result. -/
inductive Action
  /-- It is removed unless another rule asks for something else. -/
  | genericDiscard
  /-- It is moved by a magnitude, which is negative as a rule. -/
  | downrank (m : Magnitude)
  /-- It is moved by a magnitude. -/
  | boost (m : Magnitude)
  /-- It is removed. -/
  | specificDiscard
  deriving DecidableEq, Repr

namespace Action

/-- The place of the kind of an action in the order of kinds. -/
def rank : Action → Nat
  | .genericDiscard => 0
  | .downrank _ => 1
  | .boost _ => 2
  | .specificDiscard => 3

/-- The magnitude by which an action moves a result, if it does. -/
def score? : Action → Option Magnitude
  | .downrank m => some m
  | .boost m => some m
  | _ => none

/-- The integer by which actions of one kind compare. -/
def weight (a : Action) : Int :=
  match a.score? with
  | some m => m.val
  | none => 0

/-- Actions compare by kind and then by magnitude. -/
instance : LE Action :=
  ⟨fun a b => a.rank < b.rank ∨ a.rank = b.rank ∧ a.weight ≤ b.weight⟩

instance : LT Action :=
  ⟨fun a b => a.rank < b.rank ∨ a.rank = b.rank ∧ a.weight < b.weight⟩

theorem le_def {a b : Action} :
    a ≤ b ↔ a.rank < b.rank ∨ a.rank = b.rank ∧ a.weight ≤ b.weight := Iff.rfl

theorem lt_def {a b : Action} :
    a < b ↔ a.rank < b.rank ∨ a.rank = b.rank ∧ a.weight < b.weight := Iff.rfl

instance (a b : Action) : Decidable (a ≤ b) :=
  inferInstanceAs (Decidable (_ ∨ _))

instance (a b : Action) : Decidable (a < b) :=
  inferInstanceAs (Decidable (_ ∨ _))

/-- Kind and weight determine an action. -/
theorem eq_of_rank_of_weight {a b : Action} (hr : a.rank = b.rank) (hw : a.weight = b.weight) :
    a = b := by
  cases a <;> cases b <;> simp_all [rank, weight, score?, Magnitude.ext_iff]

theorem le_refl (a : Action) : a ≤ a :=
  Or.inr ⟨rfl, Int.le_refl _⟩

theorem le_trans {a b c : Action} (hab : a ≤ b) (hbc : b ≤ c) : a ≤ c := by
  rw [le_def] at *
  omega

theorem le_total (a b : Action) : a ≤ b ∨ b ≤ a := by
  rw [le_def, le_def]
  omega

theorem le_antisymm {a b : Action} (hab : a ≤ b) (hba : b ≤ a) : a = b := by
  rw [le_def] at *
  exact eq_of_rank_of_weight (by omega) (by omega)

/-- An action is below another one exactly if it is not at least that one. -/
theorem lt_iff_not_le {a b : Action} : a < b ↔ ¬ b ≤ a := by
  rw [le_def, lt_def]
  omega

/-- The greater of two actions. -/
instance : Max Action := ⟨fun a b => if a ≤ b then b else a⟩

/-- The greatest of some actions. -/
def greatest? : List Action → Option Action
  | [] => none
  | a :: rest =>
    match greatest? rest with
    | none => some a
    | some b => some (max a b)

/-- How one action compares with another. -/
def compare (a b : Action) : Ordering :=
  if a < b then .lt else if b < a then .gt else .eq

/-- Whether an action removes the result. -/
def isDiscard : Action → Bool
  | .genericDiscard => true
  | .specificDiscard => true
  | _ => false

/-- The decision that an action stands for. -/
def outcome (a : Action) : Outcome :=
  match a.score? with
  | some m => .score m
  | none => .discard

/-- The action in words. -/
def text : Action → String
  | .genericDiscard => "generic discard"
  | .downrank m => "downrank(" ++ m.text ++ ")"
  | .boost m => "boost(" ++ m.text ++ ")"
  | .specificDiscard => "specific discard"

/-- The action as it is named in the log. -/
def name : Action → String
  | .genericDiscard => "GenericDiscard"
  | .downrank m => "Downrank(" ++ m.text ++ ")"
  | .boost m => "Boost(" ++ m.text ++ ")"
  | .specificDiscard => "SpecificDiscard"

end Action

end Rerank
