/-
Domains keep the characters that stand around a host.

A colon or an at sign in a domain is neither mapped to another character nor dropped, and it
composes with nothing.  So it is still there when the forbidden characters are looked for, and
a domain that has an ASCII form has none of them (`not_mem_of_toAscii?`).

That nothing composes with them is a property of the data: neither is part of a composition
(`not_parting_of_mem_compositeTable`).  The other facts follow from where the tables begin.
-/
import Mathlib.Tactic.Lemma
import Rerank.Domain.Ascii

namespace Rerank.Domain

/-- The characters that part a host from what stands before and behind it: an at sign and a
colon. -/
def Parting (c : Char) : Prop :=
  c = ':' ∨ c = '@'

instance (c : Char) : Decidable (Parting c) :=
  inferInstanceAs (Decidable (_ ∨ _))

namespace Parting

variable {c : Char}

/-- They stand before the letters in the order of code points. -/
lemma toNat_lt (h : Parting c) : c.toNat < 0x41 := by
  rcases h with rfl | rfl <;> decide

lemma isForbidden (h : Parting c) : isForbidden c = true := by
  rcases h with rfl | rfl <;> decide

lemma toLower_eq (h : Parting c) : c.toLower = c := by
  rcases h with rfl | rfl <;> decide

/-- The mapping leaves them alone. -/
lemma char?_eq (h : Parting c) : Mapping.char? c = some [c] := by
  have hstatus : Mapping.statusTable.get c = 0 := by
    unfold Mapping.statusTable
    exact Text.StepTable.get_of_row
      (by decide +kernel : (Text.rowNumbers _).take 2 = [0x41, 0]) h.toNat_lt
  simp only [Mapping.char?, hstatus]

end Parting

namespace Canonical

/-- A character that composition leaves alone: a base character that does not come apart and is
no part of another one. -/
structure Inert (c : Char) : Prop where
  /-- It does not come apart. -/
  parts : charParts listedParts? 8 c = [c]
  /-- It is a base character. -/
  base : combiningClass c = 0
  /-- It does not compose with what follows it. -/
  before : ∀ x, whole? c x = none
  /-- It does not compose with what precedes it. -/
  behind : ∀ x, whole? x c = none

/-- No composition has a character that parts as one of its parts. -/
lemma not_parting_of_mem_compositeTable {entry : Nat × List Char}
    (h : entry ∈ compositeTable.entries) : ∀ c ∈ entry.2, ¬ Parting c := by
  unfold compositeTable at h
  refine Text.SequenceTable.forall_mem_of_mem_entriesFrom ?_ (List.mem_toArray.1 h)
  -- Row by row, because only a row is short enough to be computed with at once.
  repeat refine Text.forall_mem_hexNumbers_cons (by decide +kernel) ?_
  exact fun n hn => absurd hn List.not_mem_nil

/-- What composes with another character is a part of a composition, or of Hangul. -/
lemma whole?_eq_none {a b : Char} (hhangul : hangulWhole? a b = none)
    (hparts : Parting a ∨ Parting b) : whole? a b = none := by
  have hfind : compositeTable.entries.find? (·.2 == [a, b]) = none := by
    refine Array.find?_eq_none.2 fun entry hentry heq => ?_
    have hchars : entry.2 = [a, b] := by simpa using heq
    have hnot := not_parting_of_mem_compositeTable hentry
    rcases hparts with ha | hb
    · exact hnot a (by simp [hchars]) ha
    · exact hnot b (by simp [hchars]) hb
  rw [whole?, hhangul, hfind]
  rfl

/-- A character with no decomposition does not come apart. -/
lemma charParts_eq_self {listed? : Char → Option (List Char)} {c : Char}
    (hhangul : hangulParts? c = none) (hlisted : listed? c = none) (depth : Nat) :
    charParts listed? depth c = [c] := by
  rcases depth with _ | depth
  · rw [charParts]
  · simp only [charParts, hhangul, hlisted]

/-- Before the first decomposition of a table no parts are listed. -/
lemma listedParts?_eq_none {c : Char} (h : c.toNat < 0xC0) : listedParts? c = none := by
  have hcomposite : compositeTable.find? c = none := by
    unfold compositeTable
    exact Text.SequenceTable.find?_of_row
      (by decide +kernel : (Text.rowNumbers _).head? = some 0xC0) h
  have hsingleton : singletonTable.find? c = none := by
    unfold singletonTable
    exact Text.SequenceTable.find?_of_row
      (by decide +kernel : (Text.rowNumbers _).head? = some 0x340) (by omega)
  rw [listedParts?, hcomposite, hsingleton]
  rfl

/-- The characters before the first combining mark are base characters. -/
lemma combiningClass_eq_zero {c : Char} (h : c.toNat < 0x300) : combiningClass c = 0 := by
  unfold combiningClass combiningClassTable
  exact Text.StepTable.get_of_row
    (by decide +kernel : (Text.rowNumbers _).take 2 = [0x300, 0]) h

/-- The characters that part are left alone by composition. -/
lemma inert_of_parting {c : Char} (h : Parting c) : Inert c := by
  have hlt : c.toNat < 0x41 := h.toNat_lt
  have hhangul : hangulParts? c = none := by
    unfold hangulParts? syllableBase
    dsimp only
    rw [if_neg (by omega)]
  refine ⟨charParts_eq_self hhangul (listedParts?_eq_none (by omega)) 8,
    combiningClass_eq_zero (by omega), fun x => whole?_eq_none ?_ (.inl h),
    fun x => whole?_eq_none ?_ (.inr h)⟩
  · unfold hangulWhole? leadBase syllableBase
    dsimp only
    rw [if_neg (by omega), if_neg (by omega)]
  · unfold hangulWhole? vowelBase trailBase
    dsimp only
    rw [if_neg (by omega), if_neg (by omega)]

/-- Putting a mark in its place loses nothing. -/
lemma insertMark_perm (c : Char) (back : List Char) : (insertMark c back).Perm (c :: back) := by
  induction back with
  | nil => exact List.Perm.refl _
  | cons x back ih =>
    rw [insertMark]
    split
    · exact (ih.cons x).trans (List.Perm.swap c x back)
    · exact List.Perm.refl _

/-- Sorting the marks loses nothing. -/
lemma sortMarks_perm (s : List Char) : (sortMarks s).Perm s := by
  have hfold : ∀ back : List Char,
      (s.foldl (fun back c => insertMark c back) back).Perm (s.reverse ++ back) := by
    induction s with
    | nil => exact fun back => List.Perm.refl _
    | cons c s ih =>
      intro back
      rw [List.foldl_cons, List.reverse_cons, List.append_assoc]
      exact (ih _).trans ((insertMark_perm c back).append_left s.reverse)
  have hnil := hfold []
  rw [List.append_nil] at hnil
  exact (List.reverse_perm _).trans (hnil.trans (List.reverse_perm s))

namespace Open

/-- What has been put together, in order. -/
def chars (o : Open) : List Char :=
  (o.marks ++ o.base :: o.back).reverse

variable {c : Char}

@[simp] lemma mem_chars {o : Open} :
    c ∈ o.chars ↔ c ∈ o.back ∨ c = o.base ∨ c ∈ o.marks := by
  simp [chars]

/-- A character that composition leaves alone stays when another one is read. -/
lemma mem_chars_read (hc : Inert c) {o : Open} (h : c ∈ o.chars) (x : Char) :
    c ∈ (o.read x).chars := by
  rw [mem_chars] at h
  simp only [read]
  split
  · next base hbase =>
    -- The base character was composed, so it is another one than `c`.
    have hne : c ≠ o.base := by
      rintro rfl
      have hwhole := (Option.ite_none_right_eq_some.1 hbase).2
      rw [hc.before] at hwhole
      simp at hwhole
    rcases h with h | h | h
    · simp [h]
    · exact absurd h hne
    · simp [h]
  · split
    · rcases h with h | h | h <;> simp [h]
    · rcases h with h | h | h <;> simp [h]

/-- A character that composition leaves alone is there once it has been read. -/
lemma mem_chars_read_self (hc : Inert c) (o : Open) : c ∈ (o.read c).chars := by
  simp only [read, hc.behind, hc.base, ite_self, if_true]
  simp [chars]

/-- Reading on keeps the characters that composition leaves alone. -/
lemma mem_chars_foldl (hc : Inert c) {o : Open} {s : List Char} (h : c ∈ o.chars ∨ c ∈ s) :
    c ∈ (s.foldl read o).chars := by
  induction s generalizing o with
  | nil => simpa using h
  | cons x s ih =>
    rw [List.foldl_cons]
    rcases h with h | h
    · exact ih (.inl (mem_chars_read hc h x))
    · rcases List.mem_cons.1 h with rfl | h
      · exact ih (.inl (mem_chars_read_self hc o))
      · exact ih (.inr h)

end Open

variable {c : Char}

/-- Putting characters together keeps those that composition leaves alone. -/
lemma mem_putTogether (hc : Inert c) {s : List Char} (h : c ∈ s) : c ∈ putTogether s := by
  induction s with
  | nil => exact h
  | cons x s ih =>
    rw [putTogether]
    split
    · next hx =>
      rcases List.mem_cons.1 h with rfl | h
      · exact absurd hc.base hx
      · exact List.mem_cons_of_mem x (ih h)
    · refine Open.mem_chars_foldl hc ?_
      rcases List.mem_cons.1 h with rfl | h
      · exact .inl (by simp [Open.chars])
      · exact .inr h

/-- Composition keeps the characters that it leaves alone. -/
lemma mem_compose (hc : Inert c) {s : List Char} (h : c ∈ s) : c ∈ compose s := by
  refine mem_putTogether hc ((sortMarks_perm _).mem_iff.2 ?_)
  exact List.mem_flatMap.2 ⟨c, h, by simp [hc.parts]⟩

end Canonical

/-- The first character of a text that is mapped is mapped first. -/
lemma Mapping.text?_cons_eq_some_iff {x : Char} {s mapped : List Char} :
    text? (x :: s) = some mapped ↔
      ∃ first rest, char? x = some first ∧ text? s = some rest ∧ first ++ rest = mapped := by
  rcases hx : char? x with _ | first
  · simp [text?, hx]
  · rcases hs : s.mapM char? with _ | parts
    · simp [text?, hx, hs]
    · simp [text?, hx, hs]

/-- A character that stands for itself stays in a text that is mapped. -/
lemma Mapping.mem_of_text? {c : Char} (hc : char? c = some [c]) {s mapped : List Char}
    (hs : c ∈ s) (h : text? s = some mapped) : c ∈ mapped := by
  induction s generalizing mapped with
  | nil => simp at hs
  | cons x s ih =>
    obtain ⟨first, rest, hx, hrest, rfl⟩ := text?_cons_eq_some_iff.1 h
    rcases List.mem_cons.1 hs with rfl | hs
    · obtain rfl : [c] = first := Option.some.inj (hc.symm.trans hx)
      simp
    · exact List.mem_append_right first (ih hs hrest)

/-- A domain that has an ASCII form holds no colon and no at sign. -/
theorem not_mem_of_toAscii? {c : Char} (hc : Parting c) {s ascii : List Char}
    (h : toAscii? s = some ascii) : c ∉ s := by
  intro hs
  rw [toAscii?] at h
  split at h
  · -- Lower-casing keeps it, and it is found to be forbidden.
    have hany : (s.map Char.toLower).any isForbidden = true := by
      refine List.any_eq_true.2 ⟨c, ?_, hc.isForbidden⟩
      exact List.mem_map.2 ⟨c, hs, hc.toLower_eq⟩
    simp [hany] at h
  · rcases hmapped : Mapping.text? s with _ | mapped
    · simp [hmapped] at h
    · have hany : (Canonical.compose mapped).any isForbidden = true := by
        refine List.any_eq_true.2 ⟨c, ?_, hc.isForbidden⟩
        exact Canonical.mem_compose (Canonical.inert_of_parting hc)
          (Mapping.mem_of_text? hc.char?_eq hs hmapped)
      simp only [hmapped, Option.bind_eq_bind, Option.bind_some, hany, if_true] at h
      simp at h

end Rerank.Domain
