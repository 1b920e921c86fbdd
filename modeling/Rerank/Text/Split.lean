/-
Cutting a text at a character, and into lines.

`cut` stops at the first occurrence of a character, `afterLast` starts behind the last one,
and `pieces` cuts at every one; `joined` puts pieces together again.  `lines` reads a text
as lines that end in a line feed.  A carriage return directly before the line feed belongs
to the line's end; one that stands elsewhere, also at the end of a last line without a line
feed, belongs to the line.

The main statements are `joined_pieces`, that cutting loses nothing, `not_mem_pieces`, that no
piece holds the character at which the text was cut, and `pieces_joined`, that pieces without
that character are found again.  `cut_append_cons` and
`pieces_append_cons` say where the first cut is made; dropping other characters does not move
it (`cut_filter`, `afterLast_filter`).
-/

namespace Rerank.Text

/-- The text before the first `c`, and the text after it if there is one. -/
def cut (c : Char) : List Char → List Char × Option (List Char)
  | [] => ([], none)
  | x :: s =>
    if x = c then ([], some s)
    else ((x :: (cut c s).1), (cut c s).2)

/-- The text after the last `c`, or all of it if there is none. -/
def afterLast (c : Char) (s : List Char) : List Char :=
  (s.reverse.takeWhile (· ≠ c)).reverse

/-- The pieces between the occurrences of `c`; there is one more of them than of `c`. -/
def pieces (c : Char) : List Char → List (List Char)
  | [] => [[]]
  | x :: s =>
    if x = c then [] :: pieces c s
    else
      match pieces c s with
      | piece :: rest => (x :: piece) :: rest
      | [] => [[x]]

/-- The pieces with `c` between them. -/
def joined (c : Char) : List (List Char) → List Char
  | [] => []
  | [piece] => piece
  | piece :: next :: rest => piece ++ c :: joined c (next :: rest)

/-- A line without the carriage return at its end, if it has one. -/
def dropReturn (line : List Char) : List Char :=
  if line.getLast? = some '\r' then line.dropLast else line

/-- The lines of a text.  The text after the last line feed is a line only if it is not
empty, and it keeps a carriage return at its end. -/
def lines (text : List Char) : List (List Char) :=
  let ps := pieces '\n' text
  let ended := ps.dropLast.map dropReturn
  match ps.getLast? with
  | some (c :: rest) => ended ++ [c :: rest]
  | _ => ended

/-- A text without the character is not cut. -/
theorem cut_of_not_mem {c : Char} {s : List Char} (h : c ∉ s) : cut c s = (s, none) := by
  induction s with
  | nil => rfl
  | cons x s ih =>
    have hx : c ≠ x := List.ne_of_not_mem_cons h
    have hs : c ∉ s := List.not_mem_of_not_mem_cons h
    rw [cut, if_neg (Ne.symm hx), ih hs]

/-- The cut is made at the first occurrence. -/
theorem cut_append_cons {c : Char} {a : List Char} (h : c ∉ a) (b : List Char) :
    cut c (a ++ c :: b) = (a, some b) := by
  induction a with
  | nil => simp [cut]
  | cons x a ih =>
    have hx : c ≠ x := List.ne_of_not_mem_cons h
    have ha : c ∉ a := List.not_mem_of_not_mem_cons h
    rw [List.cons_append, cut, if_neg (Ne.symm hx), ih ha]

/-- What comes before the cut does not hold the character. -/
theorem not_mem_cut (c : Char) (s : List Char) : c ∉ (cut c s).1 := by
  induction s with
  | nil => simp [cut]
  | cons x s ih =>
    by_cases hx : x = c
    · simp [cut, hx]
    · rw [cut, if_neg hx]
      exact List.not_mem_cons_of_ne_of_not_mem (Ne.symm hx) ih

/-- Cutting loses nothing but the character. -/
theorem append_cut (c : Char) (s : List Char) :
    (cut c s).1 ++ (cut c s).2.elim [] (c :: ·) = s := by
  induction s with
  | nil => rfl
  | cons x s ih =>
    by_cases hx : x = c
    · simp [cut, hx]
    · rw [cut, if_neg hx, List.cons_append, ih]

/-- Dropping other characters does not move the cut. -/
theorem cut_filter {c : Char} {p : Char → Bool} (h : p c = true) (s : List Char) :
    cut c (s.filter p) = ((cut c s).1.filter p, (cut c s).2.map (List.filter p)) := by
  induction s with
  | nil => rfl
  | cons x s ih =>
    by_cases hx : x = c
    · subst hx
      rw [List.filter_cons_of_pos h, cut, if_pos rfl, cut, if_pos rfl]
      rfl
    · rw [cut, if_neg hx]
      by_cases hp : p x = true
      · rw [List.filter_cons_of_pos hp, cut, if_neg hx, ih, List.filter_cons_of_pos hp]
      · rw [List.filter_cons_of_neg hp, ih, List.filter_cons_of_neg hp]

/-- A text without the character comes after none. -/
theorem afterLast_of_not_mem {c : Char} {s : List Char} (h : c ∉ s) : afterLast c s = s := by
  have hall : ∀ x ∈ s.reverse, decide (x ≠ c) = true := by
    rintro x hx
    have hxs : x ∈ s := List.mem_reverse.1 hx
    simpa using fun hxc : x = c => h (hxc ▸ hxs)
  rw [afterLast, ← List.append_nil s.reverse, List.takeWhile_append_of_pos hall,
    List.takeWhile_nil, List.append_nil, List.reverse_reverse]

/-- Only what follows the last occurrence counts. -/
theorem afterLast_append_of_mem {c : Char} {b : List Char} (h : c ∈ b) (a : List Char) :
    afterLast c (a ++ b) = afterLast c b := by
  have hne : (b.reverse.takeWhile (· ≠ c)).length ≠ b.reverse.length := by
    intro hlength
    have hself := (List.takeWhile_sublist (· ≠ c)).eq_of_length hlength
    have hc : c ∈ b.reverse.takeWhile (· ≠ c) := by
      rw [hself]
      exact List.mem_reverse.2 h
    simpa using List.all_eq_true.1 (List.all_takeWhile (p := (· ≠ c)) (l := b.reverse)) c hc
  rw [afterLast, List.reverse_append, List.takeWhile_append, if_neg hne, ← afterLast]

/-- What follows the last occurrence is found. -/
theorem afterLast_append_cons {c : Char} {b : List Char} (h : c ∉ b) (a : List Char) :
    afterLast c (a ++ c :: b) = b := by
  have hall : ∀ x ∈ b.reverse, decide (x ≠ c) = true := by
    intro x hx
    have hxb : x ∈ b := List.mem_reverse.1 hx
    simpa using fun hxc : x = c => h (hxc ▸ hxb)
  rw [afterLast, List.reverse_append, List.reverse_cons, List.append_assoc,
    List.takeWhile_append_of_pos hall, List.singleton_append, List.takeWhile_cons_of_neg (by simp),
    List.append_nil, List.reverse_reverse]

/-- Dropping other characters does not change where the last occurrence is. -/
theorem afterLast_filter {c : Char} {p : Char → Bool} (h : p c = true) (s : List Char) :
    afterLast c (s.filter p) = (afterLast c s).filter p := by
  have hkeep : ∀ x, (!p x || decide (x ≠ c)) = decide (x ≠ c) := by
    intro x
    by_cases hx : x = c
    · simp [hx, h]
    · simp [hx]
  simp only [afterLast, ← List.filter_reverse, List.takeWhile_filter, hkeep]

@[simp] theorem pieces_nil (c : Char) : pieces c [] = [[]] := rfl

@[simp] theorem pieces_cons_self (c : Char) (s : List Char) :
    pieces c (c :: s) = [] :: pieces c s := by
  simp [pieces]

theorem pieces_ne_nil (c : Char) (s : List Char) : pieces c s ≠ [] := by
  rcases s with _ | ⟨x, s⟩
  · simp
  · unfold pieces
    split
    · simp
    · split <;> simp

/-- Another character goes to the front of the first piece. -/
theorem pieces_cons_of_ne {c x : Char} (h : x ≠ c) (s : List Char) :
    ∃ piece rest, pieces c s = piece :: rest ∧ pieces c (x :: s) = (x :: piece) :: rest := by
  rcases hp : pieces c s with _ | ⟨piece, rest⟩
  · exact absurd hp (pieces_ne_nil c s)
  · exact ⟨piece, rest, rfl, by rw [pieces, if_neg h, hp]⟩

/-- A text without the character is its only piece. -/
theorem pieces_of_not_mem {c : Char} {s : List Char} (h : c ∉ s) : pieces c s = [s] := by
  induction s with
  | nil => rfl
  | cons x s ih =>
    have hx : c ≠ x := List.ne_of_not_mem_cons h
    have hs : c ∉ s := List.not_mem_of_not_mem_cons h
    rw [pieces, if_neg (Ne.symm hx), ih hs]

/-- The first piece ends at the first occurrence. -/
theorem pieces_append_cons {c : Char} {a : List Char} (h : c ∉ a) (b : List Char) :
    pieces c (a ++ c :: b) = a :: pieces c b := by
  induction a with
  | nil => exact pieces_cons_self c b
  | cons x a ih =>
    have hx : c ≠ x := List.ne_of_not_mem_cons h
    have ha : c ∉ a := List.not_mem_of_not_mem_cons h
    rw [List.cons_append, pieces, if_neg (Ne.symm hx), ih ha]

/-- What holds of the texts without the character, and of a text if it holds of what follows its
first occurrence, holds of all texts. -/
@[elab_as_elim]
theorem cut_induction {c : Char} {motive : List Char → Prop}
    (last : ∀ piece, c ∉ piece → motive piece)
    (next : ∀ piece more, c ∉ piece → motive more → motive (piece ++ c :: more))
    (s : List Char) : motive s := by
  by_cases h : c ∈ s
  · obtain ⟨piece, more, hs, hpiece⟩ := List.eq_append_cons_of_mem h
    rw [hs]
    exact next piece more hpiece (cut_induction last next more)
  · exact last s h
termination_by s.length
decreasing_by
  rw [hs, List.length_append, List.length_cons]
  omega

/-- There is one piece more than occurrences of the character. -/
theorem length_pieces (c : Char) (s : List Char) : (pieces c s).length = s.count c + 1 := by
  induction s with
  | nil => rfl
  | cons x s ih =>
    by_cases h : x = c
    · subst h
      simp [ih]
    · obtain ⟨piece, rest, hp, hx⟩ := pieces_cons_of_ne h s
      rw [hx, List.count_cons_of_ne h, ← ih, hp]
      rfl

/-- No piece holds the character at which the text was cut. -/
theorem not_mem_pieces {c : Char} {s piece : List Char} (h : piece ∈ pieces c s) :
    c ∉ piece := by
  induction s generalizing piece with
  | nil => simp_all
  | cons x s ih =>
    by_cases hx : x = c
    · subst hx
      rw [pieces_cons_self] at h
      rcases List.mem_cons.1 h with rfl | h
      · simp
      · exact ih h
    · obtain ⟨first, rest, hp, hc⟩ := pieces_cons_of_ne hx s
      rw [hc] at h
      rcases List.mem_cons.1 h with rfl | h
      · have hfirst : c ∉ first := ih (by simp [hp])
        simp [hfirst, Ne.symm hx]
      · exact ih (by simp [hp, h])

/-- Every other character of a text is in one of the pieces. -/
theorem eq_or_mem_piece {c x : Char} {s : List Char} (h : x ∈ s) :
    x = c ∨ ∃ piece ∈ pieces c s, x ∈ piece := by
  induction s using cut_induction (c := c) with
  | last piece hpiece => exact .inr ⟨piece, by simp [pieces_of_not_mem hpiece], h⟩
  | next piece more hpiece ih =>
    rw [pieces_append_cons hpiece]
    rcases List.mem_append.1 h with h | h
    · exact .inr ⟨piece, List.mem_cons_self, h⟩
    · rcases List.mem_cons.1 h with rfl | h
      · exact .inl rfl
      · rcases ih h with rfl | ⟨found, hfound, hx⟩
        · exact .inl rfl
        · exact .inr ⟨found, List.mem_cons_of_mem _ hfound, hx⟩

/-- A piece that others follow has the character behind it. -/
theorem joined_cons_of_ne_nil {c : Char} {rest : List (List Char)} (h : rest ≠ [])
    (piece : List Char) : joined c (piece :: rest) = piece ++ c :: joined c rest := by
  rcases rest with _ | ⟨next, rest⟩
  · exact absurd rfl h
  · rfl

/-- Putting the pieces together gives the text back. -/
theorem joined_pieces (c : Char) (s : List Char) : joined c (pieces c s) = s := by
  induction s with
  | nil => rfl
  | cons x s ih =>
    by_cases hx : x = c
    · subst hx
      rw [pieces_cons_self, joined_cons_of_ne_nil (pieces_ne_nil x s), ih]
      rfl
    · obtain ⟨piece, rest, hp, hc⟩ := pieces_cons_of_ne hx s
      rw [hp] at ih
      rw [hc]
      rcases rest with _ | ⟨next, rest⟩
      · simpa [joined] using ih
      · simpa [joined] using ih

/-- Pieces without the character are found again. -/
theorem pieces_joined {c : Char} {l : List (List Char)} (hne : l ≠ [])
    (h : ∀ piece ∈ l, c ∉ piece) : pieces c (joined c l) = l := by
  induction l with
  | nil => exact absurd rfl hne
  | cons piece rest ih =>
    have hpiece : c ∉ piece := h piece List.mem_cons_self
    rcases rest with _ | ⟨next, rest⟩
    · exact pieces_of_not_mem hpiece
    · have hrest : pieces c (joined c (next :: rest)) = next :: rest :=
        ih (by simp) fun other hother => h other (List.mem_cons_of_mem piece hother)
      rw [joined_cons_of_ne_nil (by simp), pieces_append_cons hpiece, hrest]

/-- Joining is putting the character between the pieces. -/
theorem joined_eq_intercalate (c : Char) (l : List (List Char)) :
    joined c l = [c].intercalate l := by
  induction l with
  | nil => rfl
  | cons piece rest ih =>
    rcases rest with _ | ⟨next, rest⟩
    · simp [joined, List.intercalate]
    · rw [joined_cons_of_ne_nil (by simp), ih]
      simp [List.intercalate]

end Rerank.Text
