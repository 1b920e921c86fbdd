/-
White space, and trimming.

A character is blank if it has the property of white space in the character standard:
25 characters, among them the next-line control and the no-break space.  Lines of blank
characters hold no directive, and option keys and values are trimmed of them.

`trimBy` removes the characters of a class from both ends of a text; `trim` is the case of
blanks.  The main statements are

* `head?_trimBy` and `getLast?_trimBy`: a trimmed text neither begins nor ends with a
  character of the class;
* `trimBy_eq_self`: a text that neither begins nor ends with one stays as it is, so trimming
  twice is trimming once (`trim_trim`);
* `trimBy_append_of_all`: what is put around a text makes no difference if all of it is of the
  class.
-/

namespace Rerank.Text

/-- The runs of blank characters, by their first and last code points. -/
def blankRuns : List (Nat × Nat) :=
  [(0x9, 0xD), (0x20, 0x20), (0x85, 0x85), (0xA0, 0xA0), (0x1680, 0x1680), (0x2000, 0x200A),
    (0x2028, 0x2029), (0x202F, 0x202F), (0x205F, 0x205F), (0x3000, 0x3000)]

/-- Whether a character is white space. -/
def isBlank (c : Char) : Bool :=
  blankRuns.any fun (first, last) => first ≤ c.toNat && c.toNat ≤ last

/-- A digit is not white space. -/
theorem isBlank_of_isDigit {c : Char} (h : c.isDigit = true) : isBlank c = false := by
  have hrange : 48 ≤ c.toNat ∧ c.toNat ≤ 57 := by
    simp only [Char.isDigit, Bool.and_eq_true, decide_eq_true_eq] at h
    exact h
  simp only [isBlank, blankRuns, List.any_cons, List.any_nil, Bool.or_eq_false_iff,
    Bool.and_eq_false_iff, decide_eq_false_iff_not, and_true]
  omega

/-- A character that is not white space is none of those that are. -/
theorem ne_of_isBlank {c d : Char} (hc : isBlank c = true) (hd : isBlank d = false) : d ≠ c := by
  rintro rfl
  rw [hc] at hd
  cases hd

/-- Removes the characters of class `p` from the end of a text.  A character stays if
anything stays behind it, so the recursion runs from the left. -/
def trimEndBy (p : Char → Bool) : List Char → List Char
  | [] => []
  | c :: s =>
    match trimEndBy p s with
    | [] => if p c then [] else [c]
    | d :: t => c :: d :: t

/-- Removes the characters of class `p` from both ends of a text. -/
def trimBy (p : Char → Bool) (s : List Char) : List Char :=
  trimEndBy p (s.dropWhile p)

/-- Removes white space from both ends of a text. -/
def trim (s : List Char) : List Char :=
  trimBy isBlank s

/-- Whether a line holds nothing but white space. -/
def isBlankLine (line : String) : Bool :=
  line.toList.all isBlank

@[simp] theorem trimEndBy_nil (p : Char → Bool) : trimEndBy p [] = [] := rfl

/-- A first character outside the class stays. -/
theorem trimEndBy_cons_of_not {p : Char → Bool} {c : Char} (h : p c = false) (s : List Char) :
    trimEndBy p (c :: s) = c :: trimEndBy p s := by
  rw [trimEndBy]
  split
  · next hs => simp [h, hs]
  · next hs => rw [hs]

/-- Nothing of the class is left at the end. -/
theorem getLast?_trimEndBy {p : Char → Bool} {s : List Char} {c : Char}
    (h : (trimEndBy p s).getLast? = some c) : p c = false := by
  induction s with
  | nil => simp at h
  | cons d s ih =>
    rw [trimEndBy] at h
    split at h
    · split at h
      · simp at h
      · next hd => simp_all
    · next e t hs =>
      rw [hs] at ih
      exact ih (by simpa using h)

/-- A text whose last character is outside the class stays as it is. -/
theorem trimEndBy_eq_self {p : Char → Bool} {s : List Char}
    (h : ∀ c, s.getLast? = some c → p c = false) : trimEndBy p s = s := by
  induction s with
  | nil => rfl
  | cons c s ih =>
    rcases s with _ | ⟨d, s⟩
    · exact trimEndBy_cons_of_not (h c rfl) []
    · rw [trimEndBy, ih (fun e he => h e (by simpa using he))]

/-- Nothing of the class is left at the end of a trimmed text. -/
theorem getLast?_trimBy {p : Char → Bool} {s : List Char} {c : Char}
    (h : (trimBy p s).getLast? = some c) : p c = false :=
  getLast?_trimEndBy h

/-- Nothing of the class is left at the beginning of a trimmed text. -/
theorem head?_trimBy {p : Char → Bool} {s : List Char} {c : Char}
    (h : (trimBy p s).head? = some c) : p c = false := by
  unfold trimBy at h
  rcases hs : s.dropWhile p with _ | ⟨d, t⟩
  · simp [hs] at h
  · have hd : p d = false := by
      have := List.head?_dropWhile_not p s
      simpa [hs] using this
    rw [hs, trimEndBy_cons_of_not hd] at h
    obtain rfl : d = c := by simpa using h
    exact hd

/-- A text that neither begins nor ends with a character of the class stays as it is. -/
theorem trimBy_eq_self {p : Char → Bool} {s : List Char}
    (hhead : ∀ c, s.head? = some c → p c = false)
    (hlast : ∀ c, s.getLast? = some c → p c = false) : trimBy p s = s := by
  rcases s with _ | ⟨c, s⟩
  · rfl
  · have hc : p c = false := hhead c rfl
    rw [trimBy, List.dropWhile_cons_of_neg (by simp [hc])]
    exact trimEndBy_eq_self hlast

/-- A text without blanks is trimmed. -/
theorem trim_eq_self {s : List Char} (h : ∀ c ∈ s, isBlank c = false) : trim s = s :=
  trimBy_eq_self (fun c hc => h c (List.mem_of_mem_head? hc))
    (fun c hc => h c (List.mem_of_getLast? hc))

/-- Trimming twice is trimming once. -/
@[simp] theorem trim_trim (s : List Char) : trim (trim s) = trim s :=
  trimBy_eq_self (fun _ h => head?_trimBy h) (fun _ h => getLast?_trimBy h)

/-- What stands before a last character outside the class stays. -/
theorem trimEndBy_append {p : Char → Bool} {a : List Char}
    (h : ∀ c, a.getLast? = some c → p c = false) (b : List Char) :
    trimEndBy p (a ++ b) = a ++ trimEndBy p b := by
  induction a with
  | nil => rfl
  | cons c a ih =>
    rcases a with _ | ⟨d, a⟩
    · exact trimEndBy_cons_of_not (h c rfl) b
    · rw [List.cons_append, trimEndBy, ih (fun e he => h e (by simpa using he))]
      rfl

/-- Nothing is left of a text of the class. -/
theorem trimEndBy_eq_nil {p : Char → Bool} {s : List Char} (h : ∀ c ∈ s, p c = true) :
    trimEndBy p s = [] := by
  induction s with
  | nil => rfl
  | cons c s ih =>
    have hs : trimEndBy p s = [] := ih fun d hd => h d (List.mem_cons_of_mem c hd)
    rw [trimEndBy, hs]
    exact if_pos (h c List.mem_cons_self)

/-- A text of the class is removed from the end. -/
theorem trimEndBy_append_of_all {p : Char → Bool} {b : List Char} (h : ∀ c ∈ b, p c = true)
    (s : List Char) : trimEndBy p (s ++ b) = trimEndBy p s := by
  induction s with
  | nil => exact trimEndBy_eq_nil h
  | cons d s ih => rw [List.cons_append, trimEndBy, trimEndBy, ih]

/-- Texts of the class are removed from both ends. -/
theorem trimBy_append_of_all {p : Char → Bool} {a b : List Char} (ha : ∀ c ∈ a, p c = true)
    (hb : ∀ c ∈ b, p c = true) (s : List Char) : trimBy p (a ++ (s ++ b)) = trimBy p s := by
  rw [trimBy, trimBy, List.dropWhile_append_of_pos ha, List.dropWhile_append]
  split
  · next hs =>
    have hnil : (b ++ []).dropWhile p = [] := List.dropWhile_append_of_pos hb
    rw [List.append_nil] at hnil
    rw [List.isEmpty_iff.1 hs, hnil]
  · exact trimEndBy_append_of_all hb _

/-- A blank at the end is removed. -/
theorem trim_append_of_isBlank {c : Char} (h : isBlank c = true) (s : List Char) :
    trim (s ++ [c]) = trim s :=
  trimBy_append_of_all (List.forall_mem_nil _) (by simpa using h) s

/-- Trimming the end leaves the front as it is. -/
theorem isPrefix_trimEndBy (p : Char → Bool) (s : List Char) : trimEndBy p s <+: s := by
  induction s with
  | nil => exact List.nil_prefix
  | cons c s ih =>
    rw [trimEndBy]
    split
    · split
      · exact List.nil_prefix
      · exact List.prefix_append [c] s
    · next d t hs =>
      rw [hs] at ih
      exact (List.prefix_cons_inj c).2 ih

/-- Trimming brings no character in. -/
theorem mem_of_mem_trim {c : Char} {s : List Char} (h : c ∈ trim s) : c ∈ s :=
  ((isPrefix_trimEndBy isBlank _).sublist.trans (List.dropWhile_sublist isBlank)).subset h

end Rerank.Text
