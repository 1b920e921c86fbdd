/-
Laws of the pattern language.

Fragments are put together from other fragments: a star is put between two of them or at an end,
or a bar is put at an end.  What the parts match then says what the whole matches.  Each law is a
fact about bodies that consume pieces of a text, and comes down to `consumes_append_iff`, which says
where a piece is cut when a body is cut.  The bars are the other half of the matter.  If there is a
star in between, a bar at an end of the whole is the bar of the part at that end
(`denotes_append_star`).  A bar that is put next to another bar or next to nothing may not become
the anchor that it looks like, which is why the laws ask where fragments begin and end.

A caret at the end of a body may look at the end of the text, so what a fragment with a caret
matches can depend on what follows in the text; without one it cannot
(`Consumes.of_caret_not_mem`).

The main result is `laws`.
-/
import Mathlib.Data.List.Basic
import Rerank.Proofs.Pattern.Translation

namespace Rerank

namespace Fragment

/-! ### Bodies that are put together -/

section Consumes

variable {body more piece behind : List Char}

/-- **A body in two parts** consumes a piece in two parts.  The first part of it is followed by the
second part and by what follows the piece. -/
lemma consumes_append_iff : Consumes (body ++ more) piece behind ↔
    ∃ u v, piece = u ++ v ∧ Consumes body u (v ++ behind) ∧ Consumes more v behind := by
  induction body generalizing piece with
  | nil =>
    constructor
    · intro h
      exact ⟨[], piece, rfl, .nil, h⟩
    · rintro ⟨u, v, rfl, hu, h⟩
      rw [consumes_nil_iff.1 hu]
      exact h
  | cons c body ih =>
    rw [List.cons_append, Regex.consumes_cons_iff []]
    constructor
    · rintro ⟨x, rest, rfl, hx, hrest⟩
      obtain ⟨u, v, rfl, hu, hv⟩ := ih.1 hrest
      refine ⟨x ++ u, v, by simp, ?_, hv⟩
      exact (Regex.consumes_cons_iff []).2 ⟨x, u, rfl, by simpa using hx, hu⟩
    · rintro ⟨w, v, rfl, hw, hv⟩
      obtain ⟨x, u, rfl, hx, hu⟩ := (Regex.consumes_cons_iff []).1 hw
      exact ⟨x, u ++ v, by simp, by simpa using hx, ih.2 ⟨u, v, rfl, hu, hv⟩⟩

/-- Two stars consume what one does. -/
lemma consumes_star_star_iff :
    Consumes ('*' :: '*' :: body) piece behind ↔ Consumes ('*' :: body) piece behind := by
  constructor
  · intro h
    obtain ⟨run, rest, rfl, hrest⟩ := consumes_star_iff.1 h
    obtain ⟨run', rest', rfl, hrest'⟩ := consumes_star_iff.1 hrest
    exact consumes_star_iff.2 ⟨run ++ run', rest', by simp, hrest'⟩
  · intro h
    exact .star [] h

/-- Without a caret it does not matter what follows a piece. -/
lemma Consumes.of_caret_not_mem (h : Consumes body piece behind) (hcaret : '^' ∉ body)
    (other : List Char) : Consumes body piece other := by
  induction h with
  | nil => exact .nil
  | star run _ ih => exact .star run (ih (List.not_mem_of_not_mem_cons hcaret))
  | separator | textEnd => exact absurd List.mem_cons_self hcaret
  | char hstar hne _ ih => exact .char hstar hne (ih (List.not_mem_of_not_mem_cons hcaret))

end Consumes

/-! ### Bodies that are found in a text -/

/-- A body is found in a text, at the start or at the end of it if it must be. -/
def Found (fromStart toEnd : Bool) (body text : List Char) : Prop :=
  ∃ before piece behind, text = before ++ piece ++ behind ∧ Consumes body piece behind ∧
    (fromStart = true → before = []) ∧ (toEnd = true → behind = [])

section Found

variable {fromStart toEnd : Bool} {body more text : List Char}

lemma found_nil (text : List Char) : Found false false [] text :=
  ⟨text, [], [], by simp, .nil, by simp, by simp⟩

/-- **A star between two bodies** cuts a text in two, one for each.  The cut is an end of text for
the first body, so there must be no caret in that. -/
lemma found_append_star (hcaret : '^' ∉ body) : Found fromStart toEnd (body ++ '*' :: more) text ↔
    ∃ t₁ t₂, text = t₁ ++ t₂ ∧ Found fromStart false body t₁ ∧ Found false toEnd more t₂ := by
  constructor
  · rintro ⟨before, piece, behind, rfl, h, hstart, hend⟩
    obtain ⟨u, v, rfl, hu, hv⟩ := consumes_append_iff.1 h
    obtain ⟨run, w, rfl, hw⟩ := consumes_star_iff.1 hv
    refine ⟨before ++ u, run ++ w ++ behind, by simp, ?_, ?_⟩
    · exact ⟨before, u, [], by simp, hu.of_caret_not_mem hcaret [], hstart, by simp⟩
    · exact ⟨run, w, behind, rfl, hw, by simp, hend⟩
  · rintro ⟨t₁, t₂, rfl, ⟨before, u, run, rfl, hu, hstart, -⟩, ⟨run', w, behind, rfl, hw, -, hend⟩⟩
    refine ⟨before, u ++ (run ++ run' ++ w), behind, by simp, ?_, hstart, hend⟩
    refine consumes_append_iff.2 ⟨u, _, rfl, hu.of_caret_not_mem hcaret _, ?_⟩
    exact consumes_star_iff.2 ⟨run ++ run', w, rfl, hw⟩

lemma found_star_star_iff : Found fromStart toEnd (body ++ '*' :: '*' :: more) text ↔
    Found fromStart toEnd (body ++ '*' :: more) text := by
  simp only [Found, consumes_append_iff, consumes_star_star_iff]

/-- A star before a body that may begin anywhere changes nothing. -/
lemma found_star_iff : Found false toEnd ('*' :: body) text ↔ Found false toEnd body text := by
  constructor
  · rintro ⟨before, piece, behind, rfl, h, -, hend⟩
    obtain ⟨run, rest, rfl, hrest⟩ := consumes_star_iff.1 h
    exact ⟨before ++ run, rest, behind, by simp, hrest, by simp, hend⟩
  · rintro ⟨before, piece, behind, rfl, h, -, hend⟩
    exact ⟨before, piece, behind, rfl, .star [] h, by simp, hend⟩

/-- A star behind a body that may end anywhere changes nothing, even if the body has a caret,
because the star can take nothing at the end of the text. -/
lemma found_concat_star_iff :
    Found fromStart false (body ++ ['*']) text ↔ Found fromStart false body text := by
  constructor
  · rintro ⟨before, piece, behind, rfl, h, hstart, -⟩
    obtain ⟨u, v, rfl, hu, -⟩ := consumes_append_iff.1 h
    exact ⟨before, u, v ++ behind, by simp, hu, hstart, by simp⟩
  · rintro ⟨before, piece, behind, rfl, h, hstart, -⟩
    have hbody : Consumes (body ++ ['*']) (piece ++ []) behind :=
      consumes_append_iff.2 ⟨piece, [], rfl, h, .star [] .nil⟩
    rw [List.append_nil] at hbody
    exact ⟨before, piece, behind, rfl, hbody, hstart, by simp⟩

/-- A body that may begin anywhere is still found when text is put before. -/
lemma Found.append_left (h : Found false toEnd body text) (front : List Char) :
    Found false toEnd body (front ++ text) := by
  obtain ⟨before, piece, behind, rfl, h, -, hend⟩ := h
  exact ⟨front ++ before, piece, behind, by simp, h, by simp, hend⟩

/-- A body without a caret that may end anywhere is still found when text is put behind. -/
lemma Found.append_right (h : Found fromStart false body text) (hcaret : '^' ∉ body)
    (back : List Char) : Found fromStart false body (text ++ back) := by
  obtain ⟨before, piece, behind, rfl, h, hstart, -⟩ := h
  exact ⟨before, piece, behind ++ back, by simp, h.of_caret_not_mem hcaret _, hstart, by simp⟩

lemma Found.untie_start (h : Found fromStart toEnd body text) : Found false toEnd body text := by
  obtain ⟨before, piece, behind, htext, h, -, hend⟩ := h
  exact ⟨before, piece, behind, htext, h, by simp, hend⟩

lemma Found.untie_end (h : Found fromStart toEnd body text) : Found fromStart false body text := by
  obtain ⟨before, piece, behind, htext, h, hstart, -⟩ := h
  exact ⟨before, piece, behind, htext, h, hstart, by simp⟩

end Found

/-! ### The bars of fragments that are put together -/

/-- Whether a bar stands at the end of a text. -/
def endsInBar (s : List Char) : Bool :=
  s.getLast? == some '|'

/-- A text without the bar at its end. -/
def beforeBar (s : List Char) : List Char :=
  if endsInBar s then s.dropLast else s

section Bars

variable {f text : List Char}

/-- A fragment denotes the texts that its body is found in, where its anchors say. -/
lemma denotes_iff_found : Denotes f text ↔
    Found (startAnchored f) (endsInBar (behindStart f)) (beforeBar (behindStart f)) text := Iff.rfl

lemma endsInBar_append_star (f g : List Char) : endsInBar (f ++ '*' :: g) = endsInBar g := by
  rw [endsInBar, endsInBar, List.getLast?_append, List.getLast?_cons]
  rcases g.getLast? with _ | c <;> rfl

lemma beforeBar_append_star (f g : List Char) :
    beforeBar (f ++ '*' :: g) = f ++ '*' :: beforeBar g := by
  rw [beforeBar, beforeBar, endsInBar_append_star]
  split
  · next hbar =>
    have hne : g ≠ [] := by
      rintro rfl
      cases hbar
    rw [List.dropLast_append_cons, List.dropLast_cons_of_ne_nil hne]
  · rfl

/-- The start of a fragment is that of the part before a star. -/
lemma startAnchored_append_star (f g : List Char) :
    startAnchored (f ++ '*' :: g) = startAnchored f := by
  rcases f with _ | ⟨c, f⟩ <;> rfl

lemma behindStart_append_star (f g : List Char) :
    behindStart (f ++ '*' :: g) = behindStart f ++ '*' :: g := by
  rw [behindStart, behindStart, startAnchored_append_star]
  rcases f with _ | ⟨c, f⟩
  · rfl
  · split <;> rfl

/-- **A star between two fragments.**  The anchors of the whole are the anchor at the start of the
first and the bar at the end of the second. -/
lemma denotes_append_star (f g text : List Char) : Denotes (f ++ '*' :: g) text ↔
    Found (startAnchored f) (endsInBar g) (behindStart f ++ '*' :: beforeBar g) text := by
  rw [denotes_iff_found, startAnchored_append_star, behindStart_append_star,
    endsInBar_append_star, beforeBar_append_star]

/-- A fragment that does not begin with a bar has a bar at its end as its only anchor. -/
lemma denotes_of_head (h : f.head? ≠ some '|') :
    Denotes f text ↔ Found false (endsInBar f) (beforeBar f) text := by
  have hstart : startAnchored f = false := by simpa [startAnchored] using h
  have hbehind : behindStart f = f := by simp [behindStart, hstart]
  rw [denotes_iff_found, hstart, hbehind]

lemma endsInBar_of_getLast (h : f.getLast? ≠ some '|') : endsInBar f = false := by
  simpa [endsInBar] using h

lemma beforeBar_of_getLast (h : f.getLast? ≠ some '|') : beforeBar f = f := by
  simp [beforeBar, endsInBar_of_getLast h]

/-- A fragment that does not end in a bar does not do so behind its first bar. -/
lemma getLast_behindStart (h : f.getLast? ≠ some '|') : (behindStart f).getLast? ≠ some '|' := by
  unfold behindStart
  split
  · rcases f with _ | ⟨c, _ | ⟨d, f⟩⟩
    · simp
    · simp
    · rwa [List.getLast?_cons_cons] at h
  · exact h

/-- A fragment that does not end in a bar has a bar at its beginning as its only anchor. -/
lemma denotes_of_getLast (h : f.getLast? ≠ some '|') :
    Denotes f text ↔ Found (startAnchored f) false (behindStart f) text := by
  have hlast := getLast_behindStart h
  rw [denotes_iff_found, endsInBar_of_getLast hlast, beforeBar_of_getLast hlast]

lemma caret_not_mem_behindStart (h : '^' ∉ f) : '^' ∉ behindStart f := by
  unfold behindStart
  split
  · exact fun hmem => h (List.mem_of_mem_tail hmem)
  · exact h

/-- A bar that is put before a fragment is its anchor at the start, and leaves the end as it is. -/
lemma denotes_cons_bar (f text : List Char) :
    Denotes ('|' :: f) text ↔ Found true (endsInBar f) (beforeBar f) text := Iff.rfl

/-- A bar that is put behind a fragment is its anchor at the end, unless the fragment is empty. -/
lemma denotes_concat_bar (h : f ≠ []) :
    Denotes (f ++ ['|']) text ↔ Found (startAnchored f) true (behindStart f) text := by
  have hstart : startAnchored (f ++ ['|']) = startAnchored f := by
    rcases f with _ | ⟨c, f⟩
    · exact absurd rfl h
    · rfl
  have hbehind : behindStart (f ++ ['|']) = behindStart f ++ ['|'] := by
    rw [behindStart, behindStart, hstart]
    split
    · exact List.tail_append_of_ne_nil h
    · rfl
  have hbar : endsInBar (behindStart f ++ ['|']) = true := by simp [endsInBar]
  rw [denotes_iff_found, hstart, hbehind, beforeBar, hbar, if_pos rfl, List.dropLast_concat]

end Bars

end Fragment

namespace Pattern

open Fragment

/-- A fragment compiles. -/
def Compiles (fragment : String) : Prop :=
  ∃ p, compile fragment = .ok p

/-- A fragment compiles, and its pattern matches a text. -/
def Matches (fragment text : String) : Prop :=
  ∃ p, compile fragment = .ok p ∧ p.isMatch text = true

section Matches

variable {f text : String}

lemma compiles_iff : Compiles f ↔ (Glob.ofFragment f.toList).fits = true := by
  unfold Compiles compile
  split <;> simp [*]

lemma matches_iff_isMatch :
    Matches f text ↔ Compiles f ∧ (Glob.ofFragment f.toList).isMatch text.toList = true := by
  constructor
  · rintro ⟨p, hp, h⟩
    rw [isMatch, glob_of_compile hp] at h
    exact ⟨⟨p, hp⟩, h⟩
  · rintro ⟨⟨p, hp⟩, h⟩
    rw [← glob_of_compile hp] at h
    exact ⟨p, hp, h⟩

instance (f : String) : Decidable (Compiles f) := decidable_of_iff _ compiles_iff.symm

instance (f text : String) : Decidable (Matches f text) :=
  decidable_of_iff _ matches_iff_isMatch.symm

lemma Matches.compiles (h : Matches f text) : Compiles f :=
  (matches_iff_isMatch.1 h).1

/-- A fragment that compiles matches what it denotes. -/
lemma matches_iff (h : Compiles f) : Matches f text ↔ Denotes f.toList text.toList := by
  rw [matches_iff_isMatch, and_iff_right h, Glob.isMatch_ofFragment_iff]

end Matches

/-- Cutting a text is cutting the list of its characters. -/
lemma exists_cut_iff {P Q : List Char → Prop} {text : String} :
    (∃ t₁ t₂ : String, text = t₁ ++ t₂ ∧ P t₁.toList ∧ Q t₂.toList) ↔
      ∃ t₁ t₂, text.toList = t₁ ++ t₂ ∧ P t₁ ∧ Q t₂ := by
  constructor
  · rintro ⟨t₁, t₂, rfl, h₁, h₂⟩
    exact ⟨t₁.toList, t₂.toList, String.toList_append, h₁, h₂⟩
  · rintro ⟨t₁, t₂, htext, h₁, h₂⟩
    refine ⟨String.ofList t₁, String.ofList t₂, String.toList_inj.1 (by simpa using htext), ?_, ?_⟩
    · rwa [String.toList_ofList]
    · rwa [String.toList_ofList]

/-- The laws of the pattern language, for a fragment and another one. -/
structure Laws (f g : String) : Prop where
  /-- A star between two fragments cuts a text in two, one for each. -/
  star_between : Compiles f → Compiles g → Compiles (f ++ "*" ++ g) → '^' ∉ f.toList →
    f.toList.getLast? ≠ some '|' → g.toList.head? ≠ some '|' → ∀ text,
      Matches (f ++ "*" ++ g) text ↔ ∃ t₁ t₂, text = t₁ ++ t₂ ∧ Matches f t₁ ∧ Matches g t₂
  /-- Two stars do what one does. -/
  two_stars : Compiles (f ++ "**" ++ g) → Compiles (f ++ "*" ++ g) → ∀ text,
    Matches (f ++ "**" ++ g) text ↔ Matches (f ++ "*" ++ g) text
  /-- A star before a fragment does nothing, unless it would take an anchor from the start. -/
  star_before : Compiles f → Compiles ("*" ++ f) → f.toList.head? ≠ some '|' → ∀ text,
    Matches ("*" ++ f) text ↔ Matches f text
  /-- A star behind a fragment does nothing, unless it would take an anchor from the end. -/
  star_behind : Compiles f → Compiles (f ++ "*") → f.toList.getLast? ≠ some '|' → ∀ text,
    Matches (f ++ "*") text ↔ Matches f text
  /-- Text may be put before what a fragment matches that is not tied to the start. -/
  text_before : f.toList.head? ≠ some '|' → ∀ text, Matches f text → ∀ front,
    Matches f (front ++ text)
  /-- Text may be put behind what a fragment matches that does not look at the end. -/
  text_behind : '^' ∉ f.toList → f.toList.getLast? ≠ some '|' → ∀ text, Matches f text → ∀ back,
    Matches f (text ++ back)
  /-- An anchor at the start only restricts. -/
  bar_before : Compiles f → f.toList.head? ≠ some '|' → ∀ text, Matches ("|" ++ f) text →
    Matches f text
  /-- An anchor at the end only restricts. -/
  bar_behind : Compiles f → f.toList.getLast? ≠ some '|' → ∀ text, Matches (f ++ "|") text →
    Matches f text

/-- **The laws of the pattern language** hold for all fragments. -/
theorem laws (f g : String) : Laws f g where
  star_between hf hg hfg hcaret hlast hhead text := by
    have htoList : (f ++ "*" ++ g).toList = f.toList ++ '*' :: g.toList := by simp
    simp only [matches_iff hf, matches_iff hg, matches_iff hfg, denotes_of_getLast hlast,
      denotes_of_head hhead]
    rw [htoList, denotes_append_star, found_append_star (caret_not_mem_behindStart hcaret),
      exists_cut_iff]
  two_stars htwo hone text := by
    have htoList : (f ++ "*" ++ g).toList = f.toList ++ '*' :: g.toList := by simp
    have htoList' : (f ++ "**" ++ g).toList = f.toList ++ '*' :: '*' :: g.toList := by simp
    rw [matches_iff htwo, matches_iff hone, htoList, htoList', denotes_append_star,
      denotes_append_star]
    have hend : endsInBar ('*' :: g.toList) = endsInBar g.toList :=
      endsInBar_append_star [] g.toList
    have hbody : beforeBar ('*' :: g.toList) = '*' :: beforeBar g.toList :=
      beforeBar_append_star [] g.toList
    rw [hend, hbody, found_star_star_iff]
  star_before hf hstar hhead text := by
    have htoList : ("*" ++ f).toList = [] ++ '*' :: f.toList := by simp
    rw [matches_iff hf, matches_iff hstar, htoList, denotes_append_star, denotes_of_head hhead]
    exact found_star_iff
  star_behind hf hstar hlast text := by
    have htoList : (f ++ "*").toList = f.toList ++ '*' :: [] := by simp
    rw [matches_iff hf, matches_iff hstar, htoList, denotes_append_star, denotes_of_getLast hlast]
    exact found_concat_star_iff
  text_before hhead text h front := by
    rw [matches_iff h.compiles, String.toList_append]
    rw [matches_iff h.compiles] at h
    rw [denotes_of_head hhead] at h ⊢
    exact h.append_left front.toList
  text_behind hcaret hlast text h back := by
    rw [matches_iff h.compiles, String.toList_append]
    rw [matches_iff h.compiles] at h
    rw [denotes_of_getLast hlast] at h ⊢
    exact h.append_right (caret_not_mem_behindStart hcaret) back.toList
  bar_before hf hhead text h := by
    have htoList : ("|" ++ f).toList = '|' :: f.toList := by simp
    rw [matches_iff h.compiles, htoList, denotes_cons_bar] at h
    rw [matches_iff hf, denotes_of_head hhead]
    exact h.untie_start
  bar_behind hf hlast text h := by
    have htoList : (f ++ "|").toList = f.toList ++ ['|'] := by simp
    rw [matches_iff hf, denotes_of_getLast hlast]
    by_cases hempty : f.toList = []
    · rw [hempty]
      exact found_nil text.toList
    · rw [matches_iff h.compiles, htoList, denotes_concat_bar hempty] at h
      exact h.untie_end

/-- The laws for a fragment that is tied to the start, and for one that has a caret and is tied to
the end. -/
theorem laws_of_tied_parts :
    (∃ t₁ t₂, "axb/" = t₁ ++ t₂ ∧ Matches "|a" t₁ ∧ Matches "b^|" t₂) ∧
      Matches "|a**b^|" "axb/" ∧ Matches "*b^|" "axb" ∧ Matches "|a*" "ax" ∧
      Matches "b^|" ("ax" ++ "b/") ∧ Matches "|a" ("ax" ++ "b/") ∧ Matches "b^|" "b" ∧
      Matches "|a" "a" := by
  have hstart := laws "|a" "b^|"
  have hend := laws "b^|" "|a"
  refine ⟨?_, ?_, ?_, ?_, ?_, ?_, ?_, ?_⟩
  · exact (hstart.star_between (by decide) (by decide) (by decide) (by decide) (by decide)
      (by decide) "axb/").1 (by decide)
  · exact (hstart.two_stars (by decide) (by decide) "axb/").2 (by decide)
  · exact (hend.star_before (by decide) (by decide) (by decide) "axb").2 (by decide)
  · exact (hstart.star_behind (by decide) (by decide) (by decide) "ax").2 (by decide)
  · exact hend.text_before (by decide) "b/" (by decide) "ax"
  · exact hstart.text_behind (by decide) (by decide) "ax" (by decide) "b/"
  · exact hend.bar_before (by decide) (by decide) "b" (by decide)
  · exact hstart.bar_behind (by decide) (by decide) "a" (by decide)

/-- A caret before the star sees the end of the first part, but not the end of the whole. -/
example : Matches "a^" "a" ∧ Matches "b" "b" ∧ ¬ Matches "a^*b" ("a" ++ "b") := by decide

end Pattern

end Rerank
