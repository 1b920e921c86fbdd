/-
The host that an address isolates.

While an address is read, its host is isolated as a text before this text is brought to its
normal form.  Under the schemes of the web and of files the authority begins behind all slashes
and backslashes that follow the colon, and under any other scheme behind two slashes.  Credentials
reach up to its last at sign, and the host ends at the first colon behind them that is not in
brackets.  This is `isolatedHost?`.

What is isolated is told by `Isolates`, which keeps the scheme and the authority that the text comes
from: the text is not empty, it shows where it ends, and the host is its normal form.

The main result is `exists_isolates`: an address with a host isolates a text that spells it.
Addresses of files need it most, because they are read without looking for credentials or a port, and
are refused if there are any.
-/
import Rerank.Address
import Rerank.Proofs.Address.Delimited

namespace Rerank.Address

/-- The host of an address before it is brought to its normal form. -/
def isolatedHost? (url : List Char) : Option (List Char) :=
  match scheme? (cleaned url) with
  | none => none
  | some (scheme, rest) =>
    match kindOf scheme, rest with
    | .other, '/' :: '/' :: rest => some (Authority.split false rest).host
    | .other, _ => none
    | _, rest => some (Authority.split true (rest.dropWhile isSlash)).host

namespace Authority

lemma host_split (web : Bool) (s : List Char) : (split web s).host =
    (cutPort false (Text.afterLast '@' (s.takeWhile (!ends web ·)))).1 := rfl

/-- Under the schemes of the web an authority ends before a slash of either kind, a question mark
or a number sign. -/
lemma ends_true (c : Char) : ends true c = (isSlash c || c == '?' || c == '#') := by
  simp only [ends, isSlash, Bool.true_and]
  cases c == '/' <;> cases c == '\\' <;> cases c == '?' <;> simp

/-- The text before a port is followed by nothing or by a colon. -/
lemma cutPort_append (inside : Bool) (s : List Char) :
    ∃ tail, (cutPort inside s).1 ++ tail = s ∧ (tail = [] ∨ ∃ port, tail = ':' :: port) := by
  fun_induction cutPort inside s with
  | case1 => exact ⟨[], rfl, .inl rfl⟩
  | case2 inside c s h => exact ⟨c :: s, rfl, .inr ⟨s, by rw [h.1]⟩⟩
  | case3 inside c s h next ih =>
    obtain ⟨tail, htail, hcase⟩ := ih
    exact ⟨tail, congrArg (c :: ·) htail, hcase⟩

/-- A text without a colon is all host. -/
lemma cutPort_of_not_mem {s : List Char} (h : ':' ∉ s) (inside : Bool) :
    cutPort inside s = (s, none) := by
  induction s generalizing inside with
  | nil => rfl
  | cons c s ih =>
    have hc : ':' ≠ c := List.ne_of_not_mem_cons h
    rw [cutPort, if_neg (fun hcolon => hc hcolon.1.symm)]
    dsimp only
    rw [ih (List.not_mem_of_not_mem_cons h)]

/-- In brackets no colon begins a port. -/
lemma cutPort_inside {inner : List Char} (h : ']' ∉ inner) (s : List Char) :
    cutPort true (inner ++ ']' :: s) = (inner ++ ']' :: (cutPort false s).1, (cutPort false s).2) := by
  induction inner with
  | nil => simp [cutPort]
  | cons c inner ih =>
    have hc : c ≠ ']' := (List.ne_of_not_mem_cons h).symm
    have hinner := ih (List.not_mem_of_not_mem_cons h)
    rw [List.cons_append, cutPort, if_neg (by simp)]
    simp [hc, hinner]

/-- A host that shows where it ends is followed by no port. -/
lemma cutPort_of_delimited {s : List Char} (h : Host.Delimited s) :
    cutPort false s = (s, none) := by
  cases h with
  | bracketed inner hinner =>
    have hclosing : ']' ∉ inner := fun hc => absurd (hinner _ hc) (by decide)
    rw [List.cons_append, cutPort, if_neg (by simp)]
    simp only [if_true, cutPort_inside hclosing []]
    rfl
  | plain s _ hcolon _ => exact cutPort_of_not_mem hcolon false

end Authority

/-- The host behind the slashes of an address that is not one of a file is the normal form of
that of the authority, which is not empty. -/
lemma ofText_of_hostOfAuthority {web : Bool} {s : List Char} {host : Host}
    (h : hostOfAuthority web s = .ok (some host)) : (Authority.split web s).host ≠ [] ∧
      (if web then Host.ofDomain (Authority.split web s).host
        else Host.ofName (Authority.split web s).host) = .ok host := by
  simp only [hostOfAuthority] at h
  split at h
  · simp at h
  · split at h
    · split at h <;> simp at h
    · next hne =>
      refine ⟨by simpa using hne, ?_⟩
      split at h
      · simp at h
      · next found hfound =>
        split at h
        · obtain rfl : found = host := by simpa using h
          exact hfound
        · simp at h

/-- The host of an address of a file is the normal form of all of its authority. -/
lemma ofDomain_of_hostOfFile {s : List Char} {host : Host} (h : hostOfFile s = .ok (some host)) :
    s.takeWhile (!Authority.ends true ·) ≠ [] ∧
      Host.ofDomain (s.takeWhile (!Authority.ends true ·)) = .ok host := by
  simp only [hostOfFile, ← Authority.ends_true] at h
  split at h
  · simp at h
  · next hne =>
    refine ⟨fun hnil => by simp [hnil] at hne, ?_⟩
    split at h
    · simp at h
    · next found hfound =>
      split at h
      · simp at h
      · obtain rfl : found = host := by simpa using h
        exact hfound

/-- All of the authority of an address of a file is isolated, if it spells a host. -/
lemma host_split_of_hostOfFile {s : List Char} {host : Host} (h : hostOfFile s = .ok (some host)) :
    (Authority.split true (s.dropWhile isSlash)).host =
      s.takeWhile (!Authority.ends true ·) := by
  obtain ⟨hne, hhost⟩ := ofDomain_of_hostOfFile h
  have hdelimited := Host.delimited_of_ofDomain hhost
  -- A third slash would leave the authority empty.
  have hdrop : s.dropWhile isSlash = s := by
    rcases s with _ | ⟨c, s⟩
    · rfl
    · refine List.dropWhile_cons_of_neg fun hc => hne ?_
      exact List.takeWhile_cons_of_neg (by simp [Authority.ends_true, hc])
  rw [Authority.host_split, hdrop, Text.afterLast_of_not_mem hdelimited.not_mem_at,
    Authority.cutPort_of_delimited hdelimited]

/-- A text that an address isolates as its host, and the host that this text spells. -/
inductive Isolates (url : List Char) : List Char → Host → Prop
  /-- Under a scheme of the web or of files the text spells a domain. -/
  | domain {scheme rest : List Char} {host : Host}
    (hscheme : scheme? (cleaned url) = some (scheme, rest)) (hkind : kindOf scheme ≠ .other)
    (hne : (Authority.split true (rest.dropWhile isSlash)).host ≠ [])
    (hhost : Host.ofDomain (Authority.split true (rest.dropWhile isSlash)).host = .ok host) :
    Isolates url (Authority.split true (rest.dropWhile isSlash)).host host
  /-- Under any other scheme it spells a name. -/
  | name {scheme rest : List Char} {host : Host}
    (hscheme : scheme? (cleaned url) = some (scheme, '/' :: '/' :: rest))
    (hkind : kindOf scheme = .other) (hne : (Authority.split false rest).host ≠ [])
    (hhost : Host.ofName (Authority.split false rest).host = .ok host) :
    Isolates url (Authority.split false rest).host host

namespace Isolates

variable {url piece : List Char} {host : Host}

/-- The text is the one that is isolated. -/
lemma isolatedHost?_eq (h : Isolates url piece host) : isolatedHost? url = some piece := by
  cases h with
  | domain hscheme hkind hne hhost =>
    simp only [isolatedHost?, hscheme]
    split <;> simp_all
  | name hscheme hkind hne hhost =>
    simp only [isolatedHost?, hscheme, hkind]

/-- The host is the normal form of the text. -/
lemma spells (h : Isolates url piece host) :
    Host.ofDomain piece = .ok host ∨ Host.ofName piece = .ok host := by
  cases h with
  | domain _ _ _ hhost => exact .inl hhost
  | name _ _ _ hhost => exact .inr hhost

/-- The text is not empty. -/
lemma ne_nil (h : Isolates url piece host) : piece ≠ [] := by
  cases h with
  | domain _ _ hne _ => exact hne
  | name _ _ hne _ => exact hne

/-- The text shows where it ends. -/
lemma delimited (h : Isolates url piece host) : Host.Delimited piece := by
  rcases h.spells with h | h
  · exact Host.delimited_of_ofDomain h
  · exact (Host.delimited_of_ofName h).1

end Isolates

/-- **An address with a host isolates a text that spells it.** -/
theorem exists_isolates {url : List Char} {host : Host} (h : host? url = .ok (some host)) :
    ∃ piece, Isolates url piece host := by
  rw [host?] at h
  split at h
  · simp at h
  · next scheme rest hscheme =>
    split at h
    · next hkind =>
      obtain ⟨hne, hhost⟩ := ofText_of_hostOfAuthority h
      exact ⟨_, .domain hscheme (by simp [hkind]) hne (by simpa using hhost)⟩
    · next a b s hkind =>
      split at h
      · next hslashes =>
        obtain ⟨ha, hb⟩ := by simpa using hslashes
        have hdrop : (a :: b :: s).dropWhile isSlash = s.dropWhile isSlash := by
          rw [List.dropWhile_cons_of_pos ha, List.dropWhile_cons_of_pos hb]
        obtain ⟨hne, hhost⟩ := ofDomain_of_hostOfFile h
        rw [← host_split_of_hostOfFile h, ← hdrop] at hne hhost
        exact ⟨_, .domain hscheme (by simp [hkind]) hne hhost⟩
      · simp at h
    · next s hkind =>
      obtain ⟨hne, hhost⟩ := ofText_of_hostOfAuthority h
      exact ⟨_, .name hscheme hkind hne (by simpa using hhost)⟩
    · simp at h

end Rerank.Address
