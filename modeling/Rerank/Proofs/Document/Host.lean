/-
The host of a document is the host of its address.

Rules compare sites with the host as it is written, which is cut out of the address without
asking for its scheme and with tabs and line breaks still in it.  Reading the address isolates the
host without them and by its scheme.  The main result, `Document.host_eq_isolated`, is that both
find the same text, tabs and line breaks apart, if the address is `Seamless`.

The three conditions are where the two ways part.  Cutting stops at a tab between the slashes
behind the colon, it takes a bracket behind a tab for a part of a name, and it ends at every
backslash, though a backslash is an ordinary character in the credentials of an address that is
not one of the web (`host_ne_isolated`).  Everything else may be mixed freely: missing or
additional slashes of either kind, several at signs, brackets, ports, and tabs in the host itself.
-/
import Mathlib.Data.List.TakeWhile
import Rerank.Document
import Rerank.Proofs.Address.Isolated

namespace Rerank

namespace Address

/-! ### Dropping what is ignored -/

/-- The characters of a text that are not ignored. -/
abbrev seen (s : List Char) : List Char :=
  s.filter (!isIgnored ·)

/-- Slashes are not ignored. -/
lemma isIgnored_of_isSlash {c : Char} (h : isSlash c = true) : isIgnored c = false := by
  simp only [isSlash, Bool.or_eq_true, beq_iff_eq] at h
  rcases h with rfl | rfl <;> decide

/-- What is ignored does not end an authority. -/
lemma ends_of_isIgnored (web : Bool) {c : Char} (h : isIgnored c = true) :
    Authority.ends web c = false := by
  simp only [isIgnored, Bool.or_eq_true, beq_iff_eq] at h
  rcases h with (rfl | rfl) | rfl <;> cases web <;> decide

/-- An authority ends at the same place with or without what is ignored. -/
lemma takeWhile_seen (web : Bool) (s : List Char) :
    (seen s).takeWhile (!Authority.ends web ·) = seen (s.takeWhile (!Authority.ends web ·)) := by
  have hends : ∀ c, (!!isIgnored c || !Authority.ends web c) = !Authority.ends web c := by
    intro c
    rcases hc : isIgnored c with _ | _
    · rfl
    · simp [ends_of_isIgnored web hc]
  simp only [seen, List.takeWhile_filter, hends]

/-- The slashes at the front are the same with or without what is ignored, if none comes behind
something that is ignored. -/
lemma dropWhile_seen {s : List Char} (h : (seen (s.dropWhile isSlash)).head?.any isSlash = false) :
    (seen s).dropWhile isSlash = seen (s.dropWhile isSlash) := by
  induction s with
  | nil => rfl
  | cons c s ih =>
    by_cases hc : isSlash c = true
    · rw [List.dropWhile_cons_of_pos hc] at h ⊢
      rw [seen, List.filter_cons_of_pos (by simp [isIgnored_of_isSlash hc]),
        List.dropWhile_cons_of_pos hc]
      exact ih h
    · rw [List.dropWhile_cons_of_neg hc] at h ⊢
      rcases hseen : seen (c :: s) with _ | ⟨x, rest⟩
      · rfl
      · rw [hseen] at h
        exact List.dropWhile_cons_of_neg (by simpa using h)

/-! ### Where the two ways part -/

/-- What follows the colon of an address and the slashes behind it, as it is written. -/
def behindSlashes (url : List Char) : List Char :=
  match (Text.cut ':' (Text.trimBy isControlOrBlank url)).2 with
  | some rest => rest.dropWhile isSlash
  | none => []

/-- The host of an address and its port, as they are written. -/
def writtenHostPort (url : List Char) : List Char :=
  Text.afterLast '@' ((behindSlashes url).takeWhile (!Authority.ends true ·))

/-- An address in which nothing misleads a reader who looks for the host without knowing the
scheme. -/
structure Seamless (url : List Char) : Prop where
  /-- No tab or line break stands between the slashes behind the colon. -/
  slashes : (seen (behindSlashes url)).head?.any isSlash = false
  /-- None stands before the opening bracket of a host. -/
  bracket : (seen (writtenHostPort url)).head? = some '[' → (writtenHostPort url).head? = some '['
  /-- Under a scheme that is neither one of the web nor that of files, no backslash stands in the
  authority, other than at its front. -/
  backslash : ∀ scheme rest, scheme? (cleaned url) = some (scheme, rest) → kindOf scheme = .other →
    '\\' ∉ (behindSlashes url).takeWhile (!Authority.ends false ·)

/-- The scheme and what follows it, read from the address as it is written. -/
lemma seen_behindSlashes {url scheme rest : List Char} (hs : Seamless url)
    (h : scheme? (cleaned url) = some (scheme, rest)) :
    seen (behindSlashes url) = rest.dropWhile isSlash := by
  have hslashes := hs.slashes
  rw [scheme?, cleaned, Text.cut_filter (by decide)] at h
  rcases hcut : (Text.cut ':' (Text.trimBy isControlOrBlank url)).2 with _ | raw
  · simp [hcut] at h
  · have hbehind : behindSlashes url = raw.dropWhile isSlash := by simp [behindSlashes, hcut]
    have hrest : seen raw = rest := by
      simp only [hcut, Option.map_some] at h
      split at h
      · simpa using (Prod.ext_iff.1 (Option.some.inj h)).2
      · simp at h
    rw [hbehind] at hslashes ⊢
    rw [← dropWhile_seen hslashes, hrest]

/-! ### The host as it is written -/

/-- A host that is cut out is what is written, unless it is empty. -/
lemma writtenHost?_eq_some {url : List Char} (h : leadingHost (writtenHostPort url) ≠ []) :
    writtenHost? url = some (leadingHost (writtenHostPort url)) := by
  rw [writtenHost?]
  rcases hcut : Text.cut ':' (Text.trimBy isControlOrBlank url) with ⟨before, _ | rest⟩
  · exact absurd (by simp [writtenHostPort, behindSlashes, hcut, Text.afterLast, leadingHost,
      Text.cut]) h
  · have hport : Text.afterLast '@' ((rest.dropWhile isSlash).takeWhile fun c =>
        !(isSlash c || c == '?' || c == '#')) = writtenHostPort url := by
      simp [writtenHostPort, behindSlashes, hcut, Authority.ends_true]
    dsimp only
    rw [hport]
    split
    · next hnil => exact absurd hnil h
    · rfl

/-- Cutting at the first colon or behind the first closing bracket finds the host that ends at the
first colon outside of brackets. -/
lemma seen_leadingHost {s : List Char}
    (hdelimited : Host.Delimited (Authority.cutPort false (seen s)).1)
    (hbracket : (seen s).head? = some '[' → s.head? = some '[') :
    seen (leadingHost s) = (Authority.cutPort false (seen s)).1 := by
  obtain ⟨tail, hsplit, htail⟩ := Authority.cutPort_append false (seen s)
  generalize (Authority.cutPort false (seen s)).1 = piece at hdelimited hsplit ⊢
  cases hdelimited with
  | bracketed inner hinner =>
    -- Both ways end behind the first closing bracket.
    have hclosing : ']' ∉ '[' :: inner := by
      have hnot : ']' ∉ inner := fun hc => absurd (hinner _ hc) (by decide)
      simpa using hnot
    have hseen : seen s = ('[' :: inner) ++ ']' :: tail := by
      rw [← hsplit]
      simp
    have hcut := Text.cut_filter (c := ']') (p := (!isIgnored ·)) (by decide) s
    rw [← seen, hseen, Text.cut_append_cons hclosing] at hcut
    obtain ⟨hbefore, hbehind⟩ := Prod.ext_iff.1 hcut
    rw [leadingHost, if_pos (hbracket (by simp [hseen]))]
    rcases hs : Text.cut ']' s with ⟨before, _ | behind⟩
    · simp [hs] at hbehind
    · rw [hs] at hbefore
      have hinside : '[' :: inner = seen before := hbefore
      simp only [seen, List.filter_append]
      rw [← seen, ← hinside]
      rfl
  | plain piece hopening hcolon =>
    -- Both ways end at the first colon, since no bracket stands in front.
    have hcut : (Text.cut ':' (seen s)).1 = piece := by
      rw [← hsplit]
      rcases htail with rfl | ⟨port, rfl⟩
      · rw [List.append_nil, Text.cut_of_not_mem hcolon]
      · rw [Text.cut_append_cons hcolon]
    have hhead : s.head? ≠ some '[' := by
      intro hhead
      obtain ⟨rest, rfl⟩ := List.head?_eq_some_iff.1 hhead
      rw [seen, List.filter_cons_of_pos (by decide)] at hsplit
      rcases piece with _ | ⟨c, piece⟩
      · rcases htail with rfl | ⟨port, rfl⟩ <;> simp at hsplit
      · exact hopening (congrArg List.head? hsplit)
    rw [leadingHost, if_neg hhead, ← hcut, Text.cut_filter (by decide)]

/-! ### Backslashes at the front of an authority -/

/-- Where no backslash stands in an authority, it ends at the same place under all schemes. -/
lemma takeWhile_ends_true {s : List Char}
    (h : '\\' ∉ s.takeWhile (!Authority.ends false ·)) :
    s.takeWhile (!Authority.ends true ·) = s.takeWhile (!Authority.ends false ·) := by
  have hself : (s.takeWhile (!Authority.ends false ·)).takeWhile (· != '\\') =
      s.takeWhile (!Authority.ends false ·) :=
    List.takeWhile_eq_self_iff.2 fun c hc => by
      simpa using fun hcb : c = '\\' => h (hcb ▸ hc)
  have hends : ∀ c, (!Authority.ends true c) = ((c != '\\') && !Authority.ends false c) := by
    intro c
    simp only [Authority.ends, Bool.true_and, Bool.false_and, Bool.or_false, Bool.not_or, bne,
      Bool.and_comm]
  rw [← hself, List.takeWhile_takeWhile]
  simp only [hends, Bool.decide_and, Bool.decide_eq_true]

/-- A slash that does not end an authority is a backslash. -/
lemma eq_backslash {c : Char} (hslash : isSlash c = true)
    (hends : (!Authority.ends false c) = true) : c = '\\' := by
  simp only [isSlash, Bool.or_eq_true, beq_iff_eq] at hslash
  rcases hslash with rfl | rfl
  · exact absurd hends (by decide)
  · rfl

/-- Behind two slashes, an authority that only a slash ends begins with the backslashes that come
first.  What follows them is what other addresses have as their authority, unless a slash comes
before it. -/
lemma exists_backslashes (s : List Char) : ∃ front area,
    s.takeWhile (!Authority.ends false ·) = front ++ area ∧ (∀ c ∈ front, c = '\\') ∧
      (area = [] ∨ area = (s.dropWhile isSlash).takeWhile (!Authority.ends false ·)) := by
  have hfront : ∀ c ∈ (s.takeWhile isSlash).takeWhile (!Authority.ends false ·), c = '\\' :=
    fun c hc => eq_backslash (List.mem_takeWhile_imp ((List.takeWhile_sublist _).mem hc))
      (List.mem_takeWhile_imp (p := (!Authority.ends false ·)) hc)
  refine ⟨(s.takeWhile isSlash).takeWhile (!Authority.ends false ·), ?_⟩
  have hsplit := List.takeWhile_append_dropWhile (p := isSlash) (l := s)
  -- Either all slashes at the front belong to the authority, or one of them ends it.
  by_cases hlength : ((s.takeWhile isSlash).takeWhile (!Authority.ends false ·)).length =
      (s.takeWhile isSlash).length
  · refine ⟨_, ?_, hfront, .inr rfl⟩
    conv => lhs; rw [← hsplit, List.takeWhile_append, if_pos hlength]
    rw [(List.takeWhile_sublist _).eq_of_length hlength]
  · refine ⟨[], ?_, hfront, .inl rfl⟩
    conv => lhs; rw [← hsplit, List.takeWhile_append, if_neg hlength]
    rw [List.append_nil]

/-- Behind the two slashes of an address that is not one of the web, further slashes cannot begin
the host; so the host is found behind them all the same. -/
lemma host_split_dropWhile {s : List Char} {host : Host} (hne : (Authority.split false s).host ≠ [])
    (hhost : Host.ofName (Authority.split false s).host = .ok host)
    (hbackslash : '\\' ∉ (s.dropWhile isSlash).takeWhile (!Authority.ends false ·)) :
    (Authority.split true (s.dropWhile isSlash)).host = (Authority.split false s).host := by
  have hnot : '\\' ∉ (Authority.split false s).host := (Host.delimited_of_ofName hhost).2
  rw [Authority.host_split] at hne hnot
  rw [Authority.host_split, Authority.host_split, takeWhile_ends_true hbackslash]
  obtain ⟨front, area, hsplit, hfront, harea⟩ := exists_backslashes s
  rcases front with _ | ⟨c, front⟩
  · rcases harea with rfl | rfl
    · rw [hsplit] at hne
      exact absurd rfl hne
    · rw [hsplit, List.nil_append]
  · -- The backslashes belong to the credentials, since no host holds one.
    by_cases hat : '@' ∈ area
    · rcases harea with rfl | rfl
      · simp at hat
      · rw [hsplit, Text.afterLast_append_of_mem hat]
    · have hatfront : '@' ∉ c :: front := fun hc => absurd (hfront _ hc) (by decide)
      obtain rfl : c = '\\' := hfront c List.mem_cons_self
      rw [hsplit, Text.afterLast_of_not_mem (by simpa using ⟨by simpa using hatfront, hat⟩),
        List.cons_append, Authority.cutPort, if_neg (by simp)] at hnot
      simp at hnot

/-- In a seamless address the host is isolated behind the same slashes under all schemes. -/
lemma Isolates.eq_cutPort {url piece : List Char} {host : Host} (h : Isolates url piece host)
    (hs : Seamless url) :
    (Authority.cutPort false (seen (writtenHostPort url))).1 = piece := by
  have hport : (Authority.cutPort false (seen (writtenHostPort url))).1 =
      (Authority.split true (seen (behindSlashes url))).host := by
    rw [Authority.host_split, takeWhile_seen, writtenHostPort,
      Text.afterLast_filter (by decide)]
  rw [hport]
  cases h with
  | domain hscheme => rw [seen_behindSlashes hs hscheme]
  | @name scheme rest host hscheme hkind hne hhost =>
    have hbehind := seen_behindSlashes hs hscheme
    rw [List.dropWhile_cons_of_pos rfl, List.dropWhile_cons_of_pos rfl] at hbehind
    have hbackslash := hs.backslash _ _ hscheme hkind
    rw [hbehind]
    refine host_split_dropWhile hne hhost ?_
    rw [← hbehind, takeWhile_seen]
    exact fun hc => hbackslash (List.mem_filter.1 hc).1

/-- In a seamless address the host that is written is the one that is isolated, tabs and line
breaks apart. -/
lemma Isolates.exists_written {url piece : List Char} {host : Host} (h : Isolates url piece host)
    (hs : Seamless url) : ∃ written, writtenHost? url = some written ∧ seen written = piece := by
  have hpiece := h.eq_cutPort hs
  have hseen : seen (leadingHost (writtenHostPort url)) = piece := by
    rw [seen_leadingHost (by rw [hpiece]; exact h.delimited) hs.bracket, hpiece]
  refine ⟨_, writtenHost?_eq_some ?_, hseen⟩
  intro hnil
  rw [hnil] at hseen
  exact h.ne_nil hseen.symm

end Address

namespace Document

/-- The host of a document is the one that its address isolates, tabs and line breaks apart, and
the host of the address is what this text spells. -/
theorem host_eq_isolated {url : String} {d : Document} (h : ofUrl url = .ok d)
    (hs : Address.Seamless url.toList) : ∃ host piece,
      Address.host? url.toList = .ok (some host) ∧
      Address.isolatedHost? url.toList = some piece ∧
      (Address.Host.ofDomain piece = .ok host ∨ Address.Host.ofName piece = .ok host) ∧
      d.host.toList.filter (!Address.isIgnored ·) = piece := by
  rw [ofUrl] at h
  split at h
  · simp at h
  · simp at h
  · next host hhost =>
    obtain ⟨piece, hpiece⟩ := Address.exists_isolates hhost
    obtain ⟨written, hwritten, hseen⟩ := hpiece.exists_written hs
    obtain rfl : _ = d := Except.ok.inj h
    refine ⟨host, piece, hhost, hpiece.isolatedHost?_eq, hpiece.spells, ?_⟩
    simpa [hwritten] using hseen

/-- Slashes of both kinds, credentials, a tab in the host and a port do no harm. -/
theorem host_of_mixed_address :
    let url := "http:\\/u:p@Exam\tple.org:80/x"
    ofUrl url = .ok ⟨url, "Exam\tple.org", none, none, none⟩ ∧ Address.Seamless url.toList ∧
      ∃ host piece, Address.host? url.toList = .ok (some host) ∧
        Address.isolatedHost? url.toList = some piece ∧
        (Address.Host.ofDomain piece = .ok host ∨ Address.Host.ofName piece = .ok host) ∧
        "Exam\tple.org".toList.filter (!Address.isIgnored ·) = piece := by
  intro url
  have h : ofUrl url = .ok ⟨url, "Exam\tple.org", none, none, none⟩ := by decide +kernel
  have hs : Address.Seamless url.toList :=
    ⟨by decide +kernel, by decide +kernel, fun _ _ _ _ => by decide +kernel⟩
  exact ⟨h, hs, host_eq_isolated h hs⟩

/-- Each of the three conditions is needed: a backslash in the credentials of an address that is
not one of the web, a tab between slashes and a tab before a bracket all mislead. -/
theorem host_ne_isolated :
    ((ofUrl "foo://u\\x@h/").map Document.host = .ok "u" ∧
        Address.isolatedHost? "foo://u\\x@h/".toList = some "h".toList) ∧
      ((ofUrl "http:/\t/h/").map Document.host = .ok "\t" ∧
        Address.isolatedHost? "http:/\t/h/".toList = some "h".toList) ∧
      (ofUrl "http://\t[::1]/").map Document.host = .ok "\t[" ∧
        Address.isolatedHost? "http://\t[::1]/".toList = some "[::1]".toList := by
  refine ⟨⟨?_, ?_⟩, ⟨?_, ?_⟩, ?_, ?_⟩ <;> decide +kernel

end Document

end Rerank
