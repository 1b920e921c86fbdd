/-
Where the host of a valid address ends.

A text that spells a host is either an IPv6 address between brackets or free of brackets at its
front and of colons and at signs throughout (`Delimited`).  So whoever looks for the end of the
host, a colon or a closing bracket, finds it there and not before.

Under the schemes of the web this rests on three facts: an IPv6 address is made of digits, colons
and full stops (`IPv6.isPart_of_parse?`), resolving percent escapes keeps every character that is
not part of one (`Percent.mem_of_decode?`), and a domain keeps its colons and at signs until they
are refused.
-/
import Mathlib.Data.Option.Basic
import Rerank.Address.Host
import Rerank.Proofs.Domain.Delimiters

namespace Rerank.Address

open Domain (Parting)

/-! ### Percent escapes -/

/-- A colon and an at sign are no digits of any base. -/
lemma digitValue?_of_parting {c : Char} (h : Parting c) : digitValue? c = none := by
  rcases h with rfl | rfl <;> decide

namespace Percent

/-- An escape is a percent sign and two digits; any other character stands for its own bytes. -/
lemma mem_bytes {c : Char} (hpercent : c ≠ '%') (hdigit : digitValue? c = none)
    {s : List Char} (h : c ∈ s) {b : UInt8} (hb : b ∈ String.utf8EncodeChar c) : b ∈ bytes s := by
  fun_induction bytes s with
  | case1 => simp at h
  | case2 a a' rest m n ha ha' ih =>
    have hne : c ≠ a ∧ c ≠ a' := by
      constructor <;> rintro rfl <;> simp_all
    exact List.mem_cons_of_mem _ (ih (by simpa [hpercent, hne.1, hne.2] using h))
  | case3 a a' rest hnone ih =>
    exact List.mem_cons_of_mem _ (ih (by simpa [hpercent] using h))
  | case4 x rest hx ih =>
    rcases List.mem_cons.1 h with rfl | h
    · exact List.mem_append_left _ hb
    · exact List.mem_append_right _ (ih h)

/-- A byte of ASCII stands for the character of its own number and is part of no other. -/
lemma toNat_eq_of_mem_utf8EncodeChar {c : Char} {b : UInt8} (hb : b.toNat < 0x80)
    (h : b ∈ String.utf8EncodeChar c) : c.toNat = b.toNat := by
  simp only [String.utf8EncodeChar] at h
  -- The bytes of a longer encoding all lie above ASCII.
  split at h
  · obtain rfl := List.mem_singleton.1 h
    rw [UInt8.toNat_ofNat', Char.toNat]
    omega
  · exfalso
    split at h
    · simp only [List.mem_cons, List.not_mem_nil, or_false] at h
      rcases h with rfl | rfl <;> rw [UInt8.toNat_ofNat'] at hb <;> omega
    · split at h
      · simp only [List.mem_cons, List.not_mem_nil, or_false] at h
        rcases h with rfl | rfl | rfl <;> rw [UInt8.toNat_ofNat'] at hb <;> omega
      · simp only [List.mem_cons, List.not_mem_nil, or_false] at h
        rcases h with rfl | rfl | rfl | rfl <;> rw [UInt8.toNat_ofNat'] at hb <;> omega

/-- The bytes of a decoded text are those that were decoded. -/
lemma utf8EncodeChar_of_fromUTF8? {bytes : List UInt8} {text : String}
    (h : String.fromUTF8? ⟨bytes.toArray⟩ = some text) :
    text.toList.flatMap String.utf8EncodeChar = bytes := by
  rw [String.fromUTF8?] at h
  split at h
  · next hvalid =>
    obtain rfl : String.fromUTF8 ⟨bytes.toArray⟩ hvalid = text := by simpa using h
    have hbytes := congrArg ByteArray.data
      (String.utf8Encode_toList (b := String.fromUTF8 ⟨bytes.toArray⟩ hvalid))
    rw [List.utf8Encode, List.data_toByteArray] at hbytes
    exact congrArg Array.toList hbytes
  · simp at h

/-- Resolving escapes keeps the characters of ASCII that are not part of one. -/
lemma mem_of_decode? {c : Char} (hascii : c.toNat < 0x80) (hpercent : c ≠ '%')
    (hdigit : digitValue? c = none) {s decoded : List Char} (hs : c ∈ s)
    (h : decode? s = some decoded) : c ∈ decoded := by
  rw [decode?] at h
  split at h
  · obtain ⟨text, htext, rfl⟩ := Option.map_eq_some_iff.1 h
    have hb : UInt8.ofNat c.toNat ∈ String.utf8EncodeChar c := by
      have hle : c.toNat ≤ 127 := by omega
      simp [String.utf8EncodeChar, hle]
    have hmem : UInt8.ofNat c.toNat ∈ text.toList.flatMap String.utf8EncodeChar := by
      rw [utf8EncodeChar_of_fromUTF8? htext]
      exact mem_bytes hpercent hdigit hs hb
    obtain ⟨x, hx, hxb⟩ := List.mem_flatMap.1 hmem
    have htoNat : (UInt8.ofNat c.toNat).toNat = c.toNat := by
      rw [UInt8.toNat_ofNat']
      omega
    have hxc : x.toNat = c.toNat := by
      rw [toNat_eq_of_mem_utf8EncodeChar (by omega) hxb, htoNat]
    rwa [← Char.toNat_inj.1 hxc]
  · obtain rfl : s = decoded := by simpa using h
    exact hs

end Percent

/-! ### IPv6 addresses -/

/-- A text that spells a number is made of digits. -/
lemma IPv4.isSome_of_valueIn? {radix : Nat} {s : List Char} {n : Nat}
    (h : valueIn? radix s = some n) : ∀ c ∈ s, (digitValue? c).isSome := by
  unfold valueIn? at h
  generalize 0 = start at h
  induction s generalizing start with
  | nil => simp
  | cons x s ih =>
    rw [List.foldlM_cons] at h
    obtain ⟨next, hstep, hrest⟩ := Option.bind_eq_some_iff.1 h
    rintro c (_ | ⟨_, hc⟩)
    · rcases hx : digitValue? x with _ | d
      · simp [hx] at hstep
      · rfl
    · exact ih next hrest c hc

/-- If something is done for each of some things, it is possible for every one of them. -/
lemma exists_of_mapM_eq_some {α β : Type} {f : α → Option β} {l : List α} {bs : List β}
    (h : l.mapM f = some bs) {a : α} (ha : a ∈ l) : ∃ b, f a = some b := by
  induction l generalizing bs with
  | nil => cases ha
  | cons x l ih =>
    rw [List.mapM_cons] at h
    obtain ⟨b, hb, hrest⟩ := Option.bind_eq_some_iff.1 h
    obtain ⟨bs', hbs', -⟩ := Option.bind_eq_some_iff.1 hrest
    rcases List.mem_cons.1 ha with rfl | ha
    · exact ⟨b, hb⟩
    · exact ih hbs' ha

namespace IPv6

/-- The characters that an address is made of. -/
def IsPart (c : Char) : Prop :=
  (digitValue? c).isSome ∨ c = '.' ∨ c = ':'

instance (c : Char) : Decidable (IsPart c) :=
  inferInstanceAs (Decidable (_ ∨ _))

lemma isPart_of_group? {s : List Char} {n : Nat} (h : group? s = some n) :
    ∀ c ∈ s, IsPart c := by
  rw [group?] at h
  split at h
  · simp at h
  · exact fun c hc => .inl (IPv4.isSome_of_valueIn? h c hc)

lemma isPart_of_byte? {s : List Char} {n : Nat} (h : byte? s = some n) :
    ∀ c ∈ s, IsPart c := by
  rw [byte?] at h
  split at h
  · simp at h
  · exact fun c hc => .inl (IPv4.isSome_of_valueIn? (Option.filter_eq_some_iff.1 h).1 c hc)

lemma isPart_of_dotted? {s : List Char} {groups : List Nat} (h : dotted? s = some groups) :
    ∀ c ∈ s, IsPart c := by
  intro c hc
  rw [dotted?] at h
  split at h
  · next hbytes =>
    rcases Text.eq_or_mem_piece (c := '.') hc with rfl | ⟨piece, hpiece, hc⟩
    · exact .inr (.inl rfl)
    · obtain ⟨n, hn⟩ := exists_of_mapM_eq_some hbytes hpiece
      exact isPart_of_byte? hn c hc
  · simp at h

lemma isPart_of_groups? {tail : Bool} {pieces : List (List Char)} {groups : List Nat}
    (h : groups? tail pieces = some groups) : ∀ piece ∈ pieces, ∀ c ∈ piece, IsPart c := by
  induction pieces generalizing groups with
  | nil => simp
  | cons s rest ih =>
    rcases rest with _ | ⟨next, rest⟩
    · intro piece hpiece
      obtain rfl : piece = s := by simpa using hpiece
      rw [groups?] at h
      split at h
      · exact isPart_of_dotted? h
      · obtain ⟨n, hn, -⟩ := Option.map_eq_some_iff.1 h
        exact isPart_of_group? hn
    · simp only [groups?] at h
      obtain ⟨n, hn, h⟩ := Option.bind_eq_some_iff.1 h
      obtain ⟨more, hmore, -⟩ := Option.bind_eq_some_iff.1 h
      rintro piece (_ | ⟨_, hpiece⟩)
      · exact isPart_of_group? hn
      · exact ih hmore piece hpiece

lemma isPart_of_side? {tail : Bool} {s : List Char} {groups : List Nat}
    (h : side? tail s = some groups) : ∀ c ∈ s, IsPart c := by
  intro c hc
  rw [side?] at h
  split at h
  · next hs => simp_all
  · rcases Text.eq_or_mem_piece (c := ':') hc with rfl | ⟨piece, hpiece, hc⟩
    · exact .inr (.inr rfl)
    · exact isPart_of_groups? h piece hpiece c hc

lemma mem_cutGap {s : List Char} {c : Char} (h : c ∈ s) :
    c = ':' ∨ c ∈ (cutGap s).1 ∨ ∃ t, (cutGap s).2 = some t ∧ c ∈ t := by
  fun_induction cutGap s with
  | case1 => simp at h
  | case2 s => simpa [or_assoc] using h
  | case3 x s hs ih =>
    rcases List.mem_cons.1 h with rfl | h
    · exact .inr (.inl List.mem_cons_self)
    · rcases ih h with rfl | h | h
      · exact .inl rfl
      · exact .inr (.inl (List.mem_cons_of_mem x h))
      · exact .inr (.inr h)

/-- An address is made of digits, colons and full stops. -/
lemma isPart_of_parse? {s : List Char} {a : IPv6} (h : parse? s = some a) :
    ∀ c ∈ s, IsPart c := by
  intro c hc
  have hcut := mem_cutGap hc
  rw [parse?] at h
  split at h
  · next front hgap =>
    obtain ⟨groups, hgroups, -⟩ := Option.bind_eq_some_iff.1 h
    rw [hgap] at hcut
    rcases hcut with rfl | hc | ⟨t, ht, -⟩
    · exact .inr (.inr rfl)
    · exact isPart_of_side? hgroups c hc
    · simp at ht
  · next front rear hgap =>
    obtain ⟨left, hleft, h⟩ := Option.bind_eq_some_iff.1 h
    obtain ⟨right, hright, -⟩ := Option.bind_eq_some_iff.1 h
    rw [hgap] at hcut
    rcases hcut with rfl | hc | ⟨t, ht, hc⟩
    · exact .inr (.inr rfl)
    · exact isPart_of_side? hleft c hc
    · obtain rfl : rear = t := by simpa using ht
      exact isPart_of_side? hright c hc

end IPv6

/-! ### Hosts -/

namespace Host

/-- A host that shows where it ends: brackets stand around the characters of an IPv6 address, or
it begins with no bracket and holds no colon and no at sign. -/
inductive Delimited : List Char → Prop
  /-- A host in brackets. -/
  | bracketed (inner : List Char) (hinner : ∀ c ∈ inner, IPv6.IsPart c) :
    Delimited ('[' :: inner ++ [']'])
  /-- A host without brackets around it. -/
  | plain (s : List Char) (hopening : s.head? ≠ some '[') (hcolon : ':' ∉ s) (hat : '@' ∉ s) :
    Delimited s

/-- A text in brackets that spells an IPv6 address shows where it ends. -/
lemma delimited_of_bracketed {s : List Char} {host : Host} (hhead : s.head? = some '[')
    (h : bracketed s = .ok host) : Delimited s := by
  rw [bracketed] at h
  split at h
  · next hlast =>
    split at h
    · next a ha =>
      obtain ⟨rest, rfl⟩ := List.head?_eq_some_iff.1 hhead
      have hrest : rest ≠ [] := by
        rintro rfl
        simp at hlast
      obtain ⟨inner, hinner⟩ : ∃ inner, rest = inner ++ [']'] := by
        refine ⟨rest.dropLast, ?_⟩
        rw [List.getLast?_cons_of_ne_nil hrest, List.getLast?_eq_some_getLast hrest] at hlast
        rw [← Option.some.inj hlast, List.dropLast_concat_getLast]
      subst hinner
      exact .bracketed inner (IPv6.isPart_of_parse? (by simpa using ha))
    · simp at h
  · simp at h

/-- What spells a host under a scheme of the web shows where it ends. -/
theorem delimited_of_ofDomain {s : List Char} {host : Host} (h : ofDomain s = .ok host) :
    Delimited s := by
  rw [ofDomain] at h
  split at h
  · next hhead => exact delimited_of_bracketed hhead h
  · next hhead =>
    rcases hdomain : (Percent.decode? s).bind Domain.toAscii? with _ | domain
    · simp [hdomain] at h
    · obtain ⟨decoded, hdecoded, hascii⟩ := Option.bind_eq_some_iff.1 hdomain
      have hnot : ∀ c, Parting c → c ∉ s := by
        intro c hc hs
        refine Domain.not_mem_of_toAscii? hc hascii ?_
        exact Percent.mem_of_decode? (by have := hc.toNat_lt; omega)
          (by rintro rfl; exact absurd hc (by decide)) (digitValue?_of_parting hc) hs hdecoded
      exact .plain s hhead (hnot ':' (.inl rfl)) (hnot '@' (.inr rfl))

/-- What spells a host under another scheme shows where it ends, and holds no backslash. -/
theorem delimited_of_ofName {s : List Char} {host : Host} (h : ofName s = .ok host) :
    Delimited s ∧ '\\' ∉ s := by
  rw [ofName] at h
  split at h
  · next hhead =>
    have hdelimited := delimited_of_bracketed hhead h
    refine ⟨hdelimited, ?_⟩
    cases hdelimited with
    | bracketed inner hinner =>
      have hnot : '\\' ∉ inner := fun hc => absurd (hinner _ hc) (by decide)
      simpa using hnot
    | plain s hopening _ _ => exact absurd hhead hopening
  · next hhead =>
    split at h
    · simp at h
    · next hany =>
      have hnot : ∀ c ∈ s, c ∉ delimiters := by simpa using hany
      exact ⟨.plain s hhead (fun hc => hnot _ hc (by decide)) (fun hc => hnot _ hc (by decide)),
        fun hc => hnot _ hc (by decide)⟩

namespace Delimited

variable {s : List Char}

lemma not_mem_at (h : Delimited s) : '@' ∉ s := by
  cases h with
  | bracketed inner hinner =>
    have hnot : '@' ∉ inner := fun hc => absurd (hinner _ hc) (by decide)
    simpa using hnot
  | plain s _ _ hat => exact hat

end Delimited

end Host

end Rerank.Address
