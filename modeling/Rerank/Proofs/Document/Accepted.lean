/-
Search results that are accepted.

A search result is made from an address, and texts are added to it (`Document.Accepted`).  Its host
is what is written in the address, or the normal form of the host if nothing is written where it is
looked for.  Neither is ever empty (`Document.host_ne_empty`): an empty host is refused, escaping
leaves no character out, and addresses of numbers are written with full stops or in brackets.
-/
import Mathlib.Data.List.Basic
import Rerank.Document
import Rerank.Proofs.Address.Isolated

namespace Rerank

namespace Address

/-- What is written as a host is not empty. -/
lemma writtenHost?_ne_nil {url written : List Char} (h : writtenHost? url = some written) :
    written ≠ [] := by
  rw [writtenHost?] at h
  split at h
  · cases h
  · dsimp only at h
    split at h
    · cases h
    · next host hne =>
      rintro rfl
      exact hne (Option.some.inj h)

namespace Host

/-- An IPv6 address is written in brackets. -/
lemma text_ne_empty_of_ipv6 (a : IPv6) : (ipv6 a).text ≠ "" := by
  intro hempty
  have hlist := congrArg String.toList hempty
  simp [text, IPv6.text] at hlist

/-- An IPv4 address is written with full stops. -/
lemma text_ne_empty_of_ipv4 (a : IPv4) : (ipv4 a).text ≠ "" := by
  intro hempty
  have hlist := congrArg String.toList hempty
  simp [text, IPv4.text] at hlist

lemma text_ne_empty_of_name {s : List Char} (h : s ≠ []) : (name (String.ofList s)).text ≠ "" := by
  intro hempty
  have hlist := congrArg String.toList hempty
  rw [text, String.toList_ofList] at hlist
  exact h hlist

lemma text_ne_empty_of_bracketed {s : List Char} {host : Host} (h : bracketed s = .ok host) :
    host.text ≠ "" := by
  rw [bracketed] at h
  split at h
  · split at h
    · next a _ =>
      cases h
      exact text_ne_empty_of_ipv6 a
    · cases h
  · cases h

lemma text_ne_empty_of_ofDomain {s : List Char} {host : Host} (h : ofDomain s = .ok host) :
    host.text ≠ "" := by
  rw [ofDomain] at h
  split at h
  · exact text_ne_empty_of_bracketed h
  · split at h
    · cases h
    · cases h
    · next domain hne _ =>
      split at h
      · split at h
        · next a _ =>
          cases h
          exact text_ne_empty_of_ipv4 a
        · cases h
      · cases h
        exact text_ne_empty_of_name hne

/-- Escaping leaves no character out. -/
lemma encode_ne_nil {s : List Char} (h : s ≠ []) : Percent.encode s ≠ [] := by
  obtain ⟨c, rest, rfl⟩ := List.exists_cons_of_ne_nil h
  rw [Percent.encode, List.flatMap_cons]
  intro hnil
  obtain ⟨hfirst, -⟩ := List.append_eq_nil_iff.1 hnil
  split at hfirst
  · cases hfirst
  · obtain ⟨b, hb⟩ := List.exists_mem_of_ne_nil _ (String.utf8EncodeChar_ne_nil (c := c))
    exact absurd (List.flatMap_eq_nil_iff.1 hfirst b hb) (by simp [Percent.escape])

lemma text_ne_empty_of_ofName {s : List Char} {host : Host} (hne : s ≠ [])
    (h : ofName s = .ok host) : host.text ≠ "" := by
  rw [ofName] at h
  split at h
  · exact text_ne_empty_of_bracketed h
  · split at h
    · cases h
    · cases h
      exact text_ne_empty_of_name (encode_ne_nil hne)

end Host

end Address

namespace Document

/-- A search result is accepted: without its texts it is what is made from its address. -/
def Accepted (d : Document) : Prop :=
  ofUrl d.url = .ok ⟨d.url, d.host, none, none, none⟩

instance (d : Document) : Decidable d.Accepted :=
  inferInstanceAs (Decidable (_ = _))

/-- What is made from an address: it has the host that is written, or else its normal form, and no
texts. -/
lemma ofUrl_eq_ok_iff {url : String} {d : Document} : ofUrl url = .ok d ↔
    ∃ host, Address.host? url.toList = .ok (some host) ∧
      d = ⟨url, ((Address.writtenHost? url.toList).map String.ofList).getD host.text,
        none, none, none⟩ := by
  rw [ofUrl]
  rcases Address.host? url.toList with cause | _ | host
  · simp
  · simp
  · simp [eq_comm]

/-- A search result is accepted if its host is that of what is made from its address, whatever its
texts are. -/
lemma accepted_iff_exists {d : Document} :
    d.Accepted ↔ ∃ base, ofUrl d.url = .ok base ∧ d.host = base.host := by
  constructor
  · intro h
    exact ⟨_, h, rfl⟩
  · rintro ⟨base, hbase, hhost⟩
    obtain ⟨host, -, rfl⟩ := ofUrl_eq_ok_iff.1 hbase
    rw [Accepted, hbase, hhost]

/-- What is made from an address has a host that is not empty. -/
lemma host_ne_empty_of_ofUrl {url : String} {d : Document} (h : ofUrl url = .ok d) :
    d.host ≠ "" := by
  obtain ⟨host, hhost, rfl⟩ := ofUrl_eq_ok_iff.1 h
  rcases hwritten : Address.writtenHost? url.toList with _ | written
  · obtain ⟨piece, hpiece⟩ := Address.exists_isolates hhost
    rcases hpiece.spells with hspells | hspells
    · exact Address.Host.text_ne_empty_of_ofDomain hspells
    · exact Address.Host.text_ne_empty_of_ofName hpiece.ne_nil hspells
  · exact Address.Host.text_ne_empty_of_name (Address.writtenHost?_ne_nil hwritten)

/-- **The host of an accepted search result is not empty.** -/
lemma host_ne_empty {d : Document} (h : d.Accepted) : d.host ≠ "" := by
  obtain ⟨base, hbase, hhost⟩ := accepted_iff_exists.1 h
  rw [hhost]
  exact host_ne_empty_of_ofUrl hbase

end Document

end Rerank
