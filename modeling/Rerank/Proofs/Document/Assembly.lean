/-
Addresses that are put together from parts.

An address may be written with controls and blanks around it, with any number of slashes of either
kind behind the scheme, with credentials before the host and a port behind it, and with anything
behind a character that ends the authority (`Address.Assembly`).  Cutting the host out undoes all of
this, one part after the other: the ends are trimmed (`Assembly.trimBy_text`), the scheme and the
slashes are passed over (`Assembly.behindSlashes_text`), the authority ends where it was ended and the
host begins behind the credentials (`Assembly.writtenHostPort_text`), and the host ends before the
port (`Assembly.leadingHost_hostPort`).

The main result is `Document.host_of_assembly`: the host of a search result is the one that was put
into its address, letter by letter, and nothing else in the address matters to a rule that looks at
another text.
-/
import Mathlib.Data.Bool.AllAny
import Rerank.Proofs.Document.Accepted
import Rerank.Proofs.Document.Host
import Rerank.Proofs.Rule.Application
import Rerank.Proofs.Rule.Line

namespace Rerank

namespace Address

/-- The characters that end an authority as it is written: slashes of both kinds, question marks and
number signs. -/
def delimiters : List Char := ['/', '\\', '?', '#']

/-- How a host may be written: without colons and without a bracket in front, or in brackets. -/
inductive WrittenForm : List Char → Prop
  | plain {host : List Char} (hcolon : ':' ∉ host) (hopening : host.head? ≠ some '[') :
      WrittenForm host
  | bracketed {inner : List Char} (hclosing : ']' ∉ inner) : WrittenForm ('[' :: inner ++ [']'])

/-- The parts of an address. -/
structure Assembly where
  /-- What stands before the address. -/
  before : List Char
  /-- The scheme. -/
  scheme : List Char
  /-- The slashes behind the colon. -/
  slashes : List Char
  /-- What stands before an at sign. -/
  credentials : Option (List Char)
  /-- The host. -/
  host : List Char
  /-- What stands behind a colon. -/
  port : Option (List Char)
  /-- What follows the authority. -/
  tail : List Char
  /-- What stands behind the address. -/
  behind : List Char
  /-- Nothing but controls and blanks stands before the address. -/
  control_of_mem_before : ∀ c ∈ before, isControlOrBlank c = true
  /-- There is a scheme. -/
  scheme_ne_nil : scheme ≠ []
  /-- The scheme holds no colon. -/
  colon_not_mem_scheme : ':' ∉ scheme
  /-- The scheme does not begin with a control or a blank. -/
  head_scheme : ∀ c ∈ scheme.head?, isControlOrBlank c = false
  /-- Slashes of both kinds may be mixed. -/
  slash_of_mem_slashes : ∀ c ∈ slashes, c = '/' ∨ c = '\\'
  /-- The credentials do not end the authority. -/
  mem_credentials : ∀ s ∈ credentials, ∀ c ∈ s, c ∉ delimiters
  /-- There is a host. -/
  host_ne_nil : host ≠ []
  /-- The host does not end the authority, and it holds no at sign, no control and no blank. -/
  mem_host : ∀ c ∈ host, c ∉ delimiters ∧ c ≠ '@' ∧ isControlOrBlank c = false
  /-- The host is in brackets or free of colons. -/
  host_form : WrittenForm host
  /-- The port is made of digits, perhaps of none. -/
  digit_of_mem_port : ∀ s ∈ port, ∀ c ∈ s, c.isDigit = true
  /-- What follows the authority begins with a character that ends it. -/
  head_tail : ∀ c ∈ tail.head?, c ∈ delimiters
  /-- Nothing but controls and blanks stands behind the address. -/
  control_of_mem_behind : ∀ c ∈ behind, isControlOrBlank c = true

/-- A character ends an authority as it is written exactly if it is a delimiter. -/
lemma ends_iff_mem_delimiters {c : Char} : Authority.ends true c = true ↔ c ∈ delimiters := by
  rw [Authority.ends_true]
  simp [isSlash, delimiters, or_assoc]

lemma isControlOrBlank_of_mem_delimiters {c : Char} (h : c ∈ delimiters) :
    isControlOrBlank c = false := by
  have hall : ∀ d ∈ delimiters, isControlOrBlank d = false :=
    List.all_iff_forall_prop.1 (by decide)
  exact hall c h

lemma isControlOrBlank_of_isDigit {c : Char} (h : c.isDigit = true) :
    isControlOrBlank c = false := by
  simp only [Char.isDigit, Bool.and_eq_true, decide_eq_true_eq] at h
  have hlow : 48 ≤ c.toNat := h.1
  simp only [isControlOrBlank, decide_eq_false_iff_not]
  omega

/-- A digit delimits nothing. -/
lemma not_mem_delimiters_of_isDigit {c : Char} (h : c.isDigit = true) :
    c ∉ delimiters ∧ c ≠ '@' ∧ isControlOrBlank c = false := by
  have hnot : ∀ d ∈ '@' :: delimiters, d.isDigit = false := List.all_iff_forall_prop.1 (by decide)
  have hmem : c ∉ '@' :: delimiters := fun hc => by
    rw [hnot c hc] at h
    cases h
  exact ⟨List.not_mem_of_not_mem_cons hmem, List.ne_of_not_mem_cons hmem,
    isControlOrBlank_of_isDigit h⟩

namespace Assembly

/-- The credentials with their at sign. -/
def credentialsText (a : Assembly) : List Char :=
  match a.credentials with
  | some s => s ++ ['@']
  | none => []

/-- The host and the port with its colon. -/
def hostPort (a : Assembly) : List Char :=
  match a.port with
  | some s => a.host ++ ':' :: s
  | none => a.host

/-- The authority: the credentials, the host and the port. -/
def authority (a : Assembly) : List Char := a.credentialsText ++ a.hostPort

/-- The address that is put together. -/
def text (a : Assembly) : List Char :=
  a.before ++ (a.scheme ++ ':' :: (a.slashes ++ a.authority)) ++ (a.tail ++ a.behind)

variable (a : Assembly)

/-! ### The characters of the parts -/

lemma hostPort_ne_nil : a.hostPort ≠ [] := by
  rw [hostPort]
  split
  · simp
  · exact a.host_ne_nil

/-- A character of the host and the port. -/
lemma mem_hostPort {c : Char} (h : c ∈ a.hostPort) :
    c ∉ delimiters ∧ c ≠ '@' ∧ isControlOrBlank c = false := by
  rw [hostPort] at h
  split at h
  · next s hs =>
    rcases List.mem_append.1 h with h | h
    · exact a.mem_host c h
    · rcases List.mem_cons.1 h with rfl | h
      · decide
      · exact not_mem_delimiters_of_isDigit (a.digit_of_mem_port s hs c h)
  · exact a.mem_host c h

/-- No character of the authority ends it. -/
lemma ends_of_mem_authority {c : Char} (h : c ∈ a.authority) : Authority.ends true c = false := by
  rw [← Bool.not_eq_true, ends_iff_mem_delimiters]
  rcases List.mem_append.1 h with h | h
  · rw [credentialsText] at h
    split at h
    · next s hs =>
      rcases List.mem_append.1 h with h | h
      · exact a.mem_credentials s hs c h
      · rw [List.mem_singleton.1 h]
        decide
    · cases h
  · exact (a.mem_hostPort h).1

lemma authority_ne_nil : a.authority ≠ [] :=
  List.append_ne_nil_of_right_ne_nil _ a.hostPort_ne_nil

/-! ### Passing over the parts -/

/-- **Trimming the ends** leaves the parts up to the authority as they are, and behind it nothing or
something that begins with a delimiter. -/
lemma trimBy_text : ∃ tail, (∀ c ∈ tail.head?, c ∈ delimiters) ∧
    Text.trimBy isControlOrBlank a.text =
      a.scheme ++ ':' :: (a.slashes ++ (a.authority ++ tail)) := by
  refine ⟨Text.trimEndBy isControlOrBlank (a.tail ++ a.behind), ?_, ?_⟩
  · rcases htail : a.tail with _ | ⟨d, t⟩
    · rw [List.nil_append, Text.trimEndBy_eq_nil a.control_of_mem_behind]
      simp
    · have hd : d ∈ delimiters := a.head_tail d (by simp [htail])
      rw [List.cons_append, Text.trimEndBy_cons_of_not (isControlOrBlank_of_mem_delimiters hd)]
      rintro c ⟨⟩
      exact hd
  · have hfront : (a.scheme ++ ':' :: (a.slashes ++ a.authority) ++ (a.tail ++ a.behind)).dropWhile
        isControlOrBlank = a.scheme ++ ':' :: (a.slashes ++ a.authority) ++ (a.tail ++ a.behind) := by
      obtain ⟨c, scheme, hscheme⟩ := List.exists_cons_of_ne_nil a.scheme_ne_nil
      have hc := a.head_scheme c (by simp [hscheme])
      rw [hscheme]
      exact List.dropWhile_cons_of_neg (by simp [hc])
    have hlast : ∀ c, (a.scheme ++ ':' :: (a.slashes ++ a.authority)).getLast? = some c →
        isControlOrBlank c = false := by
      intro c hc
      rw [authority, ← List.append_assoc a.slashes, ← List.cons_append, ← List.append_assoc,
        List.getLast?_append_of_ne_nil _ a.hostPort_ne_nil] at hc
      exact (a.mem_hostPort (List.mem_of_getLast? hc)).2.2
    rw [Text.trimBy, text, List.append_assoc a.before,
      List.dropWhile_append_of_pos a.control_of_mem_before, hfront, Text.trimEndBy_append hlast]
    simp

/-- **The slashes are passed over**, however many there are. -/
lemma behindSlashes_text : ∃ tail, (∀ c ∈ tail.head?, c ∈ delimiters) ∧
    behindSlashes a.text = a.authority ++ tail := by
  obtain ⟨tail, htail, htext⟩ := a.trimBy_text
  refine ⟨tail, htail, ?_⟩
  have hslashes : ∀ c ∈ a.slashes, isSlash c = true := by
    intro c hc
    rcases a.slash_of_mem_slashes c hc with rfl | rfl <;> rfl
  obtain ⟨c, rest, hauthority⟩ := List.exists_cons_of_ne_nil a.authority_ne_nil
  have hc : isSlash c = false := by
    have hends := a.ends_of_mem_authority (c := c) (by simp [hauthority])
    rw [Authority.ends_true] at hends
    simp_all
  rw [behindSlashes, htext, Text.cut_append_cons a.colon_not_mem_scheme]
  dsimp only
  rw [List.dropWhile_append_of_pos hslashes, hauthority, List.cons_append,
    List.dropWhile_cons_of_neg (by simp [hc])]

/-- **The authority ends before the delimiter, and the host begins behind the last at sign.** -/
lemma writtenHostPort_text : writtenHostPort a.text = a.hostPort := by
  obtain ⟨tail, htail, htext⟩ := a.behindSlashes_text
  have hauthority : ∀ c ∈ a.authority, (!Authority.ends true c) = true := by
    intro c hc
    rw [a.ends_of_mem_authority hc, Bool.not_false]
  have hstop : tail.takeWhile (!Authority.ends true ·) = [] := by
    rcases tail with _ | ⟨c, tail⟩
    · rfl
    · have hc : Authority.ends true c = true := ends_iff_mem_delimiters.2 (htail c rfl)
      exact List.takeWhile_cons_of_neg (by simp [hc])
  have hat : '@' ∉ a.hostPort := fun h => (a.mem_hostPort h).2.1 rfl
  rw [writtenHostPort, htext, List.takeWhile_append_of_pos hauthority, hstop, List.append_nil,
    authority, credentialsText]
  split
  · rw [List.append_assoc]
    exact Text.afterLast_append_cons hat _
  · exact Text.afterLast_of_not_mem hat

/-- **The host ends before the port**, in brackets or not. -/
lemma leadingHost_hostPort : leadingHost a.hostPort = a.host := by
  have hform := a.host_form
  have hne := a.host_ne_nil
  rw [hostPort]
  generalize a.host = host at hform hne
  cases hform with
  | plain hcolon hopening =>
    have hcut : (Text.cut ':' host).1 = host := by rw [Text.cut_of_not_mem hcolon]
    split
    · next s hs =>
      obtain ⟨c, rest, rfl⟩ := List.exists_cons_of_ne_nil hne
      rw [leadingHost, if_neg (by simpa using hopening), Text.cut_append_cons hcolon]
    · rw [leadingHost, if_neg hopening, hcut]
  | @bracketed inner hclosing =>
    have hfront : ']' ∉ '[' :: inner := by simpa using hclosing
    have hbracket (rest : List Char) : leadingHost ('[' :: inner ++ ']' :: rest) =
        '[' :: inner ++ [']'] := by
      have hhead : ('[' :: inner ++ ']' :: rest).head? = some '[' := rfl
      rw [leadingHost, if_pos hhead, Text.cut_append_cons hfront]
    split
    · rw [List.append_assoc]
      exact hbracket _
    · exact hbracket []

/-- **Cutting out the host undoes putting the address together.** -/
lemma writtenHost?_text : writtenHost? a.text = some a.host := by
  have hhost : leadingHost (writtenHostPort a.text) = a.host := by
    rw [a.writtenHostPort_text, a.leadingHost_hostPort]
  rw [writtenHost?_eq_some (by rw [hhost]; exact a.host_ne_nil), hhost]

end Assembly

end Address

namespace Document

open Address (Assembly)

/-- A search result is found at an address that is put together from parts, whatever its other texts
are. -/
structure IsAt (d : Document) (a : Assembly) : Prop where
  /-- The search result is accepted. -/
  accepted : d.Accepted
  /-- Its address has these parts. -/
  url_eq : d.url = String.ofList a.text

/-- The host of a search result is the one that was put into its address. -/
lemma IsAt.host_eq {d : Document} {a : Assembly} (h : d.IsAt a) : d.host = String.ofList a.host := by
  obtain ⟨base, hbase, hhost⟩ := accepted_iff_exists.1 h.accepted
  obtain ⟨host, -, rfl⟩ := ofUrl_eq_ok_iff.1 hbase
  rw [hhost, h.url_eq, String.toList_ofList, a.writtenHost?_text]
  rfl

/-- **The host is cut out of an address as it was put in.**  Whatever the parts of an address are,
cutting out the host finds the host among them, and it is the host of every search result that is
accepted at this address.  So if two addresses are put together with the same host, whatever their
other parts are, then search results at them have the same host, and if they agree on all texts but
the address, each rule that looks at one of these texts asks for the same on both. -/
theorem host_of_assembly :
    (∀ a : Assembly, Address.writtenHost? a.text = some a.host) ∧
    (∀ (d : Document) (a : Assembly), d.IsAt a → d.host = String.ofList a.host) ∧
    ∀ (d d' : Document) (a a' : Assembly), d.IsAt a → d'.IsAt a' → a.host = a'.host →
      d.host = d'.host ∧
        ((∀ f, f ≠ .url → d.text? f = d'.text? f) →
          ∀ r : Rule, r.target ≠ .url → (r.test d).value = (r.test d').value) := by
  refine ⟨fun a => a.writtenHost?_text, fun d a h => h.host_eq, fun d d' a a' h h' hsame => ?_⟩
  have hhost : d.host = d'.host := by rw [h.host_eq, h'.host_eq, hsame]
  exact ⟨hhost, fun htext r hr => Rule.value_test_congr hhost (htext r.target hr)⟩

/-- One address with blanks around it, slashes of both kinds, two at signs, a port, and at signs and
colons behind a question mark, and another one with nothing but a scheme and the host. -/
theorem host_of_full_and_bare_assembly :
    let d : Document :=
      ⟨"\n http:\\/u@x:p@Exam%41ple.org:80?a@b:c#d ", "Exam%41ple.org", some "t", none, none⟩
    let d' : Document := ⟨"WS:Exam%41ple.org", "Exam%41ple.org", some "t", none, none⟩
    ∃ a a' r, d.IsAt a ∧ d'.IsAt a' ∧ a.host = a'.host ∧ d.host = d'.host ∧
      (Rule.parse "t$intitle,boost").value = .ok r ∧ r.target ≠ .url ∧
      (r.test d).value = (r.test d').value ∧ (r.test d).value = some (.boost (.clamp 1)) := by
  intro d d'
  let a : Assembly :=
    { before := "\n ".toList, scheme := "http".toList, slashes := "\\/".toList,
      credentials := some "u@x:p".toList, host := "Exam%41ple.org".toList,
      port := some "80".toList, tail := "?a@b:c#d".toList, behind := " ".toList,
      control_of_mem_before := List.all_iff_forall_prop.1 (by decide),
      scheme_ne_nil := by decide,
      colon_not_mem_scheme := by decide,
      head_scheme := by
        rintro _ ⟨⟩
        decide,
      slash_of_mem_slashes := List.all_iff_forall_prop.1 (by decide),
      mem_credentials := by
        rintro _ ⟨⟩
        exact List.all_iff_forall_prop.1 (by decide),
      host_ne_nil := by decide,
      mem_host := List.all_iff_forall_prop.1 (by decide),
      host_form := .plain (by decide) (by decide),
      digit_of_mem_port := by
        rintro _ ⟨⟩
        exact List.all_iff_forall_prop.1 (by decide),
      head_tail := by
        rintro _ ⟨⟩
        decide,
      control_of_mem_behind := List.all_iff_forall_prop.1 (by decide) }
  let a' : Assembly :=
    { before := [], scheme := "WS".toList, slashes := [], credentials := none,
      host := "Exam%41ple.org".toList, port := none, tail := [], behind := [],
      control_of_mem_before := by simp,
      scheme_ne_nil := by decide,
      colon_not_mem_scheme := by decide,
      head_scheme := by
        rintro _ ⟨⟩
        decide,
      slash_of_mem_slashes := by simp,
      mem_credentials := by simp,
      host_ne_nil := by decide,
      mem_host := List.all_iff_forall_prop.1 (by decide),
      host_form := .plain (by decide) (by decide),
      digit_of_mem_port := by simp,
      head_tail := by simp,
      control_of_mem_behind := by simp }
  have ha : d.IsAt a := ⟨by decide +kernel, by decide +kernel⟩
  have ha' : d'.IsAt a' := ⟨by decide +kernel, by decide +kernel⟩
  obtain ⟨hsame, hrules⟩ := host_of_assembly.2.2 d d' a a' ha ha' rfl
  have htext : ∀ f, f ≠ .url → d.text? f = d'.text? f := by
    intro f hf
    cases f with
    | url => exact absurd rfl hf
    | _ => rfl
  obtain ⟨r, hr, hparts⟩ := exists_of_map_toOption (x := (Rule.parse "t$intitle,boost").value)
    (f := fun r => (r.target, (r.test d).value)) (b := (.title, some (.boost (.clamp 1))))
    (by decide +kernel)
  obtain ⟨htarget, htest⟩ := Prod.mk.inj hparts
  have hne : r.target ≠ .url := by
    rw [htarget]
    decide
  exact ⟨a, a', r, ha, ha', rfl, hsame, hr, hne, hrules htext r hne, htest⟩

end Document

end Rerank
