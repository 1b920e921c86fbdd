/-
The JSON forms are read back, and nothing else is read.

For each type it is said which values of JSON mean which of its members, without the readers: an
action, an outcome or a field is named by its kind (`Value.Names`), and limits are given by the members
of an object or the items of a list (`Limits.MeantBy`).  A text is read as what the value means that
it holds, whatever its spelling, and each member is written as a text that means it
(`Faithful`).

The main result is `forms_faithful`.
-/
import Mathlib.Data.List.Induction
import Rerank.Proofs.Json.Writing

namespace Rerank

namespace Json

/-! ### Kinds -/

/-- A value names a kind and holds what the kind carries: as an object of one member, whose key is
the name, or, if the kind carries nothing, as the bare name. -/
def Value.Names (v : Value) (kind : String × Value) : Prop :=
  v = .object [(some kind.1, kind.2)] ∨ v = .string (some kind.1) ∧ kind.2 = .null

lemma Value.kind?_eq_some_iff {v : Value} {kind : String × Value} :
    v.kind? = some kind ↔ v.Names kind := by
  obtain ⟨name, content⟩ := kind
  constructor
  · intro h
    unfold kind? at h
    split at h
    · cases h
      exact Or.inr ⟨rfl, rfl⟩
    · cases h
      exact Or.inl rfl
    · cases h
  · rintro (rfl | ⟨rfl, hnull : content = .null⟩)
    · rfl
    · rw [hnull]
      rfl

lemma Value.magnitude?_eq_some_iff {v : Value} {m : Magnitude} :
    v.magnitude? = some m ↔ v = .integer m.val := by
  unfold magnitude?
  split
  · next n =>
    unfold Magnitude.ofInt?
    split
    · next hrange =>
      rw [Option.some.injEq, Value.integer.injEq]
      exact ⟨fun h => h ▸ rfl, fun h => Magnitude.ext h⟩
    · next hrange =>
      rw [Value.integer.injEq]
      refine iff_of_false (by simp) ?_
      rintro rfl
      exact hrange ⟨m.least_le, m.le_greatest⟩
  · next hne => exact iff_of_false (by simp) fun h => hne _ h

@[simp] lemma Value.magnitude?_integer (m : Magnitude) : (integer m.val).magnitude? = some m :=
  magnitude?_eq_some_iff.2 rfl

/-- What carries a magnitude is an integer. -/
lemma Value.exists_of_map_magnitude? {α : Type} {v : Value} {f : Magnitude → α} {a : α}
    (h : v.magnitude?.map f = some a) : ∃ m : Magnitude, v = .integer m.val ∧ f m = a := by
  obtain ⟨m, hm, ha⟩ := Option.map_eq_some_iff.1 h
  exact ⟨m, magnitude?_eq_some_iff.1 hm, ha⟩

end Json

open Json

/-- The name of the kind of an action, and what it carries. -/
def Action.kind : Action → String × Value
  | .genericDiscard => ("GenericDiscard", .null)
  | .downrank m => ("Downrank", .integer m.val)
  | .boost m => ("Boost", .integer m.val)
  | .specificDiscard => ("SpecificDiscard", .null)

lemma Action.ofValue?_eq_some_iff {v : Value} {a : Action} :
    ofValue? v = some a ↔ v.Names a.kind := by
  rw [← Value.kind?_eq_some_iff]
  constructor
  · intro h
    unfold ofValue? at h
    split at h
    · next heq => cases h; exact heq
    · next heq =>
      obtain ⟨m, rfl, rfl⟩ := Value.exists_of_map_magnitude? h
      exact heq
    · next heq =>
      obtain ⟨m, rfl, rfl⟩ := Value.exists_of_map_magnitude? h
      exact heq
    · next heq => cases h; exact heq
    · cases h
  · intro h
    rw [ofValue?, h]
    cases a <;> simp [kind]

/-- The name of the kind of an outcome, and what it carries. -/
def Outcome.kind : Outcome → String × Value
  | .noOpinion => ("NoOpinion", .null)
  | .discard => ("Discard", .null)
  | .score m => ("Score", .integer m.val)

lemma Outcome.ofValue?_eq_some_iff {v : Value} {o : Outcome} :
    ofValue? v = some o ↔ v.Names o.kind := by
  rw [← Value.kind?_eq_some_iff]
  constructor
  · intro h
    unfold ofValue? at h
    split at h
    · next heq => cases h; exact heq
    · next heq => cases h; exact heq
    · next heq =>
      obtain ⟨m, rfl, rfl⟩ := Value.exists_of_map_magnitude? h
      exact heq
    · cases h
  · intro h
    rw [ofValue?, h]
    cases o <;> simp [kind]

/-- The name of a field; it carries nothing. -/
def Field.kind : Field → String × Value
  | .url => ("Url", .null)
  | .title => ("Title", .null)
  | .description => ("Description", .null)
  | .content => ("Content", .null)

lemma Field.ofValue?_eq_some_iff {v : Value} {f : Field} :
    ofValue? v = some f ↔ v.Names f.kind := by
  rw [← Value.kind?_eq_some_iff]
  constructor
  · intro h
    unfold ofValue? at h
    split at h
    · next heq => cases h; exact heq
    · next heq => cases h; exact heq
    · next heq => cases h; exact heq
    · next heq => cases h; exact heq
    · cases h
  · intro h
    rw [ofValue?, h]
    cases f <;> simp [kind]

/-! ### Limits -/

namespace Limits

/-- The limit that a value gives: `null` gives none. -/
inductive GivenBy : Value → Option UInt64 → Prop
  | absent : GivenBy .null .none
  | present (n : UInt64) : GivenBy (.integer n.toNat) (some n)

/-- The values of a key, of which there is at most one, give a limit. -/
inductive GivenOnce : List Value → Option UInt64 → Prop
  | missing : GivenOnce [] .none
  | once {v : Value} {l : Option UInt64} (h : GivenBy v l) : GivenOnce [v] l

/-- The values that the members of an object have for a key. -/
def valuesAt (key : String) (members : List (Option String × Value)) : List Value :=
  members.filterMap fun m => if m.1 = some key then some m.2 else .none

/-- The values that mean limits: lists of both limits, of the first alone or of none, and objects
whose members give each limit at most once.  Other members do not matter, if only their keys are
texts. -/
inductive MeantBy : Value → Limits → Prop
  | neither : MeantBy (.array []) ⟨.none, .none⟩
  | first {v : Value} {length : Option UInt64} (h : GivenBy v length) :
      MeantBy (.array [v]) ⟨length, .none⟩
  | both {v w : Value} {length count : Option UInt64} (hv : GivenBy v length)
      (hw : GivenBy w count) : MeantBy (.array [v, w]) ⟨length, count⟩
  | object {members : List (Option String × Value)} {length count : Option UInt64}
      (hkeys : ∀ m ∈ members, m.1 ≠ .none)
      (hlength : GivenOnce (valuesAt "max_pattern_len" members) length)
      (hcount : GivenOnce (valuesAt "max_options" members) count) :
      MeantBy (.object members) ⟨length, count⟩

lemma limit?_eq_some_iff {v : Value} {l : Option UInt64} : v.limit? = some l ↔ GivenBy v l := by
  constructor
  · intro h
    unfold Value.limit? at h
    split at h
    · cases h
      exact .absent
    · next n =>
      split at h
      · next hrange =>
        cases h
        have hn : ((UInt64.ofNat n.toNat).toNat : Int) = n := by
          rw [UInt64.toNat_ofNat_of_lt' (by omega)]
          omega
        have hgiven := GivenBy.present (UInt64.ofNat n.toNat)
        rwa [hn] at hgiven
      · cases h
    · cases h
  · rintro (_ | n)
    · rfl
    · have hlt := n.toNat_lt
      rw [Value.limit?, if_pos ⟨by omega, by simp [UInt64.size]; omega⟩]
      simp

/-- What is known of the limit of a key, after some values of the key. -/
inductive Told : List Value → Option (Option UInt64) → Prop
  | missing : Told [] .none
  | once {v : Value} {l : Option UInt64} (h : GivenBy v l) : Told [v] (some l)

lemma givenOnce_iff {vs : List Value} {l : Option UInt64} :
    GivenOnce vs l ↔ ∃ r, Told vs r ∧ r.join = l := by
  constructor
  · rintro (_ | h)
    · exact ⟨.none, .missing, rfl⟩
    · exact ⟨some _, .once h, rfl⟩
  · rintro ⟨r, (_ | h), rfl⟩
    · exact .missing
    · exact .once h

/-- What is known of the limit of a key before and after one more member.  A member with this key
must be the first. -/
def Tells (key : String) (m : Option String × Value) (r r' : Option (Option UInt64)) : Prop :=
  if m.1 = some key then r = .none ∧ ∃ l, GivenBy m.2 l ∧ r' = some l else r' = r

/-- **One more member.** -/
lemma told_append_singleton_iff {key : String} {members : List (Option String × Value)}
    {m : Option String × Value} {r' : Option (Option UInt64)} :
    Told (valuesAt key (members ++ [m])) r' ↔
      ∃ r, Told (valuesAt key members) r ∧ Tells key m r r' := by
  by_cases hkey : m.1 = some key
  · have hvalues : valuesAt key (members ++ [m]) = valuesAt key members ++ [m.2] := by
      simp [valuesAt, hkey]
    simp only [hvalues, Tells, if_pos hkey]
    generalize valuesAt key members = vs
    constructor
    · intro h
      generalize hws : vs ++ [m.2] = ws at h
      cases h with
      | missing => simp at hws
      | once h =>
        obtain ⟨rfl, hv⟩ := (List.append_eq_singleton_iff.1 hws).resolve_right (by simp)
        cases hv
        exact ⟨.none, .missing, rfl, _, h, rfl⟩
    · rintro ⟨r, hr, rfl, l, h, rfl⟩
      cases hr
      exact .once h
  · have hvalues : valuesAt key (members ++ [m]) = valuesAt key members := by
      simp [valuesAt, hkey]
    simp only [hvalues, Tells, if_neg hkey]
    constructor
    · exact fun h => ⟨r', h, rfl⟩
    · rintro ⟨r, h, rfl⟩
      exact h

/-- A limit is taken in if none has been given, and then as what the value gives. -/
lemma takeIn_eq_some_iff {α : Type} {r : Option (Option UInt64)} {v : Value}
    {f : Option UInt64 → α} {a : α} :
    (if r.isSome then .none else v.limit?.map f) = some a ↔
      r = .none ∧ ∃ l, GivenBy v l ∧ f l = a := by
  rcases r with _ | l
  · simp [Option.map_eq_some_iff, limit?_eq_some_iff]
  · simp

lemma addMember_eq_some_iff {read read' : Option (Option UInt64) × Option (Option UInt64)}
    {m : Option String × Value} : addMember read m = some read' ↔ m.1 ≠ .none ∧
      Tells "max_pattern_len" m read.1 read'.1 ∧ Tells "max_options" m read.2 read'.2 := by
  have hne : some "max_pattern_len" ≠ some "max_options" := by decide
  rcases read with ⟨r, k⟩
  rcases read' with ⟨r', k'⟩
  unfold addMember Tells
  split
  · rw [if_pos rfl, if_neg hne, takeIn_eq_some_iff]
    constructor
    · rintro ⟨hnone, l, hl, ⟨⟩⟩
      exact ⟨Option.some_ne_none _, ⟨hnone, l, hl, rfl⟩, rfl⟩
    · rintro ⟨-, ⟨hnone, l, hl, rfl⟩, rfl⟩
      exact ⟨hnone, l, hl, rfl⟩
  · rw [if_neg hne.symm, if_pos rfl, takeIn_eq_some_iff]
    constructor
    · rintro ⟨hnone, l, hl, ⟨⟩⟩
      exact ⟨Option.some_ne_none _, rfl, hnone, l, hl, rfl⟩
    · rintro ⟨-, rfl, hnone, l, hl, rfl⟩
      exact ⟨hnone, l, hl, rfl⟩
  · next key v hlength hcount =>
    have hlength' : some key ≠ some "max_pattern_len" := fun h => hlength (Option.some.inj h)
    have hcount' : some key ≠ some "max_options" := fun h => hcount (Option.some.inj h)
    rw [if_neg hlength', if_neg hcount', Option.some.injEq, Prod.mk.injEq]
    constructor
    · rintro ⟨rfl, rfl⟩
      exact ⟨Option.some_ne_none _, rfl, rfl⟩
    · rintro ⟨-, rfl, rfl⟩
      exact ⟨rfl, rfl⟩
  · simp

/-- **All members.** -/
lemma foldlM_addMember_eq_some_iff {members : List (Option String × Value)}
    {read' : Option (Option UInt64) × Option (Option UInt64)} :
    members.foldlM addMember (.none, .none) = some read' ↔ (∀ m ∈ members, m.1 ≠ .none) ∧
      Told (valuesAt "max_pattern_len" members) read'.1 ∧
      Told (valuesAt "max_options" members) read'.2 := by
  -- a member that is read last is told from what the members before it tell
  induction members using List.reverseRecOn generalizing read' with
  | nil =>
    rcases read' with ⟨r, k⟩
    constructor
    · rintro ⟨⟩
      exact ⟨by simp, .missing, .missing⟩
    · rintro ⟨-, hr, hk⟩
      cases hr
      cases hk
      rfl
  | append_singleton members m ih =>
    simp only [List.foldlM_append, Option.bind_eq_bind, Option.bind_eq_some_iff, ih,
      told_append_singleton_iff, List.foldlM_cons, List.foldlM_nil, addMember_eq_some_iff,
      List.forall_mem_append, List.forall_mem_singleton, Option.pure_def, Option.some.injEq]
    constructor
    · rintro ⟨read, ⟨hkeys, hr, hk⟩, _, ⟨hkey, hr', hk'⟩, rfl⟩
      exact ⟨⟨hkeys, hkey⟩, ⟨read.1, hr, hr'⟩, read.2, hk, hk'⟩
    · rintro ⟨⟨hkeys, hkey⟩, ⟨r, hr, hr'⟩, k, hk, hk'⟩
      exact ⟨(r, k), ⟨hkeys, hr, hk⟩, read', ⟨hkey, hr', hk'⟩, rfl⟩

/-- **Limits are read as what gives them.** -/
lemma ofValue?_eq_some_iff {v : Value} {l : Limits} : ofValue? v = some l ↔ MeantBy v l := by
  constructor
  · intro h
    unfold ofValue? at h
    split at h
    · cases h
      exact .neither
    · simp only [Option.bind_eq_bind, Option.bind_eq_some_iff, Option.pure_def] at h
      obtain ⟨length, hlength, ⟨⟩⟩ := h
      exact .first (limit?_eq_some_iff.1 hlength)
    · simp only [Option.bind_eq_bind, Option.bind_eq_some_iff, Option.pure_def] at h
      obtain ⟨length, hlength, count, hcount, ⟨⟩⟩ := h
      exact .both (limit?_eq_some_iff.1 hlength) (limit?_eq_some_iff.1 hcount)
    · simp only [Option.bind_eq_bind, Option.bind_eq_some_iff, Option.pure_def] at h
      obtain ⟨⟨r, k⟩, hread, ⟨⟩⟩ := h
      obtain ⟨hkeys, hr, hk⟩ := foldlM_addMember_eq_some_iff.1 hread
      exact .object hkeys (givenOnce_iff.2 ⟨r, hr, rfl⟩) (givenOnce_iff.2 ⟨k, hk, rfl⟩)
    · cases h
  · intro h
    cases h with
    | neither => rfl
    | first h => simp [ofValue?, limit?_eq_some_iff.2 h]
    | both hv hw => simp [ofValue?, limit?_eq_some_iff.2 hv, limit?_eq_some_iff.2 hw]
    | @object members _ _ hkeys hlength hcount =>
      obtain ⟨r, hr, rfl⟩ := givenOnce_iff.1 hlength
      obtain ⟨k, hk, rfl⟩ := givenOnce_iff.1 hcount
      have hread : members.foldlM addMember (.none, .none) = some (r, k) :=
        foldlM_addMember_eq_some_iff.2 ⟨hkeys, hr, hk⟩
      simp [ofValue?, hread]

end Limits

/-! ### Forms -/

namespace Json

/-- A JSON form of a type is faithful if what is written is read back, if exactly the texts that hold
a value are read that means something, and as what it means, so that writing what has been read
and reading it again changes nothing, and if nothing but white space may follow. -/
structure Faithful {α : Type} (write : α → String) (read : String → Option α)
    (Means : Value → α → Prop) : Prop where
  /-- What is written is read back. -/
  read_write : ∀ a, read (write a) = some a
  /-- A text is read as what the value means that it holds, and otherwise it is refused. -/
  read_eq_some_iff : ∀ {text a}, read text = some a ↔ ∃ v, Holds text.toList v ∧ Means v a
  /-- What has been read and is written again is read as the same. -/
  read_rewritten : ∀ {text a}, read text = some a → read (write a) = some a
  /-- Reading and writing twice gives the text that doing so once gives. -/
  rewrite_rewrite : ∀ text, (((read text).map write).bind fun t => (read t).map write) =
    (read text).map write
  /-- Behind a text that holds a value, nothing but white space is accepted. -/
  read_append : ∀ {text more v}, Holds text.toList v → ¬ AllSpace more.toList →
    read (text ++ more) = none

/-- **What makes a form faithful.** -/
lemma faithful_of_means {α : Type} {write : α → String} {ofValue? : Value → Option α}
    {Means : Value → α → Prop} (hmeans : ∀ {v a}, ofValue? v = some a ↔ Means v a)
    (hwrite : ∀ a, ∃ v, Holds (write a).toList v ∧ Means v a)
    (hnumber : ∀ {v a}, Means v a → ¬ v.IsNumber) :
    Faithful write (fun text => (Value.parse? text).bind ofValue?) Means := by
  have hread : ∀ {text a}, (Value.parse? text).bind ofValue? = some a ↔
      ∃ v, Holds text.toList v ∧ Means v a := by
    intro text a
    simp only [Option.bind_eq_some_iff, Value.parse?_eq_some_iff, hmeans]
  have hback (a : α) : (Value.parse? (write a)).bind ofValue? = some a := hread.2 (hwrite a)
  refine ⟨hback, hread, fun {_ a} _ => hback a, fun text => ?_, fun {text more v} hv hmore => ?_⟩
  · rcases (Value.parse? text).bind ofValue? with _ | a
    · rfl
    · simp only [Option.map_some, Option.bind_some, hback]
  -- what goes on with a number is at most another number, and no number means anything
  · rw [Option.bind_eq_none_iff]
    intro w hw
    rw [Option.eq_none_iff_forall_ne_some]
    intro a ha
    exact hnumber (hmeans.1 ha) (Value.isNumber_of_parse?_append hv hmore hw)

/-- A text is refused if the value that it holds means nothing. -/
lemma Faithful.read_eq_none {α : Type} {write : α → String} {read : String → Option α}
    {Means : Value → α → Prop} (h : Faithful write read Means) {text : String} {v : Value}
    (hv : Holds text.toList v) (hnot : ∀ a, ¬ Means v a) : read text = none := by
  rw [Option.eq_none_iff_forall_ne_some]
  intro a ha
  obtain ⟨w, hw, hmeans⟩ := h.read_eq_some_iff.1 ha
  rw [Value.eq_of_holds hw hv] at hmeans
  exact hnot a hmeans

/-! ### Kinds -/

section Kinds

variable {v : Value} {kind : String × Value} {members : List (Option String × Value)}

lemma Value.Names.not_isNumber (h : v.Names kind) : ¬ v.IsNumber := by
  rcases h with rfl | ⟨rfl, -⟩ <;> exact id

/-- An object that names a kind has one member, which holds what the kind carries. -/
lemma Value.Names.eq_singleton (h : (object members).Names kind) :
    members = [(some kind.1, kind.2)] := by
  rcases h with h | ⟨h, -⟩
  · exact Value.object.inj h
  · cases h

lemma exists_names_name {kind : String} (h : IsPlain kind) :
    ∃ v, Holds (name kind).toList v ∧ v.Names (kind, .null) :=
  ⟨.string (some kind), (Spelled.text (textSpelled_name h)).holds, Or.inr ⟨rfl, rfl⟩⟩

lemma exists_names_member {kind : String} (h : IsPlain kind) (m : Magnitude) :
    ∃ v, Holds (object [member kind m.text]).toList v ∧ v.Names (kind, .integer m.val) :=
  ⟨.object [(some kind, .integer m.val)],
    (spelled_object_one h (.number (numberSpelled_int m.val))).holds, Or.inl rfl⟩

end Kinds

end Json

lemma Action.faithful : Faithful toJson ofJson? fun v a => v.Names a.kind := by
  refine faithful_of_means ofValue?_eq_some_iff (fun a => ?_) Value.Names.not_isNumber
  cases a with
  | genericDiscard => exact exists_names_name (by decide)
  | downrank m => exact exists_names_member (by decide) m
  | boost m => exact exists_names_member (by decide) m
  | specificDiscard => exact exists_names_name (by decide)

lemma Outcome.faithful : Faithful toJson ofJson? fun v o => v.Names o.kind := by
  refine faithful_of_means ofValue?_eq_some_iff (fun o => ?_) Value.Names.not_isNumber
  cases o with
  | noOpinion => exact exists_names_name (by decide)
  | discard => exact exists_names_name (by decide)
  | score m => exact exists_names_member (by decide) m

lemma Field.faithful : Faithful toJson ofJson? fun v f => v.Names f.kind := by
  refine faithful_of_means ofValue?_eq_some_iff (fun f => ?_) Value.Names.not_isNumber
  cases f <;> exact exists_names_name (by decide)

namespace Limits

lemma MeantBy.not_isNumber {v : Value} {l : Limits} (h : MeantBy v l) : ¬ v.IsNumber := by
  cases h <;> exact id

lemma exists_givenBy_limit (l : Option UInt64) :
    ∃ v, Spelled (.value v) (Json.limit l).toList ∧ GivenBy v l := by
  rcases l with _ | n
  · exact ⟨.null, .null, .absent⟩
  · exact ⟨.integer n.toNat, .number (numberSpelled_int n.toNat), .present n⟩

lemma faithful : Faithful toJson ofJson? MeantBy := by
  refine faithful_of_means ofValue?_eq_some_iff (fun l => ?_) MeantBy.not_isNumber
  obtain ⟨v, hv, hlength⟩ := exists_givenBy_limit l.patternLength
  obtain ⟨w, hw, hcount⟩ := exists_givenBy_limit l.optionCount
  refine ⟨_, (spelled_object_two (by decide) (by decide) hv hw).holds, .object (by simp) ?_ ?_⟩
  · exact .once hlength
  · exact .once hcount

/-- No value of a key that means a limit is a number of another range, and there is at most one. -/
lemma GivenOnce.spec {vs : List Value} {l : Option UInt64} (h : GivenOnce vs l) :
    vs.length ≤ 1 ∧ ∀ v ∈ vs, ∃ l, GivenBy v l := by
  cases h with
  | missing => simp
  | once h =>
    refine ⟨Nat.le_refl 1, fun v hv => ?_⟩
    rw [List.mem_singleton.1 hv]
    exact ⟨_, h⟩

lemma GivenBy.eq_integer {v : Value} {l : Option UInt64} (h : GivenBy v l) (hv : v.IsNumber) :
    ∃ n : UInt64, v = .integer n.toNat := by
  cases h with
  | absent => cases hv
  | present n => exact ⟨n, rfl⟩

/-- The keys of limits. -/
def keys : List String := ["max_pattern_len", "max_options"]

lemma MeantBy.givenOnce {members : List (Option String × Value)} {l : Limits}
    (h : MeantBy (.object members) l) {key : String} (hkey : key ∈ keys) :
    ∃ k, GivenOnce (valuesAt key members) k := by
  cases h with
  | object _ hlength hcount =>
    simp only [keys, List.mem_cons, List.not_mem_nil, or_false] at hkey
    rcases hkey with rfl | rfl
    · exact ⟨_, hlength⟩
    · exact ⟨_, hcount⟩

lemma MeantBy.givenBy_of_mem {items : List Value} {l : Limits} (h : MeantBy (.array items) l)
    {v : Value} (hv : v ∈ items) : ∃ k, GivenBy v k := by
  cases h with
  | neither => cases hv
  | first h => exact ⟨_, List.mem_singleton.1 hv ▸ h⟩
  | both h h' =>
    rcases List.mem_pair.1 hv with rfl | rfl
    · exact ⟨_, h⟩
    · exact ⟨_, h'⟩

end Limits

namespace Json

/-- What an action or an outcome carries is no number but a magnitude, and what a field carries is no
number at all. -/
lemma Value.Names.eq_integer {content : Value} {key : Option String} {kind : String × Value}
    (h : (object [(key, content)]).Names kind)
    (hkind : kind.2 = .null ∨ ∃ m : Magnitude, kind.2 = .integer m.val) (hnumber : content.IsNumber) :
    ∃ m : Magnitude, content = .integer m.val := by
  have hcontent : content = kind.2 := by
    obtain ⟨heq, -⟩ := List.cons.inj h.eq_singleton
    exact (Prod.mk.inj heq).2
  rw [hcontent] at hnumber ⊢
  rcases hkind with hnull | hm
  · rw [hnull] at hnumber
    cases hnumber
  · exact hm

/-- What the forms refuse, although it is JSON.  Numbers that are no integers, or none of the range,
are refused wherever a number is looked at. -/
structure Strict : Prop where
  /-- An object of several members names no kind. -/
  several_kinds : ∀ {text : String} {members}, Holds text.toList (.object members) →
    2 ≤ members.length →
    Action.ofJson? text = none ∧ Outcome.ofJson? text = none ∧ Field.ofJson? text = none
  /-- What a kind carries is no number but a magnitude. -/
  odd_magnitude : ∀ {text : String} {key v}, Holds text.toList (.object [(key, v)]) →
    v.IsNumber → (∀ m : Magnitude, v ≠ .integer m.val) →
    Action.ofJson? text = none ∧ Outcome.ofJson? text = none ∧ Field.ofJson? text = none
  /-- A limit is given once. -/
  repeated_limit : ∀ {text : String} {members}, Holds text.toList (.object members) →
    ∀ key ∈ Limits.keys, 2 ≤ (Limits.valuesAt key members).length → Limits.ofJson? text = none
  /-- A limit is no number but one of 64 bits. -/
  odd_limit : ∀ {text : String} {members}, Holds text.toList (.object members) →
    ∀ key ∈ Limits.keys, ∀ v ∈ Limits.valuesAt key members, v.IsNumber →
    (∀ n : UInt64, v ≠ .integer n.toNat) → Limits.ofJson? text = none
  /-- So it is in a list. -/
  odd_item : ∀ {text : String} {items}, Holds text.toList (.array items) →
    ∀ v ∈ items, v.IsNumber → (∀ n : UInt64, v ≠ .integer n.toNat) → Limits.ofJson? text = none

lemma strict : Strict where
  several_kinds := by
    intro text members hv hlength
    have hnot (kind : String × Value) : ¬ (Value.object members).Names kind := by
      intro h
      rw [h.eq_singleton] at hlength
      simp at hlength
    exact ⟨Action.faithful.read_eq_none hv fun a => hnot a.kind,
      Outcome.faithful.read_eq_none hv fun o => hnot o.kind,
      Field.faithful.read_eq_none hv fun f => hnot f.kind⟩
  odd_magnitude := by
    intro text key v hv hnumber hrange
    have hnot (kind : String × Value)
        (hkind : kind.2 = .null ∨ ∃ m : Magnitude, kind.2 = .integer m.val) :
        ¬ (Value.object [(key, v)]).Names kind := by
      intro h
      obtain ⟨m, hm⟩ := h.eq_integer hkind hnumber
      exact hrange m hm
    refine ⟨Action.faithful.read_eq_none hv fun a => hnot a.kind ?_,
      Outcome.faithful.read_eq_none hv fun o => hnot o.kind ?_,
      Field.faithful.read_eq_none hv fun f => hnot f.kind ?_⟩
    · cases a <;> simp [Action.kind]
    · cases o <;> simp [Outcome.kind]
    · cases f <;> simp [Field.kind]
  repeated_limit := by
    intro text members hv key hkey hlength
    refine Limits.faithful.read_eq_none hv fun l h => ?_
    obtain ⟨k, hk⟩ := h.givenOnce hkey
    have := hk.spec.1
    omega
  odd_limit := by
    intro text members hv key hkey v hmem hnumber hrange
    refine Limits.faithful.read_eq_none hv fun l h => ?_
    obtain ⟨k, hk⟩ := h.givenOnce hkey
    obtain ⟨l, hl⟩ := hk.spec.2 v hmem
    obtain ⟨n, hn⟩ := hl.eq_integer hnumber
    exact hrange n hn
  odd_item := by
    intro text items hv v hmem hnumber hrange
    refine Limits.faithful.read_eq_none hv fun l h => ?_
    obtain ⟨l, hl⟩ := h.givenBy_of_mem hmem
    obtain ⟨n, hn⟩ := hl.eq_integer hnumber
    exact hrange n hn

/-- **The JSON forms are faithful.**  What is written is read back, for every action, outcome, field
and all limits.  A text is read if the value that it holds means something, whatever its spelling, and
reading and writing twice is the same as doing so once.  Texts that give a limit twice, name several
kinds, hold a number that is no integer or out of the range, or go on behind the value are refused. -/
theorem forms_faithful :
    Faithful Action.toJson Action.ofJson? (fun v a => v.Names a.kind) ∧
    Faithful Outcome.toJson Outcome.ofJson? (fun v o => v.Names o.kind) ∧
    Faithful Field.toJson Field.ofJson? (fun v f => v.Names f.kind) ∧
    Faithful Limits.toJson Limits.ofJson? Limits.MeantBy ∧ Strict :=
  ⟨Action.faithful, Outcome.faithful, Field.faithful, Limits.faithful, strict⟩

/-- A name may be spelled with escapes, and members without meaning hold anything. -/
example : Field.ofJson? " \x7b\"\\u0055rl\" : null\x7d\n" = some .url ∧
    Limits.ofJson? "\x7b\"x\":[-1.5e3],\"max_options\":18446744073709551615\x7d" =
      some ⟨none, some 18446744073709551615⟩ := by
  decide +kernel

end Json

end Rerank
