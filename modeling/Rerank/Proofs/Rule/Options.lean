/-
What a list of options asks for, key by key.

The options of a directive are taken in from the first to the last.  Of a key with a value the
last occurrence counts (`LastValue`), of the other keys only whether they occur (`HasKey`).
`Options.Describes` says that what has been taken in agrees with this; each option keeps it
(`Describes.add`), and so does a whole list (`describes_collect`).
-/
import Mathlib.Data.List.Basic
import Mathlib.Data.List.Induction
import Rerank.Rule.Options

namespace Rerank

/-- Some option has a key. -/
def HasKey (key : String) (entries : List Entry) : Prop :=
  ∃ e ∈ entries, e.key = key

/-- The last option with a key has a value, or has none if `value` is none. -/
def LastValue (key : String) (entries : List Entry) (value : Option String) : Prop :=
  ∃ before behind, entries = before ++ ⟨key, value⟩ :: behind ∧ ¬ HasKey key behind

section Keys

variable {key : String} {entries : List Entry} {e : Entry} {value : Option String}

@[simp] lemma not_hasKey_nil : ¬ HasKey key [] := by
  simp [HasKey]

@[simp] lemma not_lastValue_nil : ¬ LastValue key [] value := by
  simp [LastValue]

/-- The last option of a key in a list of one. -/
lemma lastValue_singleton (key : String) (value : Option String) :
    LastValue key [⟨key, value⟩] value :=
  ⟨[], [], rfl, not_hasKey_nil⟩

lemma hasKey_append_singleton : HasKey key (entries ++ [e]) ↔ e.key = key ∨ HasKey key entries := by
  simp only [HasKey, List.mem_append, List.mem_singleton]
  constructor
  · rintro ⟨e', h | rfl, hkey⟩
    · exact Or.inr ⟨e', h, hkey⟩
    · exact Or.inl hkey
  · rintro (hkey | ⟨e', h, hkey⟩)
    · exact ⟨e, Or.inr rfl, hkey⟩
    · exact ⟨e', Or.inl h, hkey⟩

/-- One more option is the last one with its key, and changes nothing about other keys. -/
lemma lastValue_append_singleton : LastValue key (entries ++ [e]) value ↔
    (e.key = key ∧ e.value = value) ∨ (e.key ≠ key ∧ LastValue key entries value) := by
  constructor
  · rintro ⟨before, behind, h, hbehind⟩
    rcases List.eq_nil_or_concat' behind with rfl | ⟨behind, e', rfl⟩
    · obtain ⟨-, heq⟩ := List.append_inj' h rfl
      obtain rfl := (List.cons.inj heq).1
      exact Or.inl ⟨rfl, rfl⟩
    · rw [← List.cons_append, ← List.append_assoc] at h
      obtain ⟨hentries, heq⟩ := List.append_inj' h rfl
      obtain rfl := (List.cons.inj heq).1
      rw [hasKey_append_singleton, not_or] at hbehind
      exact Or.inr ⟨hbehind.1, before, behind, hentries, hbehind.2⟩
  · rintro (⟨rfl, rfl⟩ | ⟨hne, before, behind, rfl, hbehind⟩)
    · exact ⟨entries, [], rfl, not_hasKey_nil⟩
    · refine ⟨before, behind ++ [e], by simp, ?_⟩
      rw [hasKey_append_singleton, not_or]
      exact ⟨hne, hbehind⟩

lemma hasKey_append_of_ne (h : e.key ≠ key) : HasKey key (entries ++ [e]) ↔ HasKey key entries := by
  rw [hasKey_append_singleton, or_iff_right h]

lemma lastValue_append_of_ne (h : e.key ≠ key) :
    LastValue key (entries ++ [e]) value ↔ LastValue key entries value := by
  rw [lastValue_append_singleton, and_iff_right h, or_iff_right fun hand => h hand.1]

lemma hasKey_append_of_eq (h : e.key = key) : HasKey key (entries ++ [e]) :=
  hasKey_append_singleton.2 (Or.inl h)

lemma lastValue_append_of_eq (h : e.key = key) :
    LastValue key (entries ++ [e]) value ↔ e.value = value := by
  rw [lastValue_append_singleton, and_iff_right h, or_iff_left fun hand => hand.1 h]

/-- A key that occurs has a last occurrence. -/
lemma hasKey_iff_exists_lastValue : HasKey key entries ↔ ∃ value, LastValue key entries value := by
  induction entries using List.reverseRecOn with
  | nil => simp
  | append_singleton entries e ih =>
    rw [hasKey_append_singleton, ih]
    simp only [lastValue_append_singleton]
    constructor
    · rintro (hkey | ⟨value, h⟩)
      · exact ⟨e.value, Or.inl ⟨hkey, rfl⟩⟩
      · by_cases hkey : e.key = key
        · exact ⟨e.value, Or.inl ⟨hkey, rfl⟩⟩
        · exact ⟨value, Or.inr ⟨hkey, h⟩⟩
    · rintro ⟨value, ⟨hkey, -⟩ | ⟨-, h⟩⟩
      · exact Or.inl hkey
      · exact Or.inr ⟨value, h⟩

end Keys

namespace Options

/-- What options ask for, key by key. -/
structure Describes (o : Options) (entries : List Entry) : Prop where
  /-- The site is the last value of its key, unless that is missing or empty. -/
  site_iff : ∀ site, o.site = some site ↔ site ≠ "" ∧ LastValue "site" entries (some site)
  /-- The key of the site occurs. -/
  hasSiteKey_iff : o.hasSiteKey = true ↔ HasKey "site" entries
  /-- The fields are those whose keys occur. -/
  contains_fields_iff : ∀ f, o.fields.contains f = true ↔ HasKey f.key entries
  /-- The boost is the last value of its key, and empty if that is missing. -/
  boost_iff : ∀ text, o.boost = some text ↔
    ∃ value, LastValue "boost" entries value ∧ value.getD "" = text
  /-- The downrank is the last value of its key, and empty if that is missing. -/
  downrank_iff : ∀ text, o.downrank = some text ↔
    ∃ value, LastValue "downrank" entries value ∧ value.getD "" = text
  /-- The key of a discard occurs. -/
  discard_iff : o.discard = true ↔ HasKey "discard" entries

/-! ### Taking options in -/

/-- What taking an option in can do, by the kind of its key. -/
inductive Added (o : Options) (e : Entry) : Options → Prop
  | site (hkey : e.key = "site") : Added o e
      { o with
        hasSiteKey := true
        site := if (e.value.getD "").isEmpty then .none else some (e.value.getD "") }
  | boost (hkey : e.key = "boost") : Added o e { o with boost := some (e.value.getD "") }
  | downrank (hkey : e.key = "downrank") : Added o e { o with downrank := some (e.value.getD "") }
  | discard (hkey : e.key = "discard") : Added o e { o with discard := true }
  | field (f : Field) (hkey : e.key = f.key) : Added o e { o with fields := o.fields.insert f }
  | unknown (hsite : e.key ≠ "site") (hboost : e.key ≠ "boost") (hdownrank : e.key ≠ "downrank")
      (hdiscard : e.key ≠ "discard") (hfields : ∀ f : Field, e.key ≠ f.key) : Added o e o

lemma added_add (o : Options) (e : Entry) : o.Added e (o.add e).value := by
  simp only [add]
  by_cases hsite : e.key = "site"
  · rw [if_pos hsite]
    exact .site hsite
  by_cases hboost : e.key = "boost"
  · rw [if_neg hsite, if_pos hboost]
    exact .boost hboost
  by_cases hdownrank : e.key = "downrank"
  · rw [if_neg hsite, if_neg hboost, if_pos hdownrank]
    exact .downrank hdownrank
  by_cases hdiscard : e.key = "discard"
  · rw [if_neg hsite, if_neg hboost, if_neg hdownrank, if_pos hdiscard]
    exact .discard hdiscard
  rw [if_neg hsite, if_neg hboost, if_neg hdownrank, if_neg hdiscard]
  rcases hfield : Field.ofKey? e.key with _ | f
  · refine Added.unknown hsite hboost hdownrank hdiscard fun f hf => ?_
    rw [hf, Field.ofKey?_key] at hfield
    cases hfield
  · exact .field f (Field.ofKey?_eq_some_iff.1 hfield).symm

/-- The keys of fields are keys of their own. -/
lemma fieldKey_ne (f : Field) :
    f.key ≠ "site" ∧ f.key ≠ "boost" ∧ f.key ≠ "downrank" ∧ f.key ≠ "discard" := by
  cases f <;> decide

lemma fieldKey_inj {f g : Field} (h : f.key = g.key) : f = g := by
  rw [← Field.ofKey?_eq_some_iff, Field.ofKey?_key, Option.some.injEq] at h
  exact h.symm

/-- **One more option.**  It changes what its own key asks for, and nothing else. -/
lemma Describes.add {o : Options} {entries : List Entry} (h : o.Describes entries) (e : Entry) :
    (o.add e).value.Describes (entries ++ [e]) := by
  -- what belongs to other keys stays as it was
  have site (hne : e.key ≠ "site") (site : String) : o.site = some site ↔
      site ≠ "" ∧ LastValue "site" (entries ++ [e]) (some site) := by
    rw [lastValue_append_of_ne hne, h.site_iff]
  have siteKey (hne : e.key ≠ "site") : o.hasSiteKey = true ↔ HasKey "site" (entries ++ [e]) := by
    rw [hasKey_append_of_ne hne, h.hasSiteKey_iff]
  have fields (hne : ∀ f : Field, e.key ≠ f.key) (f : Field) :
      o.fields.contains f = true ↔ HasKey f.key (entries ++ [e]) := by
    rw [hasKey_append_of_ne (hne f), h.contains_fields_iff]
  have boost (hne : e.key ≠ "boost") (text : String) : o.boost = some text ↔
      ∃ value, LastValue "boost" (entries ++ [e]) value ∧ value.getD "" = text := by
    simp only [lastValue_append_of_ne hne, h.boost_iff]
  have downrank (hne : e.key ≠ "downrank") (text : String) : o.downrank = some text ↔
      ∃ value, LastValue "downrank" (entries ++ [e]) value ∧ value.getD "" = text := by
    simp only [lastValue_append_of_ne hne, h.downrank_iff]
  have discard (hne : e.key ≠ "discard") :
      o.discard = true ↔ HasKey "discard" (entries ++ [e]) := by
    rw [hasKey_append_of_ne hne, h.discard_iff]
  have hadded := added_add o e
  generalize (o.add e).value = added at hadded
  cases hadded with
  | site hkey =>
    refine ⟨fun s => ?_, ?_, fields fun f hf => ?_, boost ?_, downrank ?_, discard ?_⟩
    · rw [lastValue_append_of_eq hkey]
      rcases e.value with _ | value
      · simp
      · by_cases hempty : value = ""
        · subst hempty
          exact ⟨by rintro ⟨⟩, fun hand => absurd (Option.some.inj hand.2).symm hand.1⟩
        · simp only [Option.getD_some, String.isEmpty_iff, hempty, if_false, Option.some.injEq]
          exact ⟨fun heq => ⟨heq ▸ hempty, heq⟩, fun hand => hand.2⟩
    · exact iff_of_true rfl (hasKey_append_of_eq hkey)
    · exact (fieldKey_ne f).1 (hf.symm.trans hkey)
    all_goals rw [hkey]; decide
  | boost hkey =>
    refine ⟨site ?_, siteKey ?_, fields fun f hf => ?_, fun text => ?_, downrank ?_, discard ?_⟩
    · rw [hkey]; decide
    · rw [hkey]; decide
    · exact (fieldKey_ne f).2.1 (hf.symm.trans hkey)
    · simp [lastValue_append_of_eq hkey]
    all_goals rw [hkey]; decide
  | downrank hkey =>
    refine ⟨site ?_, siteKey ?_, fields fun f hf => ?_, boost ?_, fun text => ?_, discard ?_⟩
    · rw [hkey]; decide
    · rw [hkey]; decide
    · exact (fieldKey_ne f).2.2.1 (hf.symm.trans hkey)
    · rw [hkey]; decide
    · simp [lastValue_append_of_eq hkey]
    · rw [hkey]; decide
  | discard hkey =>
    refine ⟨site ?_, siteKey ?_, fields fun f hf => ?_, boost ?_, downrank ?_, ?_⟩
    · rw [hkey]; decide
    · rw [hkey]; decide
    · exact (fieldKey_ne f).2.2.2 (hf.symm.trans hkey)
    · rw [hkey]; decide
    · rw [hkey]; decide
    · exact iff_of_true rfl (hasKey_append_of_eq hkey)
  | field f hkey =>
    obtain ⟨hsite, hboost, hdownrank, hdiscard⟩ := fieldKey_ne f
    rw [← hkey] at hsite hboost hdownrank hdiscard
    refine ⟨site hsite, siteKey hsite, fun g => ?_, boost hboost, downrank hdownrank,
      discard hdiscard⟩
    rw [FieldSet.contains_insert, Bool.or_eq_true, beq_iff_eq, hasKey_append_singleton, hkey,
      h.contains_fields_iff]
    exact or_congr_left ⟨fun hfg => hfg ▸ rfl, fieldKey_inj⟩
  | unknown hsite hboost hdownrank hdiscard hfields =>
    exact ⟨site hsite, siteKey hsite, fields hfields, boost hboost, downrank hdownrank,
      discard hdiscard⟩

/-- **All options.** -/
lemma Describes.addAll {o : Options} {entries : List Entry} (h : o.Describes entries)
    (more : List Entry) : (o.addAll more).value.Describes (entries ++ more) := by
  induction more generalizing o entries with
  | nil => rwa [List.append_nil]
  | cons e more ih =>
    have hnext := ih (h.add e)
    rwa [List.append_assoc] at hnext

/-- What is collected from a list of options describes it. -/
lemma describes_collect (entries : List Entry) : (collect entries).value.Describes entries := by
  have hnone : none.Describes [] := by
    refine ⟨?_, ?_, fun f => ?_, ?_, ?_, ?_⟩ <;> simp [none]
  exact hnone.addAll entries

end Options

end Rerank
