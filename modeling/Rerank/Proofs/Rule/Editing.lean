/-
Editing the options of a line.

Options may be written in many ways that come to the same.  Neighbours with different keys may change
places, an option without meaning may be put in anywhere, an earlier option may be repeated with a
key that stands again behind it, the value of a discard or of a field may be anything, and there may
be white space around keys and values.  `Edit` is one such change, and any number of them in either
direction relates two ways of writing.  Every line with a dollar sign is written with such options
(`Rule.exists_eq_lineOf`).

Of the options only so much matters as `AskAlike` says: of a key that takes a value its last option,
and of any other key with a meaning whether it occurs.  Each edit keeps this (`Edit.askAlike`), and so
does any number of them; what is collected depends on nothing else (`AskAlike.value_collect`).

The main result is `sameOutcome_of_edits`.
-/
import Mathlib.Logic.Relation
import Rerank.Proofs.Directive.Spelling
import Rerank.Proofs.Rule.Application
import Rerank.Proofs.Rule.Line
import Rerank.Proofs.Rule.Options

namespace Rerank

open Text

/-! ### Keys with a meaning -/

/-- A key whose last value counts. -/
def TakesValue (key : String) : Prop :=
  key ∈ ["site", "boost", "downrank"]

/-- A key that counts by occurring, whatever its value is. -/
def IsMark (key : String) : Prop :=
  key = "discard" ∨ ∃ f : Field, key = f.key

/-- A key with a meaning. -/
def IsRecognised (key : String) : Prop :=
  TakesValue key ∨ IsMark key

/-- There are eight keys with a meaning. -/
lemma isRecognised_iff {key : String} : IsRecognised key ↔
    key ∈ ["site", "boost", "downrank", "discard"] ++ Field.all.map Field.key := by
  have hfield : (∃ f : Field, key = f.key) ↔ key ∈ Field.all.map Field.key := by
    rw [List.mem_map]
    exact exists_congr fun f => by simp [Field.mem_all, eq_comm]
  rw [IsRecognised, IsMark, hfield, TakesValue, List.mem_append]
  simp [or_assoc]

instance (key : String) : Decidable (IsRecognised key) := decidable_of_iff _ isRecognised_iff.symm

/-- A key that counts by occurring does not take a value. -/
lemma IsMark.not_takesValue {key : String} (h : IsMark key) : ¬ TakesValue key := by
  rcases h with rfl | ⟨f, rfl⟩
  · simp [TakesValue]
  · obtain ⟨hsite, hboost, hdownrank, -⟩ := Options.fieldKey_ne f
    simp [TakesValue, hsite, hboost, hdownrank]

/-! ### The last option of a key -/

/-- The last option with a key, if there is one. -/
def lastOf? (key : String) (entries : List Entry) : Option Entry :=
  (entries.filter fun e => e.key = key).getLast?

section Last

variable {key : String} {entries : List Entry} {e : Entry} {value : Option String}

@[simp] lemma lastOf?_nil (key : String) : lastOf? key [] = none := rfl

lemma lastOf?_append (key : String) (front behind : List Entry) :
    lastOf? key (front ++ behind) = (lastOf? key behind).or (lastOf? key front) := by
  rw [lastOf?, List.filter_append, List.getLast?_append]
  rfl

lemma lastOf?_cons_of_eq (h : e.key = key) (behind : List Entry) :
    lastOf? key (e :: behind) = (lastOf? key behind).or (some e) := by
  rw [← List.singleton_append, lastOf?_append]
  simp [lastOf?, h]

lemma lastOf?_cons_of_ne (h : e.key ≠ key) (behind : List Entry) :
    lastOf? key (e :: behind) = lastOf? key behind := by
  rw [lastOf?, List.filter_cons_of_neg (by simpa using h)]
  rfl

lemma hasKey_iff_isSome_lastOf? : HasKey key entries ↔ (lastOf? key entries).isSome = true := by
  rw [Option.isSome_iff_ne_none, lastOf?, ne_eq, List.getLast?_eq_none_iff, List.filter_eq_nil_iff]
  simp [HasKey]

lemma lastValue_iff_lastOf? : LastValue key entries value ↔
    lastOf? key entries = some ⟨key, value⟩ := by
  induction entries using List.reverseRecOn with
  | nil => simp
  | append_singleton entries e ih =>
    rw [lastOf?_append]
    by_cases h : e.key = key
    · rw [lastValue_append_of_eq h, lastOf?_cons_of_eq h]
      obtain ⟨ekey, evalue⟩ := e
      subst h
      simp
    · rw [lastValue_append_of_ne h, lastOf?_cons_of_ne h, ih]
      rfl

end Last

/-! ### What matters of the options -/

/-- Two lists of options ask for the same: they have the same last option of each key that takes a
value, and the same other keys with a meaning. -/
structure AskAlike (entries entries' : List Entry) : Prop where
  /-- The last options are the same. -/
  lastOf?_eq : ∀ key, TakesValue key → lastOf? key entries = lastOf? key entries'
  /-- The same keys occur. -/
  isSome_lastOf?_eq : ∀ key, IsMark key →
    (lastOf? key entries).isSome = (lastOf? key entries').isSome

namespace AskAlike

variable {entries entries' entries'' : List Entry}

lemma refl (entries : List Entry) : AskAlike entries entries :=
  ⟨fun _ _ => rfl, fun _ _ => rfl⟩

lemma symm (h : AskAlike entries entries') : AskAlike entries' entries :=
  ⟨fun key hkey => (h.lastOf?_eq key hkey).symm, fun key hkey => (h.isSome_lastOf?_eq key hkey).symm⟩

lemma trans (h : AskAlike entries entries') (h' : AskAlike entries' entries'') :
    AskAlike entries entries'' :=
  ⟨fun key hkey => (h.lastOf?_eq key hkey).trans (h'.lastOf?_eq key hkey),
    fun key hkey => (h.isSome_lastOf?_eq key hkey).trans (h'.isSome_lastOf?_eq key hkey)⟩

/-- Lists with the same last option of each key that has a meaning ask for the same. -/
lemma of_lastOf?_eq (h : ∀ key, IsRecognised key → lastOf? key entries = lastOf? key entries') :
    AskAlike entries entries' :=
  ⟨fun key hkey => h key (.inl hkey), fun key hkey => by rw [h key (.inr hkey)]⟩

lemma lastValue_iff (h : AskAlike entries entries') {key : String} (hkey : TakesValue key)
    (value : Option String) : LastValue key entries value ↔ LastValue key entries' value := by
  rw [lastValue_iff_lastOf?, lastValue_iff_lastOf?, h.lastOf?_eq key hkey]

lemma hasKey_iff (h : AskAlike entries entries') {key : String} (hkey : IsRecognised key) :
    HasKey key entries ↔ HasKey key entries' := by
  rw [hasKey_iff_isSome_lastOf?, hasKey_iff_isSome_lastOf?]
  rcases hkey with hkey | hkey
  · rw [h.lastOf?_eq key hkey]
  · rw [h.isSome_lastOf?_eq key hkey]

/-- **What is collected from options depends on nothing else.** -/
lemma value_collect (h : AskAlike entries entries') :
    (Options.collect entries).value = (Options.collect entries').value := by
  have hleft := Options.describes_collect entries
  have hright := Options.describes_collect entries'
  generalize (Options.collect entries).value = o at hleft ⊢
  generalize (Options.collect entries').value = o' at hright ⊢
  have hsite : o.site = o'.site := by
    refine Option.ext fun site => ?_
    rw [hleft.site_iff, hright.site_iff, h.lastValue_iff (by simp [TakesValue])]
  have hsiteKey : o.hasSiteKey = o'.hasSiteKey := by
    rw [Bool.eq_iff_iff, hleft.hasSiteKey_iff, hright.hasSiteKey_iff,
      h.hasKey_iff (.inl (by simp [TakesValue]))]
  have hfields : o.fields = o'.fields := by
    refine FieldSet.ext_contains fun f => ?_
    rw [Bool.eq_iff_iff, hleft.contains_fields_iff, hright.contains_fields_iff,
      h.hasKey_iff (.inr (.inr ⟨f, rfl⟩))]
  have hboost : o.boost = o'.boost := by
    refine Option.ext fun text => ?_
    rw [hleft.boost_iff, hright.boost_iff]
    simp only [h.lastValue_iff (by simp [TakesValue] : TakesValue "boost")]
  have hdownrank : o.downrank = o'.downrank := by
    refine Option.ext fun text => ?_
    rw [hleft.downrank_iff, hright.downrank_iff]
    simp only [h.lastValue_iff (by simp [TakesValue] : TakesValue "downrank")]
  have hdiscard : o.discard = o'.discard := by
    rw [Bool.eq_iff_iff, hleft.discard_iff, hright.discard_iff, h.hasKey_iff (.inr (.inl rfl))]
  cases o
  cases o'
  simp_all

/-- Options without a meaning ask for nothing. -/
lemma nil_of_forall_not_isRecognised (h : ∀ e ∈ entries, ¬ IsRecognised e.key) :
    AskAlike [] entries := by
  refine of_lastOf?_eq fun key hkey => ?_
  have hnone : entries.filter (fun e => e.key = key) = [] := by
    rw [List.filter_eq_nil_iff]
    intro e he hekey
    exact h e he (of_decide_eq_true hekey ▸ hkey)
  rw [lastOf?_nil, lastOf?, hnone, List.getLast?_nil]

end AskAlike

/-! ### Options as they are written -/

/-- An option as it is written: a key and perhaps a value, either with any white space around it. -/
structure WrittenOption where
  /-- The text of the key. -/
  key : List Char
  /-- The text of the value, if an equals sign follows the key. -/
  value : Option (List Char)
  /-- The key ends before the first equals sign. -/
  equals_not_mem_key : '=' ∉ key
  /-- The key ends before a comma. -/
  comma_not_mem_key : ',' ∉ key
  /-- The value ends before a comma. -/
  comma_not_mem_value : ∀ v ∈ value, ',' ∉ v

namespace WrittenOption

/-- The option that is written. -/
def entry (o : WrittenOption) : Entry :=
  ⟨String.ofList (trim o.key), o.value.map fun v => String.ofList (trim v)⟩

/-- The text of an option. -/
def text (o : WrittenOption) : List Char :=
  o.key ++ o.value.elim [] ('=' :: ·)

lemma comma_not_mem_text (o : WrittenOption) : ',' ∉ o.text := by
  obtain ⟨key, _ | v, hequals, hcomma, hvalue⟩ := o
  · simpa [text] using hcomma
  · simpa [text] using ⟨hcomma, hvalue v rfl⟩

/-- The text of an option is read as it. -/
lemma ofPiece_text (o : WrittenOption) : Entry.ofPiece o.text = o.entry := by
  obtain ⟨key, _ | v, hequals, hcomma, hvalue⟩ := o
  · rw [text, Option.elim_none, List.append_nil]
    exact (Entry.spelled_iff.1 (.bare hequals)).symm
  · exact (Entry.spelled_iff.1 (.valued v hequals)).symm

/-- The option that is written as a piece between commas. -/
def ofPiece (piece : List Char) (h : ',' ∉ piece) : WrittenOption where
  key := (cut '=' piece).1
  value := (cut '=' piece).2
  equals_not_mem_key := not_mem_cut '=' piece
  comma_not_mem_key hmem := by
    rw [← append_cut '=' piece] at h
    exact h (List.mem_append_left _ hmem)
  comma_not_mem_value v hv hmem := by
    rw [← append_cut '=' piece, Option.mem_def.1 hv] at h
    exact h (List.mem_append_right _ (List.mem_cons_of_mem _ hmem))

@[simp] lemma text_ofPiece {piece : List Char} (h : ',' ∉ piece) : (ofPiece piece h).text = piece :=
  append_cut '=' piece

end WrittenOption

/-- A text with white space around it. -/
def Padded (s t : List Char) : Prop :=
  ∃ before behind, t = before ++ (s ++ behind) ∧ (∀ c ∈ before, isBlank c = true) ∧
    ∀ c ∈ behind, isBlank c = true

lemma Padded.trim_eq {s t : List Char} (h : Padded s t) : trim s = trim t := by
  obtain ⟨before, behind, rfl, hbefore, hbehind⟩ := h
  exact (trimBy_append_of_all hbefore hbehind s).symm

/-- One change to the options of a line. -/
inductive Edit : List WrittenOption → List WrittenOption → Prop
  /-- Two neighbours with different keys change places. -/
  | swap {before behind : List WrittenOption} {a b : WrittenOption}
    (h : a.entry.key ≠ b.entry.key) : Edit (before ++ a :: b :: behind) (before ++ b :: a :: behind)
  /-- An option without meaning is taken out. -/
  | unknown {before behind : List WrittenOption} {a : WrittenOption}
    (h : ¬ IsRecognised a.entry.key) : Edit (before ++ a :: behind) (before ++ behind)
  /-- An option is taken out whose key stands again behind it. -/
  | repeated {before behind : List WrittenOption} {a b : WrittenOption} (hmem : b ∈ behind)
    (h : b.entry.key = a.entry.key) : Edit (before ++ a :: behind) (before ++ behind)
  /-- A discard or a field gets another value, or loses it. -/
  | value {before behind : List WrittenOption} {a b : WrittenOption} (hkey : a.key = b.key)
    (h : IsMark a.entry.key) : Edit (before ++ a :: behind) (before ++ b :: behind)
  /-- White space is put around a key and its value. -/
  | blanks {before behind : List WrittenOption} {a b : WrittenOption} (hkey : Padded a.key b.key)
    (hvalue : Option.Rel Padded a.value b.value) :
    Edit (before ++ a :: behind) (before ++ b :: behind)

namespace Edit

variable {os os' : List WrittenOption}

/-- **An edit keeps what matters.** -/
lemma askAlike (h : Edit os os') :
    AskAlike (os.map WrittenOption.entry) (os'.map WrittenOption.entry) := by
  cases h with
  | @swap before behind a b h =>
    refine AskAlike.of_lastOf?_eq fun key _ => ?_
    simp only [List.map_append, List.map_cons, lastOf?_append]
    by_cases ha : a.entry.key = key
    · have hb : b.entry.key ≠ key := fun hb => h (ha.trans hb.symm)
      rw [lastOf?_cons_of_eq ha, lastOf?_cons_of_ne hb, lastOf?_cons_of_ne hb,
        lastOf?_cons_of_eq ha]
    · rw [lastOf?_cons_of_ne ha]
      by_cases hb : b.entry.key = key
      · rw [lastOf?_cons_of_eq hb, lastOf?_cons_of_eq hb, lastOf?_cons_of_ne ha]
      · rw [lastOf?_cons_of_ne hb, lastOf?_cons_of_ne hb, lastOf?_cons_of_ne ha]
  | @unknown before behind a h =>
    refine AskAlike.of_lastOf?_eq fun key hkey => ?_
    have ha : a.entry.key ≠ key := fun ha => h (ha ▸ hkey)
    simp only [List.map_append, List.map_cons, lastOf?_append, lastOf?_cons_of_ne ha]
  | @repeated before behind a b hmem h =>
    refine AskAlike.of_lastOf?_eq fun key _ => ?_
    simp only [List.map_append, List.map_cons, lastOf?_append]
    by_cases ha : a.entry.key = key
    · -- the option behind it is found first
      have hlater : HasKey key (behind.map WrittenOption.entry) :=
        ⟨b.entry, List.mem_map_of_mem hmem, h.trans ha⟩
      obtain ⟨last, hlast⟩ := Option.isSome_iff_exists.1 (hasKey_iff_isSome_lastOf?.1 hlater)
      rw [lastOf?_cons_of_eq ha, hlast]
      rfl
    · rw [lastOf?_cons_of_ne ha]
  | @value before behind a b hkey h =>
    have hsame : b.entry.key = a.entry.key := by
      rw [WrittenOption.entry, WrittenOption.entry, hkey]
    constructor
    · intro key htakes
      have ha : a.entry.key ≠ key := fun ha => h.not_takesValue (ha ▸ htakes)
      have hb : b.entry.key ≠ key := hsame ▸ ha
      simp only [List.map_append, List.map_cons, lastOf?_append, lastOf?_cons_of_ne ha,
        lastOf?_cons_of_ne hb]
    · intro key _
      simp only [List.map_append, List.map_cons, lastOf?_append]
      by_cases ha : a.entry.key = key
      · rw [lastOf?_cons_of_eq ha, lastOf?_cons_of_eq (hsame.trans ha)]
        simp
      · rw [lastOf?_cons_of_ne ha, lastOf?_cons_of_ne (hsame ▸ ha)]
  | @blanks before behind a b hkey hvalue =>
    have hentry : a.entry = b.entry := by
      rw [WrittenOption.entry, WrittenOption.entry, hkey.trim_eq]
      generalize a.value = v at hvalue ⊢
      generalize b.value = w at hvalue ⊢
      cases hvalue with
      | some h => simp only [Option.map_some, h.trim_eq]
      | none => rfl
    simp only [List.map_append, List.map_cons, hentry]
    exact AskAlike.refl _

/-- **Any number of edits keep what matters.** -/
lemma askAlike_of_eqvGen (h : Relation.EqvGen Edit os os') :
    AskAlike (os.map WrittenOption.entry) (os'.map WrittenOption.entry) := by
  induction h with
  | rel _ _ h => exact h.askAlike
  | refl _ => exact AskAlike.refl _
  | symm _ _ _ ih => exact ih.symm
  | trans _ _ _ _ _ ih ih' => exact ih.trans ih'

end Edit

/-! ### Lines with options -/

namespace Rule

/-- The line of a pattern and of options behind a dollar sign. -/
def lineOf (pattern : String) (options : List WrittenOption) : String :=
  String.ofList (pattern.toList ++ '$' :: joined ',' (options.map WrittenOption.text))

/-- Every line with a dollar sign is the line of a pattern without one, and of options. -/
lemma exists_eq_lineOf {source : String} (h : '$' ∈ source.toList) :
    ∃ pattern options, '$' ∉ pattern.toList ∧ source = lineOf pattern options := by
  obtain ⟨pattern, behind, hsource, hpattern⟩ := List.eq_append_cons_of_mem h
  refine ⟨String.ofList pattern, (pieces ',' behind).pmap WrittenOption.ofPiece fun _ hpiece =>
    not_mem_pieces hpiece, by rwa [String.toList_ofList], ?_⟩
  simp [lineOf, List.map_pmap, joined_pieces, ← hsource]

variable {pattern : String}

/-- **The line of options asks for what they ask for.**  If there are none, one empty option is read,
which has no meaning. -/
lemma exists_parse_lineOf (hpattern : '$' ∉ pattern.toList) (os : List WrittenOption) :
    ∃ entries, Directive.parse (lineOf pattern os) = ⟨pattern, some entries⟩ ∧
      AskAlike (os.map WrittenOption.entry) entries := by
  have hparse : Directive.parse (lineOf pattern os) = ⟨pattern,
      some ((pieces ',' (joined ',' (os.map WrittenOption.text))).map Entry.ofPiece)⟩ := by
    rw [Directive.parse_eq, lineOf, String.toList_ofList, Directive.ofCuts_append_cons hpattern,
      String.ofList_toList]
  refine ⟨_, hparse, ?_⟩
  rcases os with _ | ⟨o, os⟩
  · refine AskAlike.nil_of_forall_not_isRecognised fun e he => ?_
    have hempty : Entry.ofPiece [] = ⟨"", none⟩ := by decide
    obtain rfl : e = ⟨"", none⟩ := by simpa [joined, hempty] using he
    decide
  · have hpieces : pieces ',' (joined ',' ((o :: os).map WrittenOption.text)) =
        (o :: os).map WrittenOption.text := by
      refine pieces_joined (by simp) fun piece hpiece => ?_
      obtain ⟨o', -, rfl⟩ := List.mem_map.1 hpiece
      exact o'.comma_not_mem_text
    have hentries : ((o :: os).map WrittenOption.text).map Entry.ofPiece =
        (o :: os).map WrittenOption.entry := by
      rw [List.map_map]
      exact List.map_congr_left fun o' _ => o'.ofPiece_text
    rw [hpieces, hentries]
    exact AskAlike.refl _

/-! ### Outcomes -/

/-- Two rules do the same: they have the same pattern, fields, site and action, and they ask for the
same on every search result. -/
structure DoesSame (r r' : Rule) : Prop where
  /-- The patterns are the same. -/
  pattern_eq : r.pattern = r'.pattern
  /-- The fields are the same. -/
  fields_eq : r.fields = r'.fields
  /-- The sites are the same. -/
  site_eq : r.site = r'.site
  /-- The actions are the same. -/
  action_eq : r.action = r'.action
  /-- The rules ask for the same. -/
  value_test_eq : ∀ d, (r.test d).value = (r'.test d).value

/-- Rules of lines with the same pattern and the same collected options do the same. -/
lemma doesSame_ofOptions (source source' : String) (line : Nat) (p : Option Pattern) (o : Options) :
    (ofOptions source line p o).DoesSame (ofOptions source' line p o) := by
  refine ⟨rfl, rfl, rfl, rfl, fun d => ?_⟩
  rw [value_test, value_test]
  rfl

/-- Two lines with the same pattern come out the same, without limits: both compile, to rules that do
the same, or the pattern is at fault in both. -/
inductive SameOutcome (line : Nat) (pattern source source' : String) : Prop
  | compiled {r r' : Rule} (h : (compile .none line source).value = .ok r)
    (h' : (compile .none line source').value = .ok r') (hsame : r.DoesSame r')
  | fault {cause : Pattern.Fault} (hcause : Pattern.compile pattern = .error cause)
    (h : (compile .none line source).value = .error (.pattern line pattern cause))
    (h' : (compile .none line source').value = .error (.pattern line pattern cause))

/-- **Lines with the same pattern whose options ask for the same come out the same.** -/
lemma sameOutcome_of_askAlike {line : Nat} {source source' : String}
    (hpattern : (Directive.parse source).pattern = pattern)
    (hpattern' : (Directive.parse source').pattern = pattern)
    (h : AskAlike (Directive.parse source).entries (Directive.parse source').entries) :
    SameOutcome line pattern source source' := by
  have hvalue := value_compile .none line source
  have hvalue' := value_compile .none line source'
  simp only [Directive.exceeds?_none, Directive.pattern?, hpattern] at hvalue
  simp only [Directive.exceeds?_none, Directive.pattern?, hpattern', ← h.value_collect] at hvalue'
  by_cases hempty : pattern.isEmpty = true
  · rw [if_pos hempty] at hvalue hvalue'
    exact .compiled hvalue hvalue' (doesSame_ofOptions _ _ _ _ _)
  · rw [if_neg hempty] at hvalue hvalue'
    rcases hcompile : Pattern.compile pattern with cause | p
    · rw [hcompile] at hvalue hvalue'
      exact .fault hcompile hvalue hvalue'
    · rw [hcompile] at hvalue hvalue'
      exact .compiled hvalue hvalue' (doesSame_ofOptions _ _ _ _ _)

/-- **Neither order nor noise nor white space matters.**  Every line with a dollar sign is the line of a
pattern and of options.  Lines with the same pattern, and with options of which the ones come from the
others by any edits, come out the same; and a line without options comes out as with any options
without a meaning. -/
theorem sameOutcome_of_edits :
    (∀ source, '$' ∈ String.toList source →
      ∃ pattern os, '$' ∉ String.toList pattern ∧ source = lineOf pattern os) ∧
    ∀ pattern, '$' ∉ String.toList pattern → ∀ line,
      (∀ os os', Relation.EqvGen Edit os os' →
        SameOutcome line pattern (lineOf pattern os) (lineOf pattern os')) ∧
      ∀ os, (∀ o ∈ os, ¬ IsRecognised (WrittenOption.entry o).key) →
        SameOutcome line pattern pattern (lineOf pattern os) := by
  refine ⟨fun source => exists_eq_lineOf, fun pattern hpattern line => ⟨?_, ?_⟩⟩
  · intro os os' hedits
    obtain ⟨entries, hparse, hasks⟩ := exists_parse_lineOf hpattern os
    obtain ⟨entries', hparse', hasks'⟩ := exists_parse_lineOf hpattern os'
    refine sameOutcome_of_askAlike (by rw [hparse]) (by rw [hparse']) ?_
    rw [hparse, hparse']
    exact hasks.symm.trans ((Edit.askAlike_of_eqvGen hedits).trans hasks')
  · intro os hnoise
    obtain ⟨entries, hparse, hasks⟩ := exists_parse_lineOf hpattern os
    have hbare : Directive.parse pattern = ⟨pattern, none⟩ := by
      rw [Directive.parse_eq, Directive.ofCuts_of_not_mem hpattern, String.ofList_toList]
    have hnil : AskAlike [] (os.map WrittenOption.entry) := by
      refine AskAlike.nil_of_forall_not_isRecognised fun e he => ?_
      obtain ⟨o, ho, rfl⟩ := List.mem_map.1 he
      exact hnoise o ho
    refine sameOutcome_of_askAlike (by rw [hbare]) (by rw [hparse]) ?_
    rw [hbare, hparse]
    exact hnil.trans hasks

/-- Options in another order, with an option that has no meaning, a boost that is overridden, a
discard without its value, and white space of two kinds around a site. -/
theorem sameOutcome_of_untidy_options :
    SameOutcome 1 "/a" "/a$boost=2,site=a.org,discard=1"
      "/a$width=3, site\u3000= a.org ,boost=7,boost=2,discard" ∧
    SameOutcome 1 "/a" "/a" "/a$,width=3" := by
  let boost := WrittenOption.ofPiece "boost=2".toList (by decide)
  let boosted := WrittenOption.ofPiece "boost=7".toList (by decide)
  let site := WrittenOption.ofPiece "site=a.org".toList (by decide)
  let spaced := WrittenOption.ofPiece " site\u3000= a.org ".toList (by decide)
  let valued := WrittenOption.ofPiece "discard=1".toList (by decide)
  let discard := WrittenOption.ofPiece "discard".toList (by decide)
  let width := WrittenOption.ofPiece "width=3".toList (by decide)
  let empty := WrittenOption.ofPiece [] (by decide)
  have hmoved : Edit [boost, site, valued] [site, boost, valued] :=
    @Edit.swap [] [valued] boost site (by decide)
  have hadded : Edit [width, site, boost, valued] [site, boost, valued] :=
    @Edit.unknown [] [site, boost, valued] width (by decide)
  have hrepeated : Edit [width, site, boosted, boost, valued] [width, site, boost, valued] :=
    @Edit.repeated [width, site] [boost, valued] boosted boost (by simp) (by decide)
  have hbared : Edit [width, site, boosted, boost, valued] [width, site, boosted, boost, discard] :=
    @Edit.value [width, site, boosted, boost] [] valued discard (by decide) (.inl (by decide))
  have hspaced : Edit [width, site, boosted, boost, discard]
      [width, spaced, boosted, boost, discard] := by
    have hnarrow : ∀ c ∈ [' '], isBlank c = true := List.forall_mem_singleton.2 (by decide)
    have hwide : ∀ c ∈ ['\u3000'], isBlank c = true := List.forall_mem_singleton.2 (by decide)
    exact @Edit.blanks [width] [boosted, boost, discard] site spaced
      ⟨[' '], ['\u3000'], by decide, hnarrow, hwide⟩
      (.some ⟨[' '], [' '], by decide, hnarrow, hnarrow⟩)
  have hedits : Relation.EqvGen Edit [boost, site, valued] [width, spaced, boosted, boost, discard] :=
    (Relation.EqvGen.rel _ _ hmoved).trans _ _ _ <|
      ((Relation.EqvGen.rel _ _ hadded).symm _ _).trans _ _ _ <|
      ((Relation.EqvGen.rel _ _ hrepeated).symm _ _).trans _ _ _ <|
      (Relation.EqvGen.rel _ _ hbared).trans _ _ _ <| Relation.EqvGen.rel _ _ hspaced
  obtain ⟨hedited, hbare⟩ := sameOutcome_of_edits.2 "/a" (by decide) 1
  exact ⟨hedited _ _ hedits, hbare [empty, width] (by decide)⟩

end Rule

end Rerank
