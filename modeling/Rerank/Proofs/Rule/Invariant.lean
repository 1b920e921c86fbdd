/-
What holds of every rule that is compiled.

Testing a rule and comparing what rules ask for rely on facts that are checked nowhere: that a rule
has a field to be tested on, that its site could be the host of something, that only a rule without
conditions discards generically, that no magnitude is changed by taking its opposite twice.  They
are established in three places.  The grammar lets no dollar sign into a pattern and neither a comma
nor a blank at an end into a site (`Directive.writable_parse`).  Collecting options drops an empty
site (`Options.describes_collect`).  And the action is chosen only after it is known what else is
written (`Options.action?_eq_genericDiscard_iff`).

The main result is `wellFormed_of_compile`.
-/
import Rerank.Proofs.Directive.Writing
import Rerank.Proofs.Rule.Application
import Rerank.Proofs.Rule.Meaning

namespace Rerank

open Text

/-- What holds of every rule that is compiled. -/
structure Rule.WellFormed (r : Rule) : Prop where
  /-- It names a field. -/
  isEmpty_fields : r.fields.isEmpty = false
  /-- So the field that it is tested on is one that it names, and never a substitute. -/
  primary?_fields : r.fields.primary? = some r.target
  /-- Its pattern, if it has one, is not empty, holds no dollar sign, and begins its line. -/
  source_pattern : ∀ p ∈ r.pattern,
    p.source ≠ "" ∧ '$' ∉ p.source.toList ∧ p.source.toList <+: r.source.toList
  /-- Its site, if it has one, is not empty, holds no comma, and is trimmed. -/
  site : ∀ site ∈ r.site, site ≠ "" ∧ ',' ∉ site.toList ∧ trim site.toList = site.toList
  /-- If it discards generically, it has no conditions, and asks for that on every search result. -/
  of_genericDiscard : r.action = some .genericDiscard →
    r.pattern = none ∧ r.site = none ∧ r.fields = .single .url ∧
      ∀ d, (r.test d).value = some .genericDiscard
  /-- If there is no dollar sign in its line, it has a pattern at most. -/
  of_dollar_not_mem : '$' ∉ r.source.toList →
    r.site = none ∧ r.fields = .single .url ∧ r.action = none
  /-- If it downranks, then not by the least magnitude. -/
  of_downrank : ∀ m, r.action = some (.downrank m) → m.val ≠ leastMagnitude
  /-- If it has no action, its line asks for none. -/
  of_action_eq_none : r.action = none →
    ∀ key ∈ ["boost", "downrank", "discard"], ¬ HasKey key (Directive.parse r.source).entries

/-! ### What the grammar keeps out -/

/-- A pattern is the beginning of its line. -/
lemma Directive.pattern_prefix (source : String) :
    (parse source).pattern.toList <+: source.toList := by
  have hspelled : Spelled source.toList (parse source) := spelled_iff.2 (parse_eq source)
  generalize parse source = d at hspelled
  generalize source.toList = line at hspelled
  cases hspelled with
  | bare hdollar => exact ⟨[], by rw [String.toList_ofList, List.append_nil]⟩
  | @optioned pattern behind entries hdollar hentries =>
    rw [String.toList_ofList]
    exact List.prefix_append pattern ('$' :: behind)

/-- A pattern that compiles is the one that is written, which is not empty. -/
lemma Directive.source_of_pattern? {d : Directive} {line : Nat} {p : Pattern}
    (h : d.pattern? line = .ok (some p)) : p.source = d.pattern ∧ d.pattern ≠ "" := by
  have hsource := Rule.pattern_eq_of_pattern? h
  by_cases hempty : d.pattern = ""
  · rw [if_pos hempty] at hsource
    cases hsource
  · rw [if_neg hempty] at hsource
    exact ⟨Option.some.inj hsource, hempty⟩

lemma LastValue.mem {key : String} {entries : List Entry} {value : Option String}
    (h : LastValue key entries value) : ⟨key, value⟩ ∈ entries := by
  obtain ⟨before, behind, rfl, -⟩ := h
  simp

/-! ### What collecting options sees to -/

namespace FieldSet

/-- Only the empty set has no preferred field. -/
lemma primary?_eq_none_iff {s : FieldSet} : s.primary? = none ↔ s.isEmpty = true := by
  rw [primary?, List.head?_eq_none_iff, List.eq_nil_iff_forall_not_mem, isEmpty_iff]
  refine forall_congr' fun f => ?_
  rw [mem_toList, Bool.not_eq_true]

end FieldSet

namespace Options

variable {o : Options} {entries : List Entry} {narrowed : Bool}

/-- Without the key of a site there is no site. -/
lemma Describes.site_eq_none (h : o.Describes entries) (hkey : o.hasSiteKey = false) :
    o.site = .none := by
  by_contra hne
  obtain ⟨site, hsite⟩ := Option.ne_none_iff_exists'.1 hne
  have hlast := ((h.site_iff site).1 hsite).2
  have htrue : o.hasSiteKey = true :=
    h.hasSiteKey_iff.2 (hasKey_iff_exists_lastValue.2 ⟨some site, hlast⟩)
  rw [hkey] at htrue
  cases htrue

/-- A discard is generic only if nothing narrows the rule down. -/
lemma action?_eq_genericDiscard_iff : o.action? narrowed = some .genericDiscard ↔
    o.boost = .none ∧ o.downrank = .none ∧ o.discard = true ∧ narrowed = false := by
  unfold action?
  rcases o.boost with _ | value
  · rcases o.downrank with _ | value
    · cases o.discard <;> cases narrowed <;> simp
    · simp
  · simp

/-- A downrank is by the opposite of a magnitude. -/
lemma exists_of_action?_eq_downrank {m : Magnitude} (h : o.action? narrowed = some (.downrank m)) :
    ∃ n : Magnitude, m = n.neg := by
  unfold action? at h
  split at h
  · cases h
  · cases h
    exact ⟨_, rfl⟩
  · split at h <;> cases h
  · cases h

lemma action?_eq_none_iff : o.action? narrowed = .none ↔
    o.boost = .none ∧ o.downrank = .none ∧ o.discard = false := by
  unfold action?
  rcases o.boost with _ | value
  · rcases o.downrank with _ | value
    · cases o.discard <;> simp
    · simp
  · simp

/-- If no action is asked for, no key of an action occurs. -/
lemma Describes.not_hasKey_of_action? (h : o.Describes entries)
    (hnone : o.action? narrowed = .none) :
    ∀ key ∈ ["boost", "downrank", "discard"], ¬ HasKey key entries := by
  obtain ⟨hboost, hdownrank, hdiscard⟩ := action?_eq_none_iff.1 hnone
  have hnoDiscard : ¬ HasKey "discard" entries := by
    rw [← h.discard_iff, hdiscard]
    exact Bool.false_ne_true
  simp only [List.forall_mem_cons]
  refine ⟨?_, ?_, hnoDiscard, by simp⟩
  · exact (eq_none_iff_not_hasKey h.boost_iff).1 hboost
  · exact (eq_none_iff_not_hasKey h.downrank_iff).1 hdownrank

end Options

/-- The least magnitude is the opposite of none. -/
lemma Magnitude.val_neg_ne_least (m : Magnitude) : m.neg.val ≠ leastMagnitude := by
  have hle := m.le_greatest
  simp only [neg, val_clamp, leastMagnitude, greatestMagnitude] at hle ⊢
  omega

/-! ### Rules -/

namespace Rule

variable {limits : Limits} {line : Nat} {source : String} {r : Rule}

/-- A rule without conditions applies to every search result. -/
lemma applies_of_unconditional (hpattern : r.pattern = none) (hsite : r.site = none)
    (hfields : r.fields = .single .url) (d : Document) : r.applies d = true := by
  have htarget : r.target = .url := by
    rw [target, hfields]
    rfl
  refine applies_iff.2 ⟨by simp [hsite], d.url, ?_, by simp [hpattern]⟩
  rw [htarget, Document.text?_url]

/-- A rule that is compiled names a field. -/
lemma isEmpty_fields_of_compile (h : (compile limits line source).value = .ok r) :
    r.fields.isEmpty = false := by
  obtain ⟨-, pattern, -, rfl⟩ := compile_eq_ok_iff.1 h
  generalize (Options.collect (Directive.parse source).entries).value = o
  show (if o.fields.isEmpty then FieldSet.single .url else o.fields).isEmpty = false
  split
  · decide
  · next hfields => exact Bool.eq_false_iff.2 hfields

/-- So it is tested on the preferred one of the fields that it names. -/
lemma primary?_of_compile (h : (compile limits line source).value = .ok r) :
    r.fields.primary? = some r.target := by
  have hfields := isEmpty_fields_of_compile h
  rcases hprimary : r.fields.primary? with _ | f
  · rw [FieldSet.primary?_eq_none_iff, hfields] at hprimary
    cases hprimary
  · rw [target, hprimary]
    rfl

/-- The pattern of a rule that is compiled is the beginning of its line. -/
lemma pattern_of_compile (h : (compile limits line source).value = .ok r) {p : Pattern}
    (hp : r.pattern = some p) :
    p.source ≠ "" ∧ '$' ∉ p.source.toList ∧ p.source.toList <+: source.toList := by
  obtain ⟨-, pattern, hpattern, rfl⟩ := compile_eq_ok_iff.1 h
  obtain rfl : pattern = some p := hp
  obtain ⟨hsource, hne⟩ := Directive.source_of_pattern? hpattern
  rw [hsource]
  exact ⟨hne, (Directive.writable_parse source).dollar_not_mem_pattern,
    Directive.pattern_prefix source⟩

/-- The site of a rule that is compiled can be written as a value. -/
lemma site_of_compile (h : (compile limits line source).value = .ok r) {site : String}
    (hsite : r.site = some site) :
    site ≠ "" ∧ ',' ∉ site.toList ∧ trim site.toList = site.toList := by
  obtain ⟨-, pattern, -, rfl⟩ := compile_eq_ok_iff.1 h
  have hdescribes := Options.describes_collect (Directive.parse source).entries
  obtain ⟨hne, hlast⟩ := (hdescribes.site_iff site).1 hsite
  have hwritable := (Directive.writable_parse source).writable_of_mem _ hlast.mem
  exact ⟨hne, hwritable.comma_not_mem_value site rfl, hwritable.trim_value site rfl⟩

/-- A rule that discards generically has no conditions. -/
lemma unconditional_of_compile (h : (compile limits line source).value = .ok r)
    (haction : r.action = some .genericDiscard) :
    r.pattern = none ∧ r.site = none ∧ r.fields = .single .url := by
  obtain ⟨-, pattern, -, rfl⟩ := compile_eq_ok_iff.1 h
  have hdescribes := Options.describes_collect (Directive.parse source).entries
  generalize (Options.collect (Directive.parse source).entries).value = o at haction hdescribes
  obtain ⟨-, -, -, hnarrowed⟩ := Options.action?_eq_genericDiscard_iff.1 haction
  rw [Bool.or_eq_false_iff, Bool.or_eq_false_iff, Bool.not_eq_false'] at hnarrowed
  obtain ⟨⟨hkey, hfields⟩, hpattern⟩ := hnarrowed
  have hnone : pattern = none := by simpa using hpattern
  refine ⟨hnone, hdescribes.site_eq_none hkey, ?_⟩
  show (if o.fields.isEmpty then FieldSet.single .url else o.fields) = _
  rw [if_pos hfields]

/-- The rule of a line without a dollar sign has a pattern at most. -/
lemma bare_of_compile (h : (compile limits line source).value = .ok r)
    (hdollar : '$' ∉ source.toList) :
    r.site = none ∧ r.fields = .single .url ∧ r.action = none := by
  have hentries : (Directive.parse source).entries = [] := by
    rw [Directive.parse_eq, Directive.ofCuts_of_not_mem hdollar]
    rfl
  obtain ⟨-, pattern, -, rfl⟩ := compile_eq_ok_iff.1 h
  rw [hentries]
  exact ⟨rfl, rfl, rfl⟩

/-- **Every rule that is compiled is well formed**, whatever its line, its number and the limits. -/
theorem wellFormed_of_compile (h : (compile limits line source).value = .ok r) :
    r.source = source ∧ r.WellFormed := by
  have hsource : r.source = source := (line_of_compile h).2
  refine ⟨hsource, ?_⟩
  exact
    { isEmpty_fields := isEmpty_fields_of_compile h
      primary?_fields := primary?_of_compile h
      source_pattern := by
        intro p hp
        rw [hsource]
        exact pattern_of_compile h hp
      site := fun site hsite => site_of_compile h hsite
      of_genericDiscard := by
        intro haction
        obtain ⟨hpattern, hsite, hfields⟩ := unconditional_of_compile h haction
        refine ⟨hpattern, hsite, hfields, fun d => ?_⟩
        rw [value_test, if_pos (applies_of_unconditional hpattern hsite hfields d), haction]
      of_dollar_not_mem := by
        rw [hsource]
        exact bare_of_compile h
      of_downrank := by
        intro m haction
        obtain ⟨-, pattern, -, rfl⟩ := compile_eq_ok_iff.1 h
        obtain ⟨n, rfl⟩ := Options.exists_of_action?_eq_downrank haction
        exact n.val_neg_ne_least
      of_action_eq_none := by
        intro haction
        rw [hsource]
        obtain ⟨-, pattern, -, rfl⟩ := compile_eq_ok_iff.1 h
        exact (Options.describes_collect _).not_hasKey_of_action? haction }

/-- A pattern with blanks, a site with blanks around it, two fields in the wrong order, and a
downrank by the least magnitude. -/
theorem wellFormed_of_least_downrank :
    let source := "a b $incontent, site = x=y ,downrank=-9223372036854775808,intitle"
    ∃ r, (compile ⟨some 4, some 4⟩ 7 source).value = .ok r ∧ (r.source = source ∧ r.WellFormed) ∧
      r.site = some "x=y" ∧ r.target = .title ∧
      r.action = some (.downrank (.clamp greatestMagnitude)) := by
  intro source
  obtain ⟨r, hr, hparts⟩ := exists_of_map_toOption
    (x := (compile ⟨some 4, some 4⟩ 7 source).value)
    (f := fun r => (r.site, r.target, r.action))
    (b := (some "x=y", .title, some (.downrank (.clamp greatestMagnitude)))) (by decide +kernel)
  obtain ⟨hsite, hrest⟩ := Prod.mk.inj hparts
  obtain ⟨htarget, haction⟩ := Prod.mk.inj hrest
  exact ⟨r, hr, wellFormed_of_compile hr, hsite, htarget, haction⟩

end Rule

end Rerank
