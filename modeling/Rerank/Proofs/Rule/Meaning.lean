/-
What the rule of a line means, read off the directive that the line spells.

The pattern of the directive is the pattern of the rule, and its options say the rest: the last
site, all fields, and one action.  Of the actions a boost comes before a downrank, and a downrank
before a discard; a discard is generic if nothing else is written that narrows the rule down
(`Directive.Asks`).  The main result is `compile_means`.
-/
import Rerank.Proofs.Magnitude
import Rerank.Proofs.Rule.Line
import Rerank.Proofs.Rule.Options

namespace Rerank

namespace Directive

/-- A directive narrows its rule down: by a pattern, by the key of a site, whatever its value, or by
the key of a field, even that of the address. -/
def Narrows (d : Directive) : Prop :=
  d.pattern ≠ "" ∨ HasKey "site" d.entries ∨ ∃ f : Field, HasKey f.key d.entries

/-- The action that a directive asks for. -/
inductive Asks (d : Directive) : Option Action → Prop
  | boost {value : Option String} {m : Magnitude} (h : LastValue "boost" d.entries value)
      (hm : Magnitude.Asked value m) : Asks d (some (.boost m))
  | downrank {value : Option String} {m : Magnitude} (hboost : ¬ HasKey "boost" d.entries)
      (h : LastValue "downrank" d.entries value) (hm : Magnitude.Asked value m) :
      Asks d (some (.downrank m.neg))
  | genericDiscard (hboost : ¬ HasKey "boost" d.entries)
      (hdownrank : ¬ HasKey "downrank" d.entries) (h : HasKey "discard" d.entries)
      (hnarrows : ¬ d.Narrows) : Asks d (some .genericDiscard)
  | specificDiscard (hboost : ¬ HasKey "boost" d.entries)
      (hdownrank : ¬ HasKey "downrank" d.entries) (h : HasKey "discard" d.entries)
      (hnarrows : d.Narrows) : Asks d (some .specificDiscard)
  | nothing (hboost : ¬ HasKey "boost" d.entries) (hdownrank : ¬ HasKey "downrank" d.entries)
      (hdiscard : ¬ HasKey "discard" d.entries) : Asks d none

end Directive

namespace Options

variable {o : Options} {entries : List Entry}

/-- A value is taken in exactly if its key occurs. -/
lemma eq_none_iff_not_hasKey {key : String} {taken : Option String}
    (h : ∀ text, taken = some text ↔ ∃ value, LastValue key entries value ∧ value.getD "" = text) :
    taken = .none ↔ ¬ HasKey key entries := by
  rw [← not_iff_not, not_not, hasKey_iff_exists_lastValue, ← ne_eq, Option.ne_none_iff_exists']
  simp only [h]
  constructor
  · rintro ⟨text, value, hlast, -⟩
    exact ⟨value, hlast⟩
  · rintro ⟨value, hlast⟩
    exact ⟨value.getD "", value, hlast, rfl⟩

/-- Fields are asked for exactly if the key of one occurs. -/
lemma Describes.isEmpty_fields_iff (h : o.Describes entries) :
    o.fields.isEmpty = true ↔ ∀ f : Field, ¬ HasKey f.key entries := by
  rw [FieldSet.isEmpty_iff]
  exact forall_congr' fun f => by rw [← h.contains_fields_iff, Bool.not_eq_true]

/-- The action of options is the one that the directive asks for. -/
lemma Describes.asks_action? {d : Directive} (h : o.Describes d.entries) {narrowed : Bool}
    (hnarrowed : narrowed = true ↔ d.Narrows) : d.Asks (o.action? narrowed) := by
  rcases hboost : o.boost with _ | text
  · have hnoBoost := (eq_none_iff_not_hasKey h.boost_iff).1 hboost
    rcases hdownrank : o.downrank with _ | text
    · have hnoDownrank := (eq_none_iff_not_hasKey h.downrank_iff).1 hdownrank
      by_cases hdiscard : o.discard = true
      · have hkey := h.discard_iff.1 hdiscard
        rcases narrowed with _ | _
        · have hnot : ¬ d.Narrows := fun hn => Bool.noConfusion (hnarrowed.2 hn)
          simpa [action?, hboost, hdownrank, hdiscard] using
            Directive.Asks.genericDiscard hnoBoost hnoDownrank hkey hnot
        · simpa [action?, hboost, hdownrank, hdiscard] using
            Directive.Asks.specificDiscard hnoBoost hnoDownrank hkey (hnarrowed.1 rfl)
      · have hnoDiscard : ¬ HasKey "discard" d.entries := fun hkey => hdiscard (h.discard_iff.2 hkey)
        simpa [action?, hboost, hdownrank, hdiscard] using
          Directive.Asks.nothing hnoBoost hnoDownrank hnoDiscard
    · obtain ⟨value, hlast, rfl⟩ := (h.downrank_iff text).1 hdownrank
      simpa [action?, hboost, hdownrank] using
        Directive.Asks.downrank hnoBoost hlast (Magnitude.asked_ofValue value)
  · obtain ⟨value, hlast, rfl⟩ := (h.boost_iff text).1 hboost
    simpa [action?, hboost] using Directive.Asks.boost hlast (Magnitude.asked_ofValue value)

end Options

namespace Rule

/-- A rule means what a directive says. -/
structure Means (r : Rule) (d : Directive) : Prop where
  /-- There is a pattern, with the text of the directive, exactly if that is not empty. -/
  pattern_eq : r.pattern.map Pattern.source = if d.pattern = "" then none else some d.pattern
  /-- The site is the last value of its key, unless that is missing or empty. -/
  site_iff : ∀ site, r.site = some site ↔ site ≠ "" ∧ LastValue "site" d.entries (some site)
  /-- The fields are those whose keys occur, or the address if no such key does. -/
  contains_fields_iff : ∀ f, r.fields.contains f = true ↔
    HasKey f.key d.entries ∨ f = .url ∧ ∀ g : Field, ¬ HasKey g.key d.entries
  /-- The action is the one that is asked for. -/
  asks_action : d.Asks r.action

lemma pattern_eq_of_pattern? {d : Directive} {line : Nat} {p : Option Pattern}
    (h : d.pattern? line = .ok p) :
    p.map Pattern.source = if d.pattern = "" then none else some d.pattern := by
  unfold Directive.pattern? at h
  split at h
  · next hempty =>
    cases h
    rw [if_pos (String.isEmpty_iff.1 hempty)]
    rfl
  · next hempty =>
    rw [if_neg (mt String.isEmpty_iff.2 hempty)]
    unfold Pattern.compile at h
    split at h
    · next hp =>
      split at hp
      · cases hp
        cases h
        rfl
      · cases hp
    · cases h

/-- **A rule means what its line says.**  The pattern, site, fields and action of the rule of a line
are those that the directive of the line asks for, however many options it has and in whatever order
they stand. -/
theorem compile_means {limits : Limits} {line : Nat} {source : String} {r : Rule}
    (h : (compile limits line source).value = .ok r) : r.Means (Directive.parse source) := by
  rw [value_compile] at h
  split at h
  · cases h
  · split at h
    · cases h
    · next pattern hpattern =>
      cases h
      have hsource := pattern_eq_of_pattern? hpattern
      have hoptions := Options.describes_collect (Directive.parse source).entries
      generalize (Options.collect (Directive.parse source).entries).value = o at hoptions
      have hnarrowed : (o.hasSiteKey || !o.fields.isEmpty || pattern.isSome) = true ↔
          (Directive.parse source).Narrows := by
        have hsome : pattern.isSome = true ↔ (Directive.parse source).pattern ≠ "" := by
          rw [← Option.isSome_map, hsource]
          split <;> simp [*]
        have hfields : (!o.fields.isEmpty) = true ↔
            ∃ f : Field, HasKey f.key (Directive.parse source).entries := by
          rw [Bool.not_eq_true', ← Bool.not_eq_true, hoptions.isEmpty_fields_iff]
          push Not
          rfl
        rw [Bool.or_eq_true, Bool.or_eq_true, hoptions.hasSiteKey_iff, hsome, hfields,
          Directive.Narrows]
        exact or_comm
      refine ⟨hsource, hoptions.site_iff, fun f => ?_, hoptions.asks_action? hnarrowed⟩
      show (if o.fields.isEmpty then FieldSet.single .url else o.fields).contains f = true ↔ _
      split
      · next hempty =>
        have hnone := hoptions.isEmpty_fields_iff.1 hempty
        rw [FieldSet.single, FieldSet.contains_insert, FieldSet.contains_empty, Bool.or_false,
          beq_iff_eq, or_iff_right (hnone f), and_iff_left hnone, eq_comm]
      · next hne =>
        have hsome := mt hoptions.isEmpty_fields_iff.2 hne
        rw [hoptions.contains_fields_iff, or_iff_left fun hand => hsome hand.2]

/-- Of two sites and two boosts the last ones count, and the boost comes before the discard. -/
theorem means_of_repeated_keys :
    let source := "/a$boost=2,site=,discard,boost=-7x,intitle,site = x.org,,width=3"
    ∃ r, (compile .none 1 source).value = .ok r ∧ r.Means (Directive.parse source) ∧
      r.site = some "x.org" ∧ r.fields = .single .title ∧
      r.action = some (.boost (.clamp (-7))) := by
  intro source
  have heval : (compile .none 1 source).value.toOption.map
      (fun r => (r.site, r.fields, r.action)) =
      some (some "x.org", .single .title, some (.boost (.clamp (-7)))) := by decide +kernel
  rcases hcompile : (compile .none 1 source).value with fault | r
  · rw [hcompile] at heval
    cases heval
  · rw [hcompile] at heval
    obtain ⟨hsite, hrest⟩ := Prod.mk.inj (Option.some.inj heval)
    obtain ⟨hfields, haction⟩ := Prod.mk.inj hrest
    exact ⟨r, rfl, compile_means hcompile, hsite, hfields, haction⟩

end Rule

end Rerank
