/-
Search results that are addressed by their host.

A line that names the host of a search result as its site is meant for that host and no other.
Whether it keeps to this depends on the text of the host alone.  A value ends before the first comma
and is trimmed; a host that survives this becomes the site of the rule (`Rule.value_parse_siteLine`).
Any other host leaves the rule with another site, so that it asks for nothing, or with no site at
all, so that it asks for the same on every host (`Rule.value_test_of_site_eq_none`).

Such hosts exist: the web knows domains with commas, and under other schemes a name may begin with
a blank outside ASCII (`not_addressed_of_comma`).  The main result is `addressed_iff`.
-/
import Rerank.Proofs.Document.Accepted
import Rerank.Proofs.Rule.Invariant

namespace Rerank

open Text

/-- The line that asks for a boost on the search results with a host. -/
def Rule.siteLine (host : String) : String :=
  "$site=" ++ host ++ ",boost"

/-- A rule addresses a search result by its host: it asks for a boost of 1 there, and for nothing on
any accepted search result with another host. -/
structure Rule.Addresses (r : Rule) (d : Document) : Prop where
  /-- It asks for a boost. -/
  value_test : (r.test d).value = some (.boost (.clamp 1))
  /-- It asks for nothing where the host is another one. -/
  value_test_other : ∀ d' : Document, d'.Accepted → d'.host ≠ d.host → (r.test d').value = none

namespace Rule

/-! ### The rule of the line -/

lemma toList_siteLine (host : String) : (siteLine host).toList =
    [] ++ '$' :: ("site=".toList ++ host.toList ++ ",boost".toList) := by
  simp [siteLine]

/-- Whatever the host is, the line has no pattern, so it compiles. -/
lemma value_parse_of_siteLine (host : String) : (parse (siteLine host)).value =
    .ok (ofOptions (siteLine host) 1 none
      (Options.collect (Directive.parse (siteLine host)).entries).value) := by
  refine value_compile_of_pattern_eq_empty ?_
  rw [Directive.parse_eq, toList_siteLine, Directive.ofCuts_append_cons List.not_mem_nil]

/-- The line of a host without commas that is trimmed is read as it is written. -/
lemma parse_siteLine {host : String} (hcomma : ',' ∉ host.toList)
    (htrim : trim host.toList = host.toList) :
    Directive.parse (siteLine host) = ⟨"", some [⟨"site", some host⟩, ⟨"boost", none⟩]⟩ := by
  have hbare : Entry.Writable ⟨"site", none⟩ :=
    ⟨by decide, by decide, by decide, by simp, by simp⟩
  have hsite : Entry.Writable ⟨"site", some host⟩ := by
    refine ⟨hbare.equals_not_mem_key, hbare.comma_not_mem_key, hbare.trim_key, ?_, ?_⟩
    · rintro _ ⟨⟩
      exact hcomma
    · rintro _ ⟨⟩
      exact htrim
  have hboost : Entry.Writable ⟨"boost", none⟩ :=
    ⟨by decide, by decide, by decide, by simp, by simp⟩
  have hwritable : Directive.Writable ⟨"", some [⟨"site", some host⟩, ⟨"boost", none⟩]⟩ := by
    refine ⟨by simp, by simp, ?_⟩
    simp only [Directive.entries, Option.getD_some, List.forall_mem_cons]
    exact ⟨hsite, hboost, by simp⟩
  have hline : siteLine host = Directive.text ⟨"", some [⟨"site", some host⟩, ⟨"boost", none⟩]⟩ := by
    apply String.toList_inj.1
    rw [Directive.toList_text_of_options, toList_siteLine]
    simp [Entry.toList_text, joined]
  rw [hline, Directive.parse_text hwritable]

/-- Then the host is the site of the rule, which asks for a boost and has no other condition. -/
lemma value_parse_siteLine {host : String} (hne : host ≠ "") (hcomma : ',' ∉ host.toList)
    (htrim : trim host.toList = host.toList) : (parse (siteLine host)).value =
      .ok ⟨siteLine host, 1, none, .single .url, some host, some (.boost (.clamp 1))⟩ := by
  have hcollect : (Options.collect [⟨"site", some host⟩, ⟨"boost", none⟩]).value =
      ⟨some host, true, .empty, some "", none, false⟩ := by
    have hempty : host.isEmpty = false := by simpa using hne
    simp [Options.collect, Options.addAll, Options.add, Options.none, hempty]
  rw [value_parse_of_siteLine, parse_siteLine hcomma htrim, Directive.entries, Option.getD_some,
    hcollect]
  rfl

/-! ### What it asks for -/

/-- A rule with a site asks for nothing on other hosts. -/
lemma value_test_of_site_ne {r : Rule} {site : String} (hsite : r.site = some site)
    {d : Document} (hne : d.host ≠ site) : (r.test d).value = none := by
  rw [value_test, if_neg]
  intro happlies
  exact hne ((applies_iff.1 happlies).1 site hsite).symm

/-- A rule without site and pattern asks for the same on all hosts, as long as the other texts are
the same. -/
lemma value_test_of_site_eq_none {r : Rule} (hpattern : r.pattern = none) (hsite : r.site = none)
    {d : Document} (url host : String) {a : Action} (h : (r.test d).value = some a) :
    (r.test { d with url := url, host := host }).value = some a := by
  rw [value_test] at h ⊢
  by_cases happlies : r.applies d = true
  · rw [if_pos happlies] at h
    obtain ⟨-, text, htext, -⟩ := applies_iff.1 happlies
    have hknown : ∃ text, { d with url := url, host := host }.text? r.target = some text := by
      rcases htarget : r.target with _ | _ | _ | _
      · exact ⟨url, rfl⟩
      all_goals rw [htarget] at htext; exact ⟨text, htext⟩
    obtain ⟨text', htext'⟩ := hknown
    rw [if_pos, h]
    exact applies_iff.2 ⟨by simp [hsite], text', htext', by simp [hpattern]⟩
  · rw [if_neg happlies] at h
    cases h

/-! ### Whom it addresses -/

/-- There is an accepted search result with another host and the same texts. -/
lemma exists_other_host (d : Document) : ∃ url host, host ≠ d.host ∧
    Document.Accepted { d with url := url, host := host } := by
  by_cases hhost : d.host = "x"
  · have hy : Document.Accepted ⟨"http://y/", "y", none, none, none⟩ := by decide +kernel
    exact ⟨"http://y/", "y", by rw [hhost]; decide, hy⟩
  · have hx : Document.Accepted ⟨"http://x/", "x", none, none, none⟩ := by decide +kernel
    exact ⟨"http://x/", "x", Ne.symm hhost, hx⟩

/-- If a host without commas is trimmed, the rule of its line asks for a boost there only. -/
lemma addresses_of_trimmed {d : Document} {r : Rule} (hne : d.host ≠ "")
    (hr : (parse (siteLine d.host)).value = .ok r) (hcomma : ',' ∉ d.host.toList)
    (htrim : trim d.host.toList = d.host.toList) : r.Addresses d := by
  rw [value_parse_siteLine hne hcomma htrim] at hr
  cases hr
  refine ⟨?_, fun d' _ hother => value_test_of_site_ne rfl hother⟩
  rw [value_test, if_pos]
  refine applies_iff.2 ⟨?_, d.url, rfl, by simp⟩
  rintro site ⟨⟩
  rfl

/-- If the rule of a line asks for a boost on a host only, the host is its site, and so it could be
written as a value. -/
lemma trimmed_of_addresses {d : Document} {r : Rule}
    (hr : (parse (siteLine d.host)).value = .ok r) (h : r.Addresses d) :
    ',' ∉ d.host.toList ∧ trim d.host.toList = d.host.toList := by
  rcases hsite : r.site with _ | site
  · -- without a site the rule asks for the boost on another host as well
    exfalso
    have hpattern : r.pattern = none := by
      rw [value_parse_of_siteLine] at hr
      cases hr
      rfl
    obtain ⟨url, host, hother, haccepted⟩ := exists_other_host d
    have htest := value_test_of_site_eq_none hpattern hsite url host h.value_test
    rw [h.value_test_other _ haccepted hother] at htest
    cases htest
  · have hhost : d.host = site := by
      by_contra hne
      have htest := value_test_of_site_ne hsite hne
      rw [h.value_test] at htest
      cases htest
    obtain ⟨-, hcomma, htrim⟩ := site_of_compile hr hsite
    rw [hhost]
    exact ⟨hcomma, htrim⟩

/-- A rule that asks for nothing on a search result does not address it. -/
lemma exists_not_addresses {d other : Document} {a : Action}
    (h : (parse (siteLine d.host)).value.toOption.map
      (fun r => ((r.test d).value, (r.test other).value)) = some (none, some a)) :
    ∃ r, (parse (siteLine d.host)).value = .ok r ∧ (r.test d).value = none ∧
      (r.test other).value = some a ∧ ¬ r.Addresses d := by
  obtain ⟨r, hr, htests⟩ := exists_of_map_toOption h
  obtain ⟨htest, hother⟩ := Prod.mk.inj htests
  refine ⟨r, hr, htest, hother, fun haddresses => ?_⟩
  rw [haddresses.value_test] at htest
  cases htest

end Rule

namespace Document

/-- **A search result is addressed by its host if and only if the host holds no comma and is
trimmed.**  The line that names its host always compiles.  Its rule asks for a boost of 1 on the
search result, and for nothing on any with another host, under just this condition. -/
theorem addressed_iff {d : Document} (h : d.Accepted) :
    ∃ r, (Rule.parse (Rule.siteLine d.host)).value = .ok r ∧
      (r.Addresses d ↔ ',' ∉ d.host.toList ∧ trim d.host.toList = d.host.toList) := by
  refine ⟨_, Rule.value_parse_of_siteLine d.host, ?_, fun htrimmed => ?_⟩
  · exact Rule.trimmed_of_addresses (Rule.value_parse_of_siteLine d.host)
  · exact Rule.addresses_of_trimmed (host_ne_empty h) (Rule.value_parse_of_siteLine d.host)
      htrimmed.1 htrimmed.2

/-- Capital letters, an equals sign and a dollar sign in the host, credentials and a port. -/
theorem addressed_of_mixed_host :
    let d : Document := ⟨"http://u:p@A=b$C.org:80/x", "A=b$C.org", some "t", none, none⟩
    d.Accepted ∧ ∃ r, (Rule.parse "$site=A=b$C.org,boost").value = .ok r ∧ r.Addresses d := by
  intro d
  have haccepted : d.Accepted := by decide +kernel
  obtain ⟨r, hr, haddresses⟩ := addressed_iff haccepted
  exact ⟨haccepted, r, hr, haddresses.2 (by decide +kernel)⟩

/-- A host with a comma and a host that begins with a no-break space do not address their search
results: the rules of their lines ask for nothing there, but for a boost where the host is what
stands before the comma or behind the space. -/
theorem not_addressed_of_comma :
    (let d : Document := ⟨"http://a,b/", "a,b", none, none, none⟩
      let other : Document := ⟨"http://a/", "a", none, none, none⟩
      d.Accepted ∧ other.Accepted ∧ ∃ r, (Rule.parse (Rule.siteLine d.host)).value = .ok r ∧
        (r.test d).value = none ∧ (r.test other).value = some (.boost (.clamp 1)) ∧
          ¬ r.Addresses d) ∧
    (let d : Document := ⟨"foo://\u00a0h/", "\u00a0h", none, none, none⟩
      let other : Document := ⟨"http://h/", "h", none, none, none⟩
      d.Accepted ∧ other.Accepted ∧ ∃ r, (Rule.parse (Rule.siteLine d.host)).value = .ok r ∧
        (r.test d).value = none ∧ (r.test other).value = some (.boost (.clamp 1)) ∧
          ¬ r.Addresses d) := by
  refine ⟨⟨by decide +kernel, by decide +kernel, ?_⟩, by decide +kernel, by decide +kernel, ?_⟩
  · exact Rule.exists_not_addresses (by decide +kernel)
  · exact Rule.exists_not_addresses (by decide +kernel)

end Document

end Rerank
