/-
One line more.

A line that is put anywhere among others leaves their answers as they are and adds its own, so the
greatest action becomes the greater of the greatest so far and the one that the new line asks for
(`greatest?_asked`).  The decision alone would not do to say what becomes of it: a removal does not
tell whether it was generic, nor a score whether it was a boost.

The main result is `greatest?_insert`, with what follows for lines that ask for a discard or a boost
on every search result.
-/
import Mathlib.Data.List.Basic
import Rerank.Proofs.Rule.Draft
import Rerank.Proofs.RuleSet.Answers

namespace Rerank

namespace Action

/-- **One action more.**  The greatest becomes the greater of the greatest so far and the new one. -/
lemma greatest?_append_toList (l more : List Action) (a : Option Action) :
    greatest? (l ++ a.toList ++ more) = Option.merge max a (greatest? (l ++ more)) := by
  rcases a with _ | a
  · simp
  · have hmem (c : Action) : c ∈ l ++ [a] ++ more ↔ c ∈ a :: (l ++ more) := by
      simp only [List.mem_append, List.mem_cons, List.not_mem_nil, or_false]
      tauto
    rw [Option.toList_some, RuleSet.greatest?_congr hmem, greatest?]
    rcases greatest? (l ++ more) with _ | b <;> rfl

end Action

/-- A draft that is about every search result. -/
def Draft.unconditional (w : Wish) : Draft where
  pattern := ""
  site := none
  fields := []
  wish := w
  dollar_not_mem_pattern := by simp
  site_ne_empty := by simp
  comma_not_mem_site := by simp
  trim_site := by simp

namespace Draft

lemma isAbout_unconditional (w : Wish) (d : Document) : (unconditional w).IsAbout d := by
  refine ⟨?_, d.url, rfl, Or.inl rfl⟩
  rintro site ⟨⟩

/-- A rule that is drafted without conditions asks for its action on every search result. -/
lemma value_test_unconditional {w : Wish} {r : Rule}
    (h : (Rule.parse (unconditional w).line).value = .ok r) (d : Document) :
    (r.test d).value = (unconditional w).action? := by
  have hfollows := follows_of_parse h
  refine Option.ext fun a => ?_
  rw [hfollows.value_test_iff, and_iff_left (isAbout_unconditional w d)]

lemma line_unconditional_discard : (unconditional .discard).line = "$discard" := by
  decide +kernel

lemma line_unconditional_boost (m : Magnitude) :
    (unconditional (.boost m)).line = "$boost=" ++ m.text := by
  apply String.toList_inj.1
  have hline : (unconditional (.boost m)).line = Directive.text ⟨"", some [⟨"boost", some m.text⟩]⟩ :=
    rfl
  rw [hline, Directive.toList_text_of_options, String.toList_append]
  simp [Entry.toList_text, Text.joined]

end Draft

namespace RuleSet

variable {before after : List String} {source : String} {limits limits' : Limits}
  {s s' : RuleSet} {r : Rule}

/-- The greatest action with one line more. -/
lemma greatest?_asked (h : (Builder.mk (before ++ after) limits).compile.value = .ok s)
    (h' : (Builder.mk (before ++ source :: after) limits').compile.value = .ok s')
    (d : Document) : Action.greatest? (s'.asked d) =
      Option.merge max (Rule.answer d source) (Action.greatest? (s.asked d)) := by
  have hsource : (source :: after).filterMap (Rule.answer d) =
      (Rule.answer d source).toList ++ after.filterMap (Rule.answer d) := by
    rw [List.filterMap_cons]
    rcases Rule.answer d source with _ | a <;> rfl
  rw [asked_of_compile h, asked_of_compile h', List.filterMap_append, List.filterMap_append, hsource,
    ← List.append_assoc, Action.greatest?_append_toList]

/-- A generic discard more decides what has not been decided. -/
lemma evaluate_of_merge_genericDiscard {d : Document} (h : Action.greatest? (s'.asked d) =
      Option.merge max (some .genericDiscard) (Action.greatest? (s.asked d))) :
    (s'.evaluate d).value =
      if (s.evaluate d).value = .noOpinion then .discard else (s.evaluate d).value := by
  rw [value_evaluate, value_evaluate, h]
  rcases Action.greatest? (s.asked d) with _ | a
  · rfl
  · rw [Option.merge_some_some, Action.max_genericDiscard]
    exact (if_neg a.outcome_ne_noOpinion).symm

/-- What becomes of the decision with a boost more. -/
lemma evaluate_of_merge_boost {d : Document} {b : Magnitude} (h : Action.greatest? (s'.asked d) =
      Option.merge max (some (.boost b)) (Action.greatest? (s.asked d))) :
    (Action.greatest? (s.asked d) = some .specificDiscard → (s'.evaluate d).value = .discard) ∧
    (∀ m, Action.greatest? (s.asked d) = some (.boost m) →
      ∃ n : Magnitude, n.val = max m.val b.val ∧ (s'.evaluate d).value = .score n) ∧
    (Action.greatest? (s.asked d) ≠ some .specificDiscard →
      (∀ m, Action.greatest? (s.asked d) ≠ some (.boost m)) →
        (s'.evaluate d).value = .score b) := by
  rw [value_evaluate, h]
  refine ⟨fun hbest => ?_, fun m hbest => ?_, fun hspecific hboost => ?_⟩
  · rw [hbest, Option.merge_some_some, Action.max_specificDiscard_right]
    rfl
  · obtain ⟨n, hn, hmax⟩ := Action.max_boost_boost b m
    rw [hbest, Option.merge_some_some, hmax]
    exact ⟨n, hn, rfl⟩
  · rcases hbest : Action.greatest? (s.asked d) with _ | a
    · rfl
    · rw [hbest] at hspecific hboost
      have hmax : max (Action.boost b) a = .boost b :=
        Action.max_boost_of_ne (fun ha => hspecific (congrArg some ha))
          fun n ha => hboost n (congrArg some ha)
      rw [Option.merge_some_some, hmax]
      rfl

/-- **One line more.**  If a line is put anywhere among others, the greatest action becomes the
greater of the greatest so far and the one that the rule of the line asks for; a blank line changes
nothing.  So a discard on every search result decides only what has not been decided; a boost on
every search result gives way to a specific discard, joins with a boost, and prevails over all else;
and a specific discard always removes the result. -/
theorem greatest?_insert (h : (Builder.mk (before ++ after) limits).compile.value = .ok s)
    (h' : (Builder.mk (before ++ source :: after) limits').compile.value = .ok s')
    (hr : (Rule.parse source).value = .ok r) (d : Document) :
    Action.greatest? (s'.asked d) =
        Option.merge max (r.test d).value (Action.greatest? (s.asked d)) ∧
    (Text.isBlankLine source = true →
      s'.asked d = s.asked d ∧ (s'.evaluate d).value = (s.evaluate d).value) ∧
    (source = "$discard" → (s'.evaluate d).value =
      if (s.evaluate d).value = .noOpinion then .discard else (s.evaluate d).value) ∧
    (∀ b : Magnitude, source = "$boost=" ++ b.text →
      (Action.greatest? (s.asked d) = some .specificDiscard → (s'.evaluate d).value = .discard) ∧
      (∀ m, Action.greatest? (s.asked d) = some (.boost m) →
        ∃ n : Magnitude, n.val = max m.val b.val ∧ (s'.evaluate d).value = .score n) ∧
      (Action.greatest? (s.asked d) ≠ some .specificDiscard →
        (∀ m, Action.greatest? (s.asked d) ≠ some (.boost m)) →
          (s'.evaluate d).value = .score b)) ∧
    ((r.test d).value = some .specificDiscard → (s'.evaluate d).value = .discard) := by
  have hanswer : Rule.answer d source = (r.test d).value := (Rule.value_test_of_compile hr d).symm
  have hgreatest := greatest?_asked h h' d
  rw [hanswer] at hgreatest
  refine ⟨hgreatest, fun hblank => ?_, ?_, ?_, fun hspecific => ?_⟩
  · have hnone : Rule.answer d source = none :=
      Rule.answer_eq_none (Rule.dollar_not_mem_of_blank hblank) d
    have hasked : s'.asked d = s.asked d := by
      rw [asked_of_compile h, asked_of_compile h', List.filterMap_append, List.filterMap_append,
        List.filterMap_cons_none hnone]
    refine ⟨hasked, ?_⟩
    rw [value_evaluate, value_evaluate, hasked]
  · rintro rfl
    rw [← Draft.line_unconditional_discard] at hr
    rw [Draft.value_test_unconditional hr] at hgreatest
    exact evaluate_of_merge_genericDiscard hgreatest
  · rintro b rfl
    rw [← Draft.line_unconditional_boost] at hr
    rw [Draft.value_test_unconditional hr] at hgreatest
    exact evaluate_of_merge_boost hgreatest
  · rw [hspecific] at hgreatest
    rw [value_evaluate, hgreatest]
    rcases Action.greatest? (s.asked d) with _ | a
    · rfl
    · rw [Option.merge_some_some, Action.max_specificDiscard_left]
      rfl

/-- A specific discard between a boost and a blank line, which was a score before. -/
theorem greatest?_insert_specificDiscard :
    let d : Document := ⟨"http://x/a", "x", none, none, none⟩
    ∃ s s' r,
      (Builder.mk (["$boost=2"] ++ ["", "$downrank=1"]) .none).compile.value = .ok s ∧
      (Builder.mk (["$boost=2"] ++ "/a$discard" :: ["", "$downrank=1"]) .none).compile.value =
        .ok s' ∧
      (Rule.parse "/a$discard").value = .ok r ∧ (r.test d).value = some .specificDiscard ∧
      Action.greatest? (s'.asked d) =
        Option.merge max (r.test d).value (Action.greatest? (s.asked d)) ∧
      (s.evaluate d).value = .score (.clamp 2) ∧ (s'.evaluate d).value = .discard := by
  intro d
  obtain ⟨s, hs, hscore⟩ := exists_of_map_toOption
    (x := (Builder.mk (["$boost=2"] ++ ["", "$downrank=1"]) .none).compile.value)
    (f := fun s => (s.evaluate d).value) (b := .score (.clamp 2)) (by decide +kernel)
  obtain ⟨s', hs', -⟩ := exists_of_map_toOption
    (x := (Builder.mk (["$boost=2"] ++ "/a$discard" :: ["", "$downrank=1"]) .none).compile.value)
    (f := fun s => s.size) (b := 3) (by decide +kernel)
  obtain ⟨r, hr, htest⟩ := exists_of_map_toOption (x := (Rule.parse "/a$discard").value)
    (f := fun r => (r.test d).value) (b := some .specificDiscard) (by decide +kernel)
  obtain ⟨hgreatest, -, -, -, hdiscard⟩ := greatest?_insert hs hs' hr d
  exact ⟨s, s', r, hs, hs', hr, htest, hgreatest, hscore, hdiscard htest⟩

end RuleSet

end Rerank
