/-
What is recorded while a set of rules is applied.

A rule that is tested sends one record if it applies and none otherwise (`Rule.Recorded.test`).  The
decision and the report are made in different ways, but both test every rule once and in order, so
both record the same (`events_evaluate`, `events_evaluateDetailed`); neither stops at an action that
no other can exceed.  The records say enough to find the decision and the lines of the report again,
because the actions in them are those that are asked for (`firings_flatMap`).

On the other side stands `Rule.Recorded`, which goes through the rules one by one and says what a
rule looks at, not how it is tested.  The main result is `evaluate_recorded`.
-/
import Mathlib.Data.List.Basic
import Rerank.Proofs.Rule.Application
import Rerank.Proofs.RuleSet.Reordering
import Rerank.RuleSet.Builder

namespace Rerank

/-- The line and the action in the record of a rule that fires. -/
def Event.fired? : Event → Option (Nat × Action)
  | .fired line _ a => some (line, a)
  | _ => none

/-- The lines and actions of the rules that fire according to some records, in order. -/
def Event.firings (events : List Event) : List (Nat × Action) :=
  events.filterMap fired?

namespace Rule

/-- A rule is about a search result: it has no site or that of the result, and the text that it
looks at is known and matched by its pattern, if it has one. -/
structure Concerns (r : Rule) (d : Document) : Prop where
  /-- The site, if there is one, is the host. -/
  site : ∀ site ∈ r.site, site = d.host
  /-- The text is known, and the pattern, if there is one, matches it. -/
  text : ∃ text, d.text? r.target = some text ∧ ∀ p ∈ r.pattern, p.isMatch text = true

/-- `Recorded d rules events` says that the records of some rules, in order, are `events`: one for
each rule that is about the search result, and none for any other. -/
inductive Recorded (d : Document) : List Rule → List Event → Prop
  | nil : Recorded d [] []
  | fired {r : Rule} {rules : List Rule} {events : List Event} {a : Action} (h : r.Concerns d)
      (haction : r.action = some a) (hrest : Recorded d rules events) :
      Recorded d (r :: rules) (.fired r.line d.url a :: events)
  | idle {r : Rule} {rules : List Rule} {events : List Event} (h : r.Concerns d)
      (haction : r.action = none) (hrest : Recorded d rules events) :
      Recorded d (r :: rules) (.idle r.line d.url :: events)
  | silent {r : Rule} {rules : List Rule} {events : List Event} (h : ¬ r.Concerns d)
      (hrest : Recorded d rules events) : Recorded d (r :: rules) events

/-- A rule applies to the search results that it is about. -/
lemma applies_iff_concerns {r : Rule} {d : Document} : r.applies d = true ↔ r.Concerns d := by
  rw [applies_iff]
  exact ⟨fun h => ⟨h.1, h.2⟩, fun h => ⟨h.site, h.text⟩⟩

section Recorded

variable {rules : List Rule} {d : Document} {events : List Event}

/-- **One more rule** is tested before the others. -/
lemma Recorded.test (h : Recorded d rules events) (r : Rule) :
    Recorded d (r :: rules) ((r.test d).events ++ events) := by
  rw [Rule.test]
  split
  · next happlies =>
    have hconcerns := applies_iff_concerns.1 happlies
    rcases haction : r.action with _ | a
    · exact .idle hconcerns haction h
    · exact .fired hconcerns haction h
  · next hnot => exact .silent (mt applies_iff_concerns.2 hnot) h

/-- **Rules that are tested in order** record what they should. -/
lemma recorded_flatMap (d : Document) (rules : List Rule) :
    Recorded d rules (rules.flatMap fun r => (r.test d).events) := by
  induction rules with
  | nil => exact .nil
  | cons r rules ih =>
    rw [List.flatMap_cons]
    exact ih.test r

/-- All records of rules are steps of the work. -/
lemma Recorded.level_eq (h : Recorded d rules events) : ∀ e ∈ events, e.level = .trace := by
  induction h with
  | nil => simp
  | fired _ _ _ ih | idle _ _ _ ih => exact List.forall_mem_cons.2 ⟨rfl, ih⟩
  | silent _ _ ih => exact ih

/-- The record of a rule tells what it asks for. -/
lemma firings_events_test (r : Rule) (d : Document) :
    Event.firings (r.test d).events = ((r.test d).value.map (r.line, ·)).toList := by
  rw [Rule.test]
  split
  · rcases r.action with _ | a <;> rfl
  · rfl

end Recorded

end Rule

/-- A decision follows from some actions: there is none without any, and otherwise it is that of the
greatest. -/
def Outcome.FollowsFrom (asked : List Action) (o : Outcome) : Prop :=
  (o = .noOpinion ↔ asked = []) ∧
    (asked ≠ [] → ∃ a ∈ asked, (∀ b ∈ asked, b ≤ a) ∧ o = a.outcome)

namespace RuleSet

/-- The decision tests every rule once, in order. -/
lemma events_actions (d : Document) (rules : List Rule) :
    (actions d rules).events = rules.flatMap fun r => (r.test d).events := by
  induction rules with
  | nil => rfl
  | cons r rules ih =>
    rw [actions, Logged.events_bind, List.flatMap_cons, ← ih]
    rcases (r.test d).value with _ | a
    · rfl
    · rw [Logged.events_bind, Logged.events_pure, List.append_nil]

/-- So does the report. -/
lemma events_standing (d : Document) (t : Standing) (rules : List Rule) :
    (standing d t rules).events = rules.flatMap fun r => (r.test d).events := by
  induction rules generalizing t with
  | nil => rfl
  | cons r rules ih =>
    rw [standing, Logged.events_bind, List.flatMap_cons]
    rcases (r.test d).value with _ | a
    · exact congrArg (_ ++ ·) (ih t)
    · exact congrArg (_ ++ ·) (ih (t.add r.line a))

lemma events_evaluate (s : RuleSet) (d : Document) :
    (s.evaluate d).events = s.rules.flatMap fun r => (r.test d).events := by
  rw [evaluate, Logged.events_bind, events_actions]
  rcases Action.greatest? (actions d s.rules).value with _ | a <;> simp

lemma events_evaluateDetailed (s : RuleSet) (d : Document) :
    (s.evaluateDetailed d).events = s.rules.flatMap fun r => (r.test d).events := by
  rw [evaluateDetailed, Logged.events_bind, events_standing]
  rcases (standing d ⟨[], none⟩ s.rules).value.best with _ | ⟨a, line⟩ <;> simp

/-- **The records tell what is asked for.** -/
lemma firings_flatMap (d : Document) (rules : List Rule) :
    Event.firings (rules.flatMap fun r => (r.test d).events) = firings d rules := by
  induction rules with
  | nil => rfl
  | cons r rules ih =>
    rw [List.flatMap_cons, Event.firings, List.filterMap_append, ← Event.firings, ← Event.firings,
      ih, Rule.firings_events_test, firings, firings, List.filterMap_cons]
    rcases (r.test d).value with _ | a <;> rfl

/-- The decision is that of the greatest action that is asked for. -/
lemma followsFrom_asked (s : RuleSet) (d : Document) :
    (s.evaluate d).value.FollowsFrom (s.asked d) := by
  rw [value_evaluate]
  rcases h : Action.greatest? (s.asked d) with _ | a
  · have hnil := Action.greatest?_eq_none_iff.1 h
    exact ⟨by simp [hnil], fun hne => absurd hnil hne⟩
  · obtain ⟨hmem, hmax⟩ := Action.greatest?_eq_some_iff.1 h
    refine ⟨?_, fun _ => ⟨a, hmem, hmax, rfl⟩⟩
    simp [a.outcome_ne_noOpinion, List.ne_nil_of_mem hmem]

/-- **What applying a set of rules sends to the log.**  The decision and the report send the same
records: in the order of the rules, one for each rule that is about the search result, which tells
its action if it has one, and none for any other rule.  The lines in the records of rules that fire
are those of the report, and the greatest action in them decides. -/
theorem evaluate_recorded (s : RuleSet) (d : Document) :
    let fired := Event.firings (s.evaluate d).events
    Rule.Recorded d s.rules (s.evaluate d).events ∧
    (s.evaluateDetailed d).events = (s.evaluate d).events ∧
    (∀ e ∈ (s.evaluate d).events, e.level = .trace) ∧
    fired.map Prod.fst = (s.evaluateDetailed d).value.fired ∧
    (s.evaluate d).value.FollowsFrom (fired.map Prod.snd) ∧
    (s.evaluateDetailed d).value.outcome.FollowsFrom (fired.map Prod.snd) := by
  have hrecorded := Rule.recorded_flatMap d s.rules
  have hfired : Event.firings (s.evaluate d).events = firings d s.rules := by
    rw [events_evaluate, firings_flatMap]
  rw [← events_evaluate] at hrecorded
  simp only [hfired, map_snd_firings, fired_evaluateDetailed, outcome_evaluateDetailed]
  exact ⟨hrecorded, by rw [events_evaluate, events_evaluateDetailed], hrecorded.level_eq, trivial,
    followsFrom_asked s d, followsFrom_asked s d⟩

/-- Of four rules the second has another site and the third has no action. -/
example :
    let d : Document := ⟨"http://h/a", "h", some "t", none, none⟩
    (RuleSet.ofLines ["/a$discard", "$boost,site=x", "t$intitle", "$boost=3"]).value.toOption.map
      (fun s => (s.evaluateDetailed d).events) =
      some [.fired 1 "http://h/a" .specificDiscard, .idle 3 "http://h/a",
        .fired 4 "http://h/a" (.boost (.clamp 3))] := by
  decide +kernel

end RuleSet

end Rerank
