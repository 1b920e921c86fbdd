/-
What is recorded while lines are compiled.

The records of a line are those of its options, which are made while the options are collected, a
warning if they ask for several kinds of action, and one record of the rule that comes out.  A line
at fault leaves no record, because limits and pattern are looked at before the options.

Records are made one option at a time (`Options.events_add`) and so for a list of options
(`Options.events_addAll`), and one line at a time (`Rule.sent_events_compile`) and so for all lines
up to the first at fault (`Rule.sent_events_compileFrom`).  On the other side stand
`Rule.lineRecords`, read off the options of a line and the rule that it compiles to, and
`Rule.soundLines`, the lines before the first at fault.

The main result is `Builder.sent_compile`.
-/
import Rerank.Proofs.Rule.Editing
import Rerank.Proofs.Rule.Lines
import Rerank.Proofs.Rule.Meaning
import Rerank.RuleSet.Builder

namespace Rerank

/-- An event as it is sent to the log, with its level. -/
def Event.sent (e : Event) : Level × Event := (e.level, e)

/-- What is done to a value is not recorded. -/
lemma Logged.events_map {α β : Type} (f : α → β) (x : Logged α) : (f <$> x).events = x.events := by
  rw [map_eq_pure_bind, events_bind, events_pure, List.append_nil]

/-! ### Options -/

instance (key : String) (entries : List Entry) : Decidable (HasKey key entries) :=
  inferInstanceAs (Decidable (∃ e ∈ entries, e.key = key))

/-- The keys without a meaning among those of some options, in order. -/
def unknownKeys (entries : List Entry) : List String :=
  (entries.map Entry.key).filter fun key => ¬ IsRecognised key

/-- The keys that ask for an action. -/
def actionKeys : List String := ["boost", "downrank", "discard"]

namespace Options

lemma unknownKeys_cons (e : Entry) (entries : List Entry) :
    unknownKeys (e :: entries) =
      (if IsRecognised e.key then [] else [e.key]) ++ unknownKeys entries := by
  rw [unknownKeys, List.map_cons, List.filter_cons]
  by_cases h : IsRecognised e.key <;> simp [h, unknownKeys]

/-- **One more option** is recorded if its key has no meaning. -/
lemma events_add (o : Options) (e : Entry) :
    (o.add e).events = if IsRecognised e.key then [] else [.unknownOption e.key] := by
  simp only [add]
  by_cases h : IsRecognised e.key
  · rw [if_pos h]
    rcases h with hvalue | hdiscard | ⟨f, hf⟩
    · simp only [TakesValue, List.mem_cons, List.not_mem_nil, or_false] at hvalue
      rcases hvalue with hkey | hkey | hkey <;> simp [hkey]
    · simp [hdiscard]
    · obtain ⟨hsite, hboost, hdownrank, hdiscard⟩ := fieldKey_ne f
      simp [hf, hsite, hboost, hdownrank, hdiscard]
  · have hfield : Field.ofKey? e.key = .none := by
      rcases hf : Field.ofKey? e.key with _ | f
      · rfl
      · exact absurd (.inr (.inr ⟨f, (Field.ofKey?_eq_some_iff.1 hf).symm⟩)) h
    rw [if_neg h]
    simp only [isRecognised_iff, List.mem_append, List.mem_cons, List.not_mem_nil, not_or] at h
    obtain ⟨⟨hsite, hboost, hdownrank, hdiscard, -⟩, -⟩ := h
    rw [if_neg hsite, if_neg hboost, if_neg hdownrank, if_neg hdiscard, hfield]
    rfl

/-- **All options.** -/
lemma events_addAll (o : Options) (entries : List Entry) :
    (o.addAll entries).events = (unknownKeys entries).map .unknownOption := by
  induction entries generalizing o with
  | nil => rfl
  | cons e entries ih =>
    rw [addAll, Logged.events_bind, events_add, ih, unknownKeys_cons, List.map_append]
    split <;> rfl

lemma events_collect (entries : List Entry) :
    (collect entries).events = (unknownKeys entries).map .unknownOption :=
  events_addAll none entries

/-- The kinds of action that are asked for are the keys of actions that occur. -/
lemma Describes.actionKinds_eq {o : Options} {entries : List Entry} (h : o.Describes entries) :
    o.actionKinds = actionKeys.countP fun key => HasKey key entries := by
  have hboost : o.boost.isSome = decide (HasKey "boost" entries) := by
    rw [Bool.eq_iff_iff, decide_eq_true_iff, Option.isSome_iff_ne_none, ne_eq,
      eq_none_iff_not_hasKey h.boost_iff, not_not]
  have hdownrank : o.downrank.isSome = decide (HasKey "downrank" entries) := by
    rw [Bool.eq_iff_iff, decide_eq_true_iff, Option.isSome_iff_ne_none, ne_eq,
      eq_none_iff_not_hasKey h.downrank_iff, not_not]
  have hdiscard : o.discard = decide (HasKey "discard" entries) := by
    rw [Bool.eq_iff_iff, decide_eq_true_iff, h.discard_iff]
  rw [actionKinds, hboost, hdownrank, hdiscard]
  by_cases h₁ : HasKey "boost" entries <;> by_cases h₂ : HasKey "downrank" entries <;>
    by_cases h₃ : HasKey "discard" entries <;> simp [actionKeys, h₁, h₂, h₃]

end Options

namespace Rule

/-! ### Lines -/

/-- The records of a line that compiles to a rule, each with its level: one for each option with a
key without meaning, a warning if two keys of actions occur, and one of the rule. -/
def ruleRecords (source : String) (line : Nat) (r : Rule) : List (Level × Event) :=
  let entries := (Directive.parse source).entries
  (unknownKeys entries).map (fun key => (.trace, .unknownOption key)) ++
    (if 2 ≤ actionKeys.countP fun key => HasKey key entries then
      [(.warn, .severalActions line source)] else []) ++
    [(.trace, .directiveCompiled line source r.action r.fields r.site)]

/-- The records of a line; a line at fault has none. -/
def lineRecords (limits : Limits) (line : Nat) (source : String) : List (Level × Event) :=
  match (compile limits line source).value with
  | .ok r => ruleRecords source line r
  | .error _ => []

/-- The lines that are not blank and stand before the first line at fault, each with its number. -/
def soundLines (limits : Limits) (first : Nat) (lines : List String) : List (String × Nat) :=
  (numbered first lines).takeWhile fun p => (compile limits p.2 p.1).value.isOk

section Line

variable {limits : Limits} {line first : Nat} {source : String} {lines : List String}

/-- **A line is recorded** as its options and its rule say, unless it is at fault. -/
lemma sent_events_compile (limits : Limits) (line : Nat) (source : String) :
    (compile limits line source).events.map Event.sent = lineRecords limits line source := by
  rw [lineRecords, value_compile, compile]
  rcases (Directive.parse source).exceeds? line limits with _ | fault
  · rcases (Directive.parse source).pattern? line with fault | pattern
    · rfl
    · have hkinds := (Options.describes_collect (Directive.parse source).entries).actionKinds_eq
      simp only [Logged.events_bind]
      rw [Options.events_collect, hkinds]
      -- only the warning depends on the keys of actions
      by_cases hseveral : 1 < actionKeys.countP fun key =>
          HasKey key (Directive.parse source).entries
      · rw [ruleRecords, if_pos hseveral, if_pos (Nat.succ_le_of_lt hseveral)]
        simp [Logged.events_map, Event.sent, Event.level, Function.comp_def]
      · rw [ruleRecords, if_neg hseveral, if_neg (mt Nat.lt_of_succ_le hseveral)]
        simp [Logged.events_map, Event.sent, Event.level, Function.comp_def]
  · rfl

lemma soundLines_cons_of_blank (h : Text.isBlankLine source = true) :
    soundLines limits first (source :: lines) = soundLines limits (first + 1) lines := by
  rw [soundLines, numbered_cons_of_blank h, soundLines]

lemma soundLines_cons_of_ok (h : ¬ Text.isBlankLine source = true) {r : Rule}
    (hr : (compile limits first source).value = .ok r) : soundLines limits first (source :: lines) =
      (source, first) :: soundLines limits (first + 1) lines := by
  rw [soundLines, numbered_cons h, List.takeWhile_cons_of_pos (by rw [hr]; rfl), soundLines]

lemma soundLines_cons_of_error (h : ¬ Text.isBlankLine source = true) {fault : CompileFault}
    (hfault : (compile limits first source).value = .error fault) :
    soundLines limits first (source :: lines) = [] := by
  rw [soundLines, numbered_cons h, List.takeWhile_cons, hfault]
  rfl

/-- **Lines are recorded one by one**, up to the first at fault. -/
lemma sent_events_compileFrom (limits : Limits) (first : Nat) (lines : List String) :
    (compileFrom limits first lines).events.map Event.sent =
      (soundLines limits first lines).flatMap fun p => lineRecords limits p.2 p.1 := by
  induction lines generalizing first with
  | nil => rfl
  | cons source lines ih =>
    rw [compileFrom]
    split
    · next hblank => rw [soundLines_cons_of_blank hblank, ih]
    · next hblank =>
      rw [Logged.events_bind, List.map_append, sent_events_compile]
      rcases hr : (compile limits first source).value with fault | r
      · rw [soundLines_cons_of_error hblank hr, lineRecords, hr]
        rfl
      · rw [soundLines_cons_of_ok hblank hr, List.flatMap_cons, ← ih, Logged.events_bind]
        -- putting the rule before the others is not recorded
        rcases (compileFrom limits (first + 1) lines).value with fault | rules <;> simp

/-- The last record is that all lines have been compiled. -/
lemma sent_events_compileLines (limits : Limits) (lines : List String) :
    (compileLines limits lines).events.map Event.sent =
      ((soundLines limits 1 lines).flatMap fun p => lineRecords limits p.2 p.1) ++
        match (compileLines limits lines).value with
        | .ok rules => [(.debug, .linesCompiled rules.length lines.length)]
        | .error _ => [] := by
  rw [compileLines, Logged.events_bind, Logged.value_bind, List.map_append,
    sent_events_compileFrom]
  refine congrArg (_ ++ ·) ?_
  rcases (compileFrom limits 1 lines).value with fault | rules <;> rfl

end Line

end Rule

/-- **What compiling sends to the log.**  In order, each line before the first at fault that is not
blank sends a record for each of its options with a key without meaning, then a warning if at least
two of the keys of actions occur, and then one record of its rule; the line at fault, the lines
behind it and blank lines send nothing.  If no line is at fault, a last record tells the numbers of
rules and of lines. -/
theorem Builder.sent_compile (b : Builder) : b.compile.events.map Event.sent =
    ((Rule.soundLines b.limits 1 b.lines).flatMap fun p => Rule.lineRecords b.limits p.2 p.1) ++
      match b.compile.value with
      | .ok s => [(.debug, .linesCompiled s.size b.lines.length)]
      | .error _ => [] := by
  rw [compile, Logged.events_bind, Logged.value_bind, List.map_append,
    Rule.sent_events_compileLines, List.append_assoc]
  refine congrArg (_ ++ ·) ?_
  rcases (Rule.compileLines b.limits b.lines).value with fault | rules <;> rfl

/-- An empty key is a key without meaning, a key that is repeated does not warn, and the fourth line
has too many options. -/
example : (Builder.mk ["$boost,,discard", " ", "$discard,discard,wide", "/a$x,y,z,boost", "$boost"]
    ⟨none, some 3⟩).compile.events.map Event.sent =
    [(.trace, .unknownOption ""), (.warn, .severalActions 1 "$boost,,discard"),
      (.trace, .directiveCompiled 1 "$boost,,discard" (some (.boost (.clamp 1))) (.single .url)
        none),
      (.trace, .unknownOption "wide"),
      (.trace, .directiveCompiled 3 "$discard,discard,wide" (some .genericDiscard) (.single .url)
        none)] := by
  decide +kernel

end Rerank
