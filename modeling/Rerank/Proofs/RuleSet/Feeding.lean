/-
The ways of giving lines to a set of rules.

Lines may be given one by one or as texts of many lines, in any grouping.  A line by itself is taken
as it is; a line of a text may lose a carriage return at its end (`Layout.seen?`).  If none does, the
same lines are compiled, but for an empty one at the end of all (`exists_kept`).  If some do, rules
may differ in their recorded text and in patterns, but no line answers otherwise than before
(`Rule.answer_dropReturn`): behind a dollar sign the carriage return is trimmed, and without one
there is no action.

The main result is `ofText_eq_ofLines`.
-/
import Mathlib.Data.List.Basic
import Rerank.Proofs.RuleSet.Answers
import Rerank.Proofs.Text.Layout

namespace Rerank

open Text

/-! ### A blank at the end of a line -/

section Blank

variable {c : Char}

/-- A blank at the end of an option is trimmed. -/
lemma Entry.ofPiece_append_blank (h : isBlank c = true) (piece : List Char) :
    ofPiece (piece ++ [c]) = ofPiece piece := by
  have hequals : '=' ≠ c := ne_of_isBlank h (by decide)
  by_cases hmem : '=' ∈ piece
  · obtain ⟨key, value, rfl, hkey⟩ := List.eq_append_cons_of_mem hmem
    rw [List.append_assoc, List.cons_append, ofPiece, ofPiece, cut_append_cons hkey,
      cut_append_cons hkey, Option.map_some, Option.map_some, trim_append_of_isBlank h]
  · have hmem' : '=' ∉ piece ++ [c] := by simp [hmem, hequals]
    rw [ofPiece, ofPiece, cut_of_not_mem hmem, cut_of_not_mem hmem', trim_append_of_isBlank h]

/-- A blank at the end of options is trimmed off the last of them. -/
lemma Directive.map_ofPiece_append_blank (h : isBlank c = true) (s : List Char) :
    (pieces ',' (s ++ [c])).map Entry.ofPiece = (pieces ',' s).map Entry.ofPiece := by
  have hcomma : ',' ≠ c := ne_of_isBlank h (by decide)
  induction s using cut_induction (c := ',') with
  | last piece hpiece =>
    have hpiece' : ',' ∉ piece ++ [c] := by simp [hpiece, hcomma]
    rw [pieces_of_not_mem hpiece, pieces_of_not_mem hpiece', List.map_singleton,
      List.map_singleton, Entry.ofPiece_append_blank h]
  | next piece more hpiece ih =>
    rw [List.append_assoc, List.cons_append, pieces_append_cons hpiece, pieces_append_cons hpiece,
      List.map_cons, List.map_cons, ih]

/-- Behind a dollar sign, a blank at the end of a line makes no difference. -/
lemma Directive.ofCuts_append_blank (h : isBlank c = true) {line : List Char} (hmem : '$' ∈ line) :
    ofCuts (line ++ [c]) = ofCuts line := by
  obtain ⟨pattern, behind, rfl, hpattern⟩ := List.eq_append_cons_of_mem hmem
  rw [List.append_assoc, List.cons_append, ofCuts_append_cons hpattern,
    ofCuts_append_cons hpattern, map_ofPiece_append_blank h]

namespace Rule

/-- What a line answers depends on the directive that it spells. -/
lemma answer_congr {source other : String} (h : Directive.parse other = Directive.parse source)
    (d : Document) : answer d other = answer d source := by
  have hcompile : (parse other).value =
      (parse source).value.map fun r => { r with source := other } := value_compile_congr h
  rw [answer, answer, hcompile]
  rcases (parse source).value with fault | r
  · rfl
  · show (test { r with source := other } d).value = (r.test d).value
    rw [value_test, value_test]
    rfl

/-- **A blank at the end of a line** does not change what the line answers. -/
lemma answer_append_blank (h : isBlank c = true) {source other : String}
    (hother : other.toList = source.toList ++ [c]) (d : Document) :
    answer d other = answer d source := by
  have hdollar : '$' ≠ c := ne_of_isBlank h (by decide)
  by_cases hmem : '$' ∈ source.toList
  · refine answer_congr ?_ d
    rw [Directive.parse_eq, Directive.parse_eq, hother, Directive.ofCuts_append_blank h hmem]
  · have hmem' : '$' ∉ other.toList := by simp [hother, hmem, hdollar]
    rw [answer_eq_none hmem, answer_eq_none hmem']

/-- A carriage return at the end of a line does not change what the line answers. -/
lemma answer_dropReturn (d : Document) (source : String) :
    answer d (String.ofList (dropReturn source.toList)) = answer d source := by
  unfold dropReturn
  split
  · next hlast =>
    have hreturn : isBlank '\r' = true := by decide
    refine (answer_append_blank hreturn ?_ d).symm
    rw [String.toList_ofList]
    exact (List.dropLast_append_getLast? '\r' hlast).symm
  · rw [String.ofList_toList]

end Rule

end Blank

/-! ### Rows -/

namespace Text.Layout

/-- What a line with its end is taken for, unless it leaves no trace. -/
def taken : String × Ending → String
  | (line, .feed) => String.ofList (dropReturn line.toList)
  | (line, _) => line

lemma seen?_eq_some {row : String × Ending} (h : row ≠ ("", .nothing)) :
    seen? row = some (taken row) := by
  obtain ⟨line, _ | _ | _⟩ := row
  · rfl
  · rfl
  · have hne : line ≠ "" := by
      rintro rfl
      exact h rfl
    exact if_neg hne

/-- **What is seen of rows** is what each is taken for, but for an empty line at the end. -/
lemma exists_kept {rows : List (String × Ending)}
    (h : ∀ row ∈ rows.dropLast, row ≠ ("", .nothing)) : ∃ kept rest, rows = kept ++ rest ∧
      (∀ row ∈ rest, row.1 = "") ∧ rows.filterMap seen? = kept.map taken := by
  have hkept {kept : List (String × Ending)} (hne : ∀ row ∈ kept, row ≠ ("", .nothing)) :
      kept.filterMap seen? = kept.map taken := by
    rw [← List.filterMap_eq_map]
    exact List.filterMap_congr fun row hrow => seen?_eq_some (hne row hrow)
  -- only the last row can leave no trace
  rcases List.eq_nil_or_concat' rows with rfl | ⟨init, last, rfl⟩
  · exact ⟨[], [], rfl, by simp, rfl⟩
  · rw [List.dropLast_concat] at h
    by_cases hlast : last = ("", .nothing)
    · subst hlast
      refine ⟨init, [("", .nothing)], rfl, by simp, ?_⟩
      rw [List.filterMap_append, hkept h]
      exact List.append_nil _
    · refine ⟨init ++ [last], [], by simp, by simp, hkept fun row hrow => ?_⟩
      rcases List.mem_append.1 hrow with hrow | hrow
      · exact h row hrow
      · rwa [List.mem_singleton.1 hrow]

end Text.Layout

namespace Rule

open Text.Layout

/-- Lines that answer alike. -/
lemma answers_map_congr {α : Type} {f g : α → String} {l : List α} {d : Document}
    (h : ∀ a ∈ l, answer d (f a) = answer d (g a)) (first : Nat) :
    answers d first (l.map f) = answers d first (l.map g) := by
  induction l generalizing first with
  | nil => rfl
  | cons a l ih =>
    obtain ⟨ha, hl⟩ := List.forall_mem_cons.1 h
    rw [List.map_cons, List.map_cons, answers_cons, answers_cons, ha, ih hl]

variable {rows : List (String × Ending)}

lemma isBlankLine_of_mem_map {rest : List (String × Ending)} (h : ∀ row ∈ rest, row.1 = "") :
    ∀ source ∈ rest.map Prod.fst, isBlankLine source = true := by
  intro source hsource
  obtain ⟨row, hrow, rfl⟩ := List.mem_map.1 hsource
  rw [h row hrow]
  rfl

/-- If no line loses a carriage return, the lines that hold a directive are those that were given,
under the same numbers. -/
lemma numbered_seen (hopen : ∀ row ∈ rows.dropLast, row ≠ ("", .nothing))
    (hreturn : ∀ row ∈ rows, row.2 = .feed → row.1.toList.getLast? ≠ some '\r') (first : Nat) :
    numbered first (rows.filterMap seen?) = numbered first (rows.map Prod.fst) := by
  obtain ⟨kept, rest, rfl, hrest, hseen⟩ := exists_kept hopen
  have htaken : kept.map taken = kept.map Prod.fst := by
    refine List.map_congr_left fun row hrow => ?_
    obtain ⟨line, _ | _ | _⟩ := row
    · have hself := dropReturn_eq_self (hreturn _ (List.mem_append_left rest hrow) rfl)
      show String.ofList (dropReturn line.toList) = line
      rw [hself, String.ofList_toList]
    · rfl
    · rfl
  rw [hseen, htaken, List.map_append, numbered_append,
    numbered_eq_nil (isBlankLine_of_mem_map hrest), List.append_nil]

/-- **What is seen of rows answers as the given lines do**, under the same numbers. -/
lemma answers_seen (hopen : ∀ row ∈ rows.dropLast, row ≠ ("", .nothing)) (d : Document)
    (first : Nat) :
    answers d first (rows.filterMap seen?) = answers d first (rows.map Prod.fst) := by
  obtain ⟨kept, rest, rfl, hrest, hseen⟩ := exists_kept hopen
  have htaken : answers d first (kept.map taken) = answers d first (kept.map Prod.fst) := by
    refine answers_map_congr (fun row _ => ?_) first
    obtain ⟨line, _ | _ | _⟩ := row
    · exact answer_dropReturn d line
    · rfl
    · rfl
  have hnothing : answers d (first + (kept.map Prod.fst).length) (rest.map Prod.fst) = [] := by
    rw [← filterMap_numbered, numbered_eq_nil (isBlankLine_of_mem_map hrest)]
    rfl
  rw [hseen, htaken, List.map_append, answers_append, hnothing, List.append_nil]

end Rule

/-! ### Batches -/

/-- What is given to a builder at once. -/
inductive Batch
  /-- One line. -/
  | single (source : String)
  /-- A text of lines. -/
  | text (t : Layout)

namespace Batch

/-- Gives a batch to a builder. -/
def feed (b : Builder) : Batch → Builder
  | .single source => b.directive source
  | .text t => b.directives t.text

/-- The lines of a batch with their ends.  A line by itself stays as it is, and so does a line that
ends in a carriage return and a line feed. -/
def rows : Batch → List (String × Ending)
  | .single source => [(source, .returnFeed)]
  | .text t => t.rows

/-- The lines of some batches with their ends. -/
def allRows (batches : List Batch) : List (String × Ending) :=
  batches.flatMap rows

/-- The lines of some batches, as they are given. -/
def given (batches : List Batch) : List String :=
  (allRows batches).map Prod.fst

lemma feed_eq (b : Builder) (batch : Batch) :
    feed b batch = { b with lines := b.lines ++ batch.rows.filterMap Layout.seen? } := by
  cases batch with
  | single source => rfl
  | text t => rw [rows, ← t.lines_text]; rfl

/-- **Batches** give a builder what is seen of their lines. -/
lemma foldl_feed (b : Builder) (batches : List Batch) : batches.foldl feed b =
    { b with lines := b.lines ++ (allRows batches).filterMap Layout.seen? } := by
  induction batches generalizing b with
  | nil => simp [allRows]
  | cons batch batches ih => simp [ih, feed_eq, allRows]

end Batch

namespace RuleSet

/-- A text by itself is a batch. -/
lemma ofText_eq_foldl_feed (t : Layout) :
    ofText t.text = ([Batch.text t].foldl Batch.feed .new).compile :=
  rfl

/-- Of lines only those count that are not blank, with their numbers. -/
lemma value_compile_congr {lines others : List String} (limits : Limits)
    (h : Rule.numbered 1 lines = Rule.numbered 1 others) :
    (Builder.compile ⟨lines, limits⟩).value = (Builder.compile ⟨others, limits⟩).value := by
  have hlines : (Rule.compileLines limits lines).value = (Rule.compileLines limits others).value := by
    rw [Rule.value_compileLines, Rule.value_compileLines, Rule.value_compileFrom,
      Rule.value_compileFrom, h]
  rw [Builder.compile, Builder.compile, Logged.value_bind, Logged.value_bind, hlines]

section Batches

variable {batches : List Batch}

/-- If no line loses a carriage return, batches are compiled like their lines. -/
lemma value_compile_foldl_feed
    (hopen : ∀ row ∈ (Batch.allRows batches).dropLast, row ≠ ("", .nothing))
    (hreturn : ∀ row ∈ Batch.allRows batches, row.2 = .feed →
      row.1.toList.getLast? ≠ some '\r') :
    (batches.foldl Batch.feed .new).compile.value = (ofLines (Batch.given batches)).value := by
  rw [Batch.foldl_feed, ofLines_eq]
  exact value_compile_congr .none (Rule.numbered_seen hopen hreturn 1)

/-- In any case, batches ask for the same as their lines. -/
lemma firings_foldl_feed
    (hopen : ∀ row ∈ (Batch.allRows batches).dropLast, row ≠ ("", .nothing)) {s s' : RuleSet}
    (h : (batches.foldl Batch.feed .new).compile.value = .ok s)
    (h' : (ofLines (Batch.given batches)).value = .ok s') (d : Document) :
    firings d s.rules = firings d s'.rules := by
  rw [Batch.foldl_feed] at h
  rw [ofLines_eq] at h'
  rw [firings_of_compile h, firings_of_compile h']
  exact Rule.answers_seen hopen d 1

end Batches

/-- **All ways of giving lines agree.**  Take lines that are laid out in a text, and the same lines
given in batches, where an empty line without an end stands nowhere but at the end of all.  If no
line that a line feed alone ends has a carriage return at its end, then the text, the batches and
the lines by themselves give the same set of rules, or the same fault.  In any case, if there is a
set of rules, it decides and reports the same as that of the lines by themselves. -/
theorem ofText_eq_ofLines (t : Layout) (batches : List Batch)
    (hgiven : Batch.given batches = t.given)
    (hopen : ∀ row ∈ (Batch.allRows batches).dropLast, row ≠ ("", .nothing)) :
    ((∀ row ∈ t.rows, row.2 = .feed → row.1.toList.getLast? ≠ some '\r') →
      (ofText t.text).value = (ofLines t.given).value) ∧
    ((∀ row ∈ Batch.allRows batches, row.2 = .feed → row.1.toList.getLast? ≠ some '\r') →
      (batches.foldl Batch.feed .new).compile.value = (ofLines t.given).value) ∧
    (∀ s s', (ofText t.text).value = .ok s → (ofLines t.given).value = .ok s' → ∀ d,
      (s.evaluate d).value = (s'.evaluate d).value ∧
        (s.evaluateDetailed d).value = (s'.evaluateDetailed d).value) ∧
    (∀ s s', (batches.foldl Batch.feed .new).compile.value = .ok s →
      (ofLines t.given).value = .ok s' → ∀ d,
        (s.evaluate d).value = (s'.evaluate d).value ∧
          (s.evaluateDetailed d).value = (s'.evaluateDetailed d).value) := by
  -- the text is a batch, too
  have hrows : Batch.allRows [.text t] = t.rows := by simp [Batch.allRows, Batch.rows]
  have hopenText : ∀ row ∈ (Batch.allRows [.text t]).dropLast, row ≠ ("", .nothing) := by
    rw [hrows]
    rintro row hrow rfl
    exact t.ending_ne_nothing _ hrow rfl
  have hgivenText : Batch.given [.text t] = t.given := by rw [Batch.given, hrows]; rfl
  refine ⟨fun hreturn => ?_, fun hreturn => ?_, fun s s' hs hs' d => ?_, fun s s' hs hs' d => ?_⟩
  · rw [← hrows] at hreturn
    rw [ofText_eq_foldl_feed, ← hgivenText]
    exact value_compile_foldl_feed hopenText hreturn
  · rw [← hgiven]
    exact value_compile_foldl_feed hopen hreturn
  · rw [ofText_eq_foldl_feed] at hs
    rw [← hgivenText] at hs'
    have hfirings := firings_foldl_feed hopenText hs hs' d
    exact ⟨evaluate_congr hfirings, evaluateDetailed_congr hfirings⟩
  · rw [← hgiven] at hs'
    have hfirings := firings_foldl_feed hopen hs hs' d
    exact ⟨evaluate_congr hfirings, evaluateDetailed_congr hfirings⟩

/-- Five lines, one of them with two returns before its feed where it is in a batch.  The text, the
batches and the lines by themselves hold rules that differ in their records, since the text drops
the return of the second line and of the fourth, and yet they report the same.  Two lines without
such returns are compiled to the same rules in all ways. -/
theorem report_of_mixed_endings :
    let d : Document := ⟨"http://x/a", "x", none, none, none⟩
    let t : Layout := ⟨[("$boost=2", .returnFeed), ("/a\r", .feed), ("", .feed),
      ("$downrank=1\r", .feed), ("/a$discard", .nothing)], by decide, by decide⟩
    let batches : List Batch := [.single "$boost=2",
      .text ⟨[("/a\r", .returnFeed), ("", .feed), ("$downrank=1\r", .feed)], by decide, by decide⟩,
      .text ⟨[], by decide, by decide⟩, .text ⟨[("/a$discard", .nothing)], by decide, by decide⟩]
    let plain : Layout := ⟨[("$boost=2", .returnFeed), ("/a$discard", .feed)], by decide, by decide⟩
    ∃ s s' s'', (ofText t.text).value = .ok s ∧
      (batches.foldl Batch.feed .new).compile.value = .ok s' ∧ (ofLines t.given).value = .ok s'' ∧
      s.rules.map Rule.source = ["$boost=2", "/a", "$downrank=1", "/a$discard"] ∧
      s'.rules.map Rule.source = ["$boost=2", "/a\r", "$downrank=1", "/a$discard"] ∧
      (s.evaluateDetailed d).value = (s''.evaluateDetailed d).value ∧
      (s'.evaluateDetailed d).value = (s''.evaluateDetailed d).value ∧
      (s.evaluateDetailed d).value = ⟨.discard, [1, 4, 5], some 5⟩ ∧
      (ofText plain.text).value = (ofLines plain.given).value := by
  intro d t batches plain
  obtain ⟨s, hs, hs_report⟩ := exists_of_map_toOption (x := (ofText t.text).value)
    (f := fun s => (s.rules.map Rule.source, (s.evaluateDetailed d).value))
    (b := (["$boost=2", "/a", "$downrank=1", "/a$discard"], ⟨.discard, [1, 4, 5], some 5⟩))
    (by decide +kernel)
  obtain ⟨s', hs', hs'_sources⟩ := exists_of_map_toOption
    (x := (batches.foldl Batch.feed .new).compile.value)
    (f := fun s => s.rules.map Rule.source)
    (b := ["$boost=2", "/a\r", "$downrank=1", "/a$discard"]) (by decide +kernel)
  obtain ⟨s'', hs'', -⟩ := exists_of_map_toOption (x := (ofLines t.given).value)
    (f := fun s => s.size) (b := 4) (by decide +kernel)
  obtain ⟨hsources, hreport⟩ := Prod.ext_iff.1 hs_report
  obtain ⟨-, -, htext, hbatches⟩ := ofText_eq_ofLines t batches (by decide) (by decide)
  obtain ⟨hplain, -⟩ := ofText_eq_ofLines plain [.text plain] (by decide) (by decide)
  exact ⟨s, s', s'', hs, hs', hs'', hsources, hs'_sources, (htext s s'' hs hs'' d).2,
    (hbatches s' s'' hs' hs'' d).2, hreport, hplain (by decide)⟩

end RuleSet

end Rerank
