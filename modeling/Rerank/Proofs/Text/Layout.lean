/-
Texts that are laid out in lines.

A layout gives the lines of a text, each with its end: a line feed, a carriage return and a line
feed, or nothing, which only the last line may have.  The lines of the text are those of the layout,
with two exceptions: a carriage return that comes to stand before a line feed is taken for a part of
the end, and an empty last line without an end leaves no trace (`Layout.seen?`).

The main statement is `Layout.lines_text`.
-/
import Mathlib.Data.List.Basic
import Rerank.Text.Split

namespace Rerank.Text

/-- How a line ends. -/
inductive Ending
  /-- With a line feed. -/
  | feed
  /-- With a carriage return and a line feed. -/
  | returnFeed
  /-- Without anything. -/
  | nothing
  deriving DecidableEq, Repr

/-- The characters that end the line. -/
def Ending.chars : Ending → List Char
  | .feed => ['\n']
  | .returnFeed => ['\r', '\n']
  | .nothing => []

/-- The lines of a text with their ends. -/
structure Layout where
  /-- The lines with their ends, in order. -/
  rows : List (String × Ending)
  /-- No line holds a line feed. -/
  feed_not_mem : ∀ row ∈ rows, '\n' ∉ row.1.toList
  /-- Only the last line may be without an end. -/
  ending_ne_nothing : ∀ row ∈ rows.dropLast, row.2 ≠ .nothing

namespace Layout

/-- The characters of lines with their ends. -/
def chars (rows : List (String × Ending)) : List Char :=
  rows.flatMap fun row => row.1.toList ++ row.2.chars

/-- The text of a layout. -/
def text (t : Layout) : String := String.ofList (chars t.rows)

/-- The lines that were laid out. -/
def given (t : Layout) : List String := t.rows.map Prod.fst

/-- What a line with its end is read as.  A carriage return before a line feed belongs to the end,
and an empty line without an end is no line. -/
def seen? : String × Ending → Option String
  | (line, .feed) => some (String.ofList (dropReturn line.toList))
  | (line, .returnFeed) => some line
  | (line, .nothing) => if line = "" then none else some line

end Layout

/-! ### Lines, one by one -/

/-- The first line ends at the first line feed. -/
lemma lines_append_feed {line : List Char} (h : '\n' ∉ line) (rest : List Char) :
    lines (line ++ '\n' :: rest) = dropReturn line :: lines rest := by
  have hne : pieces '\n' rest ≠ [] := pieces_ne_nil '\n' rest
  simp only [lines, pieces_append_cons h, List.dropLast_cons_of_ne_nil hne, List.map_cons,
    List.getLast?_cons_of_ne_nil hne]
  split <;> rfl

/-- A text without a line feed is a line, unless it is empty. -/
lemma lines_of_not_mem {line : List Char} (h : '\n' ∉ line) :
    lines line = if line = [] then [] else [line] := by
  rcases line with _ | ⟨c, line⟩
  · rfl
  · simp [lines, pieces_of_not_mem h]

@[simp] lemma dropReturn_append_return (line : List Char) : dropReturn (line ++ ['\r']) = line := by
  simp [dropReturn]

/-- A line that does not end in a carriage return stays as it is. -/
lemma dropReturn_eq_self {line : List Char} (h : line.getLast? ≠ some '\r') :
    dropReturn line = line :=
  if_neg h

namespace Layout

lemma chars_cons (row : String × Ending) (rows : List (String × Ending)) :
    chars (row :: rows) = row.1.toList ++ row.2.chars ++ chars rows :=
  List.flatMap_cons

/-- **The lines of laid out characters**, by the first line. -/
lemma lines_chars {rows : List (String × Ending)} (hfeed : ∀ row ∈ rows, '\n' ∉ row.1.toList)
    (hending : ∀ row ∈ rows.dropLast, row.2 ≠ .nothing) :
    (lines (chars rows)).map String.ofList = rows.filterMap seen? := by
  induction rows with
  | nil => rfl
  | cons row rows ih =>
    obtain ⟨line, ending⟩ := row
    obtain ⟨hline, hrows⟩ := List.forall_mem_cons.1 hfeed
    have hlater : ∀ row ∈ rows.dropLast, row.2 ≠ .nothing := by
      intro row hrow
      have hne : rows ≠ [] := by
        rintro rfl
        cases hrow
      refine hending row ?_
      rw [List.dropLast_cons_of_ne_nil hne]
      exact List.mem_cons_of_mem _ hrow
    have hrest := ih hrows hlater
    rw [chars_cons, List.filterMap_cons]
    cases ending with
    | feed =>
      have hchars : line.toList ++ Ending.feed.chars ++ chars rows =
          line.toList ++ '\n' :: chars rows := by simp [Ending.chars]
      rw [hchars, lines_append_feed hline, List.map_cons, hrest]
      rfl
    | returnFeed =>
      have hchars : line.toList ++ Ending.returnFeed.chars ++ chars rows =
          (line.toList ++ ['\r']) ++ '\n' :: chars rows := by simp [Ending.chars]
      have hreturn : '\n' ∉ line.toList ++ ['\r'] := by simpa using hline
      rw [hchars, lines_append_feed hreturn, dropReturn_append_return, List.map_cons, hrest,
        String.ofList_toList]
      rfl
    | nothing =>
      -- no line stands behind one without an end
      have hnil : rows = [] := by
        by_contra hne
        refine hending (line, .nothing) ?_ rfl
        rw [List.dropLast_cons_of_ne_nil hne]
        exact List.mem_cons_self
      subst hnil
      have hchars : line.toList ++ Ending.nothing.chars ++ chars [] = line.toList := by
        simp [Ending.chars, chars]
      rw [hchars, lines_of_not_mem hline]
      by_cases hempty : line = ""
      · simp [seen?, hempty]
      · simp [seen?, hempty]

/-- **The lines of a text** are those that were laid out, as far as they are seen. -/
lemma lines_text (t : Layout) :
    (lines t.text.toList).map String.ofList = t.rows.filterMap seen? := by
  rw [text, String.toList_ofList]
  exact lines_chars t.feed_not_mem t.ending_ne_nothing

end Layout

end Rerank.Text
