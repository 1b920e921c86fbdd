/-
Every line is a directive, and which one is seen by cutting it.

A line is cut at its first dollar sign, what follows is cut at every comma, and each piece at its
first equals sign; `Directive.Spelled` says so without speaking of reading.  Two readers are
compared with it.  `Directive.read` goes through the line from the left.  `Directive.Grammar` puts
the grammar together from small readers that may refuse a text or leave some of it.  What carries
the comparison is that behind an option either nothing is left or a comma comes first
(`readEntry_append`), so that no comma is ever put back and nothing is left at the end.

The main result is `parse?_eq_some_iff_spelled`.
-/
import Mathlib.Data.List.Basic
import Mathlib.Data.List.Forall2
import Rerank.Directive.Grammar
import Rerank.Directive.Reader
import Rerank.Text.Split

namespace Rerank

open Text

/-- A piece between commas spells an option: its key alone, or its key and its value on the two
sides of the first equals sign, trimmed. -/
inductive Entry.Spelled : List Char → Entry → Prop
  | bare {key : List Char} (h : '=' ∉ key) : Spelled key ⟨String.ofList (trim key), none⟩
  | valued {key : List Char} (value : List Char) (h : '=' ∉ key) :
      Spelled (key ++ '=' :: value)
        ⟨String.ofList (trim key), some (String.ofList (trim value))⟩

/-- A line spells a directive: a pattern alone, or a pattern and options on the two sides of the
first dollar sign. -/
inductive Directive.Spelled : List Char → Directive → Prop
  | bare {pattern : List Char} (h : '$' ∉ pattern) : Spelled pattern ⟨String.ofList pattern, none⟩
  | optioned {pattern behind : List Char} {entries : List Entry} (h : '$' ∉ pattern)
      (hentries : List.Forall₂ Entry.Spelled (pieces ',' behind) entries) :
      Spelled (pattern ++ '$' :: behind) ⟨String.ofList pattern, some entries⟩

namespace Entry

/-- The option that a piece spells. -/
def ofPiece (piece : List Char) : Entry where
  key := String.ofList (trim (cut '=' piece).1)
  value := (cut '=' piece).2.map fun v => String.ofList (trim v)

lemma spelled_iff {piece : List Char} {e : Entry} : Spelled piece e ↔ e = ofPiece piece := by
  constructor
  · intro h
    cases h with
    | bare h => simp [ofPiece, cut_of_not_mem h]
    | valued value h => simp [ofPiece, cut_append_cons h]
  · rintro rfl
    by_cases h : '=' ∈ piece
    · obtain ⟨key, value, rfl, hkey⟩ := List.eq_append_cons_of_mem h
      have hvalued := Spelled.valued value hkey
      rwa [ofPiece, cut_append_cons hkey]
    · have hbare := Spelled.bare h
      rwa [ofPiece, cut_of_not_mem h]

lemma forall₂_spelled_iff {l : List (List Char)} {entries : List Entry} :
    List.Forall₂ Spelled l entries ↔ entries = l.map ofPiece := by
  induction l generalizing entries with
  | nil => simp
  | cons piece l ih =>
    simp only [List.forall₂_cons_left_iff, spelled_iff, ih, List.map_cons]
    constructor
    · rintro ⟨e, rest, rfl, rfl, rfl⟩
      rfl
    · rintro rfl
      exact ⟨_, _, rfl, rfl, rfl⟩

end Entry

namespace Directive

/-- The directive that a line spells. -/
def ofCuts (line : List Char) : Directive where
  pattern := String.ofList (cut '$' line).1
  options := (cut '$' line).2.map fun s => (pieces ',' s).map Entry.ofPiece

lemma ofCuts_of_not_mem {line : List Char} (h : '$' ∉ line) :
    ofCuts line = ⟨String.ofList line, none⟩ := by
  simp [ofCuts, cut_of_not_mem h]

lemma ofCuts_append_cons {pattern : List Char} (h : '$' ∉ pattern) (behind : List Char) :
    ofCuts (pattern ++ '$' :: behind) =
      ⟨String.ofList pattern, some ((pieces ',' behind).map Entry.ofPiece)⟩ := by
  simp [ofCuts, cut_append_cons h]

lemma spelled_iff {line : List Char} {d : Directive} : Spelled line d ↔ d = ofCuts line := by
  constructor
  · intro h
    cases h with
    | bare h => rw [ofCuts_of_not_mem h]
    | optioned h hentries => rw [ofCuts_append_cons h, Entry.forall₂_spelled_iff.1 hentries]
  · rintro rfl
    by_cases h : '$' ∈ line
    · obtain ⟨pattern, behind, rfl, hpattern⟩ := List.eq_append_cons_of_mem h
      rw [ofCuts_append_cons hpattern]
      exact .optioned hpattern (Entry.forall₂_spelled_iff.2 rfl)
    · rw [ofCuts_of_not_mem h]
      exact .bare h

/-! ### Reading from the left -/

/-- A run of characters outside a class is read as far as one of the class follows. -/
lemma readUntil_append {p : Char → Bool} {a b : List Char} (ha : ∀ c ∈ a, p c = false)
    (hb : ∀ c ∈ b.head?, p c = true) : readUntil p (a ++ b) = (a, b) := by
  have hrest : b.takeWhile (!p ·) = [] ∧ b.dropWhile (!p ·) = b := by
    rcases b with _ | ⟨c, b⟩
    · exact ⟨rfl, rfl⟩
    · have hc : p c = true := hb c rfl
      simp [hc]
  have hall : ∀ c ∈ a, (!p c) = true := fun c hc => by simp [ha c hc]
  rw [readUntil, List.takeWhile_append_of_pos hall, List.dropWhile_append_of_pos hall, hrest.1,
    hrest.2, List.append_nil]

/-- **An option is read up to the comma.**  Behind it, nothing is left or a comma comes first. -/
lemma readEntry_append {piece tail : List Char} (hpiece : ',' ∉ piece)
    (htail : ∀ c ∈ tail.head?, c = ',') :
    readEntry (piece ++ tail) = (Entry.ofPiece piece, tail) := by
  by_cases h : '=' ∈ piece
  · obtain ⟨key, value, rfl, hkey⟩ := List.eq_append_cons_of_mem h
    have hreadKey : readKey (key ++ '=' :: (value ++ tail)) = (key, '=' :: (value ++ tail)) := by
      refine readUntil_append (fun c hc => ?_) (by simp)
      have hequals : c ≠ '=' := by rintro rfl; exact hkey hc
      have hcomma : c ≠ ',' := by rintro rfl; exact hpiece (by simp [hc])
      simp [hequals, hcomma]
    have hreadValue : readUntil (· == ',') (value ++ tail) = (value, tail) := by
      refine readUntil_append (fun c hc => ?_) (fun c hc => by simp [htail c hc])
      have hcomma : c ≠ ',' := by rintro rfl; exact hpiece (by simp [hc])
      simp [hcomma]
    rw [List.append_assoc, List.cons_append, readEntry, hreadKey]
    simp only [readValue, hreadValue, Entry.ofPiece, cut_append_cons hkey, Option.map_some]
  · have hreadKey : readKey (piece ++ tail) = (piece, tail) := by
      refine readUntil_append (fun c hc => ?_) (fun c hc => by simp [htail c hc])
      have hequals : c ≠ '=' := by rintro rfl; exact h hc
      have hcomma : c ≠ ',' := by rintro rfl; exact hpiece hc
      simp [hequals, hcomma]
    have hreadValue : readValue tail = (none, tail) := by
      unfold readValue
      split
      · exact absurd (htail '=' rfl) (by decide)
      · rfl
    rw [readEntry, hreadKey]
    simp only [hreadValue, Entry.ofPiece, cut_of_not_mem h, Option.map_none]

lemma readEntries_of_nil {s : List Char} {e : Entry} (h : readEntry s = (e, [])) :
    readEntries s = ([e], []) := by
  rw [readEntries]
  split
  · next h' =>
    rw [h] at h'
    cases h'
  · next h' =>
    rw [h] at h'
    cases h'
    rfl

lemma readEntries_of_comma {s more : List Char} {e : Entry} (h : readEntry s = (e, ',' :: more)) :
    readEntries s = (e :: (readEntries more).1, (readEntries more).2) := by
  rw [readEntries]
  split
  · next h' =>
    rw [h] at h'
    cases h'
    rfl
  · next hno h' =>
    rw [h] at h'
    cases h'
    exact absurd rfl (hno _)

/-- **The options are the pieces between commas**, and nothing is left. -/
lemma readEntries_eq (s : List Char) :
    readEntries s = ((pieces ',' s).map Entry.ofPiece, []) := by
  induction s using cut_induction (c := ',') with
  | last piece hpiece =>
    have hread : readEntry (piece ++ []) = (Entry.ofPiece piece, []) :=
      readEntry_append hpiece (by simp)
    rw [List.append_nil] at hread
    rw [readEntries_of_nil hread, pieces_of_not_mem hpiece]
    rfl
  | next piece more hpiece ih =>
    have hread : readEntry (piece ++ ',' :: more) = (Entry.ofPiece piece, ',' :: more) :=
      readEntry_append hpiece (by simp)
    rw [readEntries_of_comma hread, pieces_append_cons hpiece, ih]
    rfl

/-- A pattern is read up to the dollar sign. -/
lemma readUntil_dollar {pattern tail : List Char} (h : '$' ∉ pattern)
    (htail : ∀ c ∈ tail.head?, c = '$') :
    readUntil (· == '$') (pattern ++ tail) = (pattern, tail) := by
  refine readUntil_append (fun c hc => ?_) (fun c hc => by simp [htail c hc])
  have hdollar : c ≠ '$' := by rintro rfl; exact h hc
  simp [hdollar]

/-- **A line is read as it is cut**, and nothing is left. -/
lemma read_eq (line : List Char) : read line = (ofCuts line, []) := by
  by_cases h : '$' ∈ line
  · obtain ⟨pattern, behind, rfl, hpattern⟩ := List.eq_append_cons_of_mem h
    have hread : readUntil (· == '$') (pattern ++ '$' :: behind) = (pattern, '$' :: behind) :=
      readUntil_dollar hpattern (by simp)
    rw [ofCuts_append_cons hpattern, read, hread]
    simp only [readEntries_eq]
  · have hread : readUntil (· == '$') (line ++ []) = (line, []) := readUntil_dollar h (by simp)
    rw [List.append_nil] at hread
    rw [ofCuts_of_not_mem h, read, hread]

lemma parse_eq (line : String) : parse line = ofCuts line.toList := by
  rw [parse, read_eq]

/-! ### Reading by the grammar -/

section Grammar

lemma optional_value (s : List Char) : Reader.optional Grammar.value s = some (readValue s) := by
  rcases s with _ | ⟨c, s⟩
  · rfl
  · by_cases h : c = '='
    · subst h
      rfl
    · have hread : readValue (c :: s) = (none, c :: s) := by
        unfold readValue
        split
        · next heq => exact absurd (List.cons.inj heq).1 h
        · rfl
      simp [hread, Reader.optional, Grammar.value, Reader.behind, Reader.char, h]

lemma entry_eq (s : List Char) : Grammar.entry s = some (readEntry s) := by
  have hkey : Grammar.key s = some (readKey s) := rfl
  simp only [Grammar.entry, hkey, Option.bind_eq_bind, Option.bind_some, optional_value]
  rfl

/-- Behind a comma there always is an option, so the comma is not put back. -/
lemma further_comma (more : List Char) :
    Reader.further Grammar.entry (Reader.char ',') (',' :: more) = Grammar.entries more := by
  have hbehind : Reader.behind (Reader.char ',') Grammar.entry (',' :: more) =
      some (readEntry more) := entry_eq more
  have hshort : (readEntry more).2.length < (',' :: more).length :=
    Nat.lt_succ_of_le (length_readEntry_le more)
  rw [Reader.further, hbehind, Grammar.entries, Reader.separated, entry_eq]
  simp only [if_pos hshort]

lemma further_nil : Reader.further Grammar.entry (Reader.char ',') [] = some ([], []) := by
  rw [Reader.further]
  rfl

/-- **The grammar reads the same options**, and leaves nothing. -/
lemma entries_eq (s : List Char) :
    Grammar.entries s = some ((pieces ',' s).map Entry.ofPiece, []) := by
  induction s using cut_induction (c := ',') with
  | last piece hpiece =>
    have hread : readEntry (piece ++ []) = (Entry.ofPiece piece, []) :=
      readEntry_append hpiece (by simp)
    rw [List.append_nil] at hread
    rw [Grammar.entries, Reader.separated, entry_eq, hread, pieces_of_not_mem hpiece]
    simp only [further_nil]
    rfl
  | next piece more hpiece ih =>
    have hread : readEntry (piece ++ ',' :: more) = (Entry.ofPiece piece, ',' :: more) :=
      readEntry_append hpiece (by simp)
    rw [Grammar.entries, Reader.separated, entry_eq, hread, pieces_append_cons hpiece]
    simp only [further_comma, ih]
    rfl

/-- **The grammar reads the same line**, and leaves nothing. -/
lemma directive_eq (line : List Char) : Grammar.directive line = some (ofCuts line, []) := by
  have hgrammar : Grammar.pattern line = some (readUntil (· == '$') line) := rfl
  simp only [Grammar.directive, hgrammar, Option.bind_eq_bind, Option.bind_some]
  by_cases h : '$' ∈ line
  · obtain ⟨pattern, behind, rfl, hpattern⟩ := List.eq_append_cons_of_mem h
    have hbehind : Reader.behind (Reader.char '$') Grammar.entries ('$' :: behind) =
        Grammar.entries behind := rfl
    have hread : readUntil (· == '$') (pattern ++ '$' :: behind) = (pattern, '$' :: behind) :=
      readUntil_dollar hpattern (by simp)
    rw [hread, ofCuts_append_cons hpattern]
    simp only [Reader.optional, hbehind, entries_eq]
    rfl
  · have hread : readUntil (· == '$') (line ++ []) = (line, []) := readUntil_dollar h (by simp)
    rw [List.append_nil] at hread
    rw [hread, ofCuts_of_not_mem h]
    rfl

lemma parse?_eq (line : String) : Grammar.parse? line = some (parse line) := by
  rw [parse_eq, Grammar.parse?, Reader.whole?, directive_eq]

end Grammar

/-- **Every line is a directive.**  By the grammar a whole line is a directive exactly if it spells
it, and it always is the one that is read from the left, with nothing left over.  There are options
exactly if there is a dollar sign, and then one more than commas behind the first of them. -/
theorem parse?_eq_some_iff_spelled (line : String) :
    (∀ d, Grammar.parse? line = some d ↔ Spelled line.toList d) ∧
      Grammar.parse? line = some (parse line) ∧ read line.toList = (parse line, []) ∧
      ((parse line).options = none ↔ '$' ∉ line.toList) ∧
      ∀ pattern behind, line.toList = pattern ++ '$' :: behind → '$' ∉ pattern →
        ∃ entries, (parse line).options = some entries ∧ entries.length = behind.count ',' + 1 := by
  refine ⟨fun d => ?_, parse?_eq line, by rw [parse_eq, read_eq], ?_, ?_⟩
  · rw [parse?_eq, parse_eq, spelled_iff, Option.some.injEq, eq_comm]
  · rw [parse_eq]
    constructor
    · intro hnone hmem
      obtain ⟨pattern, behind, hline, hpattern⟩ := List.eq_append_cons_of_mem hmem
      rw [hline, ofCuts_append_cons hpattern] at hnone
      cases hnone
    · intro h
      rw [ofCuts_of_not_mem h]
  · intro pattern behind hline hpattern
    refine ⟨(pieces ',' behind).map Entry.ofPiece, ?_, ?_⟩
    · rw [parse_eq, hline, ofCuts_append_cons hpattern]
    · rw [List.length_map, length_pieces]

/-- Only the first dollar sign and the first equals sign count, and no comma is lost. -/
example : parse "a $ b=c=$ , ," = ⟨"a ", some [⟨"b", some "c=$"⟩, ⟨"", none⟩, ⟨"", none⟩]⟩ := by
  decide +kernel

end Directive

end Rerank
