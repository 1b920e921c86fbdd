/-
Tables over the code points.

Properties of characters are data, and the data are long.  They are kept as text, rows of
hexadecimal numbers with a blank between them, and read once into one of two forms.

* `StepTable` is a function on code points that is constant on runs.  It is written as
  pairs of numbers, the length of a run and the value on it, from code point 0 onwards;
  past the last run the value is 0.
* `SequenceTable` gives some code points a sequence of characters each.  An entry is
  written as the distance from the code point before, the length of the sequence, and
  the code points of the sequence.

What a table says of the code points before its first entry is settled by the first numbers
of its first row (`get_of_row`, `find?_of_row`), and the characters of its sequences are among
those of the numbers (`forall_mem_of_mem_entriesFrom`).
-/
import Rerank.Text.Split

namespace Rerank.Text

/-- The value of a hexadecimal digit, and 0 for any other character. -/
def hexValue (c : Char) : Nat :=
  if '0' ≤ c ∧ c ≤ '9' then c.toNat - '0'.toNat
  else if 'a' ≤ c ∧ c ≤ 'f' then c.toNat - 'a'.toNat + 10
  else if 'A' ≤ c ∧ c ≤ 'F' then c.toNat - 'A'.toNat + 10
  else 0

/-- The numbers of a row: hexadecimal numbers with a blank between them. -/
def rowNumbers (row : List Char) : List Nat :=
  (pieces ' ' row).map fun digits => digits.foldl (fun n c => n * 16 + hexValue c) 0

/-- The numbers of all rows. -/
def hexNumbers (rows : List String) : List Nat :=
  rows.flatMap fun row => rowNumbers row.toList

/-- The first row is read first.  It is given by its characters, so that they can be computed
with. -/
theorem hexNumbers_ofList_cons (row : List Char) (rows : List String) :
    hexNumbers (String.ofList row :: rows) = rowNumbers row ++ hexNumbers rows := by
  rw [hexNumbers, List.flatMap_cons, String.toList_ofList, ← hexNumbers]

/-- What holds of the numbers of the first row, and of those of the others, holds of all. -/
theorem forall_mem_hexNumbers_cons {P : Nat → Prop} {row : List Char} {rows : List String}
    (h : ∀ n ∈ rowNumbers row, P n) (hs : ∀ n ∈ hexNumbers rows, P n) :
    ∀ n ∈ hexNumbers (String.ofList row :: rows), P n := by
  rw [hexNumbers_ofList_cons]
  exact List.forall_mem_append.2 ⟨h, hs⟩

/-- The greatest index in `[lo, hi)` whose key is at most `n`, given that the key at `lo`
is.  The keys ascend, so half of the candidates fall away at each look. -/
def lastAtMost (key : Nat → Nat) (n lo hi : Nat) : Nat :=
  if lo + 1 < hi then
    let mid := (lo + hi) / 2
    if key mid ≤ n then lastAtMost key n mid hi else lastAtMost key n lo mid
  else lo
termination_by hi - lo

/-- The search ends at a key that is at most `n`. -/
theorem key_lastAtMost_le {key : Nat → Nat} {n lo hi : Nat} (h : key lo ≤ n) :
    key (lastAtMost key n lo hi) ≤ n := by
  fun_induction lastAtMost key n lo hi with
  | case1 lo hi _ mid hm ih => exact ih hm
  | case2 lo hi _ mid _ ih => exact ih h
  | case3 => exact h

/-- The search ends where it may, between its bounds. -/
theorem lastAtMost_lt {key : Nat → Nat} {n lo hi : Nat} (h : lo < hi) :
    lo ≤ lastAtMost key n lo hi ∧ lastAtMost key n lo hi < hi := by
  fun_induction lastAtMost key n lo hi with
  | case1 lo hi _ mid _ ih => have := ih (by omega); omega
  | case2 lo hi _ mid _ ih => have := ih (by omega); omega
  | case3 lo hi _ => omega

/-- A function on code points that is constant on runs. -/
structure StepTable where
  /-- The first code point of each run, with the value on it, in ascending order. -/
  runs : Array (Nat × Nat)

namespace StepTable

/-- The runs from a code point onwards, read from lengths of runs and their values in turn. -/
def runsFrom (start : Nat) : List Nat → List (Nat × Nat)
  | length :: value :: rest => (start, value) :: runsFrom (start + length) rest
  | _ => [(start, 0)]

/-- Reads lengths of runs and their values, in turn. -/
def ofRuns (numbers : List Nat) : StepTable :=
  ⟨(runsFrom 0 numbers).toArray⟩

/-- The value at a character. -/
def get (t : StepTable) (c : Char) : Nat :=
  let i := lastAtMost (fun i => (t.runs.getD i (0, 0)).1) c.toNat 0 t.runs.size
  (t.runs.getD i (0, 0)).2

/-- Whether a character has the value 1. -/
def marks (t : StepTable) (c : Char) : Bool :=
  t.get c == 1

/-- No run begins before the code point from which runs are read. -/
theorem le_of_mem_runsFrom {start : Nat} {numbers : List Nat} {run : Nat × Nat}
    (h : run ∈ runsFrom start numbers) : start ≤ run.1 := by
  fun_induction runsFrom start numbers with
  | case1 start length value rest ih =>
    rcases List.mem_cons.1 h with rfl | h
    · exact Nat.le_refl _
    · exact Nat.le_trans (Nat.le_add_right _ _) (ih h)
  | case2 start numbers => simp_all

/-- On the first run a table has the first value. -/
theorem get_ofRuns_of_lt {length value : Nat} {rest : List Nat} {c : Char}
    (h : c.toNat < length) : (ofRuns (length :: value :: rest)).get c = value := by
  let runs := (0, value) :: runsFrom length rest
  have hofRuns : ofRuns (length :: value :: rest) = ⟨runs.toArray⟩ := by
    simp [ofRuns, runsFrom, runs]
  let key := fun i => (runs.toArray.getD i (0, 0)).1
  let i := lastAtMost key c.toNat 0 runs.length
  -- A later run begins behind the first one, so the search ends on the first.
  have hi : i = 0 := by
    have hkey : key i ≤ c.toNat := key_lastAtMost_le (by simp [key, runs])
    have hlt : i < runs.length := (lastAtMost_lt (by simp [runs])).2
    rcases hcase : i with _ | j
    · rfl
    · rw [hcase] at hkey hlt
      have hj : j < (runsFrom length rest).length := by simpa [runs] using hlt
      have hrun : key (j + 1) = ((runsFrom length rest)[j]).1 := by
        simp [key, runs, hj]
      have := le_of_mem_runsFrom (List.getElem_mem hj)
      omega
  have hget : (ofRuns (length :: value :: rest)).get c = (runs.toArray.getD i (0, 0)).2 := by
    rw [hofRuns]
    rfl
  rw [hget, hi]
  rfl

/-- The first two numbers of the first row settle the value on the first run. -/
theorem get_of_row {row : List Char} {rows : List String} {length value : Nat} {c : Char}
    (hrow : (rowNumbers row).take 2 = [length, value]) (h : c.toNat < length) :
    (ofRuns (hexNumbers (String.ofList row :: rows))).get c = value := by
  have hnumbers : rowNumbers row = length :: value :: (rowNumbers row).drop 2 := by
    have happend := List.take_append_drop 2 (rowNumbers row)
    rw [hrow] at happend
    exact happend.symm
  rw [hexNumbers_ofList_cons, hnumbers]
  exact get_ofRuns_of_lt h

end StepTable

/-- A partial function from code points to sequences of characters. -/
structure SequenceTable where
  /-- The code points that have a sequence, in ascending order, and their sequences. -/
  entries : Array (Nat × List Char)

namespace SequenceTable

/-- The entries behind a code point, read from a distance, a length and the code points of the
sequence, in turn. -/
def entriesFrom (last : Nat) : List Nat → List (Nat × List Char)
  | distance :: length :: rest =>
    (last + distance, (rest.take length).map Char.ofNat) ::
      entriesFrom (last + distance) (rest.drop length)
  | _ => []
termination_by numbers => numbers.length

/-- Reads entries of a distance, a length and the code points of the sequence. -/
def ofEntries (numbers : List Nat) : SequenceTable :=
  ⟨(entriesFrom 0 numbers).toArray⟩

/-- The sequence of a character, if it has one. -/
def find? (t : SequenceTable) (c : Char) : Option (List Char) :=
  let i := lastAtMost (fun i => (t.entries.getD i (0, [])).1) c.toNat 0 t.entries.size
  match t.entries[i]? with
  | some (k, sequence) => if k = c.toNat then some sequence else none
  | none => none

/-- What is found is an entry of the table. -/
theorem mem_entries_of_find? {t : SequenceTable} {c : Char} {sequence : List Char}
    (h : t.find? c = some sequence) : (c.toNat, sequence) ∈ t.entries := by
  simp only [find?] at h
  split at h
  · next k found hfound =>
    split at h
    · next hk =>
      obtain rfl : found = sequence := by simpa using h
      rw [← hk]
      exact Array.mem_of_getElem? hfound
    · simp at h
  · simp at h

/-- No entry stands before the code point behind which entries are read. -/
theorem le_of_mem_entriesFrom {last : Nat} {numbers : List Nat} {entry : Nat × List Char}
    (h : entry ∈ entriesFrom last numbers) : last ≤ entry.1 := by
  fun_induction entriesFrom last numbers with
  | case1 last distance length rest ih =>
    rcases List.mem_cons.1 h with rfl | h
    · exact Nat.le_add_right _ _
    · exact Nat.le_trans (Nat.le_add_right _ _) (ih h)
  | case2 => simp at h

/-- Before its first entry a table has no sequences. -/
theorem find?_ofEntries_of_lt {distance : Nat} {rest : List Nat} {c : Char}
    (h : c.toNat < distance) : (ofEntries (distance :: rest)).find? c = none := by
  rcases hfound : (ofEntries (distance :: rest)).find? c with _ | sequence
  · rfl
  · have hmem : (c.toNat, sequence) ∈ entriesFrom 0 (distance :: rest) := by
      simpa [ofEntries] using mem_entries_of_find? hfound
    rcases rest with _ | ⟨length, rest⟩
    · simp [entriesFrom] at hmem
    · rw [entriesFrom, Nat.zero_add] at hmem
      rcases List.mem_cons.1 hmem with hfirst | hmem
      · have := congrArg Prod.fst hfirst
        dsimp only at this
        omega
      · have := le_of_mem_entriesFrom hmem
        dsimp only at this
        omega

/-- The first number of the first row settles where the entries begin. -/
theorem find?_of_row {row : List Char} {rows : List String} {distance : Nat} {c : Char}
    (hrow : (rowNumbers row).head? = some distance) (h : c.toNat < distance) :
    (ofEntries (hexNumbers (String.ofList row :: rows))).find? c = none := by
  obtain ⟨rest, hnumbers⟩ : ∃ rest, rowNumbers row = distance :: rest :=
    List.head?_eq_some_iff.1 hrow
  rw [hexNumbers_ofList_cons, hnumbers]
  exact find?_ofEntries_of_lt h

/-- What holds of the characters of all numbers holds of those of every sequence. -/
theorem forall_mem_of_mem_entriesFrom {P : Char → Prop} {last : Nat} {numbers : List Nat}
    (hP : ∀ n ∈ numbers, P (Char.ofNat n)) {entry : Nat × List Char}
    (h : entry ∈ entriesFrom last numbers) : ∀ c ∈ entry.2, P c := by
  fun_induction entriesFrom last numbers with
  | case1 last distance length rest ih =>
    rcases List.mem_cons.1 h with rfl | h
    · intro c hc
      obtain ⟨n, hn, rfl⟩ := List.mem_map.1 hc
      exact hP n (by simp [List.mem_of_mem_take hn])
    · exact ih (fun n hn => hP n (by simp [List.mem_of_mem_drop hn])) h
  | case2 => simp at h

end SequenceTable

end Rerank.Text
