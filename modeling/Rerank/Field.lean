/-
The texts of a search result that a rule can look at.

A rule lists any of the four fields; the first of them in the fixed order address, title,
description, content is the one that is tested.
-/

namespace Rerank

/-- A text of a search result. -/
inductive Field
  /-- Its address. -/
  | url
  /-- Its title. -/
  | title
  /-- Its description. -/
  | description
  /-- Its content. -/
  | content
  deriving DecidableEq, Repr

namespace Field

/-- All fields, in the order in which a rule prefers them. -/
def all : List Field := [.url, .title, .description, .content]

/-- The option key that names a field. -/
def key : Field → String
  | .url => "inurl"
  | .title => "intitle"
  | .description => "indescription"
  | .content => "incontent"

/-- The field that an option key names. -/
def ofKey? (key : String) : Option Field :=
  all.find? (·.key == key)

/-- Every field is named by its own key. -/
@[simp] theorem ofKey?_key (f : Field) : ofKey? f.key = some f := by
  cases f <;> decide

/-- A field is named by its own key only. -/
theorem ofKey?_eq_some_iff {key : String} {f : Field} : ofKey? key = some f ↔ f.key = key := by
  constructor
  · intro h
    rw [ofKey?] at h
    have hkey := List.find?_some h
    exact eq_of_beq hkey
  · rintro rfl
    exact ofKey?_key f

@[simp] theorem mem_all (f : Field) : f ∈ all := by
  cases f <;> decide

end Field

/-- A set of fields. -/
structure FieldSet where
  /-- Whether the address is in the set. -/
  url : Bool
  /-- Whether the title is in the set. -/
  title : Bool
  /-- Whether the description is in the set. -/
  description : Bool
  /-- Whether the content is in the set. -/
  content : Bool
  deriving DecidableEq, Repr

namespace FieldSet

/-- The set without fields. -/
def empty : FieldSet := ⟨false, false, false, false⟩

/-- Whether a field is in a set. -/
def contains (s : FieldSet) : Field → Bool
  | .url => s.url
  | .title => s.title
  | .description => s.description
  | .content => s.content

/-- The set with one more field. -/
def insert (s : FieldSet) : Field → FieldSet
  | .url => { s with url := true }
  | .title => { s with title := true }
  | .description => { s with description := true }
  | .content => { s with content := true }

/-- The set of one field. -/
def single (f : Field) : FieldSet := empty.insert f

/-- The fields of a set, in the order of preference. -/
def toList (s : FieldSet) : List Field := Field.all.filter s.contains

/-- Whether a set has no fields. -/
def isEmpty (s : FieldSet) : Bool := s == empty

/-- The preferred field of a set. -/
def primary? (s : FieldSet) : Option Field := s.toList.head?

/-- The keys of the fields, with commas between them. -/
def text (s : FieldSet) : String := ",".intercalate (s.toList.map Field.key)

@[simp] theorem contains_empty (f : Field) : empty.contains f = false := by
  cases f <;> rfl

@[simp] theorem contains_insert (s : FieldSet) (f g : Field) :
    (s.insert f).contains g = (f == g || s.contains g) := by
  cases f <;> cases g <;> simp [insert, contains]

@[simp] theorem mem_toList {s : FieldSet} {f : Field} : f ∈ s.toList ↔ s.contains f := by
  simp [toList]

/-- Two sets of the same fields are equal. -/
theorem ext_contains {s t : FieldSet} (h : ∀ f, s.contains f = t.contains f) : s = t := by
  have h₁ := h .url
  have h₂ := h .title
  have h₃ := h .description
  have h₄ := h .content
  cases s
  cases t
  simp_all [contains]

/-- A set is empty exactly if no field is in it. -/
theorem isEmpty_iff {s : FieldSet} : s.isEmpty = true ↔ ∀ f, s.contains f = false := by
  constructor
  · intro h f
    rw [eq_of_beq h, contains_empty]
  · intro h
    exact beq_iff_eq.2 (ext_contains fun f => by rw [h f, contains_empty])

end FieldSet

end Rerank
