/-
Values of JSON.

Only what a reader of rules needs to tell apart is kept: of a number that is not an integer
nothing but the fact, and of a text that holds half of a surrogate pair, and so stands for
no characters, neither.  Members of an object keep their order and their repetitions.
-/

namespace Rerank.Json

/-- A value of JSON. -/
inductive Value
  /-- The value `null`. -/
  | null
  /-- A truth value. -/
  | bool (b : Bool)
  /-- A number without fraction and exponent; a negative zero is not one. -/
  | integer (n : Int)
  /-- Any other number. -/
  | decimal
  /-- A text, if it stands for characters. -/
  | string (text : Option String)
  /-- A list of values. -/
  | array (items : List Value)
  /-- A list of values with keys. -/
  | object (members : List (Option String × Value))

end Rerank.Json
