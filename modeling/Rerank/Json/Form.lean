/-
The JSON form of actions, outcomes, fields and limits.

A value of one of several kinds is written as the name of its kind, or, if it carries a
magnitude, as an object of one member whose key is that name.  A kind that carries nothing
may also be read from an object whose member is `null`.  Limits are written as an object of
both limits, with `null` for one that is absent; they are read from such an object with
any members missing or unknown ones added, and from a list of at most both limits.  Numbers
are integers in range, and no known key may occur twice.
-/
import Rerank.Action
import Rerank.Field
import Rerank.Json.Reader
import Rerank.Limits

namespace Rerank

namespace Json

/-- The kind that a value names, and what it carries; a bare name carries `null`. -/
def Value.kind? : Value → Option (String × Value)
  | .string (some name) => some (name, .null)
  | .object [(some name, v)] => some (name, v)
  | _ => none

/-- The magnitude that a value stands for. -/
def Value.magnitude? : Value → Option Magnitude
  | .integer n => Magnitude.ofInt? n
  | _ => none

/-- The limit that a value stands for. -/
def Value.limit? : Value → Option (Option UInt64)
  | .null => some none
  | .integer n => if 0 ≤ n ∧ n < UInt64.size then some (some (UInt64.ofNat n.toNat)) else none
  | _ => none

/-- The text of a member: a name in quotation marks, a colon and a value. -/
def member (name value : String) : String := "\"" ++ name ++ "\":" ++ value

/-- An object of some members. -/
def object (members : List String) : String := "\x7b" ++ ",".intercalate members ++ "\x7d"

/-- A text of characters that need no escape. -/
def name (s : String) : String := "\"" ++ s ++ "\""

/-- The text of a limit. -/
def limit : Option UInt64 → String
  | some n => toString n.toNat
  | none => "null"

end Json

open Json

namespace Action

/-- The JSON form of an action. -/
def toJson : Action → String
  | .genericDiscard => Json.name "GenericDiscard"
  | .downrank m => object [member "Downrank" m.text]
  | .boost m => object [member "Boost" m.text]
  | .specificDiscard => Json.name "SpecificDiscard"

/-- The action that a value of JSON stands for. -/
def ofValue? (v : Value) : Option Action :=
  match v.kind? with
  | some ("GenericDiscard", .null) => some .genericDiscard
  | some ("Downrank", v) => v.magnitude?.map .downrank
  | some ("Boost", v) => v.magnitude?.map .boost
  | some ("SpecificDiscard", .null) => some .specificDiscard
  | _ => none

/-- The action that a text of JSON stands for. -/
def ofJson? (text : String) : Option Action := (Value.parse? text).bind ofValue?

end Action

namespace Outcome

/-- The JSON form of an outcome. -/
def toJson : Outcome → String
  | .noOpinion => Json.name "NoOpinion"
  | .discard => Json.name "Discard"
  | .score m => object [member "Score" m.text]

/-- The outcome that a value of JSON stands for. -/
def ofValue? (v : Value) : Option Outcome :=
  match v.kind? with
  | some ("NoOpinion", .null) => some .noOpinion
  | some ("Discard", .null) => some .discard
  | some ("Score", v) => v.magnitude?.map .score
  | _ => none

/-- The outcome that a text of JSON stands for. -/
def ofJson? (text : String) : Option Outcome := (Value.parse? text).bind ofValue?

end Outcome

namespace Field

/-- The JSON form of a field. -/
def toJson : Field → String
  | .url => Json.name "Url"
  | .title => Json.name "Title"
  | .description => Json.name "Description"
  | .content => Json.name "Content"

/-- The field that a value of JSON stands for. -/
def ofValue? (v : Value) : Option Field :=
  match v.kind? with
  | some ("Url", .null) => some .url
  | some ("Title", .null) => some .title
  | some ("Description", .null) => some .description
  | some ("Content", .null) => some .content
  | _ => none

/-- The field that a text of JSON stands for. -/
def ofJson? (text : String) : Option Field := (Value.parse? text).bind ofValue?

end Field

namespace Limits

/-- The JSON form of limits. -/
def toJson (l : Limits) : String :=
  object [member "max_pattern_len" (limit l.patternLength),
    member "max_options" (limit l.optionCount)]

/-- Takes in a member of an object; the limits read before are absent if their keys have not
occurred. -/
def addMember (read : Option (Option UInt64) × Option (Option UInt64)) :
    Option String × Value → Option (Option (Option UInt64) × Option (Option UInt64))
  | (some "max_pattern_len", v) =>
    if read.1.isSome then .none else v.limit?.map fun l => (some l, read.2)
  | (some "max_options", v) =>
    if read.2.isSome then .none else v.limit?.map fun l => (read.1, some l)
  | (some _, _) => some read
  | (.none, _) => .none

/-- The limits that a value of JSON stands for. -/
def ofValue? : Value → Option Limits
  | .array [] => some .none
  | .array [v] => do return ⟨← v.limit?, .none⟩
  | .array [v, w] => do return ⟨← v.limit?, ← w.limit?⟩
  | .object members => do
    let (length, count) ← members.foldlM addMember (.none, .none)
    return ⟨length.join, count.join⟩
  | _ => .none

/-- The limits that a text of JSON stands for. -/
def ofJson? (text : String) : Option Limits := (Value.parse? text).bind ofValue?

end Limits

end Rerank
