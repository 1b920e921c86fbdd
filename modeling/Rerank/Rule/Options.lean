/-
The meaning of the options of a directive.

The options are gone through in order.  A later value of a key replaces an earlier one, and
an empty value is as good as none; only the site remembers that its key was there.  Keys
without meaning are passed over and recorded.
-/
import Rerank.Directive.Basic
import Rerank.Log.Logged

namespace Rerank

/-- What the options of a directive ask for. -/
structure Options where
  /-- The last value of `site`, if it is not empty. -/
  site : Option String
  /-- Whether there is a key `site`. -/
  hasSiteKey : Bool
  /-- The fields whose keys are there. -/
  fields : FieldSet
  /-- The last value of `boost`, if there is such a key. -/
  boost : Option String
  /-- The last value of `downrank`, if there is such a key. -/
  downrank : Option String
  /-- Whether there is a key `discard`. -/
  discard : Bool
  deriving DecidableEq, Repr

namespace Options

/-- No options. -/
def none : Options := ⟨.none, false, .empty, .none, .none, false⟩

/-- Takes one more option in. -/
def add (o : Options) (e : Entry) : Logged Options :=
  let value := e.value.getD ""
  if e.key = "site" then
    pure { o with hasSiteKey := true, site := if value.isEmpty then .none else some value }
  else if e.key = "boost" then pure { o with boost := some value }
  else if e.key = "downrank" then pure { o with downrank := some value }
  else if e.key = "discard" then pure { o with discard := true }
  else
    match Field.ofKey? e.key with
    | some f => pure { o with fields := o.fields.insert f }
    | .none => do
      Logged.record (.unknownOption e.key)
      pure o

/-- Takes options in, from the first to the last. -/
def addAll (o : Options) : List Entry → Logged Options
  | [] => pure o
  | e :: rest => do addAll (← o.add e) rest

/-- What a list of options asks for. -/
def collect (entries : List Entry) : Logged Options :=
  none.addAll entries

/-- How many kinds of action are asked for. -/
def actionKinds (o : Options) : Nat :=
  o.boost.isSome.toNat + o.downrank.isSome.toNat + o.discard.toNat

/-- The action that is asked for; a boost comes before a downrank, and a downrank before a
discard.  A discard is generic unless something narrows the rule down. -/
def action? (o : Options) (narrowed : Bool) : Option Action :=
  match o.boost, o.downrank, o.discard with
  | some value, _, _ => some (.boost (.ofValue value))
  | .none, some value, _ => some (.downrank (Magnitude.ofValue value).neg)
  | .none, .none, true => some (if narrowed then .specificDiscard else .genericDiscard)
  | .none, .none, false => .none

end Options

end Rerank
