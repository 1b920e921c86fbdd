/-
What is recorded while rules are compiled and applied.

An event says what happened, with all that its message tells; its level says who would want
to know.
-/
import Rerank.Action
import Rerank.Field
import Rerank.Text.Quoted

namespace Rerank

/-- How much an event matters. -/
inductive Level
  /-- Each step of the work. -/
  | trace
  /-- The work as a whole. -/
  | debug
  /-- What the writer of a directive should look at. -/
  | warn
  deriving DecidableEq, Repr

/-- The name of a level. -/
def Level.text : Level → String
  | .trace => "trace"
  | .debug => "debug"
  | .warn => "warn"

/-- Something that happens while rules are compiled or applied. -/
inductive Event
  /-- An option has a key without meaning. -/
  | unknownOption (key : String)
  /-- A directive asks for several kinds of action. -/
  | severalActions (line : Nat) (source : String)
  /-- A directive has been compiled. -/
  | directiveCompiled (line : Nat) (source : String) (action : Option Action)
      (fields : FieldSet) (site : Option String)
  /-- All lines have been compiled. -/
  | linesCompiled (rules lines : Nat)
  /-- A rule applies to a search result and asks for an action. -/
  | fired (line : Nat) (url : String) (action : Action)
  /-- A rule applies to a search result and asks for nothing. -/
  | idle (line : Nat) (url : String)
  deriving DecidableEq, Repr

namespace Event

/-- How much an event matters. -/
def level : Event → Level
  | .severalActions .. => .warn
  | .linesCompiled .. => .debug
  | _ => .trace

/-- An optional value as it is named in the log. -/
def optional {α : Type} (name : α → String) : Option α → String
  | some a => "Some(" ++ name a ++ ")"
  | none => "None"

/-- The event in words. -/
def message : Event → String
  | .unknownOption key => "ignoring unknown option '" ++ key ++ "'"
  | .severalActions line source =>
    "line " ++ toString line ++ ": several action keys in '" ++ source ++
      "', keeping the highest priority one"
  | .directiveCompiled line source action fields site =>
    "line " ++ toString line ++ ": '" ++ source ++ "' -> " ++ optional Action.name action ++
      ", fields " ++ fields.text ++ ", site " ++ optional Text.quoted site
  | .linesCompiled rules lines =>
    "compiled " ++ toString rules ++ " rules from " ++ toString lines ++ " source lines"
  | .fired line url action =>
    "line " ++ toString line ++ " fired on " ++ url ++ ": " ++ action.text
  | .idle line url =>
    "line " ++ toString line ++ " matched " ++ url ++ " but has no action"

end Event

end Rerank
