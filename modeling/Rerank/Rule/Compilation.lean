/-
From directives to rules.

A line becomes a rule by itself: neither its number nor the lines around it matter for what
the rule does.  The limits are checked first, the length of the pattern before the number
of options; then the pattern is compiled, and only then are the options looked at.
`compileLines` goes through the lines in order, passes over blank ones, and stops at the
first line that is at fault.
-/
import Rerank.Directive.Reader
import Rerank.Limits
import Rerank.Rule.Basic
import Rerank.Rule.Options

namespace Rerank

/-- Why a line cannot be compiled. -/
inductive CompileFault
  /-- The pattern is longer than allowed. -/
  | patternTooLong (line length limit : Nat)
  /-- There are more options than allowed. -/
  | tooManyOptions (line count limit : Nat)
  /-- The pattern cannot be compiled. -/
  | pattern (line : Nat) (source : String) (cause : Pattern.Fault)
  deriving DecidableEq, Repr

namespace CompileFault

/-- The number of the line at fault. -/
def line : CompileFault → Nat
  | .patternTooLong line _ _ => line
  | .tooManyOptions line _ _ => line
  | .pattern line _ _ => line

/-- The fault in words. -/
def message : CompileFault → String
  | .patternTooLong line length limit =>
    "line " ++ toString line ++ ": pattern is " ++ toString length ++
      " bytes long, limit is " ++ toString limit
  | .tooManyOptions line count limit =>
    "line " ++ toString line ++ ": directive has " ++ toString count ++
      " options, limit is " ++ toString limit
  | .pattern line source cause =>
    "line " ++ toString line ++ ": pattern '" ++ source ++ "' could not be compiled: " ++
      cause.message

end CompileFault

namespace Directive

/-- The limit that a directive exceeds, if it exceeds one. -/
def exceeds? (d : Directive) (line : Nat) (limits : Limits) : Option CompileFault :=
  match Limits.exceeded? limits.patternLength d.pattern.utf8ByteSize with
  | some limit => some (.patternTooLong line d.pattern.utf8ByteSize limit)
  | none =>
    match d.options with
    | none => none
    | some options =>
      (Limits.exceeded? limits.optionCount options.length).map
        (.tooManyOptions line options.length)

/-- The pattern of a directive; an empty one is none. -/
def pattern? (d : Directive) (line : Nat) : Except CompileFault (Option Pattern) :=
  if d.pattern.isEmpty then .ok none
  else
    match Pattern.compile d.pattern with
    | .ok p => .ok (some p)
    | .error cause => .error (.pattern line d.pattern cause)

end Directive

namespace Rule

/-- The rule of a line whose options ask for `o`. -/
def ofOptions (source : String) (line : Nat) (pattern : Option Pattern) (o : Options) : Rule where
  source := source
  line := line
  pattern := pattern
  fields := if o.fields.isEmpty then .single .url else o.fields
  site := o.site
  action := o.action? (o.hasSiteKey || !o.fields.isEmpty || pattern.isSome)

/-- Compiles a line. -/
def compile (limits : Limits) (line : Nat) (source : String) :
    Logged (Except CompileFault Rule) :=
  let d := Directive.parse source
  match d.exceeds? line limits with
  | some fault => pure (.error fault)
  | none =>
    match d.pattern? line with
    | .error fault => pure (.error fault)
    | .ok pattern => do
      let o ← Options.collect d.entries
      if 1 < o.actionKinds then
        Logged.record (.severalActions line source)
      let rule := ofOptions source line pattern o
      Logged.record (.directiveCompiled line source rule.action rule.fields rule.site)
      pure (.ok rule)

/-- Compiles a single line, without limits. -/
def parse (source : String) : Logged (Except CompileFault Rule) :=
  compile .none 1 source

/-- Compiles lines, the first of which has the number `line`. -/
def compileFrom (limits : Limits) (line : Nat) :
    List String → Logged (Except CompileFault (List Rule))
  | [] => pure (.ok [])
  | source :: rest =>
    if Text.isBlankLine source then compileFrom limits (line + 1) rest
    else do
      match ← compile limits line source with
      | .error fault => pure (.error fault)
      | .ok rule =>
        match ← compileFrom limits (line + 1) rest with
        | .error fault => pure (.error fault)
        | .ok rules => pure (.ok (rule :: rules))

/-- Compiles lines. -/
def compileLines (limits : Limits) (lines : List String) :
    Logged (Except CompileFault (List Rule)) := do
  match ← compileFrom limits 1 lines with
  | .error fault => pure (.error fault)
  | .ok rules =>
    Logged.record (.linesCompiled rules.length lines.length)
    pure (.ok rules)

end Rule

end Rerank
