/-
The grammar of directives, put together from readers that may refuse a text.

    directive = pattern [ "$" entries ]
    entries   = [ entry { "," entry } ]
    entry     = key [ "=" value ]

This is the grammar by the letter.  It does not say by itself that every line is a directive: a
reader may refuse, options may end before a comma behind which no option is read, and a line of
which something is left is no directive.
-/
import Rerank.Directive.Basic
import Rerank.Text.Blank
import Rerank.Text.Reader

namespace Rerank

namespace Directive.Grammar

open Text (Reader)

/-- A pattern ends before a dollar sign. -/
def pattern : Reader (List Char) := Reader.till (· == '$')

/-- A key ends before an equals sign or a comma. -/
def key : Reader (List Char) := Reader.till fun c => c == '=' || c == ','

/-- A value is what stands between an equals sign and a comma. -/
def value : Reader (List Char) := Reader.behind (Reader.char '=') (Reader.till (· == ','))

/-- An option is a key, perhaps with a value, both trimmed. -/
def entry : Reader Entry := fun s => do
  let (key, s) ← key s
  let (value, s) ← Reader.optional value s
  return (⟨String.ofList (Text.trim key), value.map fun v => String.ofList (Text.trim v)⟩, s)

/-- Options have commas between them. -/
def entries : Reader (List Entry) := Reader.separated entry (Reader.char ',')

/-- A directive is a pattern, perhaps with options behind a dollar sign. -/
def directive : Reader Directive := fun s => do
  let (pattern, s) ← pattern s
  let (options, s) ← Reader.optional (Reader.behind (Reader.char '$') entries) s
  return (⟨String.ofList pattern, options⟩, s)

/-- The directive that a whole line is, if it is one by the grammar. -/
def parse? (line : String) : Option Directive := Reader.whole? directive line.toList

end Directive.Grammar

end Rerank
