/-
Search results, as far as rules look at them.

A document is made from its address, which must be valid and have a host; title, description
and content may be added.  The host that rules see is the one that is written in the
address, and the normal form of the host only if nothing is written where it is looked for.
-/
import Rerank.Address
import Rerank.Field

namespace Rerank

/-- A search result. -/
structure Document where
  /-- The address, as it was given. -/
  url : String
  /-- The host of the address. -/
  host : String
  /-- The title, if it is known. -/
  title : Option String
  /-- The description, if it is known. -/
  description : Option String
  /-- The content, if it is known. -/
  content : Option String
  deriving DecidableEq, Repr

namespace Document

/-- Why an address makes no document. -/
inductive Fault
  /-- The address is not valid. -/
  | invalidUrl (url : String) (cause : Address.Fault)
  /-- The address has no host. -/
  | missingHost (url : String)
  deriving DecidableEq, Repr

/-- The fault in words. -/
def Fault.message : Fault → String
  | .invalidUrl url cause =>
    "candidate url '" ++ url ++ "' is not a valid absolute url: " ++ cause.message
  | .missingHost url => "candidate url '" ++ url ++ "' has no host"

/-- The document of an address. -/
def ofUrl (url : String) : Except Fault Document :=
  match Address.host? url.toList with
  | .error cause => .error (.invalidUrl url cause)
  | .ok none => .error (.missingHost url)
  | .ok (some host) =>
    let written := (Address.writtenHost? url.toList).map String.ofList
    .ok ⟨url, written.getD host.text, none, none, none⟩

/-- The document with a title. -/
def withTitle (d : Document) (title : String) : Document := { d with title := some title }

/-- The document with a description. -/
def withDescription (d : Document) (description : String) : Document :=
  { d with description := some description }

/-- The document with a content. -/
def withContent (d : Document) (content : String) : Document := { d with content := some content }

/-- The text of a field, if it is known; the address always is. -/
def text? (d : Document) : Field → Option String
  | .url => some d.url
  | .title => d.title
  | .description => d.description
  | .content => d.content

@[simp] theorem text?_url (d : Document) : d.text? .url = some d.url := rfl

end Document

end Rerank
