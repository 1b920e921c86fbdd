/-
Schemes of addresses, and the text before they are looked at.

Before an address is read, controls and blanks are removed from both ends of it, and tabs
and line breaks everywhere.  It must then begin with a scheme: a letter of ASCII, followed
by letters, digits and the characters `+`, `-` and `.`, up to a colon.
-/
import Rerank.Text.Blank
import Rerank.Text.Split

namespace Rerank.Address

/-- Whether a character is a control or a blank of ASCII. -/
def isControlOrBlank (c : Char) : Bool :=
  c.toNat ≤ 0x20

/-- Whether a character is passed over wherever it stands in an address. -/
def isIgnored (c : Char) : Bool :=
  c == '\t' || c == '\n' || c == '\r'

/-- The text of an address that is read. -/
def cleaned (url : List Char) : List Char :=
  (Text.trimBy isControlOrBlank url).filter (!isIgnored ·)

/-- What a scheme means for the host behind it. -/
inductive Kind
  /-- The scheme is one of the web, and there is a host behind any slashes. -/
  | web
  /-- The scheme is that of files, whose host may be missing. -/
  | file
  /-- Any other scheme; there is a host only behind two slashes. -/
  | other
  deriving DecidableEq, Repr

/-- The schemes of the web. -/
def webSchemes : List String :=
  ["http", "https", "ws", "wss", "ftp"]

/-- The kind of a scheme in lower case. -/
def kindOf (scheme : List Char) : Kind :=
  let scheme := String.ofList scheme
  if webSchemes.contains scheme then .web
  else if scheme = "file" then .file
  else .other

/-- Whether a scheme is well formed. -/
def isScheme : List Char → Bool
  | [] => false
  | c :: s => c.isAlpha && s.all fun c => c.isAlphanum || c == '+' || c == '-' || c == '.'

/-- The scheme of a cleaned address in lower case, and what follows the colon. -/
def scheme? (s : List Char) : Option (List Char × List Char) :=
  match Text.cut ':' s with
  | (scheme, some rest) => if isScheme scheme then some (scheme.map Char.toLower, rest) else none
  | (_, none) => none

/-- Whether a character separates parts of a path under the schemes of the web. -/
def isSlash (c : Char) : Bool :=
  c == '/' || c == '\\'

end Rerank.Address
