/-
The part of an address that names a host: `user:password@host:port`.

It ends before a slash, a question mark or a number sign, and under the schemes of the web
also before a backslash.  The credentials reach up to the last at sign, and the port begins
at the first colon behind them that is not in brackets.
-/
import Rerank.Address.Fault
import Rerank.Address.Scheme

namespace Rerank.Address

/-- The parts of an authority, as they are written. -/
structure Authority where
  /-- What precedes the last at sign, if there is one. -/
  credentials : Option (List Char)
  /-- The host. -/
  host : List Char
  /-- What follows the colon behind the host, if there is one. -/
  port : Option (List Char)
  /-- What follows the authority in the address. -/
  rest : List Char
  deriving DecidableEq, Repr

namespace Authority

/-- Whether a character ends an authority. -/
def ends (web : Bool) (c : Char) : Bool :=
  c == '/' || c == '?' || c == '#' || (web && c == '\\')

/-- The text up to the first colon that is not in brackets, and the text after that colon;
`inside` says whether a bracket is open. -/
def cutPort (inside : Bool) : List Char → List Char × Option (List Char)
  | [] => ([], none)
  | c :: s =>
    if c = ':' ∧ inside = false then ([], some s)
    else
      let inside := if c = '[' then true else if c = ']' then false else inside
      (c :: (cutPort inside s).1, (cutPort inside s).2)

/-- Takes the authority apart that a text begins with. -/
def split (web : Bool) (s : List Char) : Authority :=
  let area := s.takeWhile (!ends web ·)
  let rest := s.dropWhile (!ends web ·)
  let hostPort := Text.afterLast '@' area
  let credentials :=
    if area.contains '@' then some (area.take (area.length - hostPort.length - 1)) else none
  let (host, port) := cutPort false hostPort
  ⟨credentials, host, port, rest⟩

/-- Whether there is a name or a password before the host. -/
def hasCredentials (a : Authority) : Bool :=
  match a.credentials with
  | none => false
  | some s => s != [] && s != [':']

/-- Whether the credentials are empty and nothing follows them before the end of the
authority, the address going on behind it. -/
def isDangling (a : Authority) : Bool :=
  a.credentials == some [] && a.host.isEmpty && a.port.isNone && !a.rest.isEmpty

/-- Whether the port is a number below 65536; a missing one is fine.  A backslash ends it. -/
def portIsValid (a : Authority) : Bool :=
  match a.port with
  | none => true
  | some s =>
    let digits := s.takeWhile (· != '\\')
    digits.all Char.isDigit &&
      digits.foldl (fun n c => n * 10 + (c.toNat - '0'.toNat)) 0 ≤ 65535

end Authority

end Rerank.Address
