/-
Reading an absolute address up to its host.

`host?` says whether an address is valid and which host it has, if any.  An address of the
web must have one.  An address of a file has one only if two slashes precede it, it is not
the local machine, and the path behind it does not name a drive; any other address has one
if it follows two slashes and is not empty.

Faults are reported in the order of reading: the scheme, the place of the host, the host
itself, the port.
-/
import Rerank.Address.Authority
import Rerank.Address.Drive
import Rerank.Address.Host
import Rerank.Address.Written

namespace Rerank.Address

/-- The host behind the slashes of an address that is not one of a file. -/
def hostOfAuthority (web : Bool) (s : List Char) : Except Fault (Option Host) :=
  let a := Authority.split web s
  if a.isDangling then .error .emptyHost
  else if a.host.isEmpty then
    if web || a.port.isSome || a.hasCredentials then .error .emptyHost else .ok none
  else
    match if web then Host.ofDomain a.host else Host.ofName a.host with
    | .error fault => .error fault
    | .ok host => if a.portIsValid then .ok (some host) else .error .invalidPort

/-- The host behind the two slashes of an address of a file. -/
def hostOfFile (s : List Char) : Except Fault (Option Host) :=
  let ends := fun c => isSlash c || c == '?' || c == '#'
  let name := s.takeWhile (!ends ·)
  if name.isEmpty || Drive.isLetter name then .ok none
  else
    match Host.ofDomain name with
    | .error fault => .error fault
    | .ok host =>
      if host = .name "localhost" || Drive.leadsPath (s.dropWhile (!ends ·)) then .ok none
      else .ok (some host)

/-- The host of an absolute address. -/
def host? (url : List Char) : Except Fault (Option Host) :=
  match scheme? (cleaned url) with
  | none => .error .noScheme
  | some (scheme, rest) =>
    match kindOf scheme, rest with
    | .web, rest => hostOfAuthority true (rest.dropWhile isSlash)
    | .file, a :: b :: rest => if isSlash a && isSlash b then hostOfFile rest else .ok none
    | .other, '/' :: '/' :: rest => hostOfAuthority false rest
    | _, _ => .ok none

end Rerank.Address
