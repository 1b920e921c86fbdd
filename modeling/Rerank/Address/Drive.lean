/-
Drive letters in addresses of files.

A path whose first segment is a drive letter belongs to no host, so an address of a file
with such a path has none, whatever is written.  The segments `.` and `..` are resolved
before, in either of their spellings.
-/
import Rerank.Address.Scheme

namespace Rerank.Address

namespace Drive

/-- Whether a segment is a drive letter: a letter of ASCII and a colon or a bar. -/
def isLetter : List Char → Bool
  | [a, b] => a.isAlpha && (b == ':' || b == '|')
  | _ => false

/-- The segment with escaped full stops written plainly. -/
def plainDots : List Char → List Char
  | '%' :: '2' :: 'e' :: s => '.' :: plainDots s
  | '%' :: '2' :: 'E' :: s => '.' :: plainDots s
  | c :: s => c :: plainDots s
  | [] => []

/-- The segments of a path, which slashes and backslashes separate. -/
def segments (path : List Char) : List (List Char) :=
  Text.pieces '/' (path.map fun c => if c = '\\' then '/' else c)

/-- Whether a drive letter comes first in a path, `depth` segments being there before. -/
def leads (depth : Nat) : List (List Char) → Bool
  | [] => false
  | s :: rest =>
    if plainDots s = ['.'] then leads depth rest
    else if plainDots s = ['.', '.'] then leads (depth - 1) rest
    else (depth == 0 && isLetter s) || leads (depth + 1) rest

/-- Whether the path that a text begins with has a drive letter as its first segment. -/
def leadsPath (s : List Char) : Bool :=
  match s.takeWhile fun c => c != '?' && c != '#' with
  | [] => false
  | c :: path => leads 0 (segments (if isSlash c then path else c :: path))

end Drive

end Rerank.Address
