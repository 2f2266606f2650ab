/-!
# File paths

A path has an anchor and named parts. Repeated slashes and parts `.` do not count, parts `..` do.
Exactly two slashes at the front are an anchor of their own.

* `FilePath.ofString`, `FilePath.toString`: paths and their texts;
* `FilePath.join`: a path below another; an anchored path replaces the other;
* `FilePath.parent`: the path without its last part.
-/

namespace Typings

inductive Anchor where
  | relative
  | root
  | doubleRoot
deriving DecidableEq, Repr

structure FilePath where
  anchor : Anchor
  parts : List String
deriving DecidableEq, Repr

namespace FilePath

def anchorOf (text : List Char) : Anchor :=
  match (text.takeWhile (· == '/')).length with
  | 0 => .relative
  | 2 => .doubleRoot
  | _ => .root

/-- The path that a text writes. -/
def ofString (text : String) : FilePath where
  anchor := anchorOf text.toList
  parts := ((text.toList.splitOn '/').map String.ofList).filter fun part => part ≠ "" ∧ part ≠ "."

/-- The text of a path; the path without parts is `.`. -/
def toString (path : FilePath) : String :=
  let parts := "/".intercalate path.parts
  match path.anchor with
  | .relative => if path.parts.isEmpty then "." else parts
  | .root => "/" ++ parts
  | .doubleRoot => "//" ++ parts

def join (path other : FilePath) : FilePath :=
  if other.anchor = .relative then { path with parts := path.parts ++ other.parts } else other

def parent (path : FilePath) : FilePath :=
  { path with parts := path.parts.dropLast }

end FilePath
end Typings
