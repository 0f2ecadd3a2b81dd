import HostFacts.Text.Case
import HostFacts.Text.Search

/-!
# Paths

A path is a text with its parts between slashes. Its normal form drops empty parts and single
points, keeps `..`, and is `.` when nothing is left. Two slashes in front are kept, any other number
counts as one.

`comparable` is the form in which two paths are compared: where names do not differ in case, the
path is taken in lower case.
-/

namespace HostFacts.Path

open HostFacts.Text

/-- The slashes that a normal path starts with. -/
def root : List Char → List Char
  | '/' :: '/' :: '/' :: _ => ['/']
  | '/' :: '/' :: _ => ['/', '/']
  | '/' :: _ => ['/']
  | _ => []

/-- The parts of a path, without the empty ones and single points. -/
def parts (s : List Char) : List (List Char) :=
  (splitAll '/' s).filter fun p => !(p.isEmpty || p == ['.'])

/-- The normal form of a path. -/
def normalChars (s : List Char) : List Char :=
  match root s ++ joinWith ['/'] (parts s) with
  | [] => ['.']
  | path => path

/-- The normal form of a path. -/
def normal (s : String) : String := onChars normalChars s

/-- The form in which a path is compared; no path is the empty one. -/
def comparable (path : Option String) (windows : Bool) : String :=
  let p := path.getD ""
  if windows then lowered p else p

end HostFacts.Path
