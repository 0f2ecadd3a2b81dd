import HostFacts.Path
import HostFacts.Text.Surrogates
import HostFacts.Text.Utf8

/-!
# Files under the current directory

`Files` holds the files and directories that can be read, by their parts from the current directory
on. `Files.read` follows a path part by part: each part but the last must be a directory. What lies
above the current directory is known as directories only.

The system takes a path as bytes. A byte that is no text stands in a path as a surrogate from U+DC80
to U+DCFF; other surrogates have no bytes, and a path that holds one is not even looked for.
-/

namespace HostFacts

open HostFacts.Number HostFacts.Text

/-- The files and directories that exist. -/
structure Files where
  contents : List (List (List Char) × List UInt8)
  directories : List (List (List Char))

namespace Files

/-- No files and no directories. -/
def none : Files := ⟨[], []⟩

/-- The surrogates in a path that have no bytes: the positions of the first and the last, and the
code of the first. -/
structure Unencodable where
  first : Nat
  last : Nat
  code : Nat
  deriving DecidableEq, Repr

/-- The wording of surrogates without bytes. -/
def Unencodable.message (u : Unencodable) : String :=
  let place :=
    if u.first = u.last then
      let code := String.ofList (hexPadded false 4 u.code)
      s!"character '\\u{code}' in position {natText u.first}"
    else s!"characters in position {natText u.first}-{natText u.last}"
  s!"'utf-8' codec can't encode {place}: surrogates not allowed"

/-- Why a file cannot be read. -/
inductive Failure where
  | missing
  | notDirectory
  | isDirectory
  | nameTooLong
  | denied
  /-- The path holds a null character. -/
  | nullCharacter
  /-- The path has no bytes. -/
  | unencodable (u : Unencodable)
  deriving DecidableEq, Repr

/-- What is read at a path, or why nothing is. -/
abbrev Reader := String → Except Failure (List UInt8)

/-- The wording of a failure. -/
def Failure.message : Failure → String
  | .missing => "No such file or directory"
  | .notDirectory => "Not a directory"
  | .isDirectory => "Is a directory"
  | .nameTooLong => "File name too long"
  | .denied => "Permission denied"
  | .nullCharacter => "embedded null byte"
  | .unencodable u => u.message

/-- Where a path leads: a directory under the current one, a directory above it, or a file. -/
inductive Place where
  | inside (parts : List (List Char))
  | above (levels : Nat)
  | file (content : List UInt8)

/-- Whether the parts name a directory, by itself or by what lies in it. -/
def isDirectory (files : Files) (parts : List (List Char)) : Bool :=
  parts.isEmpty || files.directories.any (parts.isPrefixOf ·) ||
    files.contents.any fun f => parts.isPrefixOf f.1 && parts != f.1

/-- The longest part of a path, in bytes. -/
def nameLimit : Nat := 255

/-- The length in bytes from which on a path is too long. -/
def pathLimit : Nat := 4096

/-- Whether a character stands for a byte that is no text. -/
def isStrayByte (c : Char) : Bool := 0xdc80 ≤ codeOf c && codeOf c < 0xdd00

/-- The length of a path in bytes. -/
def byteLength (path : List Char) : Nat :=
  path.foldl (fun n c => n + if isStrayByte c then 1 else c.utf8Size) 0

/-- The surrogates without bytes that come first in a path, with those right behind them. -/
def unencodable? (path : List Char) : Option Unencodable :=
  let hasBytes (c : Char) : Bool := !isSurrogate (codeOf c) || isStrayByte c
  match path.dropWhile hasBytes with
  | [] => Option.none
  | c :: rest =>
    let first := (path.takeWhile hasBytes).length
    some ⟨first, first + (rest.takeWhile fun c => isSurrogate (codeOf c)).length, codeOf c⟩

/-- Why a path is not looked for at all. -/
def refusal? (path : List Char) : Option Failure :=
  match unencodable? path with
  | some u => some (.unencodable u)
  | Option.none => if path.contains '\x00' then some .nullCharacter else Option.none

/-- Goes from a place to one of its parts. -/
def enter (files : Files) (part : List Char) : Place → Except Failure Place
  | .file _ => .error .notDirectory
  | .above n =>
    if part = ['.', '.'] then .ok (.above (n + 1))
    else .error (if nameLimit < byteLength part then .nameTooLong else .missing)
  | .inside parts =>
    if part = ['.', '.'] then .ok (if parts.isEmpty then .above 1 else .inside parts.dropLast)
    else if nameLimit < byteLength part then .error .nameTooLong
    else
      let here := parts ++ [part]
      match files.contents.lookup here with
      | some content => .ok (.file content)
      | Option.none => if files.isDirectory here then .ok (.inside here) else .error .missing

/-- The place that the parts of a path lead to. -/
def follow (files : Files) (origin : Place) (parts : List (List Char)) : Except Failure Place :=
  parts.foldlM (fun place part => files.enter part place) origin

/-- Reads the file at a path. -/
def read (files : Files) : Reader := fun path => do
  let chars := path.toList
  if let some failure := refusal? chars then throw failure
  if pathLimit ≤ byteLength chars then throw .nameTooLong
  let origin : Place := if (Path.root chars).isEmpty then .inside [] else .above 1
  match ← files.follow origin (Path.parts chars) with
  | .file content => return content
  | _ => throw .isDirectory

/-- The parts of a name from the current directory on, without steps up. -/
def partsOfName (name : String) : List (List Char) :=
  (Path.parts name.toList).foldl
    (fun parts part => if part = ['.', '.'] then parts.dropLast else parts ++ [part]) []

/-- The files and directories with the given names. -/
def ofNames (contents : List (String × List UInt8)) (directories : List String) : Files :=
  ⟨contents.map fun f => (partsOfName f.1, f.2), directories.map partsOfName⟩

end Files

end HostFacts
