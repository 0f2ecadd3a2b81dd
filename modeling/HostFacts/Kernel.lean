import HostFacts.Host
import HostFacts.Text.Search

/-!
# Texts of the kernel

A Linux kernel tells a process about itself and about the machine in texts of fixed shapes. `Kernel`
holds those texts, with the table of accounts, and `Kernel.host` reads the host out of them.
-/

namespace HostFacts

open HostFacts.Text

/-- What the kernel shows. -/
structure Kernel where
  /-- The environment: each variable ends with a null character. -/
  environ : String
  /-- The state of the process, a field to a line. -/
  status : String
  /-- The accounts, one to a line. -/
  accounts : String
  name : String
  release : String
  version : String

/-- What the program is run by. -/
structure Runtime where
  platform : String
  version : String
  name : String
  vmName : String
  build : String

namespace Kernel

/-- The lines of a text. -/
def lines (text : String) : List (List Char) := splitAll '\n' text.toList

/-- The variables of an environment; of two with one name the first counts. -/
def environOf (environ : String) : Entries String String :=
  let entry (chars : List Char) : Option (String × String) :=
    match cutFirst '=' chars with
    | (name, some value) => some (String.ofList name, String.ofList value)
    | (_, none) => none
  let pairs := (splitAll '\x00' environ.toList).filterMap entry
  pairs.foldl (fun all e => if all.has e.1 then all else all.put e.1 e.2) .empty

/-- The number of the user that the process belongs to: the first in the field for it. -/
def userId? (status : String) : Option (List Char) :=
  (lines status).findSome? fun line =>
    match splitAll '\t' line with
    | field :: id :: _ => if field = "Uid:".toList then some id else none
    | _ => none

/-- The name of the first account with the number. -/
def accountName? (accounts : String) (id : List Char) : Option String :=
  (lines accounts).findSome? fun line =>
    match splitAll ':' line with
    | name :: _ :: number :: _ => if number = id then some (String.ofList name) else none
    | _ => none

/-- The host that the kernel shows, for a program in a directory. -/
def host (k : Kernel) (runtime : Runtime) (directory : Option String) : Host where
  environ := environOf k.environ
  accountName := (userId? k.status).bind (accountName? k.accounts)
  directory
  osName := trimmed k.name
  osRelease := trimmed k.release
  osVersion := trimmed k.version
  platform := runtime.platform
  runtimeVersion := runtime.version
  runtimeName := runtime.name
  runtimeVmName := runtime.vmName
  build := runtime.build

end Kernel

end HostFacts
