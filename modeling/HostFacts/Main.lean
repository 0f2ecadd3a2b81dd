import HostFacts.CommandLine.Run
import HostFacts.Kernel

/-!
# The command

What the command does on a machine: it takes in the texts of the kernel, reads the property file
that the arguments name, and writes what `CommandLine.run` answers.
-/

namespace HostFacts.Command

open HostFacts.CommandLine HostFacts.Text

/-- What the command is run by. -/
def runtime : Runtime := ⟨"linux", "4.33.0", "Lean", "lean", "4.33.0 (native)"⟩

/-- The text of a file; a file that cannot be read has none. -/
def textOf (path : String) : IO String := do
  match ← (IO.FS.readBinFile path).toBaseIO with
  | .ok content => return ((Utf8.decode content.toList).toOption.map String.ofList).getD ""
  | .error _ => return ""

/-- What the kernel shows about this process. -/
def kernel : IO Kernel := do
  return {
    environ := ← textOf "/proc/self/environ"
    status := ← textOf "/proc/self/status"
    accounts := ← textOf "/etc/passwd"
    name := ← textOf "/proc/sys/kernel/ostype"
    release := ← textOf "/proc/sys/kernel/osrelease"
    version := ← textOf "/proc/sys/kernel/version" }

/-- The current directory, if it is there. -/
def directory : IO (Option String) := do
  match ← IO.currentDir.toBaseIO with
  | .ok path => return some path.toString
  | .error _ => return none

/-- The code of the system for reading a directory. -/
def directoryCode : UInt32 := 21

/-- The failure that an error of the system stands for. -/
def failure : IO.Error → Files.Failure
  | .permissionDenied .. => .denied
  | .inappropriateType _ code _ => if code = directoryCode then .isDirectory else .notDirectory
  | .invalidArgument .. => .nameTooLong
  | _ => .missing

/-- Reads a file. -/
def content (path : String) : IO (Except Files.Failure (List UInt8)) := do
  if let some f := Files.refusal? path.toList then return .error f
  match ← (IO.FS.readBinFile path).toBaseIO with
  | .ok bytes => return .ok bytes.toList
  | .error e => return .error (failure e)

/-- The property file that the arguments name, as the only file that can be read. -/
def files (args : List String) : IO Files.Reader := do
  match parse args with
  | .error _ => return fun _ => .error .missing
  | .ok settings =>
    let answer ← content (Path.normal (settings.config.getD ""))
    return fun _ => answer

end HostFacts.Command

open HostFacts HostFacts.CommandLine in
/-- Runs the command. -/
def main (args : List String) : IO UInt32 := do
  let runtime := Command.runtime
  let host := (← Command.kernel).host runtime (← Command.directory)
  let world := World.ofProcess host.environ host.providers (← Command.files args)
  let (outcome, _) := run ⟨runtime.version, host.osName, host.osRelease⟩ args world
  (← IO.getStdout).putStr outcome.output
  (← IO.getStderr).putStr outcome.errors
  match outcome.ending with
  | .finished exit => return exit.code.toUInt32
  | .stopped code => return code.toUInt32
  | .escaped fault =>
    (← IO.getStderr).putStr (fault.text ++ "\n")
    return Exit.genericError.code.toUInt32
