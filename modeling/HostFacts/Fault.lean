import HostFacts.Files
import HostFacts.Text.Template
import HostFacts.Value.Text

/-!
# Faults

A `Fault` is the cause that an operation ends with when it does not answer. `Fault.message` words
it, `Fault.details` adds what was consulted, and `Fault.text` is both together. The faults that the
command reports and survives have an `Exit` code; the others end the program.

Faults that arise outside the library carry a `FailureKind`; kinds form a hierarchy
(`FailureKind.isA`), and those that mean that something is merely not there are `isAbsence`.
-/

namespace HostFacts

open HostFacts.Number HostFacts.Text

/-- The codes that the command ends with. -/
inductive Exit where
  | success
  | genericError
  | configError
  | resolutionError
  deriving DecidableEq, Repr

namespace Exit

/-- The number of a code. -/
def code : Exit → Nat
  | success => 0
  | genericError => 1
  | configError => 2
  | resolutionError => 3

/-- The name of a code. -/
def name : Exit → String
  | success => "SUCCESS"
  | genericError => "GENERIC_ERROR"
  | configError => "CONFIG_ERROR"
  | resolutionError => "RESOLUTION_ERROR"

/-- All codes in order. -/
def all : List Exit := [success, genericError, configError, resolutionError]

end Exit

/-- The kinds of failure that callers tell apart. -/
inductive FailureKind where
  | system
  | permission
  | missingFile
  | lookup
  | key
  | index
  | loading
  | missingModule
  | runtime
  | recursion
  | value
  | type
  | overflow
  | attribute
  | memory
  deriving DecidableEq, Repr

namespace FailureKind

/-- The kind that a kind is a special case of. -/
def parent? : FailureKind → Option FailureKind
  | permission | missingFile => some system
  | key | index => some lookup
  | missingModule => some loading
  | recursion => some runtime
  | _ => none

/-- Whether a kind is the given one or a special case of it. -/
def isA (kind general : FailureKind) : Bool := kind == general || kind.parent? == some general

/-- Whether a failure of this kind means that what was asked for is not there. -/
def isAbsence (kind : FailureKind) : Bool := kind.isA system || kind.isA key || kind.isA loading

end FailureKind

/-- Why a property file was not accepted. -/
inductive ConfigCause where
  /-- The file cannot be read. -/
  | unreadable (failure : Files.Failure)
  /-- The text is not well-formed, or a part of it has no meaning. -/
  | illFormed
  /-- The file holds something other than a mapping. -/
  | notMapping (kind : String)
  /-- A property cannot be taken over; the text says which and why. -/
  | property (message : String)
  deriving DecidableEq, Repr

/-- The wording of a cause. -/
def ConfigCause.message : ConfigCause → String
  | unreadable f => s!"Cannot read property file: {f.message}"
  | illFormed => "Invalid YAML"
  | notMapping kind => s!"Expected a mapping of properties, got {kind}"
  | property message => message

/-- What is added to a cause: an ill-formed text is marked as the place of the fault. -/
def ConfigCause.details : ConfigCause → Option String
  | illFormed => some "<yaml>"
  | _ => none

/-- The cause that an operation ends with when it does not answer. -/
inductive Fault where
  /-- A failure of the library with a text of its own. -/
  | general (message : String) (details : Option String)
  /-- A property file was not accepted. -/
  | config (message : String) (path : Option String) (details : Option String)
  /-- A fact cannot be resolved. -/
  | resolution (message : String) (consulted : List String)
  /-- The current user is blank. -/
  | missingIdentity (consulted : List String)
  /-- No version is configured. -/
  | missingVersion (consulted : List String)
  /-- A version text has no numeric components. -/
  | unparsableVersion (value : Value) (consulted : List String)
  /-- A property is a list of some kind. -/
  | listProperty (name : String)
  /-- A component of a version is not a natural number. -/
  | badComponent (value : Value)
  /-- A numeral is too long to be read (with its length) or written. -/
  | digitLimit (digits : Option Nat)
  /-- A table has no such property. -/
  | missingProperty (name : String)
  /-- A value of this kind has no elements. -/
  | notIterable (kind : String)
  /-- A version and a value of this kind have no order. -/
  | notComparable (relation kind : String)
  /-- A report in JSON cannot hold a value of this kind. -/
  | notInJson (kind : String)
  /-- A report in JSON cannot have a key of this kind. -/
  | notJsonKey (kind : String)
  /-- A report in YAML cannot hold this value. -/
  | notInYaml (value : Value)
  /-- A definition is not a name with a value. -/
  | badDefinition (argument : String)
  /-- A definition of the list has no text. -/
  | emptyDefinition (index : Nat)
  /-- A date or a time does not exist. -/
  | calendar (fault : Calendar.Fault)
  /-- A file is not UTF-8. -/
  | undecodable (fault : Utf8.Fault)
  /-- A path holds a null character. -/
  | nullCharacter
  /-- A path holds surrogates that have no bytes. -/
  | unencodable (u : Files.Unencodable)
  /-- Something holds itself or lies too deep, and the stack has no room for going through it. -/
  | endless
  /-- A report in JSON cannot hold something that holds itself. -/
  | circular
  /-- A text stands for no integer in the base. -/
  | badInteger (base : Nat) (text : String)
  /-- A text stands for no number. -/
  | badFloat (text : String)
  /-- A word stands for no truth value. -/
  | badTruth (word : String)
  /-- A number has no characters. -/
  | emptyNumber
  /-- A text stands for no point in time. -/
  | badTimestamp
  /-- A value of this kind stands where a text is expected. -/
  | notText (kind : String)
  /-- A character code is too large, perhaps even for a machine word. -/
  | badCharacter (beyondWord : Bool)
  /-- A sexagesimal place is too large for a double. -/
  | placeTooLarge
  /-- The text about the version has marks that do not fit. -/
  | template (fault : Template.Fault)
  /-- A failure of something that the library calls. -/
  | foreign (kind : FailureKind) (message : String)

namespace Fault

/-- The most that is shown of the text of an integer. -/
def shownLength : Nat := 200

/-- The shown part of a text. -/
def shortened (s : String) : String := onChars (List.take shownLength) s

/-- The fault of a property file at a path. -/
def ofConfig (cause : ConfigCause) (path : String) : Fault :=
  config cause.message (some path) cause.details

/-- The wording of a fault. -/
def message : Fault → String
  | general m _ => m
  | config m path _ =>
    match path with
    | none | some "" => s!"Config error: {m}"
    | some p => s!"Config error in {p}: {m}"
  | resolution m _ => m
  | missingIdentity _ => "No username available"
  | missingVersion _ => "No configured runtime version value"
  | unparsableVersion v _ => s!"No version parsed for {v.literal}"
  | listProperty name => s!"Property '{name}' must be a scalar, got a list"
  | badComponent v => s!"Version components must be non-negative integers, got {v.literal}"
  | digitLimit digits =>
    let held :=
      match digits with
      | some n => s!": value has {natText n} digits"
      | none => ""
    s!"Exceeds the limit ({natText Number.digitLimit} digits) for integer string conversion" ++
      held ++ "; use sys.set_int_max_str_digits() to increase the limit"
  | missingProperty name => quoted name
  | notIterable kind => s!"'{kind}' object is not iterable"
  | notComparable relation kind =>
    s!"'{relation}' not supported between instances of 'VersionInfo' and '{kind}'"
  | notInJson kind => s!"Object of type {kind} is not JSON serializable"
  | notJsonKey kind => s!"keys must be str, int, float, bool or None, not {kind}"
  | notInYaml v => s!"('cannot represent an object', {v.literal})"
  | badDefinition argument => s!"expected name=value, got {quoted argument}"
  | emptyDefinition index =>
    s!"dictionary update sequence element #{natText index} has length 0; 2 is required"
  | calendar f => f.message
  | undecodable f => f.message
  | nullCharacter => Files.Failure.nullCharacter.message
  | unencodable u => u.message
  | endless => "maximum recursion depth exceeded"
  | circular => "Circular reference detected"
  | badInteger base text =>
    s!"invalid literal for int() with base {natText base}: {shortened (quoted text)}"
  | badFloat text => s!"could not convert string to float: {quoted text}"
  | badTruth word => quoted word
  | emptyNumber => "string index out of range"
  | badTimestamp => "'NoneType' object has no attribute 'groupdict'"
  | notText kind => s!"expected string or bytes-like object, got '{kind}'"
  | badCharacter beyondWord =>
    if beyondWord then "Python int too large to convert to C int"
    else "chr() arg not in range(0x110000)"
  | placeTooLarge => "int too large to convert to float"
  | template f => f.message
  | foreign kind m => if kind == .key then quoted m else m

/-- The properties that were consulted in vain. -/
def consulted : Fault → List String
  | resolution _ c | missingIdentity c | missingVersion c | unparsableVersion _ c => c
  | _ => []

/-- What is added to the wording. -/
def details (f : Fault) : Option String :=
  match f with
  | general _ d => d
  | config _ _ d => d
  | _ =>
    match f.consulted with
    | [] => none
    | names => some ("consulted " ++ String.intercalate ", " names)

/-- The wording with the details below it. -/
def text (f : Fault) : String :=
  match f.details with
  | none | some "" => f.message
  | some d => s!"{f.message}\n  Details: {d}"

/-- Whether a fact could not be resolved. -/
def isResolution : Fault → Bool
  | resolution .. | missingIdentity _ | missingVersion _ | unparsableVersion .. => true
  | _ => false

/-- The code that the command ends with, for the faults that it reports. -/
def exit? : Fault → Option Exit
  | general .. => some .genericError
  | config .. => some .configError
  | f => if f.isResolution then some .resolutionError else none

/-- A fault that the command does not report. -/
abbrev Fatal := { f : Fault // f.exit? = none }

/-- The kind of a fault of a template. -/
def templateKind : Template.Fault → FailureKind
  | .unknownName _ => .key
  | .openName | .openMark | .wideWidth | .widePrecision | .unknownLetter .. => .value
  | .noArgument | .notWidth | .notInteger .. | .notNumber .. | .notReal _ | .notCharacter => .type
  | .outOfMemory => .memory

/-- The kind of a fault, for the faults that callers tell apart by it. A version that cannot be
parsed is also a bad value; the other faults that the command reports have no kind. -/
def kind? : Fault → Option FailureKind
  | general .. | config .. | resolution .. | missingIdentity _ | missingVersion _
  | notInYaml _ => none
  | unparsableVersion .. | listProperty _ | badComponent _ | digitLimit _ | calendar _
  | undecodable _ | nullCharacter | unencodable _ | circular | badInteger .. | badFloat _
  | emptyDefinition _ => some .value
  | endless => some .recursion
  | missingProperty _ | badTruth _ => some .key
  | notIterable _ | notComparable .. | notInJson _ | notJsonKey _ | badDefinition _
  | notText _ => some .type
  | emptyNumber => some .index
  | badTimestamp => some .attribute
  | badCharacter beyondWord => some (if beyondWord then .overflow else .value)
  | placeTooLarge => some .overflow
  | template f => some (templateKind f)
  | foreign kind _ => some kind

/-- Whether the fault is of a kind. -/
def isA (f : Fault) (kind : FailureKind) : Bool :=
  match f.kind? with
  | some k => k.isA kind
  | none => false

/-- Whether the fault means that what was asked for is not there. -/
def isAbsence (f : Fault) : Bool :=
  match f.kind? with
  | some k => k.isAbsence
  | none => false

end Fault

theorem exceptMap_eq_ok_iff {α β : Type} {r : Except Fault α} {f : α → β} {b : β} :
    r.map f = .ok b ↔ ∃ a, r = .ok a ∧ f a = b := by
  cases r <;> simp [Except.map]

theorem exceptMap_eq_error_iff {α β : Type} {r : Except Fault α} {f : α → β} {e : Fault} :
    r.map f = .error e ↔ r = .error e := by
  cases r <;> simp [Except.map]

/-- The plain text of a value, if its integers are short enough to be written. -/
def Value.written (v : Value) : Except Fault String :=
  if v.isWritable then .ok v.plain else .error (.digitLimit none)

theorem Value.written_eq_ok_iff {v : Value} {text : String} :
    v.written = .ok text ↔ v.isWritable = true ∧ text = v.plain := by
  unfold written
  cases v.isWritable <;> simp [eq_comm]

theorem Value.written_eq_error_iff {v : Value} {e : Fault} :
    v.written = .error e ↔ v.isWritable = false ∧ e = .digitLimit none := by
  unfold written
  cases v.isWritable <;> simp [eq_comm]

/-- The elements of a value: those of a collection, the keys of a mapping, the characters of a text
and the numbers of bytes. -/
def Value.elements : Value → Except Fault (List Value)
  | .list items => .ok items
  | .tuple items => .ok items
  | .set items => .ok items
  | .map entries => .ok (entries.map Prod.fst)
  | .text s => .ok (s.toList.map fun c => .text (String.singleton c))
  | .bytes b => .ok (b.map fun n => .int n.toNat)
  | v => .error (.notIterable v.kind)

end HostFacts
