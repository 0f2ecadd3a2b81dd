import HostFacts.CommandLine.Options

/-!
# Reading arguments

Arguments are first told apart one by one (`Arg.of`): options, which may carry a value, and plain
texts. Behind `--` everything is plain. An option can be abbreviated as long as only one fits, and
short options without values can share one dash. Then the options are done in order; the help and
the version end the reading. Arguments that belong to no option are collected and refused in the
end. A value that is attached to its option and is just `--` counts as left out.
-/

namespace HostFacts.CommandLine

open HostFacts.Number HostFacts.Text

/-! ## Single arguments -/

/-- An argument. -/
inductive Arg where
  | plain (text : String)
  /-- The mark behind which everything is plain. -/
  | separator
  /-- An option, with the text that is attached to it. -/
  | option (o : Opt) (isShort : Bool) (attached : Option (List Char))
  /-- It looks like an option, but there is none. -/
  | unknown (text : String)

/-- Whether a text is a negative number: digits with at most one point, which is not the last
character. -/
def isNegative : List Char → Bool
  | '-' :: rest =>
    let rest := (if rest.getLast? = some '\n' then rest.dropLast else rest).map plainDigit
    let whole := rest.takeWhile isDigit
    match rest.dropWhile isDigit with
    | [] => !whole.isEmpty
    | '.' :: places => !places.isEmpty && places.all isDigit
    | _ => false
  | _ => false

/-- A text that starts like an option but is none. -/
def notOption (s : List Char) : Arg :=
  if isNegative s || s.contains ' ' then .plain (String.ofList s) else .unknown (String.ofList s)

/-- Tells what an argument is. -/
def Arg.of (text : String) : Except Misuse Arg :=
  match text.toList with
  | ['-', '-'] => .ok .separator
  | '-' :: '-' :: rest =>
    let (word, value) := cutFirst '=' rest
    match Opt.withLead word with
    | [] => .ok (notOption text.toList)
    | [o] => .ok (.option o false value)
    | fitting =>
      match fitting.find? (·.word == word) with
      | some o => .ok (.option o false value)
      | none => .error (.ambiguous text fitting)
  | '-' :: c :: rest =>
    match Opt.ofLetter? c with
    | none => .ok (notOption text.toList)
    | some o =>
      match rest with
      | [] => .ok (.option o true none)
      | '=' :: value => .ok (.option o true (some value))
      | value => .ok (.option o true (some value))
  | _ => .ok (.plain text)

/-- Tells what the arguments are. -/
def classify : List String → Except Misuse (List Arg)
  | [] => .ok []
  | text :: rest => do
    match ← Arg.of text with
    | .separator => return .separator :: rest.map Arg.plain
    | arg => return arg :: (← classify rest)

/-! ## Options that share a dash -/

/-- The options of one argument. -/
structure Cluster where
  /-- The options with their values; a value may be left out. -/
  given : List (Opt × Option String)
  /-- The last option, if its value has to be the next argument. -/
  open? : Option Opt

/-- Adds an option without a value in front. -/
def Cluster.add (o : Opt) (c : Cluster) : Cluster := { c with given := (o, none) :: c.given }

/-- An option with the value that is attached to it. -/
def Cluster.attached (o : Opt) (value : List Char) : Cluster :=
  ⟨[(o, if value = ['-', '-'] then none else some (String.ofList value))], none⟩

/-- Takes a short option and what follows its letter apart: a value, or more letters. -/
def letters (o : Opt) : List Char → Except Misuse Cluster
  | [] => .ok (if o.takesValue then ⟨[], some o⟩ else ⟨[(o, none)], none⟩)
  | c :: rest =>
    if o.takesValue then .ok (.attached o (c :: rest))
    else
      match Opt.ofLetter? c with
      | some next => (letters next rest).map (Cluster.add o)
      | none => .error (.strayValue o (String.ofList (c :: rest)))

/-- Takes an option with what is attached to it apart. -/
def cluster (o : Opt) (isShort : Bool) : Option (List Char) → Except Misuse Cluster
  | none => letters o []
  | some value =>
    if o.takesValue then .ok (.attached o value)
    else if isShort && !value.isEmpty then letters o value
    else .error (.strayValue o (String.ofList value))

/-! ## Doing the options -/

/-- What ends the reading of arguments before its end. -/
inductive Stop where
  | help
  | version
  | misuse (m : Misuse)

/-- What an option does with its value. -/
def Opt.apply (o : Opt) (value : Option String) (s : Settings) : Except Stop Settings :=
  match o, value with
  | .help, _ => .error .help
  | .version, _ => .error .version
  | .config, value => .ok { s with config := value }
  | .define, none => .ok { s with definitions := s.definitions ++ [none] }
  | .define, some argument =>
    match definition? argument with
    | some d => .ok { s with definitions := s.definitions ++ [some d] }
    | none => .error (.misuse (.badDefinition argument))
  | .format, none => .ok { s with format := .yaml }
  | .format, some name =>
    match Format.ofName? name with
    | some chosen => .ok { s with format := chosen }
    | none => .error (.misuse (.badFormat name))
  | .verbose, _ => .ok { s with verbosity := s.verbosity + 1 }

/-- Does the options of one argument. -/
def applyAll (given : List (Opt × Option String)) (s : Settings) : Except Stop Settings :=
  given.foldlM (fun s (o, value) => o.apply value s) s

/-- Does options in order; the arguments in `extras` were left over. -/
def applyArgs (s : Settings) (extras : List String) : List Arg → Except Stop Settings
  | [] => if extras.isEmpty then .ok s else .error (.misuse (.unrecognized extras))
  | .plain text :: rest => applyArgs s (extras ++ [text]) rest
  | .separator :: rest => applyArgs s (extras ++ ["--"]) rest
  | .unknown text :: rest => applyArgs s (extras ++ [text]) rest
  | .option o isShort value :: rest => do
    let c ← (cluster o isShort value).mapError Stop.misuse
    match c.open? with
    | none => applyArgs (← applyAll c.given s) extras rest
    | some last =>
      match rest with
      | .plain text :: rest =>
        applyArgs (← applyAll (c.given ++ [(last, some text)]) s) extras rest
      | _ => throw (.misuse (.missingValue last))

/-- The settings that arguments ask for. -/
def parse (args : List String) : Except Stop Settings := do
  applyArgs .default [] (← (classify args).mapError Stop.misuse)

end HostFacts.CommandLine
