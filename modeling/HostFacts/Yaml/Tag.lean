import HostFacts.Text.Pattern

/-!
# Tags

A tag says what kind of value a node stands for. A node without a tag of its own has that of its
shape; a plain scalar has the one that its text suggests (`Tag.ofPlain`).
-/

namespace HostFacts.Yaml

open HostFacts.Text

/-- The kind of value that a node stands for. -/
inductive Tag where
  | null
  | truth
  | integer
  | float
  | binary
  | timestamp
  | text
  | sequence
  | mapping
  | set
  | pairs
  | orderedMap
  /-- As a key: the entries of the value are taken over. -/
  | merge
  /-- As a key: the value stands for the whole mapping where a scalar is expected. -/
  | value
  /-- A tag without a meaning. -/
  | unknown
  deriving DecidableEq, Repr

/-- What the tags with a meaning have in front. -/
def tagSpace : List Char := "tag:yaml.org,2002:".toList

/-- The tags with a meaning, by their names. -/
def tagNames : List (String × Tag) :=
  [("null", .null), ("bool", .truth), ("int", .integer), ("float", .float), ("binary", .binary),
   ("timestamp", .timestamp), ("str", .text), ("seq", .sequence), ("map", .mapping), ("set", .set),
   ("pairs", .pairs), ("omap", .orderedMap), ("merge", .merge), ("value", .value)]

/-- The meaning of a tag that is written in full. -/
def Tag.ofUri (uri : List Char) : Tag :=
  if tagSpace.isPrefixOf uri then
    (tagNames.lookup (String.ofList (uri.drop tagSpace.length))).getD .unknown
  else .unknown

/-! ## Plain scalars -/

namespace Suggested

open Pattern

/-- The words for truth values. -/
def truthWords : Pattern :=
  texts ["yes", "Yes", "YES", "no", "No", "NO", "true", "True", "TRUE", "false", "False", "FALSE",
    "on", "On", "ON", "off", "Off", "OFF"]

/-- Optional sign. -/
def sign : Pattern := optional (oneOf "+-")

/-- Digits and underscores. -/
def loose : Pattern := many (alt digit (char '_'))

/-- Places to the base sixty behind colons, at least one. -/
def sixties : Pattern := Pattern.some (all [char ':', optional (between '0' '5'), digit])

/-- An exponent with a sign, or nothing. -/
def exponent : Pattern := optional (all [oneOf "eE", oneOf "+-", Pattern.some digit])

/-- Numbers with a point. -/
def floats : Pattern :=
  any
    [all [sign, digit, loose, char '.', loose, exponent],
     all [char '.', digit, loose, exponent],
     all [sign, digit, loose, sixties, char '.', loose],
     all [sign, texts [".inf", ".Inf", ".INF"]],
     texts [".nan", ".NaN", ".NAN"]]

/-- Integers to the bases two, eight, ten, sixteen and sixty. -/
def integers : Pattern :=
  any
    [all [sign, text "0b", Pattern.some (oneOf "01_")],
     all [sign, char '0', Pattern.some (alt (between '0' '7') (char '_'))],
     all [sign, alt (char '0') (seq (between '1' '9') loose)],
     all [sign, text "0x",
       Pattern.some (any [digit, between 'a' 'f', between 'A' 'F', char '_'])],
     all [sign, between '1' '9', loose, sixties]]

/-- The words for null. -/
def nullWords : Pattern := texts ["~", "null", "Null", "NULL"]

/-- One digit or two. -/
def oneOrTwo : Pattern := seq digit (optional digit)

/-- White space before a part of a timestamp. -/
def gaps : Pattern := many (oneOf " \t")

/-- Days, with or without a time. -/
def timestamps : Pattern :=
  let zone := optional (all [gaps,
    alt (char 'Z') (all [oneOf "+-", oneOrTwo, optional (seq (char ':') (times 2 digit))])])
  alt
    (all [times 4 digit, char '-', times 2 digit, char '-', times 2 digit])
    (all [times 4 digit, char '-', oneOrTwo, char '-', oneOrTwo,
      alt (oneOf "Tt") (Pattern.some (oneOf " \t")), oneOrTwo, char ':', times 2 digit, char ':',
      times 2 digit, optional (seq (char '.') (many digit)), zone])

end Suggested

/-- The patterns of plain scalars that are not text. -/
def suggestions : List (Pattern × Tag) :=
  [(Suggested.truthWords, .truth), (Suggested.floats, .float), (Suggested.integers, .integer),
   (Pattern.text "<<", .merge), (Suggested.nullWords, .null),
   (Suggested.timestamps, .timestamp), (Pattern.text "=", .value),
   (Pattern.texts ["!", "&", "*"], .unknown)]

/-- A text without a line feed at its end. -/
def withoutFinalBreak (s : List Char) : List Char :=
  if s.getLast? = some '\n' then s.dropLast else s

/-- The tag that the text of a plain scalar suggests; no text at all stands for null. -/
def Tag.ofPlain (s : List Char) : Tag :=
  if s.isEmpty then .null
  else
    match suggestions.find? fun e => e.1.accepts (withoutFinalBreak s) with
    | some (_, tag) => tag
    | none => .text

end HostFacts.Yaml
