import HostFacts.Number.Numeral
import HostFacts.Text.Base64
import HostFacts.Text.Search
import HostFacts.Yaml.Basic
import HostFacts.Yaml.Tag

/-!
# The values of scalars

What the text of a scalar stands for under its tag. Underscores in numbers are left out, and numbers
may be written in places to the base sixty. A text that does not fit its tag is a fault of its own,
except that bytes have to be well-formed.
-/

namespace HostFacts.Yaml

open HostFacts.Number HostFacts.Text

/-- Ends with a fault of its own. -/
def Flaw.of {α : Type} (f : Fault.Fatal) : Except Flaw α := .error (.fault f)

/-! ## Truth values and numbers -/

/-- The words for truth and falsehood, in small letters. -/
def truth? (word : String) : Option Bool :=
  if ["yes", "true", "on"].contains word then some true
  else if ["no", "false", "off"].contains word then some false
  else none

/-- The truth value that a word stands for. -/
def truthValue (s : List Char) : Except Flaw Bool :=
  let word := String.ofList (lower s)
  match truth? word with
  | some b => .ok b
  | none => Flaw.of ⟨.badTruth word, rfl⟩

/-- The integer that a numeral in a base stands for. A text with too many digits in front is not
read to its end. -/
def integerIn (base : Nat) (s : List Char) : Except Flaw Int :=
  if base = 10 && digitLimit < leadingDigits s then
    Flaw.of ⟨.digitLimit (some (leadingDigits s)), rfl⟩
  else
    match numeral? base s with
    | none => Flaw.of ⟨.badInteger base (String.ofList s), rfl⟩
    | some n => .ok (n.value base)

/-- The number of places to the base sixty. -/
def ofPlaces (places : List Int) : Int := places.foldl (fun n p => n * 60 + p) 0

/-- The integer without its sign. -/
def unsignedInteger (s : List Char) : Except Flaw Int :=
  if s = ['0'] then .ok 0
  else
    match s with
    | [] => Flaw.of ⟨.emptyNumber, rfl⟩
    | '0' :: 'b' :: rest => integerIn 2 rest
    | '0' :: 'x' :: rest => integerIn 16 rest
    | '0' :: _ => integerIn 8 s
    | _ =>
      if s.contains ':' then ((splitAll ':' s).mapM (integerIn 10)).map ofPlaces
      else integerIn 10 s

/-- The integer that a text stands for. -/
def integerValue (s : List Char) : Except Flaw Int :=
  let (negative, rest) := signed (s.filter (· != '_'))
  (unsignedInteger rest).map fun n => if negative then -n else n

/-- The floating-point number that a text without underscores stands for. -/
def floatIn (s : List Char) : Except Flaw Float :=
  match float? s with
  | some x => .ok x
  | none => Flaw.of ⟨.badFloat (String.ofList s), rfl⟩

/-- The highest place to the base sixty whose unit is a double. -/
def highestPlace : Nat := 173

/-- The sum of places to the base sixty, the lowest first; `place` is the number of places
before. -/
def sumPlaces (acc : Float) (place : Nat) : List Float → Except Flaw Float
  | [] => .ok acc
  | p :: rest =>
    if highestPlace < place then Flaw.of ⟨.placeTooLarge, rfl⟩
    else sumPlaces (acc + p * ofScientific (Nat.pow 60 place) 0) (place + 1) rest

/-- The word for not-a-number, without its sign. -/
def nanWord : List Char := ".nan".toList

/-- The number without its sign. -/
def unsignedFloat (s : List Char) : Except Flaw Float :=
  if s = ".inf".toList then .ok (Float.ofBits 0x7ff0000000000000)
  else if s = nanWord then .ok (Float.ofBits 0x7ff8000000000000)
  else if s.contains ':' then do
    let places ← (splitAll ':' s).mapM floatIn
    sumPlaces 0.0 0 places.reverse
  else floatIn s

/-- The text of a floating-point number in small letters and without underscores. -/
def floatText (s : List Char) : List Char := lower (s.filter (· != '_'))

/-- The floating-point number that a text stands for. -/
def floatValue (s : List Char) : Except Flaw Float :=
  match floatText s with
  | [] => Flaw.of ⟨.emptyNumber, rfl⟩
  | text =>
    let (negative, rest) := signed text
    (unsignedFloat rest).map fun x => if negative then -x else x

/-- Whether a scalar is the word for not-a-number. As a key the word stands for one thing wherever
it is written, although not-a-number does not equal itself. -/
def isNanWord (tag : Tag) (s : List Char) : Bool :=
  tag == .float && (signed (floatText s)).2 == nanWord

/-! ## Bytes and timestamps -/

/-- The bytes that a text stands for. -/
def bytesValue (s : List Char) : Except Flaw (List UInt8) :=
  if s.all (·.toNat < 128) then
    match Base64.decode s with
    | some bytes => .ok bytes
    | none => .error .illFormed
  else .error .illFormed

/-- A number of up to `most` digits in front of a text, at least `least`. -/
def shortNumber? (least most : Nat) (s : List Char) : Option (Nat × List Char) :=
  let digits := (s.take most).takeWhile isDigit
  if least ≤ digits.length then some (ofDecimal digits, s.drop digits.length) else none

/-- The rest of a text behind a character. -/
def behind? (c : Char) : List Char → Option (List Char)
  | d :: rest => if d = c then some rest else none
  | [] => none

/-- The microseconds of a fraction of a second: digits after the sixth do not count. -/
def microseconds (digits : List Char) : Nat :=
  let six := digits.take 6
  ofDecimal (six ++ List.replicate (6 - six.length) '0')

/-- The distance from universal time in minutes at the end of a timestamp. -/
def zone? (s : List Char) : Option (Option Int) :=
  match s.dropWhile (fun c => c = ' ' || c = '\t') with
  | [] => if s.isEmpty then some none else none
  | ['Z'] => some (some 0)
  | c :: rest =>
    if c = '+' || c = '-' then do
      let (hours, rest) ← shortNumber? 1 2 rest
      let minutes ←
        match rest with
        | [] => some 0
        | _ => do
          let (minutes, rest) ← shortNumber? 2 2 (← behind? ':' rest)
          if rest.isEmpty then some minutes else none
      let distance : Int := hours * 60 + minutes
      return some (if c = '-' then -distance else distance)
    else none

/-- The time of day in a timestamp: hour, minute, second, microsecond and zone. -/
def clock? (s : List Char) : Option (Nat × Nat × Nat × Nat × Option Int) := do
  let (hour, s) ← shortNumber? 1 2 s
  let (minute, s) ← shortNumber? 2 2 (← behind? ':' s)
  let (second, s) ← shortNumber? 2 2 (← behind? ':' s)
  let (fraction, s) :=
    match behind? '.' s with
    | some rest => (rest.takeWhile isDigit, rest.dropWhile isDigit)
    | none => ([], s)
  return (hour, minute, second, microseconds fraction, ← zone? s)

/-- What stands between the day and the time: a letter, or white space. -/
def behindDay? : List Char → Option (List Char)
  | [] => none
  | c :: rest =>
    if c = 'T' || c = 't' then some rest
    else if c = ' ' || c = '\t' then some (rest.dropWhile fun c => c = ' ' || c = '\t')
    else none

/-- The numbers of a timestamp: the day, and the time if there is one. -/
def timestamp? (s : List Char) :
    Option (Calendar.Date × Option (Nat × Nat × Nat × Nat × Option Int)) := do
  let (year, s) ← shortNumber? 4 4 s
  let (month, s) ← shortNumber? 1 2 (← behind? '-' s)
  let (day, s) ← shortNumber? 1 2 (← behind? '-' s)
  match s with
  | [] => return (⟨year, month, day⟩, none)
  | s => return (⟨year, month, day⟩, some (← clock? (← behindDay? s)))

/-- The day or the moment that a text stands for. -/
def timestampValue (s : List Char) : Except Flaw Value :=
  let fromCalendar {α : Type} (make : α → Value) : Except Calendar.Fault α → Except Flaw Value
    | .ok a => .ok (make a)
    | .error f => Flaw.of ⟨.calendar f, rfl⟩
  match timestamp? (withoutFinalBreak s) with
  | none => Flaw.of ⟨.badTimestamp, rfl⟩
  | some (date, none) => fromCalendar .date date.check
  | some (date, some (hour, minute, second, microsecond, offset)) =>
    fromCalendar .moment (Calendar.Moment.check ⟨date, hour, minute, second, microsecond, offset⟩)

/-! ## All scalars -/

/-- The value of a scalar; tags of collections and tags without a meaning do not fit one. -/
def scalarValue (tag : Tag) (s : List Char) : Except Flaw Value :=
  match tag with
  | .null => .ok .null
  | .truth => (truthValue s).map .bool
  | .integer => (integerValue s).map .int
  | .float => (floatValue s).map .float
  | .binary => (bytesValue s).map .bytes
  | .timestamp => timestampValue s
  | .text => .ok (.text (String.ofList s))
  | _ => .error .illFormed

end HostFacts.Yaml
