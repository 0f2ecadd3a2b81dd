import HostFacts.Pairs
import HostFacts.Number.Numeral
import HostFacts.Text.Quoted
import HostFacts.Text.Search

/-!
# Templates

A template is a text with marks for other texts. A mark starts with a percent sign, and `%%` is
a percent sign. `%(name)s` stands for the text with that name, `%(name)r` for its quoted form and
`%(name)a` for that in ASCII; between the name and the letter there may be flags, a width and
a precision. The letters for numbers are known but never fit a text. A mark without a name stands
for all names and texts together; it takes them up, so only the first mark can go without a name.

`expand` reads a template character by character. `Phase` tells which part of a mark comes next, and
the first thing that does not fit ends it with a `Fault`. A text without percent signs is a template
of itself (`expand_of_not_mem`).
-/

namespace HostFacts.Text.Template

open HostFacts.Number

/-- What is wrong with a template. -/
inductive Fault where
  /-- The template ends inside a name. -/
  | openName
  /-- The template ends inside a mark. -/
  | openMark
  | unknownName (name : List Char)
  /-- There is nothing left that the mark could stand for. -/
  | noArgument
  /-- The width or the precision is not written in digits. -/
  | notWidth
  | wideWidth
  | widePrecision
  /-- A value of this kind is no integer. -/
  | notInteger (letter : Char) (kind : String)
  /-- A value of this kind is no number. -/
  | notNumber (letter : Char) (kind : String)
  /-- A value of this kind is no floating-point number. -/
  | notReal (kind : String)
  | notCharacter
  /-- A mark ends with a letter that has no meaning. -/
  | unknownLetter (letter : Char) (index : Nat)
  /-- There is no room for so wide a text. -/
  | outOfMemory
  deriving DecidableEq, Repr

/-- A character as it is named in a message. -/
def nameable (c : Char) : Char := if '\x1f' ≤ c && c ≤ '~' then c else '?'

/-- The hexadecimal digits of a code. -/
def hexDigits (n : Nat) : List Char :=
  match (hexPadded false 8 n).dropWhile (· == '0') with
  | [] => ['0']
  | digits => digits

/-- The wording of a fault. -/
def Fault.message : Fault → String
  | openName => "incomplete format key"
  | openMark => "incomplete format"
  | unknownName name => String.ofList (quote name)
  | noArgument => "not enough arguments for format string"
  | notWidth => "* wants int"
  | wideWidth => "width too big"
  | widePrecision => "precision too big"
  | notInteger letter kind => s!"%{letter} format: an integer is required, not {kind}"
  | notNumber letter kind => s!"%{letter} format: a real number is required, not {kind}"
  | notReal kind => s!"must be real number, not {kind}"
  | notCharacter => "%c requires int or char"
  | unknownLetter letter index =>
    let code := String.ofList (hexDigits (codeOf letter))
    s!"unsupported format character '{nameable letter}' (0x{code}) at index {natText index}"
  | outOfMemory => ""

/-! ## What a mark stands for -/

/-- What a mark stands for. -/
inductive Argument where
  | text (s : List Char)
  /-- All names with their texts. -/
  | all (entries : Pairs (List Char) (List Char))

namespace Argument

/-- The word for the kind of an argument in messages. -/
def kind : Argument → String
  | text _ => "str"
  | all _ => "dict"

/-- The argument with its kind visible. -/
def literal : Argument → List Char
  | text s => quote s
  | all entries =>
    let parts := entries.map fun (name, s) => quote name ++ [':', ' '] ++ quote s
    '{' :: joinWith [',', ' '] parts ++ ['}']

/-- The argument as it is. -/
def plain : Argument → List Char
  | text s => s
  | a => a.literal

/-- A text in which escapes stand for what is not ASCII. -/
def ascii (s : List Char) : List Char :=
  s.flatMap fun c => if c.toNat < 0x80 then [c] else codeEscape (codeOf c)

/-- The form of an argument that a letter at an index asks for. -/
def form (a : Argument) (letter : Char) (index : Nat) : Except Fault (List Char) :=
  match letter with
  | 's' => .ok a.plain
  | 'r' => .ok a.literal
  | 'a' => .ok (ascii a.literal)
  | 'd' | 'i' | 'u' => .error (.notNumber letter a.kind)
  | 'o' | 'x' | 'X' => .error (.notInteger letter a.kind)
  | 'e' | 'E' | 'f' | 'F' | 'g' | 'G' => .error (.notReal a.kind)
  | 'c' =>
    match a with
    | text [c] => .ok [c]
    | _ => .error .notCharacter
  | _ => .error (.unknownLetter letter index)

end Argument

/-! ## Marks -/

/-- How a text is fitted in. -/
structure Layout where
  left : Bool
  width : Nat
  precision : Option Nat

/-- The layout that changes nothing. -/
def Layout.free : Layout := ⟨false, 0, none⟩

/-- Cuts a text off behind the precision and fills it up to the width. -/
def Layout.fit (l : Layout) (s : List Char) : List Char :=
  let cut := match l.precision with | some n => s.take n | none => s
  let spaces := List.replicate (l.width - cut.length) ' '
  if l.left then cut ++ spaces else spaces ++ cut

/-- The largest number that is read as a width. -/
def widthLimit : Nat := 0x7fffffffffffffff

/-- The largest number that is read as a precision. -/
def precisionLimit : Nat := 0x7fffffff

/-- The widest text that there is room for. -/
def room : Nat := 100000000

/-- What comes next in a template. -/
inductive Phase where
  | text
  /-- Behind the sign of a mark. -/
  | sign
  /-- Inside a name, of which this was read, the last first. -/
  | name (depth : Nat) (read : List Char)
  | flags (l : Layout)
  | width (l : Layout)
  /-- Behind the point before a precision. -/
  | point (l : Layout)
  | precision (l : Layout)
  /-- Behind a letter for a size, which changes nothing. -/
  | size (l : Layout)

/-- How far a template is read. -/
structure Progress where
  phase : Phase
  /-- What the next mark stands for if it has no name. -/
  argument : Option Argument
  /-- The text so far, the latest character first. -/
  written : List Char
  /-- The number of characters that were read. -/
  index : Nat

namespace Progress

/-- Goes on to a phase. -/
def goTo (p : Progress) (phase : Phase) : Except Fault Progress := .ok { p with phase }

/-- Takes the width or the precision from an argument: it is never a number. -/
def star (p : Progress) : Except Fault Progress :=
  .error (if p.argument.isSome then .notWidth else .noArgument)

/-- Ends a mark with its letter. -/
def letter (p : Progress) (l : Layout) (c : Char) : Except Fault Progress := do
  match p.argument with
  | none => throw .noArgument
  | some a =>
    let s ← a.form c p.index
    if room < l.width then throw .outOfMemory
    return { p with phase := .text, argument := none, written := (l.fit s).reverse ++ p.written }

/-- Goes on behind width and precision. -/
def afterPrecision (p : Progress) (l : Layout) (c : Char) : Except Fault Progress :=
  if c = 'h' || c = 'l' || c = 'L' then p.goTo (.size l) else p.letter l c

/-- Goes on behind the width. -/
def afterWidth (p : Progress) (l : Layout) (c : Char) : Except Fault Progress :=
  if c = '.' then p.goTo (.point { l with precision := some 0 }) else p.afterPrecision l c

/-- Adds a digit to the width. -/
def widthDigit (p : Progress) (l : Layout) (c : Char) : Except Fault Progress :=
  let width := l.width * 10 + digitValue c
  if widthLimit < width then .error .wideWidth else p.goTo (.width { l with width })

/-- Adds a digit to the precision. -/
def precisionDigit (p : Progress) (l : Layout) (c : Char) : Except Fault Progress :=
  let precision := l.precision.getD 0 * 10 + digitValue c
  if precisionLimit < precision then .error .widePrecision
  else p.goTo (.precision { l with precision := some precision })

/-- Goes on behind the name, if there is one: flags come first. -/
def flag (p : Progress) (l : Layout) (c : Char) : Except Fault Progress :=
  if c = '-' then p.goTo (.flags { l with left := true })
  else if c = '+' || c = ' ' || c = '#' || c = '0' then p.goTo (.flags l)
  else if c = '*' then p.star
  else if isDigit c then p.widthDigit l c
  else p.afterWidth l c

/-- Ends a name. -/
def named (p : Progress) (entries : Pairs (List Char) (List Char)) (name : List Char) :
    Except Fault Progress :=
  match entries.get? name with
  | some s => .ok { p with phase := .flags .free, argument := some (.text s) }
  | none => .error (.unknownName name)

/-- Reads a character in its phase. -/
def read (entries : Pairs (List Char) (List Char)) (p : Progress) (c : Char) :
    Except Fault Progress :=
  match p.phase with
  | .text => if c = '%' then p.goTo .sign else .ok { p with written := c :: p.written }
  | .sign =>
    if c = '%' then .ok { p with phase := .text, written := c :: p.written }
    else if c = '(' then p.goTo (.name 0 [])
    else p.flag .free c
  | .name depth name =>
    if c = ')' && depth = 0 then p.named entries name.reverse
    else if c = ')' then p.goTo (.name (depth - 1) (c :: name))
    else if c = '(' then p.goTo (.name (depth + 1) (c :: name))
    else p.goTo (.name depth (c :: name))
  | .flags l => p.flag l c
  | .width l => if isDigit c then p.widthDigit l c else p.afterWidth l c
  | .point l =>
    if c = '*' then p.star
    else if isDigit c then p.precisionDigit l c
    else p.afterPrecision l c
  | .precision l => if isDigit c then p.precisionDigit l c else p.afterPrecision l c
  | .size l => p.letter l c

/-- Reads a character. -/
def step (entries : Pairs (List Char) (List Char)) (p : Progress) (c : Char) :
    Except Fault Progress :=
  (p.read entries c).map fun q => { q with index := p.index + 1 }

/-- The text at the end of the template. -/
def finish (p : Progress) : Except Fault (List Char) :=
  match p.phase with
  | .text => .ok p.written.reverse
  | .name .. => .error .openName
  | _ => .error .openMark

end Progress

/-- The text of a template with named texts. -/
def expand (entries : Pairs (List Char) (List Char)) (template : List Char) :
    Except Fault (List Char) := do
  let p ← template.foldlM (Progress.step entries) ⟨.text, some (.all entries), [], 0⟩
  p.finish

/-! ## Lemmas -/

theorem foldlM_step_of_not_mem {entries : Pairs (List Char) (List Char)} {s : List Char}
    (h : '%' ∉ s) (argument : Option Argument) (written : List Char) (index : Nat) :
    s.foldlM (Progress.step entries) ⟨.text, argument, written, index⟩ =
      .ok ⟨.text, argument, s.reverse ++ written, index + s.length⟩ := by
  induction s generalizing written index with
  | nil => rfl
  | cons c rest ih =>
    simp only [List.mem_cons, not_or] at h
    have hstep : Progress.step entries ⟨.text, argument, written, index⟩ c =
        .ok ⟨.text, argument, c :: written, index + 1⟩ := by
      simp [Progress.step, Progress.read, Ne.symm h.1, Except.map]
    rw [List.foldlM_cons, hstep]
    show rest.foldlM (Progress.step entries) _ = _
    rw [ih h.2]
    simp only [List.reverse_cons, List.append_assoc, List.cons_append, List.nil_append,
      List.length_cons, Nat.add_assoc, Nat.add_comm 1]

theorem expand_of_not_mem {entries : Pairs (List Char) (List Char)} {s : List Char}
    (h : '%' ∉ s) : expand entries s = .ok s := by
  simp [expand, foldlM_step_of_not_mem h, bind, Except.bind, Progress.finish]

end HostFacts.Text.Template
