import HostFacts.Yaml.Token

/-!
# Names, tags and directives

Anchors and aliases have names of ASCII letters, digits and two signs. A tag is written in full
between angle brackets or as a handle with a suffix; its characters are those of a URI, where
a percent sign with two hexadecimal digits stands for a byte of UTF-8.
-/

namespace HostFacts.Yaml

open HostFacts.Number HostFacts.Text

/-- Whether a character may occur in a name. -/
def isNameChar (c : Char) : Bool :=
  isDigit c || ('A' ≤ c && c ≤ 'Z') || ('a' ≤ c && c ≤ 'z') || c == '-' || c == '_'

/-- Whether a character may occur in a URI. -/
def isUriChar (c : Char) : Bool :=
  isNameChar c || ";/?:@&=+$,.!~*'()[]%".toList.contains c

/-- Reads the name of an anchor or of an alias. -/
def anchorName (s : List Char) : Except Flaw (List Char × List Char) :=
  let name := s.takeWhile isNameChar
  let rest := s.dropWhile isNameChar
  if name.isEmpty then .error .illFormed
  else if atBlank rest || atAny ['?', ':', ',', ']', '}', '%', '@', '\x60'] rest then
    .ok (name, rest)
  else .error .illFormed

/-- Reads the characters of a URI; `bytes` are those of the percent signs directly before. -/
def uriFrom (bytes : List UInt8) : List Char → Except Flaw (List Char × List Char)
  | [] => (release bytes).map fun cs => (cs, [])
  | c :: rest =>
    if c = '%' then
      match rest with
      | a :: b :: more =>
        match hexValue? a, hexValue? b with
        | some m, some n => uriFrom (bytes ++ [UInt8.ofNat (m * 16 + n)]) more
        | _, _ => .error .illFormed
      | _ => .error .illFormed
    else do
      let before ← release bytes
      if isUriChar c then
        let (uri, rest) ← uriFrom [] rest
        return (before ++ c :: uri, rest)
      else return (before, c :: rest)
where
  /-- The characters of bytes. -/
  release (bytes : List UInt8) : Except Flaw (List Char) :=
    match Utf8.decode bytes with
    | .ok cs => .ok cs
    | .error _ => .error .illFormed

/-- Reads a URI, which is not empty. -/
def uri (s : List Char) : Except Flaw (List Char × List Char) :=
  if atAny ['%'] s || s.head?.any isUriChar then uriFrom [] s else .error .illFormed

/-- Reads a tag handle: an exclamation mark, or a name between two. -/
def tagHandle (s : List Char) : Except Flaw (List Char × List Char) :=
  match s with
  | '!' :: ' ' :: _ => .ok (['!'], s.drop 1)
  | '!' :: rest =>
    match rest.dropWhile isNameChar with
    | '!' :: after => .ok ('!' :: rest.takeWhile isNameChar ++ ['!'], after)
    | _ => .error .illFormed
  | _ => .error .illFormed

/-- Whether a tag has a second exclamation mark, which ends its handle. -/
def hasHandle : List Char → Bool
  | [] => false
  | c :: rest => if c = ' ' || isBreak c then false else c = '!' || hasHandle rest

/-- Reads a tag from behind its first character. -/
def tagToken (s : List Char) : Except Flaw (Token × List Char) := do
  let (tag, rest) ←
    if atAny ['<'] s then do
      let (name, rest) ← uri (s.drop 1)
      if !atAny ['>'] rest then throw .illFormed
      pure (Token.tag none name, rest.drop 1)
    else if atBlank s then pure (Token.tag none ['!'], s)
    else do
      let (handle, rest) ← if hasHandle s then tagHandle ('!' :: s) else pure (['!'], s)
      let (suffix, rest) ← uri rest
      pure (Token.tag (some handle) suffix, rest)
  if !atSpace rest then throw .illFormed
  return (tag, rest)

/-- Reads a number of a version. -/
def versionNumber (s : List Char) : Except Flaw (Nat × List Char) :=
  let digits := s.takeWhile isDigit
  if digits.isEmpty then .error .illFormed
  else if digitLimit < digits.length then .error (.fault ⟨.digitLimit (some digits.length), rfl⟩)
  else .ok (ofDecimal digits, s.dropWhile isDigit)

/-- Reads the meaning of a directive, from behind its name. -/
def directiveMeaning (name s : List Char) : Except Flaw (Directive × List Char) := do
  let spaceless := s.dropWhile (· == ' ')
  if name = "YAML".toList then
    let (major, rest) ← versionNumber spaceless
    if !atAny ['.'] rest then throw .illFormed
    let (_, rest) ← versionNumber (rest.drop 1)
    if !atSpace rest then throw .illFormed
    return (.version major, rest)
  else if name = "TAG".toList then
    let (handle, rest) ← tagHandle spaceless
    if !atAny [' '] rest then throw .illFormed
    let (meaning, rest) ← uri (rest.dropWhile (· == ' '))
    if !atSpace rest then throw .illFormed
    return (.tag handle meaning, rest)
  else return (.other, s.dropWhile (!isBreak ·))

/-- Reads a directive up to the end of its line, from behind its first character. -/
def directive (s : List Char) : Except Flaw (Directive × List Char) := do
  let name := s.takeWhile isNameChar
  let rest := s.dropWhile isNameChar
  if name.isEmpty || !atSpace rest then throw .illFormed
  let (meaning, rest) ← directiveMeaning name rest
  let rest := rest.dropWhile (· == ' ')
  let rest := if atAny ['#'] rest then rest.dropWhile (!isBreak ·) else rest
  if !atLineEnd rest then throw .illFormed
  return (meaning, rest.drop 1)

end HostFacts.Yaml
