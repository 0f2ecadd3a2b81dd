import HostFacts.Yaml.Fold

/-!
# Plain scalars

A plain scalar has no quotes. It ends before a colon with white space behind it, before a comment,
where the indentation of its block ends, and, inside brackets, before the characters that brackets
and their items are written with. Its lines are folded.
-/

namespace HostFacts.Yaml

/-- Whether a plain scalar ends before the text; `inFlow` tells whether brackets are open. -/
def endsWord (inFlow : Bool) : List Char → Bool
  | [] => true
  | c :: rest =>
    isWhite c || isBreak c ||
      (c == ':' && (atBlank rest || (inFlow && atAny [',', '[', ']', '{', '}'] rest))) ||
      (inFlow && [',', '?', '[', ']', '{', '}'].contains c)

/-- The characters up to the end of a word, and the rest. -/
def word (inFlow : Bool) : List Char → List Char × List Char
  | [] => ([], [])
  | c :: rest =>
    if endsWord inFlow (c :: rest) then ([], c :: rest)
    else
      let (more, rest) := word inFlow rest
      (c :: more, rest)

theorem word_length (inFlow : Bool) (s : List Char) :
    (word inFlow s).1.length + (word inFlow s).2.length = s.length := by
  induction s with
  | nil => rfl
  | cons c rest ih =>
    unfold word
    split
    · simp
    · simp only [List.length_cons]
      omega

/-- A plain scalar that was read. -/
structure Plain where
  text : List Char
  rest : List Char
  /-- Whether the white space behind it runs over a line end. -/
  broken : Bool

/-- Reads a plain scalar whose lines are indented by at least `indent`. -/
def plain (inFlow : Bool) (indent : Nat) (s : List Char) : Plain :=
  if _h : (word inFlow s).1 = [] then ⟨[], s, false⟩
  else
    let g := gap (· == ' ') (word inFlow s).2
    if g.text.isEmpty || g.marked || atAny ['#'] g.rest ||
        (!inFlow && g.broken && g.column < indent) then
      ⟨(word inFlow s).1, g.rest, g.broken⟩
    else
      let more := plain inFlow indent g.rest
      if more.text.isEmpty then ⟨(word inFlow s).1, g.rest, g.broken⟩
      else ⟨(word inFlow s).1 ++ g.text ++ more.text, more.rest, more.broken⟩
termination_by s.length
decreasing_by
  have hw := word_length inFlow s
  have hg := gap_le (· == ' ') (word inFlow s).2
  have hp : 0 < (word inFlow s).1.length := List.length_pos_iff.2 _h
  omega

end HostFacts.Yaml
