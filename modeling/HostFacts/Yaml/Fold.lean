import HostFacts.Yaml.Basic

/-!
# Folding lines

White space inside a scalar may run over several lines. It then counts as one space, or as the empty
lines in it if there are any. `lines` goes over empty lines up to the next text; `gap` reads white
space from inside a line on. `gap_le` says that neither gives text back.
-/

namespace HostFacts.Yaml

/-- White space from the start of a line on. -/
structure Lines where
  /-- The line ends that were passed. -/
  breaks : List Char
  /-- The number of characters before the text on its line. -/
  column : Nat
  rest : List Char
  /-- A document is marked off here. -/
  marked : Bool

/-- Goes over white space, with `column` characters of the line already passed. -/
def linesFrom (white : Char → Bool) : Nat → List Char → Lines
  | column, [] => ⟨[], column, [], false⟩
  | column, c :: rest =>
    if white c then linesFrom white (column + 1) rest
    else if isBreak c then
      if atMarker rest then ⟨[keptBreak c], 0, rest, true⟩
      else
        let more := linesFrom white 0 rest
        { more with breaks := keptBreak c :: more.breaks }
    else ⟨[], column, c :: rest, false⟩

/-- Goes over white space from the start of a line on. -/
def lines (white : Char → Bool) (s : List Char) : Lines :=
  if atMarker s then ⟨[], 0, s, true⟩ else linesFrom white 0 s

/-- White space inside a scalar. -/
structure Gap where
  /-- What it counts as. -/
  text : List Char
  /-- Whether it runs over a line end. -/
  broken : Bool
  column : Nat
  rest : List Char
  marked : Bool

/-- What line ends count as: the first one is a space, unless it is followed by others or is of a
kind that is kept. -/
def folded : List Char → List Char
  | [] => []
  | b :: more => if b = '\n' then (if more.isEmpty then [' '] else more) else b :: more

/-- Reads white space inside a line and over the lines that follow. -/
def gap (white : Char → Bool) (s : List Char) : Gap :=
  let spaces := s.takeWhile white
  match s.dropWhile white with
  | [] => ⟨spaces, false, 0, [], false⟩
  | c :: rest =>
    if isBreak c then
      let more := lines white rest
      ⟨folded (keptBreak c :: more.breaks), true, more.column, more.rest, more.marked⟩
    else ⟨spaces, false, 0, c :: rest, false⟩

/-! ## What is left is not longer -/

theorem dropWhile_le {α : Type} (p : α → Bool) (s : List α) : (s.dropWhile p).length ≤ s.length :=
  (List.dropWhile_suffix p).length_le

theorem linesFrom_le (white : Char → Bool) (column : Nat) (s : List Char) :
    (linesFrom white column s).rest.length ≤ s.length := by
  induction s generalizing column with
  | nil => simp [linesFrom]
  | cons c rest ih =>
    unfold linesFrom
    split
    · exact Nat.le_succ_of_le (ih _)
    · split
      · split
        · simp
        · exact Nat.le_succ_of_le (ih _)
      · simp

theorem lines_le (white : Char → Bool) (s : List Char) :
    (lines white s).rest.length ≤ s.length := by
  unfold lines
  split
  · exact Nat.le_refl _
  · exact linesFrom_le white 0 s

theorem gap_le (white : Char → Bool) (s : List Char) : (gap white s).rest.length ≤ s.length := by
  have hd := dropWhile_le white s
  unfold gap
  split
  · simp
  · next c rest h =>
    rw [h, List.length_cons] at hd
    split
    · have := lines_le white rest
      simp only
      omega
    · simpa using hd

/-- White space that is there makes the rest shorter. -/
theorem gap_lt {white : Char → Bool} {c : Char} {s : List Char} (h : white c || isBreak c) :
    (gap white (c :: s)).rest.length < (c :: s).length := by
  by_cases hw : white c
  · have hd := dropWhile_le white s
    unfold gap
    simp only [List.dropWhile_cons, hw, if_true]
    split
    · simp
    · next d rest h =>
      rw [h, List.length_cons] at hd
      split
      · have := lines_le white rest
        simp only [List.length_cons]
        omega
      · simp only [List.length_cons]
        omega
  · have hb : isBreak c = true := by simpa [hw] using h
    have := lines_le white s
    simp [gap, hw, hb]
    omega

end HostFacts.Yaml
