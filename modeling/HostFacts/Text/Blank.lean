import HostFacts.Text.Ranges

/-!
# White space

White space is what Unicode 14 counts as such, together with the four separators U+001C to U+001F.
`trim` removes it from both ends of a text, and a text is *blank* when nothing else is in it.

* `trimWhile_around`: what is trimmed of a text around a part whose ends are kept;
* `trim_isInfix_trim`: so a part of a text is still a part once both are trimmed;
* `trim_eq_nil_iff`: trimming leaves nothing exactly when every character is white space;
* `isBlank_some_iff`: so a text is blank exactly when trimming leaves nothing.
-/

namespace HostFacts.Text

/-- The white space characters. -/
def blanks : Ranges :=
  [(0x9, 0xd), (0x1c, 0x20), (0x85, 0x85), (0xa0, 0xa0), (0x1680, 0x1680), (0x2000, 0x200a),
   (0x2028, 0x2029), (0x202f, 0x202f), (0x205f, 0x205f), (0x3000, 0x3000)]

/-- Whether the character is white space. -/
def isSpace (c : Char) : Bool := blanks.has c

/-- Removes from both ends the characters that satisfy `p`. -/
def trimWhile (p : Char → Bool) (s : List Char) : List Char :=
  ((s.dropWhile p).reverse.dropWhile p).reverse

/-- Removes white space from both ends. -/
def trim (s : List Char) : List Char := trimWhile isSpace s

/-- Applies a function on lists of characters to a string. -/
def onChars (f : List Char → List Char) (s : String) : String := String.ofList (f s.toList)

@[simp] theorem toList_onChars (f : List Char → List Char) (s : String) :
    (onChars f s).toList = f s.toList := by simp [onChars]

/-- The string without white space at its ends. -/
def trimmed (s : String) : String := onChars trim s

/-- Whether a text is absent, empty, or white space only. -/
def isBlank : Option String → Bool
  | none => true
  | some s => s.toList.all isSpace

/-! ## Lemmas -/

theorem dropWhile_eq_nil_iff {p : Char → Bool} {s : List Char} :
    s.dropWhile p = [] ↔ ∀ c ∈ s, p c = true := by
  induction s with
  | nil => simp
  | cons c s ih =>
    by_cases h : p c = true
    · simp [h, ih]
    · simp [h]

/-- Dropping leaves a text that does not start with a dropped character. -/
theorem dropWhile_dropWhile (p : Char → Bool) (s : List Char) :
    (s.dropWhile p).dropWhile p = s.dropWhile p := by
  induction s with
  | nil => rfl
  | cons c s ih =>
    by_cases h : p c = true
    · simp [h, ih]
    · simp [h]

theorem mem_of_mem_trimWhile {p : Char → Bool} {s : List Char} {c : Char} (h : c ∈ trimWhile p s) :
    c ∈ s := by
  have h₁ : c ∈ (s.dropWhile p).reverse.dropWhile p := List.mem_reverse.mp h
  have h₂ : c ∈ s.dropWhile p := List.mem_reverse.mp ((List.dropWhile_sublist p).mem h₁)
  exact (List.dropWhile_sublist p).mem h₂

/-- Dropping stops before a character that is kept. -/
theorem dropWhile_append_cons {p : Char → Bool} {c : Char} (hc : p c = false) (s t : List Char) :
    (s ++ c :: t).dropWhile p = s.dropWhile p ++ c :: t := by
  have hkeep : (c :: t).dropWhile p = c :: t := by
    rw [List.dropWhile_cons, if_neg (by simp [hc])]
  rw [List.dropWhile_append, hkeep]
  split
  · rename_i h
    rw [List.isEmpty_iff.mp h, List.nil_append]
  · rfl

/-- **Trimming keeps a part that no end of is dropped**, and goes on beyond its two ends. -/
theorem trimWhile_around {p : Char → Bool} {b : List Char} (hb : b ≠ [])
    (hhead : ∀ c ∈ b.head?, p c = false) (hlast : ∀ c ∈ b.getLast?, p c = false)
    (a z : List Char) :
    trimWhile p (a ++ b ++ z) = a.dropWhile p ++ b ++ (z.reverse.dropWhile p).reverse := by
  have front (t : List Char) : (a ++ (b ++ t)).dropWhile p = a.dropWhile p ++ (b ++ t) := by
    obtain ⟨c, r, rfl⟩ := List.exists_cons_of_ne_nil hb
    exact dropWhile_append_cons (hhead c rfl) a (r ++ t)
  have back (t : List Char) :
      (z.reverse ++ (b.reverse ++ t)).dropWhile p = z.reverse.dropWhile p ++ (b.reverse ++ t) := by
    obtain ⟨c, r, hr⟩ := List.exists_cons_of_ne_nil (mt List.reverse_eq_nil_iff.mp hb)
    have hc : p c = false := hlast c (by rw [← List.head?_reverse, hr]; rfl)
    rw [hr]
    exact dropWhile_append_cons hc z.reverse (r ++ t)
  unfold trimWhile
  rw [List.append_assoc, front, List.reverse_append, List.reverse_append, List.append_assoc, back]
  simp only [List.reverse_append, List.reverse_reverse, List.append_assoc]

/-- Trimming drops what surrounds a part that no end of is dropped; of what follows the part only
the end is dropped. -/
theorem trimWhile_append {p : Char → Bool} {a b rest : List Char} (ha : ∀ c ∈ a, p c = true)
    (hb : b ≠ []) (hhead : ∀ c ∈ b.head?, p c = false) (hlast : ∀ c ∈ b.getLast?, p c = false) :
    trimWhile p (a ++ (b ++ rest)) = b ++ (rest.reverse.dropWhile p).reverse := by
  rw [← List.append_assoc, trimWhile_around hb hhead hlast, dropWhile_eq_nil_iff.mpr ha,
    List.nil_append]

/-- Trimming drops what surrounds a part that no end of is dropped. -/
theorem trimWhile_between {p : Char → Bool} {a b z : List Char} (ha : ∀ c ∈ a, p c = true)
    (hb : b ≠ []) (hhead : ∀ c ∈ b.head?, p c = false) (hlast : ∀ c ∈ b.getLast?, p c = false)
    (hz : ∀ c ∈ z, p c = true) : trimWhile p (a ++ b ++ z) = b := by
  have hd : z.reverse.dropWhile p = [] :=
    dropWhile_eq_nil_iff.mpr fun c hc => hz c (List.mem_reverse.mp hc)
  rw [List.append_assoc, trimWhile_append ha hb hhead hlast, hd, List.reverse_nil, List.append_nil]

/-- A text is what trimming leaves of it, with dropped characters around it. -/
theorem exists_eq_append_trimWhile (p : Char → Bool) (s : List Char) :
    ∃ a z, (∀ c ∈ a, p c = true) ∧ (∀ c ∈ z, p c = true) ∧ s = a ++ trimWhile p s ++ z := by
  have taken {s : List Char} : ∀ c ∈ s.takeWhile p, p c = true :=
    List.all_eq_true.mp List.all_takeWhile
  refine ⟨s.takeWhile p, ((s.dropWhile p).reverse.takeWhile p).reverse, taken,
    fun c hc => taken c (List.mem_reverse.mp hc), ?_⟩
  unfold trimWhile
  rw [List.append_assoc, ← List.reverse_append, List.takeWhile_append_dropWhile,
    List.reverse_reverse, List.takeWhile_append_dropWhile]

theorem trimWhile_isInfix (p : Char → Bool) (s : List Char) : trimWhile p s <:+: s := by
  obtain ⟨a, z, -, -, h⟩ := exists_eq_append_trimWhile p s
  exact ⟨a, z, h.symm⟩

/-- A trimmed text does not start with a dropped character. -/
theorem head_trimWhile (p : Char → Bool) (s : List Char) :
    ∀ c ∈ (trimWhile p s).head?, p c = false := by
  intro c hc
  obtain ⟨z, hz⟩ := List.dropWhile_suffix (l := (s.dropWhile p).reverse) p
  have hs : s.dropWhile p = trimWhile p s ++ z.reverse := by
    rw [trimWhile, ← List.reverse_append, hz, List.reverse_reverse]
  have h := List.head?_dropWhile_not p s
  rw [hs, List.head?_append, Option.mem_def.mp hc] at h
  exact h

/-- A trimmed text does not end with a dropped character. -/
theorem getLast_trimWhile (p : Char → Bool) (s : List Char) :
    ∀ c ∈ (trimWhile p s).getLast?, p c = false := by
  intro c hc
  have h := List.head?_dropWhile_not p (s.dropWhile p).reverse
  rw [trimWhile, List.getLast?_reverse] at hc
  rw [Option.mem_def.mp hc] at h
  exact h

/-- A text stays as it is if it neither starts nor ends with a dropped character. -/
theorem trimWhile_of_kept {p : Char → Bool} {s : List Char} (hhead : ∀ c ∈ s.head?, p c = false)
    (hlast : ∀ c ∈ s.getLast?, p c = false) : trimWhile p s = s := by
  by_cases hs : s = []
  · subst hs
    rfl
  · have h := trimWhile_around hs hhead hlast [] []
    simpa using h

/-- A text without characters to drop stays as it is. -/
theorem trimWhile_of_forall {p : Char → Bool} {s : List Char} (h : ∀ c ∈ s, p c = false) :
    trimWhile p s = s :=
  trimWhile_of_kept (fun c hc => h c (List.mem_of_mem_head? hc))
    fun c hc => h c (List.mem_of_mem_getLast? hc)

/-- A part of a text is still a part once both are trimmed. -/
theorem trim_isInfix_trim {a b : List Char} (h : a <:+: b) : trim a <:+: trim b := by
  obtain ⟨x, y, rfl⟩ := h
  obtain ⟨u, v, -, -, ha⟩ := exists_eq_append_trimWhile isSpace a
  by_cases hn : trim a = []
  · rw [hn]
    exact List.nil_infix
  · have hb : x ++ a ++ y = (x ++ u) ++ trim a ++ (v ++ y) := by
      have hx : x ++ (u ++ trim a ++ v) ++ y = (x ++ u) ++ trim a ++ (v ++ y) := by
        simp only [List.append_assoc]
      exact (congrArg (fun t => x ++ t ++ y) ha).trans hx
    have ht := trimWhile_around hn (head_trimWhile isSpace a) (getLast_trimWhile isSpace a)
      (x ++ u) (v ++ y)
    rw [hb]
    exact ⟨_, _, ht.symm⟩

theorem trim_eq_nil_iff {s : List Char} : trim s = [] ↔ ∀ c ∈ s, isSpace c = true := by
  unfold trim trimWhile
  rw [List.reverse_eq_nil_iff, dropWhile_eq_nil_iff]
  constructor
  · intro h
    apply dropWhile_eq_nil_iff.mp
    cases hd : s.dropWhile isSpace with
    | nil => rfl
    | cons c r =>
      have hc : isSpace c = true := h c (by simp [hd])
      have := dropWhile_dropWhile isSpace s
      rw [hd, List.dropWhile_cons, if_pos hc] at this
      have hl := congrArg List.length this
      have hle : (r.dropWhile isSpace).length ≤ r.length := (List.dropWhile_sublist _).length_le
      simp at hl
      omega
  · intro h
    have : s.dropWhile isSpace = [] := dropWhile_eq_nil_iff.mpr h
    simp [this]

theorem isBlank_some_iff {s : String} : isBlank (some s) = true ↔ trim s.toList = [] := by
  simp [isBlank, trim_eq_nil_iff]

theorem isBlank_trimmed (s : String) : isBlank (some (trimmed s)) = isBlank (some s) := by
  obtain ⟨a, z, ha, hz, hs⟩ := exists_eq_append_trimWhile isSpace s.toList
  rw [Bool.eq_iff_iff, isBlank, isBlank, trimmed, toList_onChars, List.all_eq_true,
    List.all_eq_true]
  refine ⟨fun h c hc => ?_, fun h c hc => h c (mem_of_mem_trimWhile hc)⟩
  rw [hs, List.mem_append, List.mem_append] at hc
  exact hc.elim (fun hc => hc.elim (ha c) (h c)) (hz c)

end HostFacts.Text
