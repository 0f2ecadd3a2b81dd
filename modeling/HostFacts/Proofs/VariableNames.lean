import HostFacts.Proofs.LetterCase
import HostFacts.Property.Name

/-!
# The variable of a name is put together from those of its parts

The variable of an override property comes from what follows the common start of its name. There an
underscore is put where a word starts, which the two characters on both sides decide on their own.
So the variable of two texts in a row is that of the first and that of the second, but for one
underscore where they meet (`Meet`); of texts with points between them it is their variables with
underscores between them.

* `separate_append`: words in two texts in a row;
* `variableKey_append`: the variable of two texts in a row;
* `ne_point_of_mem_variableKey`, `isLower_of_mem_variableKey`, `isAscii_of_mem_variableKey`: the
  characters of a variable;
* **`variable_of_parts`**: the law for names and their variables.
-/

namespace HostFacts.Property

open HostFacts.Text (upper upperChar upperChar_of_ascii isUpper_of_mem_upperChar
  toUpper_of_not_isLower isLower_iff isUpper_iff of_forall_letters onChars toList_onChars)

/-! ## Words -/

theorem endsWord_eq (c : Char) : endsWord c = (c.isLower || c.isDigit) := by
  unfold endsWord Char.isLower Char.isDigit
  rfl

theorem startsWord_eq (c : Char) : startsWord c = c.isUpper := by
  unfold startsWord Char.isUpper
  rw [← Bool.decide_and]
  rfl

/-- Whether a word starts where two texts meet. -/
def meets (a b : List Char) : Bool := a.getLast?.any endsWord && b.head?.any startsWord

/-- The underscore between two texts, if a word starts where they meet. -/
def underscore (a b : List Char) : List Char := if meets a b then ['_'] else []

/-- **Words in two texts in a row**: only where the texts meet is there anything new. -/
theorem separate_append : ∀ a b : List Char,
    separate (a ++ b) = separate a ++ underscore a b ++ separate b
  | [], b => rfl
  | [c], [] => by
    unfold underscore meets
    simp [separate]
  | [c], d :: b => by
    have hm : meets [c] (d :: b) = (endsWord c && startsWord d) := rfl
    have hs : separate (c :: d :: b) =
      if endsWord c && startsWord d then c :: '_' :: separate (d :: b)
      else c :: separate (d :: b) := rfl
    unfold underscore
    rw [List.singleton_append, hs, hm]
    split <;> rfl
  | c :: d :: a, b => by
    have ih := separate_append (d :: a) b
    have hu : underscore (c :: d :: a) b = underscore (d :: a) b := by
      unfold underscore meets
      rw [List.getLast?_cons_cons]
    rw [hu, List.cons_append, List.cons_append, separate, separate, ← List.cons_append, ih]
    split <;> simp only [List.cons_append]

/-! ## Keys -/

/-- The letters of a variable from those of a name that is cut into words. -/
def variableLetter (c : Char) : List Char := upperChar (if c = '.' then '_' else c)

theorem variableLetter_point : variableLetter '.' = ['_'] := upperChar_of_ascii (by decide)

theorem variableLetter_underscore : variableLetter '_' = ['_'] := upperChar_of_ascii (by decide)

theorem variableKey_eq (key : List Char) :
    variableKey key = (separate key).flatMap variableLetter := by
  unfold variableKey upper
  rw [List.flatMap_map]
  rfl

/-- **The variable of two texts in a row.** -/
theorem variableKey_append (a b : List Char) :
    variableKey (a ++ b) = variableKey a ++ underscore a b ++ variableKey b := by
  have hu : (underscore a b).flatMap variableLetter = underscore a b := by
    unfold underscore
    split
    · rw [List.flatMap_singleton, variableLetter_underscore]
    · rfl
  rw [variableKey_eq, variableKey_eq, variableKey_eq, separate_append, List.flatMap_append,
    List.flatMap_append, hu]

/-- No word starts at a point. -/
theorem variableKey_append_point (a b : List Char) :
    variableKey (a ++ '.' :: b) = variableKey a ++ '_' :: variableKey b := by
  have hb : underscore ['.'] b = [] := by
    unfold underscore meets
    rw [if_neg]
    simp [endsWord]
  have ha : underscore a ('.' :: b) = [] := by
    unfold underscore meets
    rw [if_neg]
    simp [startsWord]
  have hp : variableKey ('.' :: b) = '_' :: variableKey b := by
    have h := variableKey_append ['.'] b
    have hs : separate ['.'] = ['.'] := rfl
    have hv : variableKey ['.'] = ['_'] := by
      rw [variableKey_eq, hs, List.flatMap_singleton, variableLetter_point]
    rwa [hb, hv, List.append_nil] at h
  rw [variableKey_append, ha, hp, List.append_nil]

/-! ## Characters of a variable -/

section Characters

variable {key : List Char} {c d : Char}

theorem mem_separate : ∀ {key : List Char}, c ∈ separate key → c ∈ key ∨ c = '_'
  | [], h => by cases h
  | [_], h => Or.inl h
  | a :: b :: key, h => by
    have ih : c ∈ separate (b :: key) → c ∈ a :: b :: key ∨ c = '_' := by
      intro h
      rcases mem_separate h with h | h
      · exact Or.inl (List.mem_cons_of_mem a h)
      · exact Or.inr h
    rw [separate] at h
    split at h
    · rcases List.mem_cons.mp h with rfl | h
      · exact Or.inl List.mem_cons_self
      · rcases List.mem_cons.mp h with rfl | h
        · exact Or.inr rfl
        · exact ih h
    · rcases List.mem_cons.mp h with rfl | h
      · exact Or.inl List.mem_cons_self
      · exact ih h

/-- A character of a variable is an upper form of a character of the name, or an underscore. -/
theorem mem_variableKey (h : d ∈ variableKey key) :
    ∃ c, (c ∈ key ∨ c = '_') ∧ c ≠ '.' ∧ d ∈ upperChar c := by
  rw [variableKey_eq] at h
  obtain ⟨c, hc, hd⟩ := List.mem_flatMap.mp h
  unfold variableLetter at hd
  by_cases hp : c = '.'
  · rw [if_pos hp] at hd
    exact ⟨'_', Or.inr rfl, by decide, hd⟩
  · rw [if_neg hp] at hd
    exact ⟨c, mem_separate hc, hp, hd⟩

/-- **A variable holds no point.** -/
theorem ne_point_of_mem_variableKey (h : d ∈ variableKey key) : d ≠ '.' := by
  obtain ⟨c, -, hc, hd⟩ := mem_variableKey h
  rintro rfl
  rcases isUpper_of_mem_upperChar hd (by decide) with ⟨he, -⟩ | hu
  · exact hc he.symm
  · exact absurd hu (by decide)

/-- The upper form of a character of ASCII is ASCII, and no small letter. -/
theorem toUpper_of_ascii (ha : c.toNat < 128) :
    c.toUpper.toNat < 128 ∧ c.toUpper.isLower = false := by
  cases hc : c.isLower with
  | true =>
    exact of_forall_letters (a := 97)
      (P := fun c => c.toUpper.toNat < 128 ∧ c.toUpper.isLower = false)
      (by decide) (isLower_iff.mp hc)
  | false =>
    rw [toUpper_of_not_isLower hc]
    exact ⟨ha, hc⟩

/-- **A variable holds no small letter of ASCII.** -/
theorem isLower_of_mem_variableKey (h : d ∈ variableKey key) : d.isLower = false := by
  obtain ⟨c, -, -, hd⟩ := mem_variableKey h
  refine Bool.eq_false_iff.mpr fun hl => ?_
  obtain ⟨hl₁, hl₂⟩ := isLower_iff.mp hl
  have ha : d.toNat < 128 := by omega
  rcases isUpper_of_mem_upperChar hd ha with ⟨rfl, hc⟩ | hu
  · -- a small letter is not its own upper form
    rw [upperChar_of_ascii ha, List.singleton_inj] at hc
    have hn := (toUpper_of_ascii ha).2
    rw [hc, hl] at hn
    cases hn
  · obtain ⟨-, hu₂⟩ := isUpper_iff.mp hu
    omega

/-- **The variable of a name of ASCII is ASCII.** -/
theorem isAscii_of_mem_variableKey (ha : ∀ c ∈ key, c.toNat < 128) (h : d ∈ variableKey key) :
    d.toNat < 128 := by
  obtain ⟨c, hc, -, hd⟩ := mem_variableKey h
  have hc : c.toNat < 128 := by
    rcases hc with hc | rfl
    · exact ha c hc
    · decide
  rw [upperChar_of_ascii hc, List.mem_singleton] at hd
  rw [hd]
  exact (toUpper_of_ascii hc).1

end Characters

/-! ## Names -/

theorem stripLead?_append : ∀ lead s : List Char, stripLead? lead (lead ++ s) = some s
  | [], _ => rfl
  | l :: lead, s => by rw [List.cons_append, stripLead?, if_pos rfl, stripLead?_append lead s]

theorem stripLead?_eq_none_iff : ∀ {lead s : List Char}, stripLead? lead s = none ↔ ¬ lead <+: s
  | [], s => by simp [stripLead?]
  | _ :: _, [] => by simp [stripLead?]
  | l :: lead, c :: s => by
    rw [stripLead?, List.cons_prefix_cons]
    by_cases h : l = c
    · rw [if_pos h, stripLead?_eq_none_iff]
      simp [h]
    · simp [h]

/-- A name that does not start as override properties do has no variable, and no other has none. -/
theorem variableFor?_eq_none_iff {name : String} :
    variableFor? name = none ↔ ¬ overrideLead.toList <+: name.toList := by
  unfold variableFor?
  rw [Option.map_eq_none_iff, stripLead?_eq_none_iff]

/-- The variable of a property without the start that all variables share, by the name of the
property without the start that all names share. -/
def variablePart (key : String) : String := onChars variableKey key

theorem variableFor?_append (key : String) :
    variableFor? (overrideLead ++ key) = some (variableLead ++ variablePart key) := by
  have hv : String.ofList (variableLead.toList ++ variableKey key.toList) =
      variableLead ++ variablePart key := by
    apply String.toList_inj.mp
    rw [String.toList_ofList, String.toList_append, variablePart, toList_onChars]
  unfold variableFor?
  rw [String.toList_append, stripLead?_append, Option.map_some, hv]

/-- A word starts where two texts meet: a capital follows a small letter or a digit. -/
def Meet (a b : String) : Prop :=
  ∃ c d, a.toList.getLast? = some c ∧ b.toList.head? = some d ∧
    (c.isLower = true ∨ c.isDigit = true) ∧ d.isUpper = true

theorem meets_iff {a b : String} : meets a.toList b.toList = true ↔ Meet a b := by
  unfold meets Meet
  simp only [Bool.and_eq_true, Option.any_eq_true, endsWord_eq, startsWord_eq, Bool.or_eq_true]
  constructor
  · rintro ⟨⟨c, hc, hce⟩, d, hd, hds⟩
    exact ⟨c, d, hc, hd, hce, hds⟩
  · rintro ⟨c, d, hc, hd, hce, hds⟩
    exact ⟨⟨c, hc, hce⟩, d, hd, hds⟩

theorem variablePart_append_of_meet {a b : String} (h : Meet a b) :
    variablePart (a ++ b) = variablePart a ++ "_" ++ variablePart b := by
  have hu : underscore a.toList b.toList = ['_'] := if_pos (meets_iff.mpr h)
  apply String.toList_inj.mp
  simp only [variablePart, String.toList_append, toList_onChars, variableKey_append, hu]
  rfl

theorem variablePart_append_of_not_meet {a b : String} (h : ¬ Meet a b) :
    variablePart (a ++ b) = variablePart a ++ variablePart b := by
  have hu : underscore a.toList b.toList = [] := if_neg (mt meets_iff.mp h)
  apply String.toList_inj.mp
  simp only [variablePart, String.toList_append, toList_onChars, variableKey_append, hu,
    List.append_nil]

theorem variablePart_point (a b : String) :
    variablePart (a ++ "." ++ b) = variablePart a ++ "_" ++ variablePart b := by
  have hp : (a ++ "." ++ b).toList = a.toList ++ '.' :: b.toList := by
    simp [String.toList_append]
  apply String.toList_inj.mp
  rw [variablePart, toList_onChars, hp, variableKey_append_point]
  simp [variablePart, String.toList_append]

/-- **The variable of a nested property is made of the variables of its parts.** -/
theorem variablePart_intercalate : ∀ parts : List String,
    variablePart (".".intercalate parts) = "_".intercalate (parts.map variablePart)
  | [] => rfl
  | [part] => by simp
  | p :: q :: parts => by
    have ih := variablePart_intercalate (q :: parts)
    have hjoin : "_".intercalate ((p :: q :: parts).map variablePart) =
      variablePart p ++ "_" ++ "_".intercalate ((q :: parts).map variablePart) :=
      String.intercalate_cons_cons
    rw [String.intercalate_cons_cons, variablePart_point, ih, hjoin]

/-- **The variable of a name is put together from those of its parts.** That of two texts in a row
is that of the first and that of the second, with an underscore between them exactly if a word
starts where they meet; that of texts with points between them is their variables with underscores
between them. A variable holds no point and no small letter of ASCII, and it is ASCII if the name
is. Names that do not start as those of override properties have no variable. -/
theorem variable_of_parts :
    (∀ key : String,
      variableFor? (overrideLead ++ key) = some (variableLead ++ variablePart key)) ∧
    (∀ a b : String,
      (Meet a b → variablePart (a ++ b) = variablePart a ++ "_" ++ variablePart b) ∧
      (¬ Meet a b → variablePart (a ++ b) = variablePart a ++ variablePart b) ∧
      variablePart (a ++ "." ++ b) = variablePart a ++ "_" ++ variablePart b) ∧
    (∀ parts : List String,
      variablePart (".".intercalate parts) = "_".intercalate (parts.map variablePart)) ∧
    (∀ key : String,
      (∀ c ∈ (variablePart key).toList, c ≠ '.' ∧ c.isLower = false) ∧
      ((∀ c ∈ key.toList, c.toNat < 128) → ∀ c ∈ (variablePart key).toList, c.toNat < 128)) ∧
    ∀ name : String, variableFor? name = none ↔ ¬ overrideLead.toList <+: name.toList := by
  refine ⟨variableFor?_append, fun a b => ⟨variablePart_append_of_meet,
    variablePart_append_of_not_meet, variablePart_point a b⟩, variablePart_intercalate,
    fun key => ?_, fun name => variableFor?_eq_none_iff⟩
  have hk : (variablePart key).toList = variableKey key.toList := toList_onChars _ _
  rw [hk]
  exact ⟨fun c hc => ⟨ne_point_of_mem_variableKey hc, isLower_of_mem_variableKey hc⟩,
    fun ha c hc => isAscii_of_mem_variableKey ha hc⟩

/-- A nested name with a word that starts after a small letter and one that starts after a digit. -/
theorem variable_of_nested_name :
    variableFor? (overrideLead ++ ("alternate" ++ "VM" ++ "." ++ ("v2" ++ "Name"))) =
      some "PLATCTX_ALTERNATE_VM_V2_NAME" := by
  obtain ⟨hname, hparts, -, -, -⟩ := variable_of_parts
  have hvm : Meet "alternate" "VM" := ⟨'e', 'V', rfl, rfl, Or.inl (by decide), by decide⟩
  have hv2 : Meet "v2" "Name" := ⟨'2', 'N', rfl, rfl, Or.inr (by decide), by decide⟩
  rw [hname, (hparts _ _).2.2, (hparts _ _).1 hvm, (hparts _ _).1 hv2]
  rfl

end HostFacts.Property
