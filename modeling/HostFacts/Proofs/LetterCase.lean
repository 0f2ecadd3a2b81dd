import HostFacts.Text.Case
import HostFacts.Text.Surrogates

/-!
# Laws of letter case

Case is changed by tables, so what is said here of one character rests on checks of the tables as a
whole: all code points that they lead to are compared with all that they change. A list of code
points is held as the bits of one number (`bits`), which makes of such a check a single operation.

The final form of sigma is all that lower case draws from the surroundings of a character. It is put
aside in two ways: with both forms taken for one, lower case goes character by character
(`map_unfinal_lowerFrom`), and a character that is neither a letter with case nor passed over cuts
the surroundings off (`Breaks`).

Results:
* `lowerChar_of_mem`, `isSpace_of_mem_lowerChar`, `isLower_of_mem_lowerChar`,
  `isUpper_of_mem_upperChar`: what the other form of a character is made of;
* `lowerChar_of_ascii`, `upperChar_of_ascii`: ASCII has the case of the standard library;
* `breaks_of_ascii`: the characters of ASCII that no word goes across;
* **`lower_lower`**: a text in lower case stays as it is;
* **`trim_lower`**: lower case brings no white space to the ends of a text;
* **`lower_append_cons`**: texts on the two sides of a break are taken in lower case on their own;
* **`lower_map_toLower`**: the case of ASCII letters does not show in lower case;
* **`isInfix_lower`**: lower case keeps the parts of a text that hold no sigma.
-/

namespace HostFacts.Text

/-! ## Code points in bulk -/

/-- Code points as the bits of one number. -/
def bits (codes : List Nat) : Nat := codes.foldr (fun n m => 1 <<< n ||| m) 0

/-- Whether two lists of code points have none in common. -/
def apart (a b : List Nat) : Bool := bits a &&& bits b == 0

theorem testBit_bits {codes : List Nat} {n : Nat} :
    (bits codes).testBit n = true ↔ n ∈ codes := by
  induction codes with
  | nil => simp [bits]
  | cons m codes ih =>
    show (1 <<< m ||| bits codes).testBit n = true ↔ _
    rw [Nat.testBit_or, Nat.one_shiftLeft, Nat.testBit_two_pow, Bool.or_eq_true, ih,
      List.mem_cons, decide_eq_true_iff]
    exact or_congr eq_comm Iff.rfl

theorem not_mem_of_apart {a b : List Nat} (h : apart a b = true) {n : Nat} (hn : n ∈ a) :
    n ∉ b := by
  intro hb
  have hand : (bits a &&& bits b).testBit n = true := by
    rw [Nat.testBit_and, testBit_bits.mpr hn, testBit_bits.mpr hb, Bool.and_self]
  rw [eq_of_beq h, Nat.zero_testBit] at hand
  cases hand

/-- The code points of ranges. -/
def Ranges.codes (r : Ranges) : List Nat := r.flatMap fun e => List.range' e.1 (e.2 + 1 - e.1)

theorem Ranges.mem_codes {r : Ranges} {c : Char} : c.toNat ∈ r.codes ↔ r.has c = true := by
  rw [Ranges.has_iff, Ranges.codes, List.mem_flatMap]
  refine exists_congr fun e => and_congr Iff.rfl ?_
  rw [List.mem_range'_1]
  omega

/-- The code points of ASCII, without those of some characters. -/
def asciiBut (p : Char → Bool) : List Nat := (List.range 128).filter fun n => !p (Char.ofNat n)

theorem mem_asciiBut {p : Char → Bool} {c : Char} :
    c.toNat ∈ asciiBut p ↔ c.toNat < 128 ∧ p c = false := by
  rw [asciiBut, List.mem_filter, List.mem_range, Char.ofNat_toNat, Bool.not_eq_true']

/-! ## Tables -/

/-- The code points of a run. -/
def CaseRun.codes (r : CaseRun) : List Nat :=
  List.range' r.first ((r.last - r.first) / r.stride + 1) r.stride

/-- The code points that a run leads to. -/
def CaseRun.forms (r : CaseRun) : List Nat := r.codes.map fun (n : Nat) => Int.toNat (n + r.shift)

/-- The code points of the characters that have another form. -/
def changed (runs : List CaseRun) (expansions : List (Nat × List Nat)) : List Nat :=
  runs.flatMap CaseRun.codes ++ expansions.map Prod.fst

/-- The code points that the other forms are made of. -/
def forms (runs : List CaseRun) (expansions : List (Nat × List Nat)) : List Nat :=
  runs.flatMap CaseRun.forms ++ expansions.flatMap Prod.snd

/-- What is checked of a table: the other forms are made of characters, though none of some others,
and some characters have no other form. -/
def checks (runs : List CaseRun) (expansions : List (Nat × List Nat)) (others fixed : List Nat) :
    Bool :=
  ((forms runs expansions).all fun n => decide n.isValidChar) &&
    (apart (forms runs expansions) others && apart (changed runs expansions) fixed)

section Tables

variable {runs : List CaseRun} {expansions : List (Nat × List Nat)} {others fixed : List Nat}
  {c d : Char}

theorem CaseRun.mem_codes {r : CaseRun} {n : Nat} (hf : r.first ≤ n) (hl : n ≤ r.last)
    (hs : (n - r.first) % r.stride = 0) : n ∈ r.codes := by
  unfold CaseRun.codes
  rw [List.mem_range']
  refine ⟨(n - r.first) / r.stride, ?_, ?_⟩
  · have hle : (n - r.first) / r.stride ≤ (r.last - r.first) / r.stride :=
      Nat.div_le_div_right (by omega)
    omega
  · have hmul : r.stride * ((n - r.first) / r.stride) = n - r.first :=
      Nat.mul_div_cancel' (Nat.dvd_of_mod_eq_zero hs)
    omega

/-- A character with another form lies on a run, which leads to that form. -/
theorem exists_run_of_shifted? (h : shifted? runs c = some d) :
    ∃ r ∈ runs, c.toNat ∈ r.codes ∧ d = Char.ofNat (Int.toNat (c.toNat + r.shift)) := by
  obtain ⟨r, hr, rfl⟩ := Option.map_eq_some_iff.mp h
  have hc := List.find?_some hr
  simp only [Bool.and_eq_true, decide_eq_true_eq, beq_iff_eq] at hc
  exact ⟨r, List.mem_of_find?_eq_some hr, CaseRun.mem_codes hc.1.1 hc.1.2 hc.2, rfl⟩

theorem mem_of_lookup {n : Nat} {ns : List Nat} (h : expansions.lookup n = some ns) :
    (n, ns) ∈ expansions := by
  obtain ⟨before, after, rfl, -⟩ := List.lookup_eq_some_iff.mp h
  exact List.mem_append_right before List.mem_cons_self

/-- A character that a table does not change is its own form. -/
theorem mapCase_of_not_mem (h : c.toNat ∉ changed runs expansions) :
    mapCase runs expansions c = [c] := by
  unfold changed at h
  rw [List.mem_append, not_or] at h
  unfold mapCase
  cases he : expansions.lookup c.toNat with
  | some ns => exact absurd (List.mem_map_of_mem (mem_of_lookup he)) h.2
  | none =>
    cases hs : shifted? runs c with
    | none => rfl
    | some d =>
      obtain ⟨r, hr, hc, -⟩ := exists_run_of_shifted? hs
      exact absurd (List.mem_flatMap.mpr ⟨r, hr, hc⟩) h.1

/-- A form holds the character itself, if that is all, or characters that the table leads to. -/
theorem mem_mapCase (hv : ∀ n ∈ forms runs expansions, n.isValidChar)
    (h : d ∈ mapCase runs expansions c) :
    (d = c ∧ mapCase runs expansions c = [c]) ∨ d.toNat ∈ forms runs expansions := by
  have formed {n : Nat} (hn : n ∈ forms runs expansions) (hd : d = Char.ofNat n) :
      d.toNat ∈ forms runs expansions := by
    rwa [hd, toNat_ofNat_of_isValidChar (hv n hn)]
  unfold mapCase at h ⊢
  cases he : expansions.lookup c.toNat with
  | some ns =>
    rw [he] at h
    obtain ⟨n, hn, rfl⟩ := List.mem_map.mp h
    refine Or.inr (formed (List.mem_append_right _ ?_) rfl)
    exact List.mem_flatMap.mpr ⟨_, mem_of_lookup he, hn⟩
  | none =>
    rw [he] at h
    cases hs : shifted? runs c with
    | none =>
      rw [hs] at h
      exact Or.inl ⟨List.mem_singleton.mp h, rfl⟩
    | some f =>
      rw [hs] at h
      obtain ⟨r, hr, hc, hf⟩ := exists_run_of_shifted? hs
      refine Or.inr (formed (List.mem_append_left _ ?_) ((List.mem_singleton.mp h).trans hf))
      exact List.mem_flatMap.mpr ⟨r, hr, List.mem_map_of_mem hc⟩

/-- By a checked table a form holds the character itself, if that is all, or none of the others. -/
theorem mem_mapCase_of_checks (hk : checks runs expansions others fixed = true)
    (h : d ∈ mapCase runs expansions c) :
    (d = c ∧ mapCase runs expansions c = [c]) ∨ d.toNat ∉ others := by
  unfold checks at hk
  rw [Bool.and_eq_true, Bool.and_eq_true, List.all_eq_true] at hk
  obtain ⟨hv, ho, -⟩ := hk
  rcases mem_mapCase (fun n hn => of_decide_eq_true (hv n hn)) h with hd | hd
  · exact Or.inl hd
  · exact Or.inr (not_mem_of_apart ho hd)

/-- By a checked table the characters that are fixed have no other form. -/
theorem mapCase_of_checks (hk : checks runs expansions others fixed = true)
    (hc : c.toNat ∈ fixed) : mapCase runs expansions c = [c] := by
  unfold checks at hk
  rw [Bool.and_eq_true, Bool.and_eq_true] at hk
  exact mapCase_of_not_mem fun hm => not_mem_of_apart hk.2.2 hm hc

theorem mapCase_ne_nil (h : ∀ e ∈ expansions, e.2 ≠ []) (c : Char) :
    mapCase runs expansions c ≠ [] := by
  unfold mapCase
  cases he : expansions.lookup c.toNat with
  | some ns =>
    intro hn
    exact h _ (mem_of_lookup he) (List.map_eq_nil_iff.mp hn)
  | none => exact List.cons_ne_nil _ _

end Tables

/-! ## Characters -/

/-- Lower forms are no white space and have no other lower form; of ASCII they hold small letters
only, and only capitals have another one. -/
theorem lower_checked : checks lowerRuns lowerExpansions
    (changed lowerRuns lowerExpansions ++ (blanks.codes ++ asciiBut Char.isLower))
    (asciiBut Char.isUpper) = true := by decide +kernel

/-- Of ASCII upper forms hold capitals only, and only small letters have another one. -/
theorem upper_checked : checks upperRuns upperExpansions (asciiBut Char.isUpper)
    (asciiBut Char.isLower) = true := by decide +kernel

section Characters

variable {c d : Char}

theorem mem_lowerChar (h : d ∈ lowerChar c) : (d = c ∧ lowerChar c = [c]) ∨
    d.toNat ∉ changed lowerRuns lowerExpansions ∧ d.toNat ∉ blanks.codes ∧
      d.toNat ∉ asciiBut Char.isLower := by
  have hd := mem_mapCase_of_checks lower_checked h
  rwa [List.mem_append, List.mem_append, not_or, not_or] at hd

theorem lowerChar_ne_nil (c : Char) : lowerChar c ≠ [] := mapCase_ne_nil (by decide) c

/-- **Lower forms have no other lower form.** -/
theorem lowerChar_of_mem (h : d ∈ lowerChar c) : lowerChar d = [d] := by
  rcases mem_lowerChar h with ⟨rfl, hd⟩ | ⟨hn, -, -⟩
  · exact hd
  · exact mapCase_of_not_mem hn

/-- No white space comes up in lower forms. -/
theorem isSpace_of_mem_lowerChar (h : d ∈ lowerChar c) (hc : isSpace c = false) :
    isSpace d = false := by
  rcases mem_lowerChar h with ⟨rfl, -⟩ | ⟨-, hn, -⟩
  · exact hc
  · rw [Ranges.mem_codes] at hn
    exact Bool.eq_false_iff.mpr hn

/-- Of ASCII only letters come up in lower forms. -/
theorem isLower_of_mem_lowerChar (h : d ∈ lowerChar c) (hd : d.toNat < 128) :
    d = c ∨ d.isLower = true := by
  rcases mem_lowerChar h with ⟨hdc, -⟩ | ⟨-, -, hn⟩
  · exact Or.inl hdc
  · rw [mem_asciiBut] at hn
    exact Or.inr (eq_true_of_ne_false fun hl => hn ⟨hd, hl⟩)

/-- Of ASCII only letters come up in upper forms. -/
theorem isUpper_of_mem_upperChar (h : d ∈ upperChar c) (hd : d.toNat < 128) :
    (d = c ∧ upperChar c = [c]) ∨ d.isUpper = true := by
  rcases mem_mapCase_of_checks upper_checked h with hdc | hn
  · exact Or.inl hdc
  · rw [mem_asciiBut] at hn
    exact Or.inr (eq_true_of_ne_false fun hl => hn ⟨hd, hl⟩)

/-! ### ASCII -/

theorem isUpper_iff : c.isUpper = true ↔ 65 ≤ c.toNat ∧ c.toNat ≤ 90 := by
  unfold Char.isUpper
  rw [decide_eq_true_iff]
  exact Iff.rfl

theorem isLower_iff : c.isLower = true ↔ 97 ≤ c.toNat ∧ c.toNat ≤ 122 := by
  unfold Char.isLower
  rw [Bool.and_eq_true, decide_eq_true_iff, decide_eq_true_iff]
  exact Iff.rfl

theorem toLower_of_not_isUpper (h : c.isUpper = false) : c.toLower = c := by
  unfold Char.isUpper at h
  exact dif_neg (of_decide_eq_false h)

theorem toUpper_of_not_isLower (h : c.isLower = false) : c.toUpper = c := by
  unfold Char.isLower at h
  rw [← Bool.decide_and] at h
  exact dif_neg (of_decide_eq_false h)

/-- What is checked of the letters of a row holds of them. -/
theorem of_forall_letters {P : Char → Prop} {a : Nat} (h : ∀ k < 26, P (Char.ofNat (a + k)))
    (hc : a ≤ c.toNat ∧ c.toNat ≤ a + 25) : P c := by
  have hk := h (c.toNat - a) (by omega)
  rwa [Nat.add_sub_cancel' hc.1, Char.ofNat_toNat] at hk

/-- **On ASCII lower case is that of the standard library.** -/
theorem lowerChar_of_ascii (h : c.toNat < 128) : lowerChar c = [c.toLower] := by
  cases hc : c.isUpper with
  | true =>
    exact of_forall_letters (a := 65) (P := fun c => lowerChar c = [c.toLower]) (by decide)
      (isUpper_iff.mp hc)
  | false =>
    rw [toLower_of_not_isUpper hc]
    exact mapCase_of_checks lower_checked (mem_asciiBut.mpr ⟨h, hc⟩)

/-- **On ASCII upper case is that of the standard library.** -/
theorem upperChar_of_ascii (h : c.toNat < 128) : upperChar c = [c.toUpper] := by
  cases hc : c.isLower with
  | true =>
    exact of_forall_letters (a := 97) (P := fun c => upperChar c = [c.toUpper])
      (by decide +kernel) (isLower_iff.mp hc)
  | false =>
    rw [toUpper_of_not_isLower hc]
    exact mapCase_of_checks upper_checked (mem_asciiBut.mpr ⟨h, hc⟩)

/-- A class of characters that holds both letters of each pair or none does not tell them apart. -/
theorem toLower_congr {α : Type} {f : Char → α}
    (h : ∀ k < 26, f (Char.ofNat (65 + k)).toLower = f (Char.ofNat (65 + k))) (c : Char) :
    f c.toLower = f c := by
  cases hc : c.isUpper with
  | true => exact of_forall_letters (P := fun c => f c.toLower = f c) h (isUpper_iff.mp hc)
  | false => rw [toLower_of_not_isUpper hc]

theorem isAscii_toLower (c : Char) : c.toLower.toNat < 128 ↔ c.toNat < 128 := by
  have h := toLower_congr (f := fun c => decide (c.toNat < 128)) (by decide) c
  exact decide_eq_decide.mp h

theorem isSpace_toLower (c : Char) : isSpace c.toLower = isSpace c :=
  toLower_congr (by decide) c

/-- Ranges that hold all letters of ASCII or none do not tell a letter from its lower form. -/
theorem has_toLower {r : Ranges} {held : Bool}
    (h : ∀ {c : Char}, c.isUpper = true ∨ c.isLower = true → r.has c = held) (c : Char) :
    r.has c.toLower = r.has c := by
  cases hc : c.isUpper with
  | true =>
    have hl : c.toLower.isLower = true :=
      of_forall_letters (P := fun c => c.toLower.isLower = true) (by decide) (isUpper_iff.mp hc)
    rw [h (Or.inr hl), h (Or.inl hc)]
  | false => rw [toLower_of_not_isUpper hc]

theorem cased_of_letter (h : c.isUpper = true ∨ c.isLower = true) : cased.has c = true := by
  rw [isUpper_iff, isLower_iff] at h
  rcases h with h | h
  · exact Ranges.has_iff.mpr ⟨(65, 90), List.mem_cons_self, h⟩
  · exact Ranges.has_iff.mpr ⟨(97, 122), List.mem_cons_of_mem _ List.mem_cons_self, h⟩

/-- Of ASCII only letters have case. -/
theorem cased_of_ascii (ha : c.toNat < 128) (h : ¬ (c.isUpper = true ∨ c.isLower = true)) :
    cased.has c = false := by
  have hr : ∀ e ∈ cased, e = (65, 90) ∨ e = (97, 122) ∨ 128 ≤ e.1 := by decide +kernel
  rw [isUpper_iff, isLower_iff, not_or] at h
  refine Bool.eq_false_iff.mpr fun hc => ?_
  obtain ⟨e, he, hl, hu⟩ := Ranges.has_iff.mp hc
  rcases hr e he with rfl | rfl | he
  · exact h.1 ⟨hl, hu⟩
  · exact h.2 ⟨hl, hu⟩
  · omega

/-- The marks of ASCII that are passed over. -/
def marks : List Char := ['\'', '.', ':', '^', '`']

/-- Of ASCII only those marks are passed over. -/
theorem ignorable_of_ascii (ha : c.toNat < 128) (h : c ∉ marks) : ignorable.has c = false := by
  have hr : ∀ e ∈ ignorable, e.1 = e.2 ∧ e.1 ∈ marks.map Char.toNat ∨ 128 ≤ e.1 := by
    decide +kernel
  refine Bool.eq_false_iff.mpr fun hc => ?_
  obtain ⟨e, he, hl, hu⟩ := Ranges.has_iff.mp hc
  rcases hr e he with ⟨h₁, h₂⟩ | he
  · obtain ⟨m, hm, he⟩ := List.mem_map.mp h₂
    have hmc : m = c := Char.toNat_inj.mp (by omega)
    exact h (hmc ▸ hm)
  · omega

theorem ignorable_of_letter (h : c.isUpper = true ∨ c.isLower = true) :
    ignorable.has c = false := by
  have hm : c ∉ marks := by
    have hn : ∀ m ∈ marks, ¬ (m.isUpper = true ∨ m.isLower = true) := by simp [marks]
    exact fun hc => hn c hc h
  rw [isUpper_iff, isLower_iff] at h
  exact ignorable_of_ascii (by omega) hm

theorem cased_toLower (c : Char) : cased.has c.toLower = cased.has c :=
  has_toLower cased_of_letter c

theorem ignorable_toLower (c : Char) : ignorable.has c.toLower = ignorable.has c :=
  has_toLower ignorable_of_letter c

/-- A letter and its lower form have the same lower form. -/
theorem lowerChar_toLower (c : Char) : lowerChar c.toLower = lowerChar c := by
  cases hc : c.isUpper with
  | true =>
    obtain ⟨-, hr⟩ := isUpper_iff.mp hc
    have hl : lowerChar c = [c.toLower] := lowerChar_of_ascii (by omega)
    rw [hl]
    exact lowerChar_of_mem (c := c) (by rw [hl]; exact List.mem_cons_self)
  | false => rw [toLower_of_not_isUpper hc]

end Characters

/-! ## Texts -/

/-- The form that a character takes between `before` (read backwards) and `after`. -/
def formIn (before : List Char) (c : Char) (after : List Char) : List Char :=
  if c = 'Σ' then [if endsWord before after then 'ς' else 'σ'] else lowerChar c

section Texts

variable {before s t : List Char} {c d : Char}

theorem lowerFrom_cons (before : List Char) (c : Char) (s : List Char) :
    lowerFrom before (c :: s) = formIn before c s ++ lowerFrom (c :: before) s := rfl

theorem lowerChar_sigma : lowerChar 'Σ' = ['σ'] := rfl

theorem lowerChar_final : lowerChar 'ς' = ['ς'] := rfl

theorem formIn_ne_nil (before : List Char) (c : Char) (after : List Char) :
    formIn before c after ≠ [] := by
  unfold formIn
  split
  · exact List.cons_ne_nil _ _
  · exact lowerChar_ne_nil c

/-- A form is the lower form of the character on its own, but that sigma may be final. -/
theorem mem_formIn {after : List Char} (h : d ∈ formIn before c after) :
    d ∈ lowerChar c ∨ (c = 'Σ' ∧ d = 'ς') := by
  unfold formIn at h
  by_cases hc : c = 'Σ'
  · rw [if_pos hc, List.mem_singleton] at h
    by_cases he : endsWord before after = true
    · rw [if_pos he] at h
      exact Or.inr ⟨hc, h⟩
    · rw [if_neg he] at h
      rw [h, hc, lowerChar_sigma]
      exact Or.inl List.mem_cons_self
  · rw [if_neg hc] at h
    exact Or.inl h

theorem lowerChar_of_mem_formIn {after : List Char} (h : d ∈ formIn before c after) :
    lowerChar d = [d] := by
  rcases mem_formIn h with h | ⟨-, rfl⟩
  · exact lowerChar_of_mem h
  · exact lowerChar_final

theorem isSpace_of_mem_formIn {after : List Char} (h : d ∈ formIn before c after)
    (hc : isSpace c = false) : isSpace d = false := by
  rcases mem_formIn h with h | ⟨-, rfl⟩
  · exact isSpace_of_mem_lowerChar h hc
  · decide

/-- A text in lower case is made of the forms of its characters. -/
theorem exists_of_mem_lowerFrom : ∀ {s before : List Char}, d ∈ lowerFrom before s →
    ∃ c ∈ s, ∃ l r, d ∈ formIn l c r
  | [], _, h => by cases h
  | c :: s, before, h => by
    rw [lowerFrom_cons, List.mem_append] at h
    rcases h with h | h
    · exact ⟨c, List.mem_cons_self, before, s, h⟩
    · obtain ⟨c', hc', hd⟩ := exists_of_mem_lowerFrom h
      exact ⟨c', List.mem_cons_of_mem c hc', hd⟩

/-- What follows a text is taken in lower case after it. -/
theorem exists_lowerFrom_append : ∀ (s t before : List Char),
    ∃ x, lowerFrom before (s ++ t) = x ++ lowerFrom (s.reverse ++ before) t
  | [], _, _ => ⟨[], rfl⟩
  | c :: s, t, before => by
    obtain ⟨x, hx⟩ := exists_lowerFrom_append s t (c :: before)
    refine ⟨formIn before c (s ++ t) ++ x, ?_⟩
    rw [List.cons_append, lowerFrom_cons, hx, List.reverse_cons, List.append_assoc,
      List.append_assoc, List.singleton_append]

/-! ### Lower case twice -/

/-- A text whose characters are their own lower forms stays as it is. -/
theorem lowerFrom_of_forall : ∀ {s : List Char} (before : List Char),
    (∀ c ∈ s, lowerChar c = [c]) → lowerFrom before s = s
  | [], _, _ => rfl
  | c :: s, before, h => by
    have hc : lowerChar c = [c] := h c List.mem_cons_self
    have hne : c ≠ 'Σ' := by
      rintro rfl
      exact absurd (lowerChar_sigma.symm.trans hc) (by decide)
    rw [lowerFrom_cons, formIn, if_neg hne, hc, List.singleton_append,
      lowerFrom_of_forall (c :: before) fun d hd => h d (List.mem_cons_of_mem c hd)]

/-- **A text in lower case stays as it is.** -/
theorem lower_lower (s : List Char) : lower (lower s) = lower s := by
  refine lowerFrom_of_forall [] fun d hd => ?_
  obtain ⟨c, -, l, r, hf⟩ := exists_of_mem_lowerFrom hd
  exact lowerChar_of_mem_formIn hf

/-! ### White space at the ends -/

theorem isSpace_head_lower (h : ∀ c ∈ s.head?, isSpace c = false) :
    ∀ d ∈ (lower s).head?, isSpace d = false := by
  intro d hd
  cases s with
  | nil => cases hd
  | cons c s =>
    have hc : isSpace c = false := h c rfl
    obtain ⟨f, r, hf⟩ := List.exists_cons_of_ne_nil (formIn_ne_nil [] c s)
    rw [lower, lowerFrom_cons, hf] at hd
    obtain rfl : f = d := Option.some.inj hd
    exact isSpace_of_mem_formIn (hf ▸ List.mem_cons_self) hc

theorem isSpace_getLast_lower (h : ∀ c ∈ s.getLast?, isSpace c = false) :
    ∀ d ∈ (lower s).getLast?, isSpace d = false := by
  intro d hd
  rcases List.eq_nil_or_concat s with rfl | ⟨s', c, rfl⟩
  · cases hd
  · rw [List.concat_eq_append] at h hd
    have hc : isSpace c = false := h c (by simp)
    obtain ⟨x, hx⟩ := exists_lowerFrom_append s' [c] []
    rw [lower, hx, lowerFrom_cons, lowerFrom, List.append_nil, List.getLast?_append,
      Option.or_of_isSome (by simp [formIn_ne_nil])] at hd
    exact isSpace_of_mem_formIn (List.mem_of_mem_getLast? hd) hc

/-- **Lower case brings no white space to the ends of a text.** -/
theorem trim_lower (s : List Char) : trim (lower (trim s)) = lower (trim s) :=
  trimWhile_of_kept (isSpace_head_lower (head_trimWhile isSpace s))
    (isSpace_getLast_lower (getLast_trimWhile isSpace s))

/-! ### Breaks -/

/-- A character that is no letter with case and is not passed over: no word goes across it. -/
structure Breaks (b : Char) : Prop where
  ignorable : ignorable.has b = false
  cased : cased.has b = false
  lower : lowerChar b = [b]

/-- All of ASCII but letters and the marks that are passed over are breaks. -/
theorem breaks_of_ascii (ha : c.toNat < 128) (hl : ¬ (c.isUpper = true ∨ c.isLower = true))
    (hm : c ∉ marks) : Breaks c where
  ignorable := ignorable_of_ascii ha hm
  cased := cased_of_ascii ha hl
  lower := by
    have hu : c.isUpper = false := Bool.eq_false_iff.mpr fun hu => hl (Or.inl hu)
    rw [lowerChar_of_ascii ha, toLower_of_not_isUpper hu]

variable {b : Char}

theorem nextIsCased_append_cons (hb : Breaks b) (s t : List Char) :
    nextIsCased (s ++ b :: t) = nextIsCased s := by
  unfold nextIsCased
  rw [dropWhile_append_cons hb.ignorable]
  cases s.dropWhile ignorable.has with
  | nil => exact hb.cased
  | cons c r => rfl

/-- Behind a break it does not matter what stood before it. -/
theorem lowerFrom_append_cons (hb : Breaks b) (far : List Char) : ∀ s before : List Char,
    lowerFrom (before ++ b :: far) s = lowerFrom before s
  | [], _ => rfl
  | c :: s, before => by
    rw [lowerFrom_cons, lowerFrom_cons, formIn, formIn, endsWord, endsWord,
      nextIsCased_append_cons hb, ← List.cons_append, lowerFrom_append_cons hb far s (c :: before)]

/-- **The two sides of a break are taken in lower case on their own.** -/
theorem lower_append_cons (hb : Breaks b) (s t : List Char) :
    lower (s ++ b :: t) = lower s ++ b :: lower t := by
  have go : ∀ s before : List Char,
      lowerFrom before (s ++ b :: t) = lowerFrom before s ++ b :: lower t := by
    intro s
    induction s with
    | nil =>
      intro before
      have hne : b ≠ 'Σ' := by
        rintro rfl
        exact absurd (lowerChar_sigma.symm.trans hb.lower) (by decide)
      rw [List.nil_append, lowerFrom_cons, formIn, if_neg hne, hb.lower]
      exact congrArg (b :: ·) (lowerFrom_append_cons hb before t [])
    | cons c s ih =>
      intro before
      rw [List.cons_append, lowerFrom_cons, lowerFrom_cons, formIn, formIn, endsWord, endsWord,
        nextIsCased_append_cons hb, ih, List.append_assoc]
  exact go s []

/-! ### The case of ASCII letters -/

theorem nextIsCased_map_toLower (s : List Char) :
    nextIsCased (s.map Char.toLower) = nextIsCased s := by
  have hi : ignorable.has ∘ Char.toLower = ignorable.has := funext ignorable_toLower
  unfold nextIsCased
  rw [List.dropWhile_map, hi]
  cases s.dropWhile ignorable.has with
  | nil => rfl
  | cons c r => exact cased_toLower c

theorem toLower_eq_sigma_iff : c.toLower = 'Σ' ↔ c = 'Σ' := by
  have h := toLower_congr (f := fun c => decide (c = 'Σ')) (by decide) c
  exact decide_eq_decide.mp h

theorem lowerFrom_map_toLower : ∀ s before : List Char,
    lowerFrom (before.map Char.toLower) (s.map Char.toLower) = lowerFrom before s
  | [], _ => rfl
  | c :: s, before => by
    have ih := lowerFrom_map_toLower s (c :: before)
    rw [List.map_cons] at ih
    rw [List.map_cons, lowerFrom_cons, lowerFrom_cons, ih, formIn, formIn, endsWord, endsWord,
      nextIsCased_map_toLower, nextIsCased_map_toLower, lowerChar_toLower]
    simp only [toLower_eq_sigma_iff]

/-- **The case of ASCII letters does not show in lower case.** -/
theorem lower_map_toLower (s : List Char) : lower (s.map Char.toLower) = lower s :=
  lowerFrom_map_toLower s []

theorem trim_map_toLower (s : List Char) :
    trim (s.map Char.toLower) = (trim s).map Char.toLower := by
  have hs : isSpace ∘ Char.toLower = isSpace := funext isSpace_toLower
  unfold trim trimWhile
  rw [List.dropWhile_map, hs, ← List.map_reverse, List.dropWhile_map, hs, List.map_reverse]

/-! ### Parts without sigma -/

/-- The final form of sigma taken for the other one. -/
def unfinal (c : Char) : Char := if c = 'ς' then 'σ' else c

/-- With one form for sigma, lower case goes character by character. -/
theorem map_unfinal_lowerFrom : ∀ s before : List Char,
    (lowerFrom before s).map unfinal = s.flatMap fun c => (lowerChar c).map unfinal
  | [], _ => rfl
  | c :: s, before => by
    have hf : (formIn before c s).map unfinal = (lowerChar c).map unfinal := by
      unfold formIn
      by_cases hc : c = 'Σ'
      · rw [if_pos hc, hc, lowerChar_sigma]
        split <;> rfl
      · rw [if_neg hc]
    rw [lowerFrom_cons, List.map_append, hf, map_unfinal_lowerFrom s (c :: before),
      List.flatMap_cons]

/-- Neither form of sigma comes up. -/
def NoSigma (word : List Char) : Prop := ∀ c ∈ word, c ≠ 'σ' ∧ c ≠ 'ς'

variable {word : List Char}

theorem isInfix_map_unfinal_iff (hw : NoSigma word) :
    word <:+: s.map unfinal ↔ word <:+: s := by
  have hid {l : List Char} (h : ∀ c ∈ l, c ≠ 'ς') : l.map unfinal = l := by
    have hc : l.map unfinal = l.map id := List.map_congr_left fun c hc => if_neg (h c hc)
    rw [hc, List.map_id]
  constructor
  · intro h
    obtain ⟨l, hl, rfl⟩ := List.infix_map_iff.mp h
    rwa [hid]
    rintro c hc rfl
    exact (hw _ (List.mem_map_of_mem hc)).1 rfl
  · intro h
    have hm := h.map unfinal
    rwa [hid fun c hc => (hw c hc).2] at hm

/-- **A word without sigma that is in the lower case of a text is in that of every longer one.** -/
theorem isInfix_lower (hw : NoSigma word) (hst : s <:+: t) (h : word <:+: lower s) :
    word <:+: lower t := by
  obtain ⟨x, y, rfl⟩ := hst
  rw [lower, ← isInfix_map_unfinal_iff hw, map_unfinal_lowerFrom] at h ⊢
  rw [List.flatMap_append, List.flatMap_append]
  exact h.trans ⟨_, _, rfl⟩

/-- The lower case of a word of ASCII holds no sigma. -/
theorem noSigma_lower_of_ascii (h : ∀ c ∈ word, c.toNat < 128) : NoSigma (lower word) := by
  intro d hd
  obtain ⟨c, hc, l, r, hf⟩ := exists_of_mem_lowerFrom hd
  have ha : c.toNat < 128 := h c hc
  have hl : d.toNat < 128 := by
    rcases mem_formIn hf with hf | ⟨rfl, -⟩
    · rw [lowerChar_of_ascii ha, List.mem_singleton] at hf
      rw [hf]
      exact (isAscii_toLower c).mpr ha
    · exact absurd ha (by decide)
  constructor
  · rintro rfl
    exact absurd hl (by decide)
  · rintro rfl
    exact absurd hl (by decide)

end Texts

end HostFacts.Text
