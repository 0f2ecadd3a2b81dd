import HostFacts.Proofs.LegacyVersions

/-!
# Cleaning version texts

A raw version text is cleaned before it is read. What is left are the digits, points and underscores
that it starts with, with points for the underscores. So no foreign character can stop the reader
any more: it refuses a cleaned text only for a *gap*, when nothing stands between two points or
nothing is left at all. Runs of digits that are too long to be read are another matter
(`ShortRuns`).

* `exists_longestStart`: cleaning leaves the longest start of digits, points and underscores;
* `sanitize_sanitize`: a cleaned text is clean;
* `nil_mem_partsOf_iff`: a part of a cleaned text is empty exactly if it has a gap;
* `parse_sanitize_of_short`: what is read if no part is too long;
* **`only_gaps_are_refused_after_cleaning`**: what cleaning leaves, and when that is refused.
-/

namespace HostFacts.Version

open HostFacts.Number HostFacts.Text

/-- A start of a text holds only characters of a kind, and no longer start does. -/
structure LongestStart (kind : Char → Prop) (s start : List Char) : Prop where
  isStart : start <+: s
  ofKind : ∀ c ∈ start, kind c
  length_le : ∀ t, t <+: s → (∀ c ∈ t, kind c) → t.length ≤ start.length

/-- Nothing is left of a text without the points at its ends, or two points in it are adjacent. -/
def HasGap (s : List Char) : Prop :=
  trimWhile (· == '.') s = [] ∨ ['.', '.'] <:+: trimWhile (· == '.') s

instance (s : List Char) : Decidable (HasGap s) := inferInstanceAs (Decidable (_ ∨ _))

variable {text : String}

/-! ## What cleaning leaves -/

theorem longestStart_takeWhile {kind : Char → Prop} {p : Char → Bool}
    (hp : ∀ c, p c = true ↔ kind c) (s : List Char) : LongestStart kind s (s.takeWhile p) where
  isStart := List.takeWhile_prefix p
  ofKind c hc := (hp c).mp (List.mem_takeWhile_imp hc)
  length_le t ht hk := by
    obtain ⟨rest, rfl⟩ := ht
    rw [List.takeWhile_append_of_pos fun c hc => (hp c).mpr (hk c hc), List.length_append]
    omega

/-- **Cleaning leaves the longest start of digits, points and underscores.** -/
theorem exists_longestStart (text : String) :
    ∃ start, LongestStart (fun c => isDigit c = true ∨ c = '.' ∨ c = '_') (trim text.toList) start ∧
      (sanitize text).toList = pointed start := by
  refine ⟨(trim text.toList).takeWhile fun c => isDigit c || isSeparator c,
    longestStart_takeWhile (by simp [isSeparator]) _, ?_⟩
  rw [sanitize, toList_onChars, sanitizeChars_eq]

theorem isVersionChar_of_mem_sanitize {c : Char} (h : c ∈ (sanitize text).toList) :
    isVersionChar c = true := by
  rw [sanitize, toList_onChars] at h
  exact isVersionChar_of_mem_sanitizeChars h

/-- **A cleaned text is clean.** -/
theorem sanitize_sanitize (text : String) : sanitize (sanitize text) = sanitize text := by
  rw [sanitize, onChars, sanitizeChars_of_forall fun c hc => isVersionChar_of_mem_sanitize hc,
    String.ofList_toList]

/-- Cleaning makes no run of digits longer. -/
theorem ShortRuns.sanitize (h : ShortRuns text) : ShortRuns (sanitize text) := by
  intro run hr hd
  obtain ⟨start, hstart, hs⟩ := exists_longestStart text
  rw [hs] at hr
  obtain ⟨raw, hraw, rfl⟩ := List.infix_map_iff.mp hr
  have hdigits : ∀ c ∈ raw, isDigit c = true := by
    intro c hc
    have hp := hd _ (List.mem_map_of_mem hc)
    by_cases hu : c = '_'
    · rw [if_pos hu] at hp
      cases hp
    · rwa [if_neg hu] at hp
  have hrun : raw <:+: text.toList :=
    hraw.trans (hstart.isStart.isInfix.trans (trimWhile_isInfix isSpace text.toList))
  rw [List.length_map]
  exact h raw hrun hdigits

/-! ## Reading what is left -/

/-- No white space is left, so only the points at the ends do not count. -/
theorem core_sanitize (text : String) :
    core (sanitize text).toList = trimWhile (· == '.') (sanitize text).toList := by
  have ht : trim (sanitize text).toList = (sanitize text).toList :=
    trimWhile_of_forall fun c hc => isSpace_of_isVersionChar (isVersionChar_of_mem_sanitize hc)
  rw [core, ht]

theorem partsOf_eq (text : String) : partsOf text = splitAll '.' (core (sanitize text).toList) := by
  rw [partsOf, sanitize, toList_onChars]

/-- **A part of a cleaned text is empty exactly if it has a gap.** -/
theorem nil_mem_partsOf_iff : [] ∈ partsOf text ↔ HasGap (sanitize text).toList := by
  rw [partsOf_eq, core_sanitize]
  refine nil_mem_splitAll_iff (fun c hc => ?_) fun c hc => ?_
  · exact beq_eq_false_iff_ne.mp (head_trimWhile (· == '.') _ c hc)
  · exact beq_eq_false_iff_ne.mp (getLast_trimWhile (· == '.') _ c hc)

/-- **What a cleaned text without long parts is read as**: it is refused for an empty part only. -/
theorem parse_sanitize_of_short (h : ∀ part ∈ partsOf text, part.length ≤ digitLimit) :
    parse (some (sanitize text)) =
      if [] ∈ partsOf text then .error (.unparsableVersion (.text (sanitize text)) [])
      else .ok ⟨(partsOf text).map ofDecimal⟩ := by
  by_cases hn : [] ∈ partsOf text
  · have hf : (partsOf text).find? isStray = some [] := by
      have hany : ((partsOf text).find? isStray).isSome = true :=
        List.find?_isSome.mpr ⟨[], hn, rfl⟩
      obtain ⟨part, hf⟩ := Option.isSome_iff_exists.mp hany
      have hl : part.length ≤ digitLimit := h part (List.mem_of_find?_eq_some hf)
      have hs : isStray part = true := List.find?_some hf
      obtain rfl : part = [] := by simpa [isStray, Nat.not_lt.mpr hl] using hs
      exact hf
    rw [parse_sanitize, readParts, hf, if_pos hn]
    rfl
  · rw [if_neg hn, parse_sanitize_eq_ok_iff]
    refine ⟨fun part hp => isStray_eq_false_iff.mpr ⟨?_, h part hp⟩, rfl⟩
    rintro rfl
    exact hn hp

theorem component?_eq_none_iff {part : List Char} (h : ∀ c ∈ part, isDigit c = true) :
    component? part = none ↔ part = [] := by
  have hall : part.all isDigit = true := List.all_eq_true.mpr h
  simp [component?, hall]

/-- **After cleaning only gaps are refused**, if no run of digits is too long. Cleaning leaves the
longest start of digits, points and underscores with points for the underscores, and leaves that as
it is when it is done once more. What is left is no version exactly if it has a gap, and else it is
read: no part of it is refused as a number unless it is empty. -/
theorem only_gaps_are_refused_after_cleaning (h : ShortRuns text) :
    (∃ start,
      LongestStart (fun c => isDigit c = true ∨ c = '.' ∨ c = '_') (trim text.toList) start ∧
        (sanitize text).toList = pointed start) ∧
    sanitize (sanitize text) = sanitize text ∧
    ((∃ value names, parse (some (sanitize text)) = .error (.unparsableVersion value names)) ↔
      HasGap (sanitize text).toList) ∧
    (¬ HasGap (sanitize text).toList → ∃ v, parse (some (sanitize text)) = .ok v) ∧
    ∀ part ∈ splitAll '.' (core (sanitize text).toList), component? part = none ↔ part = [] := by
  have hshort : ∀ part ∈ partsOf text, part.length ≤ digitLimit := fun part hp =>
    h.sanitize.length_le (partsOf_eq text ▸ hp) (isDigit_of_mem_partsOf hp)
  have hread := parse_sanitize_of_short hshort
  simp only [nil_mem_partsOf_iff] at hread
  refine ⟨exists_longestStart text, sanitize_sanitize text, ?_, fun hg => ?_, fun part hp => ?_⟩
  · by_cases hg : HasGap (sanitize text).toList
    · rw [if_pos hg] at hread
      exact iff_of_true ⟨_, _, hread⟩ hg
    · rw [if_neg hg] at hread
      simp [hread, hg]
  · rw [if_neg hg] at hread
    exact ⟨_, hread⟩
  · rw [← partsOf_eq] at hp
    exact component?_eq_none_iff (isDigit_of_mem_partsOf hp)

/-- An underscore beside a point makes a gap in a text that is cut at a digit of another script; a
text with a suffix has none. -/
theorem underscore_beside_point_is_refused :
    ShortRuns "\n_1._8.٣.2 " ∧ ShortRuns " 1.8_0-b09" ∧
      sanitize "\n_1._8.٣.2 " = ".1..8." ∧ sanitize " 1.8_0-b09" = "1.8.0" ∧
      HasGap ".1..8.".toList ∧ ¬ HasGap "1.8.0".toList ∧
      (∃ value names, parse (some ".1..8.") = .error (.unparsableVersion value names)) ∧
      ∃ v, parse (some "1.8.0") = .ok v := by
  have h₁ : ShortRuns "\n_1._8.٣.2 " := shortRuns_of_length_le (by decide)
  have h₂ : ShortRuns " 1.8_0-b09" := shortRuns_of_length_le (by decide)
  have hs₁ : sanitize "\n_1._8.٣.2 " = ".1..8." := rfl
  have hs₂ : sanitize " 1.8_0-b09" = "1.8.0" := rfl
  have hg₁ : HasGap ".1..8.".toList := by decide
  have hg₂ : ¬ HasGap "1.8.0".toList := by decide
  obtain ⟨-, -, hgap, -⟩ := only_gaps_are_refused_after_cleaning h₁
  obtain ⟨-, -, -, hread, -⟩ := only_gaps_are_refused_after_cleaning h₂
  exact ⟨h₁, h₂, hs₁, hs₂, hg₁, hg₂, hgap.mpr hg₁, hread hg₂⟩

end HostFacts.Version
