import HostFacts.Proofs.Numerals
import HostFacts.Proofs.VersionText
import Mathlib.Data.List.Forall2

/-!
# The texts that are versions

A version is read from runs of ASCII digits with single points between them. Points at the ends of
the text do not count, nor does white space around these; nothing else may stand in it, no white
space between the points and the digits and no digits of other scripts. `DottedText` says this as a
grammar, in which a run of digits stands for a number by place value.

* `componentsOf_eq_ok_iff`, `componentsOf_eq_error`: reading parts one after the other;
* `dottedText_iff`: the parts of a dotted text are its runs of digits;
* **`parse_reads_dotted_texts`**: exactly the dotted texts are read, as their components, and all
  other texts are refused by name.
-/

namespace HostFacts.Version

open HostFacts.Number HostFacts.Text

/-! ## The grammar -/

/-- One or more digits, and the number that they stand for by place value. -/
structure DigitRun (n : Nat) (s : List Char) : Prop where
  ne_nil : s ≠ []
  isDigit : ∀ c ∈ s, isDigit c = true
  value : Nat.ofDigits 10 (s.map digitValue).reverse = n

/-- Runs of digits with one point between each two. -/
inductive Dotted : List Nat → List Char → Prop
  | last {n : Nat} {s : List Char} (h : DigitRun n s) : Dotted [n] s
  | cons {n : Nat} {ns : List Nat} {s rest : List Char} (h : DigitRun n s) (hr : Dotted ns rest) :
    Dotted (n :: ns) (s ++ '.' :: rest)

/-- A text with the given components: their runs of digits, points around them, and white space
around these. -/
inductive DottedText (components : List Nat) : String → Prop
  | mk {before lead row trail after : List Char} (hbefore : ∀ c ∈ before, isSpace c = true)
    (hlead : ∀ c ∈ lead, c = '.') (hrow : Dotted components row) (htrail : ∀ c ∈ trail, c = '.')
    (hafter : ∀ c ∈ after, isSpace c = true) :
    DottedText components (String.ofList (before ++ lead ++ row ++ trail ++ after))

/-- A text in which no run of digits is too long to be read. -/
def ShortRuns (text : String) : Prop :=
  ∀ run, run <:+: text.toList → (∀ c ∈ run, isDigit c = true) → run.length ≤ digitLimit

theorem shortRuns_of_length_le {text : String} (h : text.toList.length ≤ digitLimit) :
    ShortRuns text := fun _ hr _ => hr.length_le.trans h

/-! ## Reading parts -/

variable {n : Nat} {ns : List Nat} {s row : List Char} {parts : List (List Char)} {whole : Value}

theorem component?_eq_some_iff : component? s = some n ↔ DigitRun n s := by
  unfold component?
  constructor
  · intro h
    split at h
    · rename_i hs
      obtain ⟨hne, hd⟩ : s ≠ [] ∧ ∀ c ∈ s, isDigit c = true := by simpa using hs
      exact ⟨hne, hd, by rw [← ofDecimal_eq_ofDigits]; exact Option.some.inj h⟩
    · cases h
  · rintro ⟨hne, hd, hv⟩
    rw [if_pos (by simpa using ⟨hne, hd⟩), ofDecimal_eq_ofDigits, hv]

theorem DigitRun.ofDecimal_eq (h : DigitRun n s) : ofDecimal s = n := by
  rw [ofDecimal_eq_ofDigits, h.value]

theorem digitRun_ofDecimal (hne : s ≠ []) (hd : ∀ c ∈ s, isDigit c = true) :
    DigitRun (ofDecimal s) s := ⟨hne, hd, (ofDecimal_eq_ofDigits s).symm⟩

/-- Parts are runs of digits of the numbers that are read from them, or they are none. -/
theorem forall₂_digitRun_iff : List.Forall₂ DigitRun ns parts ↔
    (∀ part ∈ parts, part ≠ [] ∧ ∀ c ∈ part, isDigit c = true) ∧ ns = parts.map ofDecimal := by
  constructor
  · intro h
    induction h with
    | nil => simp
    | cons h hr ih =>
      exact ⟨List.forall_mem_cons.mpr ⟨⟨h.ne_nil, h.isDigit⟩, ih.1⟩,
        congrArg₂ List.cons h.ofDecimal_eq.symm ih.2⟩
  · rintro ⟨h, rfl⟩
    rw [List.forall₂_map_left_iff, List.forall₂_same]
    exact fun part hp => digitRun_ofDecimal (h part hp).1 (h part hp).2

/-- **Parts are read if they are runs of digits within the limit.** -/
theorem componentsOf_eq_ok_iff : ∀ {parts : List (List Char)} {ns : List Nat},
    componentsOf whole parts = .ok ns ↔
      List.Forall₂ DigitRun ns parts ∧ ∀ part ∈ parts, part.length ≤ digitLimit
  | [], ns => by
    rw [componentsOf, List.forall₂_nil_right_iff, Except.ok.injEq]
    simp [eq_comm]
  | part :: rest, ns => by
    rw [componentsOf, List.forall₂_cons_right_iff, List.forall_mem_cons]
    cases hc : component? part with
    | none =>
      have hn : ∀ n, ¬ DigitRun n part := fun n h => by
        cases hc.symm.trans (component?_eq_some_iff.mpr h)
      simp [hn]
    | some n =>
      by_cases hl : digitLimit < part.length
      · simp [hl]
      · have ih {ms : List Nat} := @componentsOf_eq_ok_iff rest ms
        simp only [if_neg hl]
        constructor
        · intro h
          obtain ⟨ms, hr, rfl⟩ := exceptMap_eq_ok_iff.mp h
          obtain ⟨hf, hs⟩ := ih.mp hr
          exact ⟨⟨n, ms, component?_eq_some_iff.mp hc, hf, rfl⟩, Nat.le_of_not_lt hl, hs⟩
        · rintro ⟨⟨m, ms, hm, hf, rfl⟩, -, hs⟩
          obtain rfl : n = m := Option.some.inj (hc.symm.trans (component?_eq_some_iff.mpr hm))
          exact exceptMap_eq_ok_iff.mpr ⟨ms, ih.mpr ⟨hf, hs⟩, rfl⟩

/-- Parts are refused by name if none of them is too long. -/
theorem componentsOf_eq_error : ∀ {parts : List (List Char)} {e : Fault},
    (∀ part ∈ parts, (∀ c ∈ part, isDigit c = true) → part.length ≤ digitLimit) →
      componentsOf whole parts = .error e → e = .unparsableVersion whole []
  | [], e, _, h => by
    rw [componentsOf] at h
    cases h
  | part :: rest, e, hs, h => by
    rw [componentsOf] at h
    cases hc : component? part with
    | none =>
      rw [hc] at h
      exact (Except.error.inj h).symm
    | some n =>
      have hl : ¬ digitLimit < part.length :=
        Nat.not_lt.mpr (hs part List.mem_cons_self (component?_eq_some_iff.mp hc).isDigit)
      simp only [hc, if_neg hl] at h
      exact componentsOf_eq_error (fun p hp => hs p (List.mem_cons_of_mem part hp))
        (exceptMap_eq_error_iff.mp h)

/-! ## The runs of digits of a text -/

theorem DigitRun.not_mem_point (h : DigitRun n s) : '.' ∉ s := fun hm =>
  Bool.noConfusion (h.isDigit '.' hm)

/-- The runs of digits of a row are its parts. -/
theorem Dotted.forall₂_splitAll (h : Dotted ns row) :
    List.Forall₂ DigitRun ns (splitAll '.' row) := by
  induction h with
  | last h =>
    rw [splitAll_of_not_mem h.not_mem_point]
    exact .cons h .nil
  | cons h hr ih =>
    rw [splitAll_append h.not_mem_point]
    exact .cons h ih

/-- Runs of digits joined with points are a row. -/
theorem dotted_joinWith (h : List.Forall₂ DigitRun ns parts) (hne : parts ≠ []) :
    Dotted ns (joinWith ['.'] parts) := by
  induction h with
  | nil => exact absurd rfl hne
  | @cons n part ns rest hn hr ih =>
    cases hr with
    | nil => exact .last hn
    | cons hm hr =>
      rw [joinWith_cons_cons, List.append_assoc]
      exact .cons hn (ih (List.cons_ne_nil _ _))

theorem Dotted.ne_nil (h : Dotted ns row) : row ≠ [] := by
  cases h with
  | last h => exact h.ne_nil
  | cons h hr => simp

theorem Dotted.isDigit_head (h : Dotted ns row) : ∀ c ∈ row.head?, isDigit c = true := by
  cases h with
  | last h => exact fun c hc => h.isDigit c (List.mem_of_mem_head? hc)
  | cons h hr =>
    intro c hc
    rw [List.head?_append_of_ne_nil _ h.ne_nil] at hc
    exact h.isDigit c (List.mem_of_mem_head? hc)

theorem Dotted.isDigit_getLast (h : Dotted ns row) : ∀ c ∈ row.getLast?, isDigit c = true := by
  induction h with
  | last h => exact fun c hc => h.isDigit c (List.mem_of_mem_getLast? hc)
  | cons h hr ih =>
    intro c hc
    rw [List.getLast?_append_of_ne_nil _ (List.cons_ne_nil _ _),
      List.getLast?_cons_of_ne_nil hr.ne_nil] at hc
    exact ih c hc

/-- A row holds digits and points only. -/
theorem Dotted.isVersionChar (h : Dotted ns row) : ∀ c ∈ row, isVersionChar c = true := by
  have digits {n : Nat} {s : List Char} (h : DigitRun n s) :
      ∀ c ∈ s, Version.isVersionChar c = true := fun c hc => by
    rw [Version.isVersionChar, h.isDigit c hc, Bool.true_or]
  induction h with
  | last h => exact digits h
  | cons h hr ih =>
    intro c hc
    rcases List.mem_append.mp hc with hc | hc
    · exact digits h c hc
    · rcases List.mem_cons.mp hc with rfl | hc
      · rfl
      · exact ih c hc

/-- Of a dotted text its row counts. -/
theorem core_dotted {before lead trail after : List Char} (hbefore : ∀ c ∈ before, isSpace c = true)
    (hlead : ∀ c ∈ lead, c = '.') (hrow : Dotted ns row) (htrail : ∀ c ∈ trail, c = '.')
    (hafter : ∀ c ∈ after, isSpace c = true) :
    core (before ++ lead ++ row ++ trail ++ after) = row :=
  core_between hbefore hlead hrow.isVersionChar hrow.ne_nil hrow.isDigit_head hrow.isDigit_getLast
    htrail hafter

/-- **A text is dotted if the parts of what counts of it are runs of digits.** -/
theorem dottedText_iff {text : String} :
    DottedText ns text ↔ List.Forall₂ DigitRun ns (splitAll '.' (core text.toList)) := by
  constructor
  · rintro ⟨hbefore, hlead, hrow, htrail, hafter⟩
    rw [String.toList_ofList, core_dotted hbefore hlead hrow htrail hafter]
    exact hrow.forall₂_splitAll
  · intro h
    obtain ⟨before, after, hbefore, hafter, hs⟩ := exists_eq_append_trimWhile isSpace text.toList
    obtain ⟨lead, trail, hlead, htrail, ht⟩ :=
      exists_eq_append_trimWhile (· == '.') (trim text.toList)
    have hrow : Dotted ns (core text.toList) := by
      rw [← joinWith_splitAll '.' (core text.toList)]
      exact dotted_joinWith h (splitAll_ne_nil _ _)
    have htext : text = String.ofList (before ++ lead ++ core text.toList ++ trail ++ after) := by
      rw [← String.toList_inj, String.toList_ofList]
      calc text.toList
        _ = before ++ trim text.toList ++ after := hs
        _ = before ++ (lead ++ core text.toList ++ trail) ++ after :=
          congrArg (fun t => before ++ t ++ after) ht
        _ = before ++ lead ++ core text.toList ++ trail ++ after := by
          simp only [List.append_assoc]
    rw [htext]
    exact .mk hbefore (fun c hc => by simpa using hlead c hc) hrow
      (fun c hc => by simpa using htrail c hc) hafter

/-! ## Reading texts -/

variable {text : String}

theorem isInfix_core (s : List Char) : core s <:+: s :=
  (trimWhile_isInfix _ _).trans (trimWhile_isInfix _ _)

/-- Without long runs of digits no part is too long. -/
theorem ShortRuns.length_le (h : ShortRuns text) {part : List Char}
    (hp : part ∈ splitAll '.' (core text.toList)) (hd : ∀ c ∈ part, isDigit c = true) :
    part.length ≤ digitLimit := by
  refine h part (List.IsInfix.trans ?_ (isInfix_core text.toList)) hd
  have hi := isInfix_joinWith_of_mem (d := ['.']) hp
  rwa [joinWith_splitAll] at hi

/-- **Exactly the dotted texts are read, as their components**, if no run of digits is too long. All
other texts are refused, and the fault names the text as it was given. -/
theorem parse_reads_dotted_texts (h : ShortRuns text) :
    (∀ v, parse (some text) = .ok v ↔ DottedText v.components text) ∧
      (parse (some text) = .error (.unparsableVersion (.text text) []) ↔
        ∀ ns, ¬ DottedText ns text) := by
  have read (v : Version) : parse (some text) = .ok v ↔ DottedText v.components text := by
    rw [parse_some, exceptMap_eq_ok_iff, dottedText_iff]
    constructor
    · rintro ⟨ns, hr, rfl⟩
      exact (componentsOf_eq_ok_iff.mp hr).1
    · intro hf
      have hl : ∀ part ∈ splitAll '.' (core text.toList), part.length ≤ digitLimit :=
        fun part hp => h.length_le hp ((forall₂_digitRun_iff.mp hf).1 part hp).2
      exact ⟨v.components, componentsOf_eq_ok_iff.mpr ⟨hf, hl⟩, rfl⟩
  refine ⟨read, fun he ns hd => ?_, fun hn => ?_⟩
  · cases he.symm.trans ((read ⟨ns⟩).mpr hd)
  · rw [parse_some, exceptMap_eq_error_iff]
    cases hr : componentsOf (.text text) (splitAll '.' (core text.toList)) with
    | ok ns => exact absurd (dottedText_iff.mpr (componentsOf_eq_ok_iff.mp hr).1) (hn ns)
    | error e => rw [componentsOf_eq_error (fun part hp => h.length_le hp) hr]

/-- Zeros in front and points around, and a text in which white space stands between the points and
the digits. -/
theorem dotted_text_with_zeros :
    ShortRuns "\t ..010.8.00.\x0b" ∧ ShortRuns "1. 2" ∧
      parse (some "\t ..010.8.00.\x0b") = .ok ⟨[10, 8, 0]⟩ ∧
      DottedText [10, 8, 0] "\t ..010.8.00.\x0b" ∧
      parse (some "1. 2") = .error (.unparsableVersion (.text "1. 2") []) ∧
      ∀ ns, ¬ DottedText ns "1. 2" := by
  have h₁ : ShortRuns "\t ..010.8.00.\x0b" := shortRuns_of_length_le (by decide)
  have h₂ : ShortRuns "1. 2" := shortRuns_of_length_le (by decide)
  have hok : parse (some "\t ..010.8.00.\x0b") = .ok ⟨[10, 8, 0]⟩ := rfl
  have herror : parse (some "1. 2") = .error (.unparsableVersion (.text "1. 2") []) := rfl
  exact ⟨h₁, h₂, hok, ((parse_reads_dotted_texts h₁).1 _).mp hok, herror,
    (parse_reads_dotted_texts h₂).2.mp herror⟩

end HostFacts.Version
