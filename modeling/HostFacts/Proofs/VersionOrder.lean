import HostFacts.Proofs.LegacyVersions
import HostFacts.Proofs.VersionPrinting
import Mathlib.Data.List.Lex

/-!
# The order of versions

Versions are compared by their components from the left, as numbers, and a version comes before
every longer one that starts with it. This is a linear order, so `1.8` and `1.8.0` differ, and
`1.8.0_9` comes before `1.8.0_10` although its text does not.

* `before_iff_comesFirst`: what comes before what, by the place where two versions differ;
* `lt_iff`: so versions are in the order of their lists of components;
* **`versions_follow_update_numbers`**: the order is total, and of two updates of one version the
  one with the larger number comes last.
-/

namespace HostFacts.Version

open HostFacts.Number HostFacts.Text

/-! ## The order of components -/

/-- One list of numbers comes first: the other one goes on where it ends, or after a common start
it has the smaller number. -/
def ComesFirst (as bs : List Nat) : Prop :=
  (∃ n rest, bs = as ++ n :: rest) ∨
    ∃ start m n as' bs', m < n ∧ as = start ++ m :: as' ∧ bs = start ++ n :: bs'

theorem comesFirst_cons_iff {a b : Nat} {as bs : List Nat} :
    ComesFirst (a :: as) (b :: bs) ↔ a < b ∨ a = b ∧ ComesFirst as bs := by
  constructor
  · rintro (⟨n, rest, h⟩ | ⟨start, m, n, as', bs', hmn, ha, hb⟩)
    · obtain ⟨rfl, rfl⟩ := List.cons.inj h
      exact Or.inr ⟨rfl, Or.inl ⟨n, rest, rfl⟩⟩
    · cases start with
      | nil =>
        obtain ⟨rfl, rfl⟩ := List.cons.inj ha
        obtain ⟨rfl, rfl⟩ := List.cons.inj hb
        exact Or.inl hmn
      | cons c start =>
        obtain ⟨rfl, rfl⟩ := List.cons.inj ha
        obtain ⟨rfl, rfl⟩ := List.cons.inj hb
        exact Or.inr ⟨rfl, Or.inr ⟨start, m, n, as', bs', hmn, rfl, rfl⟩⟩
  · rintro (h | ⟨rfl, ⟨n, rest, rfl⟩ | ⟨start, m, n, as', bs', hmn, rfl, rfl⟩⟩)
    · exact Or.inr ⟨[], a, b, as, bs, h, rfl, rfl⟩
    · exact Or.inl ⟨n, rest, rfl⟩
    · exact Or.inr ⟨a :: start, m, n, as', bs', hmn, rfl, rfl⟩

/-- **The comparison finds the first place where two lists differ.** -/
theorem before_iff_comesFirst : ∀ {as bs : List Nat}, before as bs = true ↔ ComesFirst as bs
  | as, [] => by
    rw [before]
    simp [ComesFirst]
  | [], b :: bs => by
    rw [before]
    exact iff_of_true rfl (Or.inl ⟨b, bs, rfl⟩)
  | a :: as, b :: bs => by
    rw [before, comesFirst_cons_iff, ← before_iff_comesFirst]
    simp

theorem before_iff_lt : ∀ {as bs : List Nat}, before as bs = true ↔ as < bs
  | as, [] => by
    rw [before]
    simp
  | [], b :: bs => by
    rw [before]
    exact iff_of_true rfl (List.nil_lt_cons b bs)
  | a :: as, b :: bs => by
    rw [before, List.cons_lt_cons_iff, ← before_iff_lt]
    simp

/-! ## The order of versions -/

variable {a b : Version}

theorem lt_iff : a < b ↔ a.components < b.components := before_iff_lt

theorem le_iff : a ≤ b ↔ a.components ≤ b.components := by
  have he : a = b ↔ a.components = b.components := by
    cases a
    cases b
    rw [Version.mk.injEq]
  rw [le_iff_lt_or_eq, ← lt_iff, ← he]
  exact Iff.rfl

instance : LinearOrder Version where
  le_refl _ := Or.inr rfl
  le_trans _ _ _ h h' := le_iff.mpr ((le_iff.mp h).trans (le_iff.mp h'))
  lt_iff_le_not_ge a b := by rw [lt_iff, le_iff, le_iff, lt_iff_le_not_ge]
  le_antisymm a b h h' := by
    rcases h with h | rfl
    · exact absurd (le_iff.mp h') (not_le_of_gt (lt_iff.mp h))
    · rfl
  le_total a b := by
    rw [le_iff, le_iff]
    exact le_total a.components b.components
  toDecidableLE := inferInstance

/-! ## Updates -/

/-- The text of an update of a version: the text of the version, the number of the update behind an
underscore, and more text. -/
def updateText (base : List Nat) (n : Nat) (suffix : String) : String :=
  (Version.mk base).text ++ "_" ++ natText n ++ suffix

/-- Text that may follow a version: it does not go on with a digit or a separator. -/
def EndsVersion (suffix : String) : Prop :=
  ∀ c ∈ suffix.toList.head?, isDigit c = false ∧ isSeparator c = false

theorem isNumeral_decimal {n : Nat} (h : n < 10 ^ digitLimit) : IsNumeral n (decimal n) :=
  ⟨⟨0, rfl⟩, (length_decimal_le_iff (by decide)).mpr h⟩

/-- What is written of a version and the number of an update is a row of numerals. -/
theorem row_update {n : Nat} (hn : n < 10 ^ digitLimit) : ∀ {base : List Nat}, base ≠ [] →
    (∀ k ∈ base, k < 10 ^ digitLimit) → Row (base ++ [n]) (dotted base ++ '_' :: decimal n)
  | [], h, _ => absurd rfl h
  | [b], _, hb =>
    .cons (isNumeral_decimal (hb b List.mem_cons_self)) rfl (.last (isNumeral_decimal hn))
  | b :: c :: base, _, hb => by
    have ih : Row (c :: base ++ [n]) (dotted (c :: base) ++ '_' :: decimal n) :=
      row_update hn (List.cons_ne_nil c base) fun k hk => hb k (List.mem_cons_of_mem b hk)
    rw [dotted, List.append_assoc]
    · exact .cons (isNumeral_decimal (hb b List.mem_cons_self)) rfl ih
    · simp

/-- The text of an update is a legacy text. -/
theorem legacyText_updateText {base : List Nat} {n : Nat} {suffix : String}
    (h : base ≠ []) (hb : ∀ k ∈ base, k < 10 ^ digitLimit) (hn : n < 10 ^ digitLimit)
    (hs : EndsVersion suffix) : LegacyText (base ++ [n]) (updateText base n suffix) := by
  have none {p : Char → Prop} : ∀ c ∈ [], p c := List.forall_mem_nil p
  have ht : updateText base n suffix = String.ofList
      ([] ++ [] ++ (dotted base ++ '_' :: decimal n) ++ [] ++ suffix.toList ++ []) := by
    rw [← String.toList_inj, String.toList_ofList]
    simp [updateText, text, natText]
  rw [ht]
  exact .mk none none (row_update hn h hb) none hs none

/-- **Versions are in a total order that follows the numbers of updates.** Of two versions the one
comes first that has the smaller number where they differ, or that the other one goes on from.
Exactly one of them comes first, or they are equal. So the version in a text, the version in its
text with the number of an update, and the version in its text with a larger number are in this
order, whatever follows the numbers. -/
theorem versions_follow_update_numbers :
    (∀ a b : Version, a < b ↔ ComesFirst a.components b.components) ∧
    (∀ a b : Version, (a < b ∧ a ≠ b ∧ ¬ b < a) ∨ (¬ a < b ∧ a = b ∧ ¬ b < a) ∨
      (¬ a < b ∧ a ≠ b ∧ b < a)) ∧
    (∀ a b c : Version, a < b → b < c → a < c) ∧
    (∀ a b : Version, (a ≤ b ↔ a < b ∨ a = b) ∧ (a > b ↔ ¬ a ≤ b) ∧ (a ≥ b ↔ ¬ a < b)) ∧
    ∀ (base : List Nat) (m n : Nat) (s t : String), base ≠ [] → m < n →
      (∀ k ∈ n :: base, k < 10 ^ digitLimit) → EndsVersion s → EndsVersion t →
      ∃ u v w : Version, parse (some (sanitize (Version.mk base).text)) = .ok u ∧
        parse (some (sanitize (updateText base m s))) = .ok v ∧
        parse (some (sanitize (updateText base n t))) = .ok w ∧ u < v ∧ v < w := by
  refine ⟨fun a b => before_iff_comesFirst, fun a b => ?_, fun a b c => lt_trans,
    fun a b => ⟨Iff.rfl, not_le.symm, not_lt.symm⟩, ?_⟩
  · rcases lt_trichotomy a b with h | rfl | h
    · exact Or.inl ⟨h, h.ne, h.not_gt⟩
    · exact Or.inr (Or.inl ⟨lt_irrefl a, rfl, lt_irrefl a⟩)
    · exact Or.inr (Or.inr ⟨h.not_gt, h.ne', h⟩)
  · intro base m n s t h hmn hl hs ht
    obtain ⟨hn, hb⟩ := List.forall_mem_cons.mp hl
    refine ⟨⟨base⟩, ⟨base ++ [m]⟩, ⟨base ++ [n]⟩, ?_,
      (legacyText_updateText h hb (hmn.trans hn) hs).parse_eq,
      (legacyText_updateText h hb hn ht).parse_eq, ?_, ?_⟩
    · rw [sanitize_text h, parse_text h hb]
    · exact before_iff_comesFirst.mpr (Or.inl ⟨m, [], rfl⟩)
    · exact before_iff_comesFirst.mpr (Or.inr ⟨base, m, n, [], [], hmn, rfl, rfl⟩)

/-- The tenth update of `1.8.0` comes after the ninth, although its text does not. -/
theorem tenth_update_follows_ninth :
    [1, 8, 0] ≠ [] ∧ 9 < 10 ∧ (∀ k ∈ [10, 1, 8, 0], k < 10 ^ digitLimit) ∧
      EndsVersion "-b09" ∧ EndsVersion "+7_1" ∧
      ∃ u v w : Version, parse (some "1.8.0") = .ok u ∧
        parse (some (sanitize "1.8.0_9-b09")) = .ok v ∧
        parse (some (sanitize "1.8.0_10+7_1")) = .ok w ∧ u < v ∧ v < w := by
  have hk : ∀ k ∈ [10, 1, 8, 0], k < 10 ^ digitLimit :=
    (text_of_parse (t := "10.1.8.0") (v := ⟨[10, 1, 8, 0]⟩) rfl).2.1
  have hs : EndsVersion "-b09" := by
    rintro _ ⟨⟩
    decide
  have ht : EndsVersion "+7_1" := by
    rintro _ ⟨⟩
    decide
  have hu := versions_follow_update_numbers.2.2.2.2 [1, 8, 0] 9 10 "-b09" "+7_1" (by decide)
    (by decide) hk hs ht
  have hb : (Version.mk [1, 8, 0]).text = "1.8.0" := by
    simp [text, dotted, decimal, decimalOnto, digitChar]
  have hn : natText 9 = "9" ∧ natText 10 = "10" := by
    simp [natText, decimal, decimalOnto, digitChar]
  rw [updateText, updateText, hb, hn.1, hn.2] at hu
  exact ⟨by decide, by decide, hk, hs, ht, hu⟩

end HostFacts.Version
