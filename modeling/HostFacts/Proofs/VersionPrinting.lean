import HostFacts.Proofs.VersionGrammar

/-!
# Writing versions and reading them again

The text of a version is its components without superfluous zeros and with points between them. It
is read back as the version, it needs no cleaning before that, and different versions have
different texts. Of a text that was read, the text of the version is what is left without white
space and points around it and without superfluous zeros.

* `splitAll_dotted`, `dotted_dotted`: what is written is a row of digit runs;
* `text_injective`: a version is known by its text;
* **`printing_and_parsing_are_inverse`**: what is written is read back, and what was read is written
  without what does not count.
-/

namespace HostFacts.Version

open HostFacts.Number HostFacts.Text

variable {v : Version} {ns : List Nat}

/-! ## What is written -/

theorem dotted_eq_joinWith : ∀ ns : List Nat, dotted ns = joinWith ['.'] (ns.map decimal)
  | [] => rfl
  | [_] => rfl
  | n :: m :: ns => by
    have ih := dotted_eq_joinWith (m :: ns)
    rw [List.map_cons] at ih
    rw [dotted, ih, List.map_cons, List.map_cons, joinWith_cons_cons, List.append_assoc,
      List.singleton_append]
    simp

theorem forall₂_digitRun_decimal (ns : List Nat) : List.Forall₂ DigitRun ns (ns.map decimal) := by
  rw [forall₂_digitRun_iff]
  constructor
  · simp only [List.forall_mem_map]
    exact fun n _ => ⟨decimal_ne_nil n, fun c hc => isDigit_of_mem_decimal hc⟩
  · rw [List.map_map]
    exact ((List.map_congr_left fun n _ => ofDecimal_decimal n).trans (List.map_id ns)).symm

/-- **Written components are a row of digit runs.** -/
theorem dotted_dotted (h : ns ≠ []) : Dotted ns (dotted ns) := by
  rw [dotted_eq_joinWith]
  exact dotted_joinWith (forall₂_digitRun_decimal ns) (by simpa using h)

/-- The written components are the parts of what is written. -/
theorem splitAll_dotted (h : ns ≠ []) : splitAll '.' (dotted ns) = ns.map decimal := by
  rw [dotted_eq_joinWith]
  refine splitAll_joinWith (by simpa using h) ?_
  simp only [List.forall_mem_map]
  exact fun n _ hm => Bool.noConfusion (isDigit_of_mem_decimal hm)

theorem core_dotted_self (h : ns ≠ []) : core (dotted ns) = dotted ns := by
  have none {p : Char → Prop} : ∀ c ∈ [], p c := List.forall_mem_nil p
  have hc := core_dotted none none (dotted_dotted h) none none
  rwa [List.nil_append, List.nil_append, List.append_nil, List.append_nil] at hc

/-- **A version is known by its text.** -/
theorem text_injective : Function.Injective text := by
  rintro ⟨ns⟩ ⟨ms⟩ h
  have hd : dotted ns = dotted ms := by
    rw [← String.toList_ofList (l := dotted ns), ← String.toList_ofList (l := dotted ms)]
    exact congrArg String.toList h
  by_cases hn : ns = [] <;> by_cases hm : ms = []
  · rw [hn, hm]
  · exact absurd (hd.symm.trans (by rw [hn]; rfl)) (dotted_dotted hm).ne_nil
  · exact absurd (hd.trans (by rw [hm]; rfl)) (dotted_dotted hn).ne_nil
  · have hp : ns.map decimal = ms.map decimal := by
      rw [← splitAll_dotted hn, hd, splitAll_dotted hm]
    rw [List.map_injective_iff.mpr decimal_injective hp]

/-! ## Reading back -/

/-- Components that can be written are read back. -/
theorem parse_text (h : v.components ≠ []) (hl : ∀ n ∈ v.components, n < 10 ^ digitLimit) :
    parse (some v.text) = .ok v := by
  rw [parse_some, text, String.toList_ofList, core_dotted_self h, splitAll_dotted h,
    exceptMap_eq_ok_iff]
  refine ⟨v.components, componentsOf_eq_ok_iff.mpr ⟨forall₂_digitRun_decimal _, ?_⟩, rfl⟩
  simp only [List.forall_mem_map]
  exact fun n hn => (length_decimal_le_iff (by decide)).mpr (hl n hn)

/-- What is written needs no cleaning. -/
theorem sanitize_text (h : v.components ≠ []) : sanitize v.text = v.text := by
  unfold sanitize onChars
  rw [text, String.toList_ofList, sanitizeChars_of_forall (dotted_dotted h).isVersionChar]

theorem written_version (hl : ∀ n ∈ v.components, n < 10 ^ digitLimit) :
    (Value.version v).written = .ok v.text := by
  refine Value.written_eq_ok_iff.mpr ⟨?_, rfl⟩
  rw [Value.isWritable, List.all_eq_true]
  exact fun n hn => isWritable_iff.mpr (hl n hn)

/-- What counts of a version text: its parts without superfluous zeros. -/
def normalText (t : String) : String :=
  String.ofList (joinWith ['.'] ((splitAll '.' (core t.toList)).map unpadded))

/-- **A version that was read is written as what counts of its text.** -/
theorem text_of_parse {t : String} (h : parse (some t) = .ok v) :
    v.components ≠ [] ∧ (∀ n ∈ v.components, n < 10 ^ digitLimit) ∧ v.text = normalText t := by
  rw [parse_some, exceptMap_eq_ok_iff] at h
  obtain ⟨ns, hr, rfl⟩ := h
  obtain ⟨hf, hl⟩ := componentsOf_eq_ok_iff.mp hr
  obtain ⟨hd, rfl⟩ := forall₂_digitRun_iff.mp hf
  refine ⟨by simpa using splitAll_ne_nil _ _, ?_, ?_⟩
  · simp only [List.forall_mem_map]
    exact fun part hp => ofDecimal_lt_pow (hd part hp).2 (hl part hp)
  · have hu : ((splitAll '.' (core t.toList)).map ofDecimal).map decimal =
        (splitAll '.' (core t.toList)).map unpadded := by
      rw [List.map_map]
      exact List.map_congr_left fun part hp => decimal_ofDecimal (hd part hp).1 (hd part hp).2
    rw [text, dotted_eq_joinWith, hu, normalText]

/-- **Writing a version and reading a text undo each other.** -/
theorem printing_and_parsing_are_inverse :
    (∀ v : Version, v.components ≠ [] → (∀ n ∈ v.components, n < 10 ^ digitLimit) →
      (Value.version v).written = .ok v.text ∧ sanitize v.text = v.text ∧
        parse (some v.text) = .ok v) ∧
    (∀ (t : String) (v : Version), parse (some t) = .ok v →
      (Value.version v).written = .ok v.text ∧ v.text = normalText t ∧
        parse (some v.text) = .ok v) ∧
    ∀ v w : Version, v = w ↔ v.text = w.text := by
  refine ⟨fun v h hl => ⟨written_version hl, sanitize_text h, parse_text h hl⟩, fun t v hp => ?_,
    fun v w => text_injective.eq_iff.symm⟩
  obtain ⟨h, hl, ht⟩ := text_of_parse hp
  exact ⟨written_version hl, ht, parse_text h hl⟩

/-- A version with a zero among its components, and a text with more zeros that is read as it. -/
theorem zeros_are_printed_once :
    let v : Version := ⟨[10, 0, 362]⟩
    (v.components ≠ [] ∧ ∀ n ∈ v.components, n < 10 ^ digitLimit) ∧
      (Value.version v).written = .ok "10.0.362" ∧ sanitize "10.0.362" = "10.0.362" ∧
      parse (some "10.0.362") = .ok v ∧ parse (some " ..010.000.0362.\x0b") = .ok v ∧
      v.text = normalText " ..010.000.0362.\x0b" := by
  intro v
  have ht : v.text = "10.0.362" := by
    simp [v, text, dotted, decimal, decimalOnto, digitChar]
  have hp : parse (some " ..010.000.0362.\x0b") = .ok v := rfl
  obtain ⟨h, hl, -⟩ := text_of_parse hp
  obtain ⟨hw, hs, hr⟩ := printing_and_parsing_are_inverse.1 v h hl
  obtain ⟨-, hn, -⟩ := printing_and_parsing_are_inverse.2.1 _ v hp
  rw [ht] at hw hs hr
  exact ⟨⟨h, hl⟩, hw, hs, hr, hp, hn⟩

end HostFacts.Version
