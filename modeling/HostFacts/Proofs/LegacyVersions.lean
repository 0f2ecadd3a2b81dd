import HostFacts.Proofs.PlainReports
import HostFacts.Proofs.VersionGrammar

/-!
# Legacy version texts

Versions come in texts such as `1.8.0_362-b09`: numerals in a row with points or underscores between
them, more of these at both ends, and then perhaps something else. `Version.LegacyText` says which
texts these are and which components they hold, without saying how they are read.

* `Version.Row.splitAll_pointed`: the numerals of a row are its parts;
* `Version.sanitizeChars_eq`: what is left of a text before it is read;
* **`legacy_text_is_decoded`**: reading a legacy text gives its components, and so does the version
  of a context that the text was set for or is found in.
-/

namespace HostFacts

open HostFacts.Number HostFacts.Text Act Query

namespace Version

/-! ## Texts and the components in them -/

/-- A numeral of a number: its digits with zeros in front, not more in all than can be read. -/
structure IsNumeral (n : Nat) (s : List Char) : Prop where
  digits : ∃ zeros, s = List.replicate zeros '0' ++ decimal n
  length_le : s.length ≤ digitLimit

/-- Whether a character separates components: a point or an underscore. -/
def isSeparator (c : Char) : Bool := c == '.' || c == '_'

/-- Numerals in a row, with one separator between each two. -/
inductive Row : List Nat → List Char → Prop
  | last {n : Nat} {s : List Char} (h : IsNumeral n s) : Row [n] s
  | cons {n : Nat} {ns : List Nat} {s rest : List Char} {c : Char} (h : IsNumeral n s)
    (hc : isSeparator c = true) (hr : Row ns rest) : Row (n :: ns) (s ++ c :: rest)

/-- A raw text with the given components: a row of their numerals with separators around it, behind
which anything may follow that does not go on like a version, and white space around all that. -/
inductive LegacyText (components : List Nat) : String → Prop
  | mk {before lead row trail suffix after : List Char}
    (hbefore : ∀ c ∈ before, isSpace c = true) (hlead : ∀ c ∈ lead, isSeparator c = true)
    (hrow : Row components row) (htrail : ∀ c ∈ trail, isSeparator c = true)
    (hsuffix : ∀ c ∈ suffix.head?, isDigit c = false ∧ isSeparator c = false)
    (hafter : ∀ c ∈ after, isSpace c = true) :
    LegacyText components (String.ofList (before ++ lead ++ row ++ trail ++ suffix ++ after))

/-! ## Numerals -/

variable {n : Nat} {ns : List Nat} {s row : List Char}

theorem IsNumeral.isDigit (h : IsNumeral n s) : ∀ c ∈ s, isDigit c = true := by
  obtain ⟨zeros, rfl⟩ := h.digits
  intro c hc
  rcases List.mem_append.mp hc with hc | hc
  · rw [List.eq_of_mem_replicate hc]
    rfl
  · exact isDigit_of_mem_decimal hc

theorem IsNumeral.ofDecimal_eq (h : IsNumeral n s) : ofDecimal s = n := by
  obtain ⟨zeros, rfl⟩ := h.digits
  exact ofDecimal_zeros_decimal zeros n

theorem IsNumeral.ne_nil (h : IsNumeral n s) : s ≠ [] := by
  obtain ⟨zeros, rfl⟩ := h.digits
  simp [decimal, decimalOnto_ne_nil]

theorem IsNumeral.digitRun (h : IsNumeral n s) : DigitRun n s :=
  h.ofDecimal_eq ▸ digitRun_ofDecimal h.ne_nil h.isDigit

/-! ## Rows -/

/-- A text with points for its underscores. -/
def pointed (s : List Char) : List Char := s.map fun c => if c = '_' then '.' else c

theorem pointed_append (s t : List Char) : pointed (s ++ t) = pointed s ++ pointed t :=
  List.map_append

theorem pointed_of_digits (h : ∀ c ∈ s, isDigit c = true) : pointed s = s := by
  have hne : ∀ c ∈ s, c ≠ '_' := by
    rintro c hc rfl
    exact Bool.noConfusion (h '_' hc)
  exact (List.map_congr_left fun c hc => if_neg (hne c hc)).trans (List.map_id' s)

theorem pointed_cons_of_isSeparator {c : Char} (hc : isSeparator c = true) (s : List Char) :
    pointed (c :: s) = '.' :: pointed s := by
  rcases (by simpa [isSeparator] using hc : c = '.' ∨ c = '_') with rfl | rfl <;> rfl

theorem pointed_of_separators (h : ∀ c ∈ s, isSeparator c = true) :
    ∀ c ∈ pointed s, c = '.' := by
  intro c hc
  obtain ⟨d, hd, rfl⟩ := List.mem_map.mp hc
  rcases (by simpa [isSeparator] using h d hd : d = '.' ∨ d = '_') with rfl | rfl <;> rfl

theorem Row.ne_nil (h : Row ns row) : row ≠ [] := by
  cases h with
  | last h => exact h.ne_nil
  | cons h hc hr => simp

/-- A row holds digits and separators only. -/
theorem Row.isDigit_or (h : Row ns row) : ∀ c ∈ row, isDigit c = true ∨ isSeparator c = true := by
  induction h with
  | last h => exact fun c hc => Or.inl (h.isDigit c hc)
  | cons h hc hr ih =>
    intro c hm
    rcases List.mem_append.mp hm with hm | hm
    · exact Or.inl (h.isDigit c hm)
    · rcases List.mem_cons.mp hm with rfl | hm
      · exact Or.inr hc
      · exact ih c hm

/-- With points for its underscores a row is one of digit runs. -/
theorem Row.dotted (h : Row ns row) : Dotted ns (pointed row) := by
  induction h with
  | last h =>
    rw [pointed_of_digits h.isDigit]
    exact .last h.digitRun
  | cons h hc hr ih =>
    rw [pointed_append, pointed_of_digits h.isDigit, pointed_cons_of_isSeparator hc]
    exact .cons h.digitRun ih

/-- **The numerals of a row are its parts.** -/
theorem Row.splitAll_pointed (h : Row ns row) :
    List.Forall₂ IsNumeral ns (splitAll '.' (pointed row)) := by
  induction h with
  | last h =>
    rw [pointed_of_digits h.isDigit, splitAll_of_not_mem h.digitRun.not_mem_point]
    exact .cons h .nil
  | cons h hc hr ih =>
    rw [pointed_append, pointed_of_digits h.isDigit, pointed_cons_of_isSeparator hc,
      splitAll_append h.digitRun.not_mem_point]
    exact .cons h ih

/-! ## What is left of a text -/

/-- What a row and separators around it hold are digits and separators. -/
theorem Row.isDigit_or_of_mem (h : Row ns row) {lead trail : List Char}
    (hlead : ∀ c ∈ lead, isSeparator c = true) (htrail : ∀ c ∈ trail, isSeparator c = true) :
    ∀ c ∈ lead ++ row ++ trail, isDigit c = true ∨ isSeparator c = true := by
  intro c hc
  rcases List.mem_append.mp hc with hc | hc
  · rcases List.mem_append.mp hc with hc | hc
    · exact Or.inr (hlead c hc)
    · exact h.isDigit_or c hc
  · exact Or.inr (htrail c hc)

theorem isSpace_of_isDigit_or {c : Char} (h : isDigit c = true ∨ isSeparator c = true) :
    isSpace c = false := by
  rcases h with h | h
  · exact isSpace_of_isDigit h
  · rcases (by simpa [isSeparator] using h : c = '.' ∨ c = '_') with rfl | rfl <;> rfl

theorem foreign_of_isSpace {c : Char} (h : isSpace c = true) :
    isDigit c = false ∧ isSeparator c = false := by
  have hn : ¬ (isDigit c = true ∨ isSeparator c = true) := fun hd =>
    Bool.noConfusion (h.symm.trans (isSpace_of_isDigit_or hd))
  simpa using hn

theorem isVersionChar_pointed (c : Char) :
    isVersionChar (if c = '_' then '.' else c) = (isDigit c || isSeparator c) := by
  by_cases hc : c = '_'
  · subst hc
    rfl
  · have hu : (c == '_') = false := beq_eq_false_iff_ne.mpr hc
    rw [if_neg hc, isVersionChar, isSeparator, hu, Bool.or_false]

/-- **What is left of a text are the digits and separators that it starts with**, once it is
trimmed. -/
theorem sanitizeChars_eq (s : List Char) :
    sanitizeChars s = pointed ((trim s).takeWhile fun c => isDigit c || isSeparator c) := by
  have hk : (isVersionChar ∘ fun c => if c = '_' then '.' else c) =
      fun c => isDigit c || isSeparator c := by
    funext c
    exact isVersionChar_pointed c
  unfold sanitizeChars pointed
  rw [List.takeWhile_map, hk]

/-- Text that does not go on like a version ends it. -/
theorem takeWhile_eq_nil_of_head {rest : List Char}
    (h : ∀ c ∈ rest.head?, isDigit c = false ∧ isSeparator c = false) :
    rest.takeWhile (fun c => isDigit c || isSeparator c) = [] := by
  cases rest with
  | nil => rfl
  | cons c rest =>
    obtain ⟨hd, hs⟩ := h c rfl
    simp [hd, hs]

/-- **Of a legacy text the row and the separators around it are left.** -/
theorem sanitizeChars_legacy {before lead trail rest : List Char}
    (hbefore : ∀ c ∈ before, isSpace c = true) (hlead : ∀ c ∈ lead, isSeparator c = true)
    (hrow : Row ns row) (htrail : ∀ c ∈ trail, isSeparator c = true)
    (hrest : ∀ c ∈ rest.head?, isDigit c = false ∧ isSeparator c = false) :
    sanitizeChars (before ++ (lead ++ row ++ trail ++ rest)) = pointed (lead ++ row ++ trail) := by
  have hbody := hrow.isDigit_or_of_mem hlead htrail
  have hne : lead ++ row ++ trail ≠ [] := by simp [hrow.ne_nil]
  have ht : trim (before ++ (lead ++ row ++ trail ++ rest)) =
      lead ++ row ++ trail ++ (rest.reverse.dropWhile isSpace).reverse :=
    trimWhile_append hbefore hne
      (fun c hc => isSpace_of_isDigit_or (hbody c (List.mem_of_mem_head? hc)))
      fun c hc => isSpace_of_isDigit_or (hbody c (List.mem_of_mem_getLast? hc))
  -- what trimming leaves of the rest starts as the rest does
  have hr : ∀ c ∈ ((rest.reverse.dropWhile isSpace).reverse).head?,
      isDigit c = false ∧ isSeparator c = false := by
    intro c hc
    obtain ⟨t, ht⟩ : (rest.reverse.dropWhile isSpace).reverse <+: rest := by
      rw [← List.reverse_reverse rest, List.reverse_prefix, List.reverse_reverse]
      exact List.dropWhile_suffix isSpace
    refine hrest c ?_
    rw [← ht, List.head?_append, Option.mem_def.mp hc]
    rfl
  have hkept : ∀ c ∈ lead ++ row ++ trail, (isDigit c || isSeparator c) = true := fun c hc => by
    simpa using hbody c hc
  rw [sanitizeChars_eq, ht, List.takeWhile_append_of_pos hkept, takeWhile_eq_nil_of_head hr,
    List.append_nil]

/-- Without the points at its ends this is the row. -/
theorem core_pointed {lead trail : List Char} (hlead : ∀ c ∈ lead, isSeparator c = true)
    (hrow : Row ns row) (htrail : ∀ c ∈ trail, isSeparator c = true) :
    core (pointed (lead ++ row ++ trail)) = pointed row := by
  have hc := core_dotted (List.forall_mem_nil _) (pointed_of_separators hlead) hrow.dotted
    (pointed_of_separators htrail) (List.forall_mem_nil _)
  rwa [List.nil_append, List.append_nil, ← pointed_append, ← pointed_append] at hc

/-! ## Reading -/

variable {components : List Nat} {text : String}

/-- **The parts of a legacy text are the numerals of its components.** -/
theorem LegacyText.forall₂_partsOf (h : LegacyText components text) :
    List.Forall₂ IsNumeral components (partsOf text) := by
  obtain ⟨hbefore, hlead, hrow, htrail, hsuffix, hafter⟩ := h
  rename_i before lead row trail suffix after
  -- white space does not go on like a version either, so it may count with what follows the row
  have hrest : ∀ c ∈ (suffix ++ after).head?, isDigit c = false ∧ isSeparator c = false := by
    cases suffix with
    | cons c suffix => exact hsuffix
    | nil => exact fun c hc => foreign_of_isSpace (hafter c (List.mem_of_mem_head? hc))
  have ht : before ++ lead ++ row ++ trail ++ suffix ++ after =
      before ++ (lead ++ row ++ trail ++ (suffix ++ after)) := by
    simp only [List.append_assoc]
  rw [partsOf, String.toList_ofList, ht, sanitizeChars_legacy hbefore hlead hrow htrail hrest,
    core_pointed hlead hrow htrail]
  exact hrow.splitAll_pointed

theorem components_of_forall₂ {parts : List (List Char)}
    (h : List.Forall₂ IsNumeral components parts) :
    (∀ part ∈ parts, isStray part = false) ∧ parts.map ofDecimal = components := by
  induction h with
  | nil => simp
  | cons h hr ih =>
    refine ⟨List.forall_mem_cons.mpr ⟨isStray_eq_false_iff.mpr ⟨h.ne_nil, h.length_le⟩, ih.1⟩, ?_⟩
    rw [List.map_cons, h.ofDecimal_eq, ih.2]

/-- **A legacy text is read as its components.** -/
theorem LegacyText.parse_eq (h : LegacyText components text) :
    parse (some (sanitize text)) = .ok ⟨components⟩ := by
  obtain ⟨hs, hc⟩ := components_of_forall₂ h.forall₂_partsOf
  exact parse_sanitize_eq_ok_iff.mpr ⟨hs, by rw [hc]⟩

theorem LegacyText.isBlank_eq (h : LegacyText components text) : isBlank (some text) = false := by
  refine Bool.eq_false_iff.mpr fun hb => ?_
  have hparts := h.forall₂_partsOf
  rw [partsOf_of_isBlank hb] at hparts
  cases hparts with
  | cons hn _ => exact hn.ne_nil rfl

end Version

/-! ## The version of a context -/

namespace Query

/-- The version in a raw text. A text that is no version is named as it was found, with the
properties that were consulted. -/
def versionIn (text : String) : Except Fault Version :=
  (Version.parse (some (Version.sanitize text))).mapError fun e =>
    match e with
    | .unparsableVersion _ _ => .unparsableVersion (.text text) versionProperties
    | e => e

theorem fst_readVersionText (text : String) (s : Scene) :
    (readVersionText text s).1 = versionIn text := by
  unfold readVersionText versionIn
  cases hp : Version.parse (some (Version.sanitize text)) with
  | ok v => rfl
  | error e => rcases Version.parse_sanitize_eq_error hp with ⟨value, rfl⟩ | ⟨digits, rfl⟩ <;> rfl

theorem versionIn_eq_ok_iff {text : String} {v : Version} :
    versionIn text = .ok v ↔ Version.parse (some (Version.sanitize text)) = .ok v :=
  exceptMapError_eq_ok_iff

/-- An override property that is not blank is what is resolved. -/
theorem fst_resolve_of_override {c : Context} {w : World} {first second text : String}
    (hl : (c.source.lookup first w).1 = .ok (some text)) (hb : isBlank (some text) = false) :
    (resolve first second (c, w)).1 = .ok (some text) := by
  rw [resolve_apply]
  unfold Source.resolve
  rw [bind_of_ok (Prod.ext hl rfl)]
  simp only [hb, Bool.not_false, if_true, pure_apply]

/-- A text under the override property is what the version is read from. -/
theorem fst_detectVersion_of_text {c : Context} {w : World} {text : String}
    (hl : (c.source.lookup Property.runtimeVersionOverride w).1 = .ok (some text))
    (hb : isBlank (some text) = false) : (detectVersion (c, w)).1 = versionIn text := by
  unfold detectVersion
  rw [bind_of_ok (Prod.ext (fst_resolve_of_override hl hb) rfl), readVersion_of_not_isBlank hb,
    fst_readVersionText]

theorem fst_detectVersion_of_override {c : Context} {w : World} {text : String} {v : Version}
    (hl : (c.source.lookup Property.runtimeVersionOverride w).1 = .ok (some text))
    (hb : isBlank (some text) = false)
    (hp : Version.parse (some (Version.sanitize text)) = .ok v) :
    (detectVersion (c, w)).1 = .ok v := by
  rw [fst_detectVersion_of_text hl hb]
  exact versionIn_eq_ok_iff.mpr hp

end Query

/-- **A legacy text is decoded into its components.** Reading it gives the version with exactly
these components. A context tells this version after the text was set for it, and also if its
version is not known yet and the text is what it finds under the override property. -/
theorem legacy_text_is_decoded {components : List Nat} {text : String}
    (h : Version.LegacyText components text) :
    Version.parse (some (Version.sanitize text)) = .ok ⟨components⟩ ∧
      ∀ (c : Context) (w : World),
        (∃ s, (Op.setVersionText text).run (c, w) = (.ok .null, s) ∧
          (Op.version.run s).1 = .ok (.version ⟨components⟩)) ∧
        (c.version = .empty →
          (c.source.lookup Property.runtimeVersionOverride w).1 = .ok (some text) →
            (Op.version.run (c, w)).1 = .ok (.version ⟨components⟩)) := by
  have hp := h.parse_eq
  have told {s : Scene} (hv : (Fact.version.ask s).1 = .ok ⟨components⟩) :
      (Op.version.run s).1 = .ok (.version ⟨components⟩) := fst_map_of_ok hv _
  refine ⟨hp, fun c w => ⟨?_, fun hc hl => told ?_⟩⟩
  · refine ⟨(Fact.version.put (.settled ⟨components⟩) c, w), ?_, told ?_⟩
    · rw [Fact.run_setVersionText, hp]
    · rw [Fact.ask_of_settled (Fact.cell_put _)]
  · rw [Fact.fst_ask, show Fact.version.cell c = .empty from hc]
    exact fst_detectVersion_of_override hl h.isBlank_eq hp

/-- Zeros in front, separators of both kinds, and a suffix with digits and points of its own. -/
theorem legacy_text_with_suffix :
    ∃ c : Context, c.version = .empty ∧
      Version.LegacyText [1, 8, 0, 362] "\t_.01.8_0_00362__-b09.7 _2\n" ∧
      (c.source.lookup Property.runtimeVersionOverride World.empty).1 =
        .ok (some "\t_.01.8_0_00362__-b09.7 _2\n") ∧
      Version.parse (some (Version.sanitize "\t_.01.8_0_00362__-b09.7 _2\n")) =
        .ok ⟨[1, 8, 0, 362]⟩ ∧
      (Op.version.run (c, World.empty)).1 = .ok (.version ⟨[1, 8, 0, 362]⟩) := by
  let c : Context := Context.new (.mapping
    (.ofList [("platctx.runtimeVersion", "\t_.01.8_0_00362__-b09.7 _2\n")]))
  have numeral {n : Nat} {s : List Char} (zeros : Nat)
      (hs : s = List.replicate zeros '0' ++ decimalOnto n [])
      (hl : s.length ≤ 4300) : Version.IsNumeral n s := ⟨⟨zeros, hs⟩, hl⟩
  have hrow : Version.Row [1, 8, 0, 362]
      (['0', '1'] ++ '.' :: (['8'] ++ '_' :: (['0'] ++ '_' :: ['0', '0', '3', '6', '2']))) :=
    .cons (numeral 1 (by simp [decimalOnto, digitChar]) (by simp)) rfl <|
    .cons (numeral 0 (by simp [decimalOnto, digitChar]) (by simp)) rfl <|
    .cons (numeral 0 (by simp [decimalOnto, digitChar]) (by simp)) rfl <|
    .last (numeral 2 (by simp [decimalOnto, digitChar]) (by simp))
  let suffix : List Char := "-b09.7 _2".toList
  have hsuffix : ∀ c ∈ suffix.head?, isDigit c = false ∧ Version.isSeparator c = false := by
    rintro _ ⟨⟩
    decide
  have h : Version.LegacyText [1, 8, 0, 362] "\t_.01.8_0_00362__-b09.7 _2\n" :=
    @Version.LegacyText.mk _ ['\t'] ['_', '.'] _ ['_', '_'] suffix ['\n'] (List.all_eq_true.mp rfl)
      (List.all_eq_true.mp rfl) hrow (List.all_eq_true.mp rfl) hsuffix (List.all_eq_true.mp rfl)
  obtain ⟨hp, hc⟩ := legacy_text_is_decoded h
  exact ⟨c, rfl, h, rfl, hp, (hc c World.empty).2 rfl rfl⟩

end HostFacts
