import HostFacts.Version.Parse
import Mathlib.Data.List.TakeWhile

/-!
# What version texts are read as

A raw version text is cut down to digits and points before it is read, so its parts are runs of
digits. The first part that is *stray*, that is empty or beyond the digit limit, decides how reading
ends, and without one all parts are components.

* **`parse_sanitize`**: what a raw version text is read as;
* `parse_sanitize_eq_digitLimit_iff`: when it ends at the digit limit;
* `core_between`: of a text with points and white space around it these do not count;
* `isWritable_of_parse`: a version that was read can be written.
-/

namespace HostFacts.Version

open HostFacts.Number HostFacts.Text

/-- The parts of a raw version text that are read. -/
def partsOf (raw : String) : List (List Char) := splitAll '.' (core (sanitizeChars raw.toList))

/-- Whether a run of digits is no component: it is empty, or beyond the digit limit. -/
def isStray (part : List Char) : Bool := part.isEmpty || decide (digitLimit < part.length)

theorem isStray_eq_false_iff {part : List Char} :
    isStray part = false ↔ part ≠ [] ∧ part.length ≤ digitLimit := by
  simp [isStray]

theorem isVersionChar_of_mem_sanitizeChars {s : List Char} {c : Char} (h : c ∈ sanitizeChars s) :
    isVersionChar c = true :=
  List.mem_takeWhile_imp h

theorem isDigit_of_mem_partsOf {raw : String} {part : List Char} (h : part ∈ partsOf raw) :
    ∀ c ∈ part, isDigit c = true := by
  intro c hc
  obtain ⟨hcore, hne⟩ := mem_of_mem_splitAll h c hc
  have hs : c ∈ sanitizeChars raw.toList := mem_of_mem_trimWhile (mem_of_mem_trimWhile hcore)
  have hv : isVersionChar c = true := isVersionChar_of_mem_sanitizeChars hs
  simpa [isVersionChar, hne] using hv

/-! ## Reading -/

/-- What is read from parts that are runs of digits. -/
def readParts (whole : Value) (parts : List (List Char)) : Except Fault (List Nat) :=
  match parts.find? isStray with
  | none => .ok (parts.map ofDecimal)
  | some [] => .error (.unparsableVersion whole [])
  | some part => .error (.digitLimit (some part.length))

/-- **Reading runs of digits one after the other ends at the first stray one.** -/
theorem componentsOf_eq_readParts {whole : Value} : ∀ {parts : List (List Char)},
    (∀ part ∈ parts, ∀ c ∈ part, isDigit c = true) →
      componentsOf whole parts = readParts whole parts
  | [], _ => rfl
  | [] :: rest, _ => rfl
  | (c :: cs) :: rest, h => by
    have hd : component? (c :: cs) = some (ofDecimal (c :: cs)) := by
      have hall : (c :: cs).all isDigit = true := List.all_eq_true.mpr (h _ List.mem_cons_self)
      simp [component?, hall]
    have ih : componentsOf whole rest = readParts whole rest :=
      componentsOf_eq_readParts fun part hp => h part (List.mem_cons_of_mem _ hp)
    rw [componentsOf, hd]
    by_cases hl : digitLimit < (c :: cs).length
    · have hs : isStray (c :: cs) = true := by simp only [isStray, decide_eq_true hl, Bool.or_true]
      simp only [if_pos hl, readParts, List.find?_cons_of_pos hs]
    · have hs : isStray (c :: cs) = false :=
        isStray_eq_false_iff.mpr ⟨List.cons_ne_nil c cs, Nat.le_of_not_lt hl⟩
      simp only [if_neg hl, ih, readParts, List.find?_cons_of_neg (Bool.not_eq_true _ ▸ hs)]
      rcases rest.find? isStray with _ | _ | _ <;> rfl

/-- The parts of what counts of a text are read. -/
theorem parse_some (text : String) :
    parse (some text) =
      (componentsOf (.text text) (splitAll '.' (core text.toList))).map Version.mk := by
  unfold parse
  rw [Option.getD_some]
  cases core text.toList <;> rfl

/-- **What a raw version text is read as.** -/
theorem parse_sanitize (raw : String) :
    parse (some (sanitize raw)) =
      (readParts (.text (sanitize raw)) (partsOf raw)).map Version.mk := by
  rw [parse_some, sanitize, toList_onChars, ← partsOf,
    componentsOf_eq_readParts fun part hp => isDigit_of_mem_partsOf hp]

/-- A raw version text with a part beyond the digit limit, and only components before it. -/
def Overlong (raw : String) : Prop :=
  ∃ before part after, partsOf raw = before ++ part :: after ∧
    (∀ p ∈ before, p ≠ [] ∧ p.length ≤ digitLimit) ∧ digitLimit < part.length

/-- Reading ends at the digit limit exactly for overlong texts. -/
theorem parse_sanitize_eq_digitLimit_iff {raw : String} :
    (∃ digits, parse (some (sanitize raw)) = .error (.digitLimit digits)) ↔ Overlong raw := by
  rw [parse_sanitize, readParts]
  constructor
  · rintro ⟨digits, h⟩
    rcases hf : (partsOf raw).find? isStray with _ | _ | ⟨c, cs⟩ <;> rw [hf] at h
    · cases h
    · cases h
    · obtain ⟨hs, before, after, hp, hb⟩ := List.find?_eq_some_iff_append.mp hf
      refine ⟨before, c :: cs, after, hp, fun p hm => ?_, by simpa [isStray] using hs⟩
      exact isStray_eq_false_iff.mp (by simpa using hb p hm)
  · rintro ⟨before, part, after, hp, hb, hl⟩
    have hs : isStray part = true := by simp [isStray, hl]
    have hf : (partsOf raw).find? isStray = some part := by
      refine List.find?_eq_some_iff_append.mpr ⟨hs, before, after, hp, fun p hm => ?_⟩
      simp [isStray_eq_false_iff.mpr (hb p hm)]
    rw [hf]
    cases part with
    | nil => simp at hl
    | cons c cs => exact ⟨_, rfl⟩

/-- A raw text is read as its parts if none is stray. -/
theorem parse_sanitize_eq_ok_iff {raw : String} {v : Version} :
    parse (some (sanitize raw)) = .ok v ↔
      (∀ part ∈ partsOf raw, isStray part = false) ∧ v = ⟨(partsOf raw).map ofDecimal⟩ := by
  rw [parse_sanitize, readParts]
  constructor
  · intro h
    rcases hf : (partsOf raw).find? isStray with _ | _ | _ <;> rw [hf] at h
    · exact ⟨by simpa using hf, (Except.ok.inj h).symm⟩
    · exact nomatch h
    · exact nomatch h
  · rintro ⟨hs, rfl⟩
    have hf : (partsOf raw).find? isStray = none := by simpa using hs
    rw [hf]
    rfl

/-- A raw text that cannot be read has a stray part: an empty one, or one beyond the limit. -/
theorem parse_sanitize_eq_error {raw : String} {e : Fault}
    (h : parse (some (sanitize raw)) = .error e) :
    (∃ value, e = .unparsableVersion value []) ∨ ∃ digits, e = .digitLimit digits := by
  rw [parse_sanitize, readParts] at h
  rcases hf : (partsOf raw).find? isStray with _ | _ | _ <;> rw [hf] at h
  · cases h
  · exact Or.inl ⟨_, (Except.error.inj h).symm⟩
  · exact Or.inr ⟨_, (Except.error.inj h).symm⟩

/-- Of a blank text only an empty part is left. -/
theorem partsOf_of_isBlank {raw : String} (h : isBlank (some raw) = true) : partsOf raw = [[]] := by
  unfold partsOf sanitizeChars
  rw [isBlank_some_iff.mp h]
  rfl

/-- A blank text is not overlong. -/
theorem not_overlong_of_isBlank {raw : String} (h : isBlank (some raw) = true) :
    ¬ Overlong raw := by
  rintro ⟨before, part, after, hp, -, hl⟩
  have hm : part ∈ partsOf raw := by simp [hp]
  obtain rfl : part = [] := by simpa [partsOf_of_isBlank h] using hm
  simp at hl

/-! ## Runs of digits -/

theorem isSpace_of_isDigit {c : Char} (h : isDigit c = true) : isSpace c = false := by
  have hc := isDigit_iff.mp h
  rw [isSpace, Bool.eq_false_iff, ne_eq, Ranges.has_iff]
  simp only [blanks, List.mem_cons, List.not_mem_nil, or_false]
  rintro ⟨e, rfl | rfl | rfl | rfl | rfl | rfl | rfl | rfl | rfl | rfl, h⟩ <;> omega

theorem isSpace_of_isVersionChar {c : Char} (h : isVersionChar c = true) : isSpace c = false := by
  rcases (by simpa [isVersionChar] using h : isDigit c = true ∨ c = '.') with h | rfl
  · exact isSpace_of_isDigit h
  · rfl

/-- Of a text that starts and ends with a digit, with points around it and white space around these,
the points and the white space do not count. -/
theorem core_between {before lead row trail after : List Char}
    (hbefore : ∀ c ∈ before, isSpace c = true) (hlead : ∀ c ∈ lead, c = '.')
    (hrow : ∀ c ∈ row, isVersionChar c = true) (hne : row ≠ [])
    (hhead : ∀ c ∈ row.head?, isDigit c = true) (hlast : ∀ c ∈ row.getLast?, isDigit c = true)
    (htrail : ∀ c ∈ trail, c = '.') (hafter : ∀ c ∈ after, isSpace c = true) :
    core (before ++ lead ++ row ++ trail ++ after) = row := by
  have notPoint {c : Char} (h : isDigit c = true) : (c == '.') = false := by
    rw [beq_eq_false_iff_ne]
    rintro rfl
    cases h
  have hbody : ∀ c ∈ lead ++ row ++ trail, isSpace c = false := by
    intro c hc
    refine isSpace_of_isVersionChar ?_
    rcases List.mem_append.mp hc with hc | hc
    · rcases List.mem_append.mp hc with hc | hc
      · rw [hlead c hc]
        rfl
      · exact hrow c hc
    · rw [htrail c hc]
      rfl
  have ht : trim (before ++ (lead ++ row ++ trail) ++ after) = lead ++ row ++ trail :=
    trimWhile_between hbefore (by simp [hne]) (fun c hc => hbody c (List.mem_of_mem_head? hc))
      (fun c hc => hbody c (List.mem_of_mem_getLast? hc)) hafter
  unfold core
  rw [show before ++ lead ++ row ++ trail ++ after = before ++ (lead ++ row ++ trail) ++ after by
    simp only [List.append_assoc], ht]
  exact trimWhile_between (fun c hc => by simp [hlead c hc]) hne
    (fun c hc => notPoint (hhead c hc)) (fun c hc => notPoint (hlast c hc))
    (fun c hc => by simp [htrail c hc])

/-- A text of digits and points is left as it is before it is read. -/
theorem sanitizeChars_of_forall {s : List Char} (h : ∀ c ∈ s, isVersionChar c = true) :
    sanitizeChars s = s := by
  have ht : trim s = s := trimWhile_of_forall fun c hc => isSpace_of_isVersionChar (h c hc)
  have hne : ∀ c ∈ s, c ≠ '_' := by
    rintro c hc rfl
    exact Bool.noConfusion (h '_' hc)
  have hu : s.map (fun c => if c = '_' then '.' else c) = s :=
    (List.map_congr_left fun c hc => if_neg (hne c hc)).trans (List.map_id' s)
  unfold sanitizeChars
  rw [ht, hu, List.takeWhile_eq_self_iff.mpr h]

/-- A run of digits is read as its only part. -/
theorem partsOf_ofList {s : List Char} (h : ∀ c ∈ s, isDigit c = true) :
    partsOf (String.ofList s) = [s] := by
  have hs : sanitizeChars s = s :=
    sanitizeChars_of_forall fun c hc => by simp [isVersionChar, h c hc]
  have hne : ∀ c ∈ s, c ≠ '.' := by
    rintro c hc rfl
    exact Bool.noConfusion (h '.' hc)
  have ht : trim s = s := trimWhile_of_forall fun c hc => isSpace_of_isDigit (h c hc)
  have hp : trimWhile (· == '.') s = s :=
    trimWhile_of_forall fun c hc => beq_eq_false_iff_ne.mpr (hne c hc)
  unfold partsOf core
  rw [String.toList_ofList, hs, ht, hp, splitAll_of_not_mem fun hm => hne '.' hm rfl]

/-- So a long one is overlong. -/
theorem overlong_ofList {s : List Char} (h : ∀ c ∈ s, isDigit c = true)
    (hl : digitLimit < s.length) : Overlong (String.ofList s) :=
  ⟨[], s, [], partsOf_ofList h, by simp, hl⟩

/-! ## Writing -/

/-- **A version that was read can be written.** -/
theorem isWritable_of_parse {raw : String} {v : Version}
    (h : parse (some (sanitize raw)) = .ok v) : (Value.version v).isWritable = true := by
  obtain ⟨hs, rfl⟩ := parse_sanitize_eq_ok_iff.mp h
  rw [Value.isWritable, List.all_map, List.all_eq_true]
  intro part hp
  rw [Function.comp_apply]
  exact isWritable_ofDecimal (isDigit_of_mem_partsOf hp) (isStray_eq_false_iff.mp (hs part hp)).2

end HostFacts.Version
