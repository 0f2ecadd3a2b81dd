import HostFacts.Text.Blank

/-!
# Finding text in text

`occurs` tells whether a text is a contiguous part of another (`occurs_iff`). `cutFirst` and
`cutLast` cut at one occurrence of a character (`cutFirst_eq_iff`, `cutLast_eq_some_iff`), and
`splitAll` cuts at every one (`splitAll_append_cons`); `nil_mem_splitAll_iff` tells when a part is
empty.
-/

namespace HostFacts.Text

/-- Whether `needle` is a contiguous part of the text. -/
def occurs (needle : List Char) : List Char → Bool
  | [] => needle.isEmpty
  | c :: rest => needle.isPrefixOf (c :: rest) || occurs needle rest

/-- Whether the string `needle` is a contiguous part of `s`. -/
def contains (needle s : String) : Bool := occurs needle.toList s.toList

/-- The part before the first `d`, and the part after it if there is one. -/
def cutFirst (d : Char) : List Char → List Char × Option (List Char)
  | [] => ([], none)
  | c :: rest =>
    if c = d then ([], some rest)
    else
      let (before, after) := cutFirst d rest
      (c :: before, after)

/-- The parts before and after the last `d`, if there is one. -/
def cutLast (d : Char) : List Char → Option (List Char × List Char)
  | [] => none
  | c :: rest =>
    match cutLast d rest with
    | some (a, b) => some (c :: a, b)
    | none => if c = d then some ([], rest) else none

/-- The parts between the occurrences of `d`; there is one more than there are occurrences. -/
def splitAll (d : Char) : List Char → List (List Char)
  | [] => [[]]
  | c :: rest =>
    if c = d then [] :: splitAll d rest
    else
      match splitAll d rest with
      | [] => [[c]]
      | p :: ps => (c :: p) :: ps

/-- The parts joined with `d` between them. -/
def joinWith (d : List Char) : List (List Char) → List Char
  | [] => []
  | [p] => p
  | p :: ps => p ++ d ++ joinWith d ps

/-! ## Lemmas -/

theorem occurs_iff {needle s : List Char} : occurs needle s = true ↔ needle <:+: s := by
  induction s with
  | nil => simp [occurs]
  | cons c rest ih =>
    simp only [occurs, Bool.or_eq_true, ih, List.isPrefixOf_iff_prefix, List.infix_cons_iff]

theorem splitAll_ne_nil (d : Char) (s : List Char) : splitAll d s ≠ [] := by
  cases s with
  | nil => simp [splitAll]
  | cons c rest =>
    unfold splitAll
    split
    · simp
    · split <;> simp

/-- The parts hold the characters of the text, without the separator. -/
theorem mem_of_mem_splitAll {d : Char} : ∀ {s part : List Char}, part ∈ splitAll d s →
    ∀ c ∈ part, c ∈ s ∧ c ≠ d
  | [], part, h, c, hc => by
    obtain rfl : part = [] := by simpa [splitAll] using h
    simp at hc
  | b :: rest, part, h, c, hc => by
    have ih {p : List Char} (hp : p ∈ splitAll d rest) (hc : c ∈ p) : c ∈ b :: rest ∧ c ≠ d :=
      ⟨List.mem_cons_of_mem b (mem_of_mem_splitAll hp c hc).1, (mem_of_mem_splitAll hp c hc).2⟩
    rw [splitAll] at h
    by_cases hb : b = d
    · rw [if_pos hb, List.mem_cons] at h
      rcases h with rfl | h
      · simp at hc
      · exact ih h hc
    · rw [if_neg hb] at h
      cases hs : splitAll d rest with
      | nil => exact absurd hs (splitAll_ne_nil d rest)
      | cons q qs =>
        rw [hs] at h ih
        rcases List.mem_cons.mp h with rfl | h
        · rcases List.mem_cons.mp hc with rfl | hc
          · exact ⟨List.mem_cons_self, hb⟩
          · exact ih List.mem_cons_self hc
        · exact ih (List.mem_cons_of_mem q h) hc

/-- **The first cut is where the character comes up first.** -/
theorem cutFirst_eq_iff {d : Char} {s before after : List Char} :
    cutFirst d s = (before, some after) ↔ s = before ++ d :: after ∧ d ∉ before := by
  induction s generalizing before with
  | nil => simp [cutFirst]
  | cons c rest ih =>
    rw [cutFirst]
    by_cases hc : c = d
    · subst hc
      cases before <;> simp_all [eq_comm]
    · rw [if_neg hc, Prod.mk.injEq]
      cases before with
      | nil => simp [hc]
      | cons b before =>
        have h := @ih before
        rw [Prod.ext_iff] at h
        simp only [List.cons.injEq, List.cons_append, List.mem_cons, not_or, and_assoc]
        constructor
        · rintro ⟨rfl, hb, ha⟩
          obtain ⟨hr, hn⟩ := h.mp ⟨hb, ha⟩
          exact ⟨rfl, hr, Ne.symm hc, hn⟩
        · rintro ⟨rfl, hr, -, hn⟩
          obtain ⟨hb, ha⟩ := h.mpr ⟨hr, hn⟩
          exact ⟨rfl, hb, ha⟩

theorem cutFirst_snd_eq_none_iff {d : Char} {s : List Char} : (cutFirst d s).2 = none ↔ d ∉ s := by
  induction s with
  | nil => simp [cutFirst]
  | cons c rest ih =>
    rw [cutFirst]
    by_cases hc : c = d
    · simp [hc]
    · simp [hc, Ne.symm hc, ih]

theorem cutLast_eq_none_iff {d : Char} {s : List Char} : cutLast d s = none ↔ d ∉ s := by
  induction s with
  | nil => simp [cutLast]
  | cons c rest ih =>
    rw [cutLast, List.mem_cons, not_or, ← ih]
    cases cutLast d rest with
    | some parts => simp
    | none =>
      by_cases hc : c = d
      · simp [hc]
      · simp [hc, Ne.symm hc]

theorem cutLast_append {d : Char} {after : List Char} (h : d ∉ after) :
    ∀ before : List Char, cutLast d (before ++ d :: after) = some (before, after)
  | [] => by rw [List.nil_append, cutLast, cutLast_eq_none_iff.mpr h, if_pos rfl]
  | c :: before => by rw [List.cons_append, cutLast, cutLast_append h before]

theorem eq_append_of_cutLast {d : Char} : ∀ {s before after : List Char},
    cutLast d s = some (before, after) → s = before ++ d :: after ∧ d ∉ after
  | [], _, _, h => by simp [cutLast] at h
  | c :: rest, before, after, h => by
    rw [cutLast] at h
    cases hr : cutLast d rest with
    | some parts =>
      rw [hr] at h
      cases h
      obtain ⟨hs, hd⟩ := eq_append_of_cutLast hr
      exact ⟨congrArg (c :: ·) hs, hd⟩
    | none =>
      rw [hr] at h
      replace h : (if c = d then some ([], rest) else none) = some (before, after) := h
      by_cases hc : c = d
      · rw [if_pos hc] at h
        cases h
        exact ⟨by rw [hc, List.nil_append], cutLast_eq_none_iff.mp hr⟩
      · rw [if_neg hc] at h
        cases h

/-- **The last cut is where the character comes up last.** -/
theorem cutLast_eq_some_iff {d : Char} {s before after : List Char} :
    cutLast d s = some (before, after) ↔ s = before ++ d :: after ∧ d ∉ after :=
  ⟨eq_append_of_cutLast, fun ⟨hs, hd⟩ => hs ▸ cutLast_append hd before⟩

/-- A text without the separator is one part. -/
theorem splitAll_of_not_mem {d : Char} : ∀ {s : List Char}, d ∉ s → splitAll d s = [s]
  | [], _ => rfl
  | c :: rest, h => by
    have hc : c ≠ d := fun e => h (by simp [e])
    have hr : d ∉ rest := fun m => h (List.mem_cons_of_mem c m)
    rw [splitAll, if_neg hc, splitAll_of_not_mem hr]

/-- A separator ends one part and starts the next. -/
theorem splitAll_append_cons (d : Char) (s rest : List Char) :
    splitAll d (s ++ d :: rest) = splitAll d s ++ splitAll d rest := by
  induction s with
  | nil => simp [splitAll]
  | cons c s ih =>
    rw [List.cons_append, splitAll, splitAll, ih]
    by_cases hc : c = d
    · rw [if_pos hc, if_pos hc, List.cons_append]
    · obtain ⟨p, ps, hs⟩ := List.exists_cons_of_ne_nil (splitAll_ne_nil d s)
      rw [if_neg hc, if_neg hc, hs, List.cons_append, List.cons_append]

/-- The first separator ends the first part. -/
theorem splitAll_append {d : Char} {s rest : List Char} (h : d ∉ s) :
    splitAll d (s ++ d :: rest) = s :: splitAll d rest := by
  rw [splitAll_append_cons, splitAll_of_not_mem h, List.singleton_append]

theorem joinWith_cons_cons (d p q : List Char) (ps : List (List Char)) :
    joinWith d (p :: q :: ps) = p ++ d ++ joinWith d (q :: ps) := rfl

theorem joinWith_append_cons (d s p : List Char) (ps : List (List Char)) :
    joinWith d ((s ++ p) :: ps) = s ++ joinWith d (p :: ps) := by
  cases ps with
  | nil => rfl
  | cons q qs => simp only [joinWith_cons_cons, List.append_assoc]

/-- Joining the parts again gives the text. -/
theorem joinWith_splitAll (d : Char) : ∀ s : List Char, joinWith [d] (splitAll d s) = s
  | [] => rfl
  | c :: rest => by
    have ih := joinWith_splitAll d rest
    obtain ⟨p, ps, hs⟩ := List.exists_cons_of_ne_nil (splitAll_ne_nil d rest)
    rw [hs] at ih
    rw [splitAll]
    by_cases hc : c = d
    · rw [if_pos hc, hs, joinWith_cons_cons, ih, hc]
      rfl
    · rw [if_neg hc, hs]
      exact (joinWith_append_cons [d] [c] p ps).trans (congrArg (c :: ·) ih)

/-- Parts without the separator are those that their join is split in. -/
theorem splitAll_joinWith {d : Char} : ∀ {parts : List (List Char)}, parts ≠ [] →
    (∀ p ∈ parts, d ∉ p) → splitAll d (joinWith [d] parts) = parts
  | [], h, _ => absurd rfl h
  | [p], _, hd => splitAll_of_not_mem (hd p List.mem_cons_self)
  | p :: q :: ps, _, hd => by
    have ih : splitAll d (joinWith [d] (q :: ps)) = q :: ps :=
      splitAll_joinWith (List.cons_ne_nil q ps) fun r hr => hd r (List.mem_cons_of_mem p hr)
    rw [joinWith_cons_cons, List.append_assoc, List.singleton_append,
      splitAll_append (hd p List.mem_cons_self), ih]

/-- In the join a part stands between two separators, or at an end. -/
theorem exists_joinWith_of_mem {d p : List Char} : ∀ {parts : List (List Char)}, p ∈ parts →
    ∃ a z, joinWith d parts = a ++ p ++ z ∧ (a = [] ∨ d <:+ a) ∧ (z = [] ∨ d <+: z)
  | [q], h => by
    obtain rfl : p = q := List.mem_singleton.mp h
    exact ⟨[], [], by simp [joinWith], Or.inl rfl, Or.inl rfl⟩
  | q :: r :: ps, h => by
    rw [joinWith_cons_cons]
    rcases List.mem_cons.mp h with rfl | h
    · exact ⟨[], d ++ joinWith d (r :: ps), by simp, Or.inl rfl, Or.inr (List.prefix_append d _)⟩
    · obtain ⟨a, z, hj, ha, hz⟩ := exists_joinWith_of_mem (d := d) h
      refine ⟨q ++ d ++ a, z, by simp only [hj, List.append_assoc], Or.inr ?_, hz⟩
      rcases ha with rfl | ha
      · rw [List.append_nil]
        exact List.suffix_append q d
      · exact ha.trans (List.suffix_append _ a)

/-- Parts are contiguous parts of their join. -/
theorem isInfix_joinWith_of_mem {d p : List Char} {parts : List (List Char)} (h : p ∈ parts) :
    p <:+: joinWith d parts := by
  obtain ⟨a, z, hj, -, -⟩ := exists_joinWith_of_mem (d := d) h
  exact ⟨a, z, hj.symm⟩

/-- **A part is empty if there is nothing to split, or two separators are adjacent**, in a text that
neither starts nor ends with one. -/
theorem nil_mem_splitAll_iff {d : Char} {s : List Char} (hhead : ∀ c ∈ s.head?, c ≠ d)
    (hlast : ∀ c ∈ s.getLast?, c ≠ d) : [] ∈ splitAll d s ↔ s = [] ∨ [d, d] <:+: s := by
  constructor
  · intro h
    obtain ⟨a, z, hs, ha, hz⟩ := exists_joinWith_of_mem (d := [d]) h
    rw [joinWith_splitAll, List.append_nil] at hs
    rcases ha with rfl | ⟨a, rfl⟩
    · rcases hz with rfl | ⟨z, rfl⟩
      · exact Or.inl hs
      · exact absurd rfl (hhead d (by simp [hs]))
    · rcases hz with rfl | ⟨z, rfl⟩
      · exact absurd rfl (hlast d (by simp [hs]))
      · exact Or.inr ⟨a, z, by simp [hs]⟩
  · rintro (rfl | ⟨a, z, rfl⟩)
    · exact List.mem_singleton.mpr rfl
    · have hs : splitAll d (d :: z) = [] :: splitAll d z := splitAll_append_cons d [] z
      rw [List.append_assoc, List.cons_append, splitAll_append_cons, List.singleton_append, hs]
      simp

end HostFacts.Text
