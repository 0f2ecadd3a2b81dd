import HostFacts.Text.Surrogates
import HostFacts.Text.Utf8

/-!
# Decoding inverts encoding

The decoder goes through bytes once and keeps what is pending. `Sequence` says without it which
bytes make one character, and which code it has.

* `Sequence.encode_eq`, `sequence_encode`: these are the bytes that encode a character;
* `decodeFrom_cons_eq_ok_iff`: between characters the decoder takes one sequence;
* **`decode_eq_ok_iff`**: bytes are decoded to a text exactly if they are its encoding.
-/

namespace HostFacts.Text.Utf8

/-- The range of a byte that goes on with a character. -/
def IsTail (b : UInt8) : Prop := 0x80 ≤ b.toNat ∧ b.toNat ≤ 0xbf

/-- The bytes of one character, with its code. -/
inductive Sequence : List UInt8 → Nat → Prop
  | one {a : UInt8} (ha : a.toNat < 0x80) : Sequence [a] a.toNat
  | two {a b : UInt8} {n : Nat} (ha : 0xc2 ≤ a.toNat ∧ a.toNat < 0xe0) (hb : IsTail b)
    (hn : n = (a.toNat - 0xc0) * 64 + (b.toNat - 0x80)) : Sequence [a, b] n
  /-- No shorter form will do, and it is no surrogate. -/
  | three {a b c : UInt8} {n : Nat} (ha : 0xe0 ≤ a.toNat ∧ a.toNat < 0xf0) (hb : IsTail b)
    (hlow : a.toNat = 0xe0 → 0xa0 ≤ b.toNat) (hhigh : a.toNat = 0xed → b.toNat ≤ 0x9f)
    (hc : IsTail c)
    (hn : n = ((a.toNat - 0xe0) * 64 + (b.toNat - 0x80)) * 64 + (c.toNat - 0x80)) :
    Sequence [a, b, c] n
  /-- No shorter form will do, and the code is not too large. -/
  | four {a b c d : UInt8} {n : Nat} (ha : 0xf0 ≤ a.toNat ∧ a.toNat < 0xf5) (hb : IsTail b)
    (hlow : a.toNat = 0xf0 → 0x90 ≤ b.toNat) (hhigh : a.toNat = 0xf4 → b.toNat ≤ 0x8f)
    (hc : IsTail c) (hd : IsTail d)
    (hn : n = (((a.toNat - 0xf0) * 64 + (b.toNat - 0x80)) * 64 + (c.toNat - 0x80)) * 64 +
      (d.toNat - 0x80)) : Sequence [a, b, c, d] n

/-! ## Sequences are encodings -/

theorem Sequence.isValidChar {s : List UInt8} {n : Nat} (h : Sequence s n) : n.isValidChar := by
  unfold Nat.isValidChar
  cases h with
  | one ha => omega
  | two ha hb hn => unfold IsTail at *; omega
  | three ha hb hlow hhigh hc hn => unfold IsTail at *; omega
  | four ha hb hlow hhigh hc hd hn => unfold IsTail at *; omega

/-- A byte is known by its number. -/
theorem ofNat_eq {n : Nat} {a : UInt8} (h : n = a.toNat) : UInt8.ofNat n = a := by
  rw [h, UInt8.ofNat_toNat]

/-- A sequence is what its character is encoded by. -/
theorem Sequence.encode_eq {s : List UInt8} {n : Nat} (h : Sequence s n) :
    String.utf8EncodeChar (Char.ofNat n) = s := by
  have hv : (Char.ofNat n).val.toNat = n := toNat_ofNat_of_isValidChar h.isValidChar
  unfold String.utf8EncodeChar
  simp only [hv]
  cases h with
  | one ha => rw [if_pos (by omega), ofNat_eq rfl]
  | two ha hb hn =>
    unfold IsTail at *
    rw [if_neg (by omega), if_pos (by omega)]
    simp only [List.cons.injEq, and_true]
    exact ⟨ofNat_eq (by omega), ofNat_eq (by omega)⟩
  | three ha hb hlow hhigh hc hn =>
    unfold IsTail at *
    rw [if_neg (by omega), if_neg (by omega), if_pos (by omega)]
    simp only [List.cons.injEq, and_true]
    exact ⟨ofNat_eq (by omega), ofNat_eq (by omega), ofNat_eq (by omega)⟩
  | four ha hb hlow hhigh hc hd hn =>
    unfold IsTail at *
    rw [if_neg (by omega), if_neg (by omega), if_neg (by omega)]
    simp only [List.cons.injEq, and_true]
    exact ⟨ofNat_eq (by omega), ofNat_eq (by omega), ofNat_eq (by omega), ofNat_eq (by omega)⟩

theorem toNat_ofNat_of_lt {n : Nat} (h : n < 256) : (UInt8.ofNat n).toNat = n :=
  UInt8.toNat_ofNat'.trans (Nat.mod_eq_of_lt h)

theorem isTail_ofNat (n : Nat) : IsTail (UInt8.ofNat (n % 64 + 0x80)) := by
  unfold IsTail
  rw [toNat_ofNat_of_lt (by omega)]
  omega

/-- What a character is encoded by is a sequence. -/
theorem sequence_encode (c : Char) : Sequence (String.utf8EncodeChar c) c.toNat := by
  have hc : c.toNat < 0xd800 ∨ 0xdfff < c.toNat ∧ c.toNat < 0x110000 := c.valid
  have hv : c.val.toNat = c.toNat := rfl
  unfold String.utf8EncodeChar
  simp only [hv]
  generalize c.toNat = v at hc
  -- the code lies in one of four ranges; its bits are cut into groups of six
  split
  · have h := Sequence.one (a := UInt8.ofNat v) (by rw [toNat_ofNat_of_lt] <;> omega)
    rwa [toNat_ofNat_of_lt (by omega)] at h
  split
  · refine .two ?_ (isTail_ofNat v) ?_
    all_goals
      simp (disch := omega) only [toNat_ofNat_of_lt]
      omega
  split
  · refine .three ?_ (isTail_ofNat (v / 64)) ?_ ?_ (isTail_ofNat v) ?_
    all_goals
      simp (disch := omega) only [toNat_ofNat_of_lt]
      omega
  · refine .four ?_ (isTail_ofNat (v / 4096)) ?_ ?_ (isTail_ofNat (v / 64)) (isTail_ofNat v) ?_
    all_goals
      simp (disch := omega) only [toNat_ofNat_of_lt]
      omega

/-! ## The decoder takes sequences -/

section Pieces

variable {position : Nat} {bytes : List UInt8} {text : List Char} {p : Pending} {a : UInt8}

theorem map_cons_eq_ok_iff {c : Char} {r : Except Fault (List Char)} :
    r.map (c :: ·) = .ok text ↔ ∃ cs, r = .ok cs ∧ text = c :: cs := by
  cases r <;> simp [Except.map, eq_comm]

/-- Inside a character the next byte must lie in the range for it. -/
theorem decodeFrom_pending :
    decodeFrom position (some p) bytes = .ok text ↔
      ∃ b rest, bytes = b :: rest ∧ p.low ≤ b ∧ b ≤ p.high ∧
        (if p.missing = 1 then
          (decodeFrom (position + 1) none rest).map
            (Char.ofNat (p.bits * 64 + (b.toNat - 0x80)) :: ·)
        else decodeFrom (position + 1) (some ⟨p.first, p.lead, p.missing - 1, 0x80, 0xbf,
          p.bits * 64 + (b.toNat - 0x80)⟩) rest) = .ok text := by
  constructor
  · intro h
    match bytes with
    | [] => cases h
    | b :: rest =>
      by_cases hb : (p.low ≤ b && b ≤ p.high) = true
      · rw [decodeFrom, if_pos hb] at h
        rw [Bool.and_eq_true, decide_eq_true_iff, decide_eq_true_iff] at hb
        exact ⟨b, rest, rfl, hb.1, hb.2, h⟩
      · rw [decodeFrom, if_neg hb] at h
        cases h
  · rintro ⟨b, rest, rfl, hl, hh, h⟩
    rw [decodeFrom, if_pos (by simp [hl, hh])]
    exact h

/-- The last byte of a character. -/
theorem decodeFrom_last (hm : p.missing = 1) :
    decodeFrom position (some p) bytes = .ok text ↔
      ∃ b rest, bytes = b :: rest ∧ p.low ≤ b ∧ b ≤ p.high ∧
        ∃ cs, decodeFrom (position + 1) none rest = .ok cs ∧
          text = Char.ofNat (p.bits * 64 + (b.toNat - 0x80)) :: cs := by
  rw [decodeFrom_pending]
  simp only [if_pos hm, map_cons_eq_ok_iff]

/-- A byte of a character that is neither its first nor its last. -/
theorem decodeFrom_inner (hm : p.missing ≠ 1) :
    decodeFrom position (some p) bytes = .ok text ↔
      ∃ b rest, bytes = b :: rest ∧ p.low ≤ b ∧ b ≤ p.high ∧
        decodeFrom (position + 1) (some ⟨p.first, p.lead, p.missing - 1, 0x80, 0xbf,
          p.bits * 64 + (b.toNat - 0x80)⟩) rest = .ok text := by
  rw [decodeFrom_pending]
  simp only [if_neg hm]

/-- The first byte of a character with several bytes. -/
theorem decodeFrom_first (ha : 0x80 ≤ a.toNat) :
    decodeFrom position none (a :: bytes) = .ok text ↔
      ∃ p, start? position a = some p ∧ decodeFrom (position + 1) (some p) bytes = .ok text := by
  have h : ¬ a < 0x80 := by
    rw [UInt8.lt_iff_toNat_lt]
    exact Nat.not_lt.mpr ha
  cases hs : start? position a <;> simp [decodeFrom, h, hs]

/-- A byte that is a character. -/
theorem decodeFrom_ascii (ha : a.toNat < 0x80) :
    decodeFrom position none (a :: bytes) = .ok text ↔
      ∃ cs, decodeFrom (position + 1) none bytes = .ok cs ∧ text = Char.ofNat a.toNat :: cs := by
  have h : a < 0x80 := UInt8.lt_iff_toNat_lt.mpr ha
  rw [decodeFrom, if_pos h, map_cons_eq_ok_iff]

theorem start?_eq_some_iff : start? position a = some p ↔
    (0xc2 ≤ a.toNat ∧ a.toNat < 0xe0 ∧ p = ⟨position, a, 1, 0x80, 0xbf, a.toNat - 0xc0⟩) ∨
    (0xe0 ≤ a.toNat ∧ a.toNat < 0xf0 ∧
      p = ⟨position, a, 2, if a == 0xe0 then 0xa0 else 0x80, if a == 0xed then 0x9f else 0xbf,
        a.toNat - 0xe0⟩) ∨
    (0xf0 ≤ a.toNat ∧ a.toNat < 0xf5 ∧
      p = ⟨position, a, 3, if a == 0xf0 then 0x90 else 0x80, if a == 0xf4 then 0x8f else 0xbf,
        a.toNat - 0xf0⟩) := by
  have hlt (n : UInt8) : a < n ↔ a.toNat < n.toNat := UInt8.lt_iff_toNat_lt
  unfold start?
  simp only [hlt, UInt8.toNat_ofNat]
  -- the byte lies in one of five ranges, and each lets at most one of the three forms through
  split
  · grind
  split
  · grind
  split
  · grind
  split
  · grind
  · grind

/-- The lower bound that a first byte sets for the next one. -/
theorem low_le_iff {x low tight b : UInt8} (h : low ≤ tight) :
    (if a == x then tight else low) ≤ b ↔
      low.toNat ≤ b.toNat ∧ (a.toNat = x.toNat → tight.toNat ≤ b.toNat) := by
  rw [UInt8.toNat_inj]
  by_cases hx : a = x
  · rw [if_pos (beq_iff_eq.mpr hx)]
    exact ⟨fun ht => ⟨UInt8.le_trans h ht, fun _ => ht⟩, fun ht => ht.2 hx⟩
  · rw [if_neg (by rwa [beq_iff_eq])]
    exact ⟨fun hl => ⟨hl, fun e => absurd e hx⟩, fun hl => hl.1⟩

/-- The upper bound that a first byte sets for the next one. -/
theorem le_high_iff {x high tight b : UInt8} (h : tight ≤ high) :
    b ≤ (if a == x then tight else high) ↔
      b.toNat ≤ high.toNat ∧ (a.toNat = x.toNat → b.toNat ≤ tight.toNat) := by
  rw [UInt8.toNat_inj]
  by_cases hx : a = x
  · rw [if_pos (beq_iff_eq.mpr hx)]
    exact ⟨fun ht => ⟨UInt8.le_trans ht h, fun _ => ht⟩, fun ht => ht.2 hx⟩
  · rw [if_neg (by rwa [beq_iff_eq])]
    exact ⟨fun hl => ⟨hl, fun e => absurd e hx⟩, fun hl => hl.1⟩

/-- What is decoded starts with a sequence. The bytes are followed one by one, from the first, which
says how many there are, to the last. -/
theorem exists_sequence_of_decodeFrom (h : decodeFrom position none (a :: bytes) = .ok text) :
    ∃ s n rest, Sequence s n ∧ a :: bytes = s ++ rest ∧
      ∃ cs, decodeFrom (position + s.length) none rest = .ok cs ∧ text = Char.ofNat n :: cs := by
  by_cases ha : a.toNat < 0x80
  · exact ⟨[a], _, bytes, .one ha, rfl, (decodeFrom_ascii ha).mp h⟩
  obtain ⟨p, hp, h⟩ := (decodeFrom_first (Nat.not_lt.mp ha)).mp h
  rcases start?_eq_some_iff.mp hp with ⟨hl, hh, rfl⟩ | ⟨hl, hh, rfl⟩ | ⟨hl, hh, rfl⟩
  · obtain ⟨b, rest, rfl, hbl, hbh, h⟩ := (decodeFrom_last rfl).mp h
    exact ⟨[a, b], _, rest, .two ⟨hl, hh⟩ ⟨hbl, hbh⟩ rfl, rfl, h⟩
  · obtain ⟨b, rest, rfl, hbl, hbh, h⟩ := (decodeFrom_inner (by simp)).mp h
    obtain ⟨hbl, hlow⟩ := (low_le_iff (by decide)).mp hbl
    obtain ⟨hbh, hhigh⟩ := (le_high_iff (by decide)).mp hbh
    obtain ⟨c, rest, rfl, hcl, hch, h⟩ := (decodeFrom_last rfl).mp h
    exact ⟨[a, b, c], _, rest, .three ⟨hl, hh⟩ ⟨hbl, hbh⟩ hlow hhigh ⟨hcl, hch⟩ rfl, rfl, h⟩
  · obtain ⟨b, rest, rfl, hbl, hbh, h⟩ := (decodeFrom_inner (by simp)).mp h
    obtain ⟨hbl, hlow⟩ := (low_le_iff (by decide)).mp hbl
    obtain ⟨hbh, hhigh⟩ := (le_high_iff (by decide)).mp hbh
    obtain ⟨c, rest, rfl, hcl, hch, h⟩ := (decodeFrom_inner (by simp)).mp h
    obtain ⟨d, rest, rfl, hdl, hdh, h⟩ := (decodeFrom_last rfl).mp h
    exact ⟨[a, b, c, d], _, rest,
      .four ⟨hl, hh⟩ ⟨hbl, hbh⟩ hlow hhigh ⟨hcl, hch⟩ ⟨hdl, hdh⟩ rfl, rfl, h⟩

/-- A sequence is decoded to its character, and what follows it is decoded after that. -/
theorem decodeFrom_of_sequence {s rest : List UInt8} {n : Nat} (hs : Sequence s n)
    (he : a :: bytes = s ++ rest)
    (h : ∃ cs, decodeFrom (position + s.length) none rest = .ok cs ∧ text = Char.ofNat n :: cs) :
    decodeFrom position none (a :: bytes) = .ok text := by
  cases hs with
  | one ha =>
    cases he
    exact (decodeFrom_ascii ha).mpr h
  | two ha hb hn =>
    cases he
    rw [hn] at h
    refine (decodeFrom_first (by omega)).mpr
      ⟨_, start?_eq_some_iff.mpr (.inl ⟨ha.1, ha.2, rfl⟩), ?_⟩
    exact (decodeFrom_last rfl).mpr ⟨_, _, rfl, hb.1, hb.2, h⟩
  | three ha hb hlow hhigh hc hn =>
    cases he
    rw [hn] at h
    refine (decodeFrom_first (by omega)).mpr
      ⟨_, start?_eq_some_iff.mpr (.inr (.inl ⟨ha.1, ha.2, rfl⟩)), ?_⟩
    refine (decodeFrom_inner (by simp)).mpr ⟨_, _, rfl, (low_le_iff (by decide)).mpr ⟨hb.1, hlow⟩,
      (le_high_iff (by decide)).mpr ⟨hb.2, hhigh⟩, ?_⟩
    exact (decodeFrom_last rfl).mpr ⟨_, _, rfl, hc.1, hc.2, h⟩
  | four ha hb hlow hhigh hc hd hn =>
    cases he
    rw [hn] at h
    refine (decodeFrom_first (by omega)).mpr
      ⟨_, start?_eq_some_iff.mpr (.inr (.inr ⟨ha.1, ha.2, rfl⟩)), ?_⟩
    refine (decodeFrom_inner (by simp)).mpr ⟨_, _, rfl, (low_le_iff (by decide)).mpr ⟨hb.1, hlow⟩,
      (le_high_iff (by decide)).mpr ⟨hb.2, hhigh⟩, ?_⟩
    refine (decodeFrom_inner (by simp)).mpr ⟨_, _, rfl, hc.1, hc.2, ?_⟩
    exact (decodeFrom_last rfl).mpr ⟨_, _, rfl, hd.1, hd.2, h⟩

/-- **Between characters the decoder takes one sequence.** -/
theorem decodeFrom_cons_eq_ok_iff : decodeFrom position none (a :: bytes) = .ok text ↔
    ∃ s n rest, Sequence s n ∧ a :: bytes = s ++ rest ∧
      ∃ cs, decodeFrom (position + s.length) none rest = .ok cs ∧ text = Char.ofNat n :: cs :=
  ⟨exists_sequence_of_decodeFrom, fun ⟨_, _, _, hs, he, h⟩ => decodeFrom_of_sequence hs he h⟩

end Pieces

/-! ## The decoder inverts the encoding -/

theorem decodeFrom_eq_ok_iff : ∀ (position : Nat) (bytes : List UInt8) (text : List Char),
    decodeFrom position none bytes = .ok text ↔ text.flatMap String.utf8EncodeChar = bytes
  | position, bytes, [] => by
    cases bytes with
    | nil => simp [decodeFrom]
    | cons a bytes => simp [decodeFrom_cons_eq_ok_iff]
  | position, [], c :: text => by
    refine iff_of_false (fun h => by cases h) fun h => ?_
    have h := (List.append_eq_nil_iff.mp h).1
    exact String.utf8EncodeChar_ne_nil h
  | position, a :: bytes, c :: text => by
    rw [decodeFrom_cons_eq_ok_iff]
    constructor
    · rintro ⟨s, n, rest, hs, he, cs, h, ht⟩
      cases ht
      rw [he, List.flatMap_cons, hs.encode_eq, (decodeFrom_eq_ok_iff _ rest text).mp h]
    · intro h
      rw [List.flatMap_cons] at h
      refine ⟨_, _, _, sequence_encode c, h.symm, text, (decodeFrom_eq_ok_iff _ _ text).mpr rfl, ?_⟩
      rw [Char.ofNat_toNat]

/-- **Bytes are decoded to a text exactly if they are its encoding.** -/
theorem decode_eq_ok_iff {bytes : List UInt8} {text : List Char} :
    decode bytes = .ok text ↔ (String.ofList text).toUTF8 = bytes.toByteArray := by
  have he : (String.ofList text).toUTF8 = text.utf8Encode := String.toByteArray_ofList
  rw [he, List.utf8Encode, List.toByteArray_inj]
  exact decodeFrom_eq_ok_iff 0 bytes text

end HostFacts.Text.Utf8
