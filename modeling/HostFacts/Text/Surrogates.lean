/-!
# Surrogates

The codes from U+D800 on are the halves of the characters beyond U+FFFF. Written as escapes they can
come one by one and in any order, and a text keeps them apart: a surrogate is held as the private
character that comes `surrogateShift` behind its code. `codeOf` reads codes back (`codeOf_ofCode`);
`joined` puts the halves of a character together.
-/

namespace HostFacts.Text

/-- The distance from a surrogate to the character that holds it. -/
def surrogateShift : Nat := 0x100000

/-- Whether a code is that of a surrogate. -/
def isSurrogate (code : Nat) : Bool := 0xd800 ≤ code && code < 0xe000

/-- The character that holds a code. -/
def ofCode (code : Nat) : Char :=
  Char.ofNat (if isSurrogate code then code + surrogateShift else code)

/-- The code that a character holds. -/
def codeOf (c : Char) : Nat :=
  if isSurrogate (c.toNat - surrogateShift) then c.toNat - surrogateShift else c.toNat

/-- The code of the character with two halves. -/
def ofHalves (high low : Nat) : Nat := 0x10000 + (high - 0xd800) * 0x400 + (low - 0xdc00)

/-- The two halves of a code beyond U+FFFF. -/
def halves (code : Nat) : Nat × Nat :=
  (0xd800 + (code - 0x10000) / 0x400, 0xdc00 + (code - 0x10000) % 0x400)

/-- Whether two codes are the halves of a character. -/
def areHalves (high low : Nat) : Bool :=
  isSurrogate high && isSurrogate low && high < 0xdc00 && 0xdc00 ≤ low

/-- The text with the halves of characters put together where they stand in order. -/
def joined : List Char → List Char
  | a :: b :: rest =>
    if areHalves (codeOf a) (codeOf b) then
      Char.ofNat (ofHalves (codeOf a) (codeOf b)) :: joined rest
    else a :: joined (b :: rest)
  | rest => rest

/-! ## Lemmas -/

theorem isSurrogate_iff {code : Nat} : isSurrogate code = true ↔ 0xd800 ≤ code ∧ code < 0xe000 := by
  simp [isSurrogate]

theorem toNat_ofNat_of_isValidChar {n : Nat} (h : n.isValidChar) : (Char.ofNat n).toNat = n := by
  unfold Char.ofNat
  rw [dif_pos h]
  rfl

theorem toNat_ofCode {code : Nat} (h : code < 0x110000) :
    (ofCode code).toNat = if isSurrogate code then code + surrogateShift else code := by
  refine toNat_ofNat_of_isValidChar ?_
  unfold Nat.isValidChar
  by_cases hs : isSurrogate code = true
  · rw [if_pos hs]
    rw [isSurrogate_iff] at hs
    unfold surrogateShift
    omega
  · rw [if_neg hs]
    rw [isSurrogate_iff] at hs
    omega

/-- Codes are read back, but for the private characters that hold surrogates. -/
theorem codeOf_ofCode {code : Nat} (h : code < 0x110000)
    (hp : isSurrogate (code - surrogateShift) = false) : codeOf (ofCode code) = code := by
  unfold codeOf
  rw [toNat_ofCode h]
  by_cases hs : isSurrogate code = true
  · rw [if_pos hs, Nat.add_sub_cancel, if_pos hs]
  · rw [if_neg hs, if_neg (Bool.eq_false_iff.mp hp)]

theorem ofHalves_halves {code : Nat} (h : 0x10000 ≤ code) :
    ofHalves (halves code).1 (halves code).2 = code := by
  unfold ofHalves halves
  dsimp only
  rw [Nat.add_sub_cancel_left, Nat.add_sub_cancel_left, Nat.add_assoc, Nat.mul_comm,
    Nat.div_add_mod, Nat.add_sub_of_le h]

end HostFacts.Text
