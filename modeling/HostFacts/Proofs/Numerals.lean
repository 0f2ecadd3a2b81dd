import HostFacts.Number.Decimal
import Mathlib.Data.Nat.Digits.Lemmas

/-!
# Numerals and the numbers they stand for

A number is written with its decimal digits and without superfluous zeros. A run of digits stands
for a number by place value, and writing this number gives the run back without the zeros in front
that carry no weight.

* `decimal_eq_digits`: the digits that are written are those of the positional system;
* `length_decimal_le_iff`: how many digits a number is written with;
* `ofDecimal_eq_ofDigits`: a run of digits is read by place value;
* **`decimal_ofDecimal`**: reading a run of digits and writing the number again only drops zeros.
-/

namespace HostFacts.Number

/-! ## Writing -/

/-- Digits are written in front of what is there. -/
theorem decimalOnto_eq (n : Nat) (acc : List Char) : decimalOnto n acc = decimal n ++ acc := by
  unfold decimal
  rw [decimalOnto, decimalOnto.eq_def n []]
  split
  · rfl
  · rw [decimalOnto_eq (n / 10) (digitChar n :: acc), decimalOnto_eq (n / 10) [digitChar n],
      List.append_assoc, List.singleton_append]
termination_by n

theorem decimal_of_lt {n : Nat} (h : n < 10) : decimal n = [digitChar n] := by
  rw [decimal, decimalOnto, if_pos h]

theorem decimal_of_le {n : Nat} (h : 10 ≤ n) : decimal n = decimal (n / 10) ++ [digitChar n] := by
  rw [decimal, decimalOnto, if_neg (Nat.not_lt.mpr h), decimalOnto_eq]

theorem decimal_ne_nil (n : Nat) : decimal n ≠ [] := decimalOnto_ne_nil n []

/-- **The written digits are those of the positional system**, the most significant first. -/
theorem decimal_eq_digits {n : Nat} (h : n ≠ 0) :
    decimal n = ((Nat.digits 10 n).map digitChar).reverse := by
  induction n using Nat.strong_induction_on with
  | _ n ih =>
    rcases Nat.lt_or_ge n 10 with hn | hn
    · rw [decimal_of_lt hn, Nat.digits_of_lt 10 n h hn]
      rfl
    · have hq : n / 10 ≠ 0 := by omega
      have hd : digitChar (n % 10) = digitChar n := by rw [digitChar, Nat.mod_mod, digitChar]
      have hdigits : Nat.digits 10 n = n % 10 :: Nat.digits 10 (n / 10) :=
        Nat.digits_def' (by omega) (by omega)
      rw [decimal_of_le hn, ih (n / 10) (by omega) hq, hdigits, List.map_cons, List.reverse_cons,
        hd]

/-- **A number below a power of ten has at most as many digits as the power has zeros.** -/
theorem length_decimal_le_iff {n k : Nat} (hk : k ≠ 0) : (decimal n).length ≤ k ↔ n < 10 ^ k := by
  by_cases hn : n = 0
  · subst hn
    rw [decimal_of_lt (by omega), List.length_singleton]
    exact iff_of_true (Nat.one_le_iff_ne_zero.mpr hk) (Nat.pow_pos (by omega))
  · rw [decimal_eq_digits hn, List.length_reverse, List.length_map,
      Nat.digits_length_le_iff (by omega)]

theorem isWritable_iff {n : Nat} : isWritable n = true ↔ n < 10 ^ digitLimit := by
  unfold isWritable
  -- the limit is large, so its power must not be worked out
  generalize digitLimit = limit
  exact decide_eq_true_iff

theorem ofDecimal_decimal (n : Nat) : ofDecimal (decimal n) = n := ofDecimal_zeros_decimal 0 n

theorem decimal_injective : Function.Injective decimal :=
  Function.LeftInverse.injective ofDecimal_decimal

/-! ## Reading -/

variable {s : List Char}

/-- **A run of digits is read by place value.** -/
theorem ofDecimal_eq_ofDigits (s : List Char) :
    ofDecimal s = Nat.ofDigits 10 (s.map digitValue).reverse := by
  rw [Nat.ofDigits_eq_foldr, List.foldr_reverse, ofDecimal, ofDigits]
  congr 1
  funext n d
  rw [Nat.cast_id, Nat.mul_comm, Nat.add_comm]

/-- A run of digits stands for a number below the power of ten with as many zeros. -/
theorem ofDecimal_lt_pow {k : Nat} (hd : ∀ c ∈ s, isDigit c = true) (hl : s.length ≤ k) :
    ofDecimal s < 10 ^ k :=
  Nat.lt_of_lt_of_le (ofDecimal_lt hd) (Nat.pow_le_pow_right (by omega) hl)

theorem digitChar_digitValue {c : Char} (h : isDigit c = true) : digitChar (digitValue c) = c := by
  have hc := isDigit_iff.mp h
  unfold digitChar digitValue
  rw [Nat.mod_eq_of_lt (by omega), Nat.add_sub_of_le hc.1, Char.ofNat_toNat]

theorem digitValue_ne_zero {c : Char} (h : isDigit c = true) (hz : c ≠ '0') :
    digitValue c ≠ 0 := by
  intro he
  refine hz ?_
  rw [← digitChar_digitValue h, he]
  rfl

/-- A run of digits without the zeros in front of it that carry no weight; the last digit stays. -/
def unpadded : List Char → List Char
  | '0' :: c :: rest => unpadded (c :: rest)
  | s => s

/-- Digits that do not start with a zero are those of their number. -/
theorem decimal_ofDecimal_of_ne_zero {c : Char} (hd : ∀ d ∈ c :: s, isDigit d = true)
    (hz : c ≠ '0') : decimal (ofDecimal (c :: s)) = c :: s := by
  have hc : digitValue c ≠ 0 := digitValue_ne_zero (hd c List.mem_cons_self) hz
  have hlt : ∀ n ∈ ((c :: s).map digitValue).reverse, n < 10 := by
    intro n hn
    obtain ⟨d, hm, rfl⟩ := List.mem_map.mp (List.mem_reverse.mp hn)
    exact digitValue_lt (hd d hm)
  have hdigits : Nat.digits 10 (ofDecimal (c :: s)) = ((c :: s).map digitValue).reverse := by
    rw [ofDecimal_eq_ofDigits]
    exact Nat.digits_ofDigits 10 (by omega) _ hlt fun _ => by simpa using hc
  have hne : ofDecimal (c :: s) ≠ 0 := by
    intro he
    rw [he, Nat.digits_zero] at hdigits
    simp at hdigits
  have hmap : ((c :: s).map digitValue).map digitChar = c :: s := by
    rw [List.map_map]
    exact (List.map_congr_left fun d hm => digitChar_digitValue (hd d hm)).trans (List.map_id _)
  rw [decimal_eq_digits hne, hdigits, List.map_reverse, List.reverse_reverse, hmap]

/-- **Reading a run of digits and writing the number again only drops superfluous zeros.** -/
theorem decimal_ofDecimal (hs : s ≠ []) (hd : ∀ c ∈ s, isDigit c = true) :
    decimal (ofDecimal s) = unpadded s := by
  induction s using unpadded.induct with
  | case1 c rest ih =>
    rw [unpadded]
    exact ih (List.cons_ne_nil c rest) fun d hm => hd d (List.mem_cons_of_mem _ hm)
  | case2 s hform =>
    rw [unpadded]
    · cases s with
      | nil => exact absurd rfl hs
      | cons c rest =>
        by_cases hz : c = '0'
        · subst hz
          cases rest with
          | nil => exact decimal_of_lt (by decide)
          | cons d rest => exact absurd rfl (hform d rest)
        · exact decimal_ofDecimal_of_ne_zero hd hz
    · exact hform

end HostFacts.Number
