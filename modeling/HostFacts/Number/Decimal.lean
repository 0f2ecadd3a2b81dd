/-!
# Decimal numerals

`decimal` writes a natural number and `ofDecimal` reads a run of digits; leading zeros carry no
weight (`ofDecimal_zeros_decimal`). Numerals of more than `digitLimit` digits are not converted in
either direction, and what was read can be written (`isWritable_ofDecimal`).
-/

namespace HostFacts.Number

/-- The longest numeral that is converted between text and number. -/
def digitLimit : Nat := 4300

/-- Whether a character is one of `0` to `9`. -/
def isDigit (c : Char) : Bool := '0' ≤ c && c ≤ '9'

/-- The digit of a number below ten. -/
def digitChar (n : Nat) : Char := Char.ofNat (48 + n % 10)

/-- The number that a digit stands for. -/
def digitValue (c : Char) : Nat := c.toNat - 48

/-- Writes the digits of `n` in front of `acc`. -/
def decimalOnto (n : Nat) (acc : List Char) : List Char :=
  if n < 10 then digitChar n :: acc else decimalOnto (n / 10) (digitChar n :: acc)
termination_by n
decreasing_by omega

/-- The decimal digits of a natural number, without leading zeros. -/
def decimal (n : Nat) : List Char := decimalOnto n []

/-- The decimal numeral of an integer, with a sign when it is negative. -/
def decimalInt : Int → List Char
  | .ofNat n => decimal n
  | .negSucc n => '-' :: decimal (n + 1)

/-- The number that a run of digits in `base` stands for, by the values of its digits. -/
def ofDigits (base : Nat) (digits : List Nat) : Nat :=
  digits.foldl (fun n d => n * base + d) 0

/-- The number that a run of decimal digits stands for. -/
def ofDecimal (s : List Char) : Nat := ofDigits 10 (s.map digitValue)

/-- The value of a character as a digit of a base up to sixteen. -/
def hexValue? (c : Char) : Option Nat :=
  if isDigit c then some (digitValue c)
  else if 'a' ≤ c && c ≤ 'f' then some (c.toNat - 87)
  else if 'A' ≤ c && c ≤ 'F' then some (c.toNat - 55)
  else none

/-- The digits of `n` in base sixteen, padded with zeros to `width`. -/
def hexPadded (upperCase : Bool) : Nat → Nat → List Char
  | 0, _ => []
  | width + 1, n =>
    hexPadded upperCase width (n / 16) ++
      [let d := n % 16
       if d < 10 then Char.ofNat (48 + d) else Char.ofNat ((if upperCase then 55 else 87) + d)]

/-- The number with zeros in front up to `width` digits. -/
def decimalPadded (width n : Nat) : List Char :=
  List.replicate (width - (decimal n).length) '0' ++ decimal n

/-- The decimal numeral of an integer, as a string. -/
def intText (i : Int) : String := String.ofList (decimalInt i)

/-- The decimal numeral of a natural number, as a string. -/
def natText (n : Nat) : String := String.ofList (decimal n)

/-- Whether the integer has a numeral that is short enough to be written. -/
def isWritable (i : Int) : Bool := i.natAbs < Nat.pow 10 digitLimit

/-! ## Lemmas -/

theorem isDigit_iff {c : Char} : isDigit c = true ↔ 48 ≤ c.toNat ∧ c.toNat ≤ 57 := by
  simp only [isDigit, Bool.and_eq_true, decide_eq_true_eq, Char.le_def, UInt32.le_iff_toNat_le]
  exact Iff.rfl

theorem digitValue_lt {c : Char} (h : isDigit c = true) : digitValue c < 10 := by
  have hc := isDigit_iff.mp h
  unfold digitValue
  omega

/-- Each digit makes a number at most ten times as large. -/
theorem foldl_digits_lt : ∀ {digits : List Nat}, (∀ d ∈ digits, d < 10) → ∀ n,
    digits.foldl (fun n d => n * 10 + d) n < (n + 1) * Nat.pow 10 digits.length
  | [], _, n => by simp
  | d :: digits, h, n => by
    have hd : d < 10 := h d List.mem_cons_self
    have ih := foldl_digits_lt (fun e he => h e (List.mem_cons_of_mem d he)) (n * 10 + d)
    have hle : (n * 10 + d + 1) * Nat.pow 10 digits.length ≤
        (n + 1) * 10 * Nat.pow 10 digits.length := Nat.mul_le_mul_right _ (by omega)
    have hp : Nat.pow 10 (digits.length + 1) = 10 * Nat.pow 10 digits.length := Nat.pow_succ'
    rw [List.foldl_cons, List.length_cons, hp, ← Nat.mul_assoc]
    exact Nat.lt_of_lt_of_le ih hle

/-- A run of digits stands for a number of at most as many digits. -/
theorem ofDecimal_lt {s : List Char} (h : ∀ c ∈ s, isDigit c = true) :
    ofDecimal s < Nat.pow 10 s.length := by
  have hd : ∀ d ∈ s.map digitValue, d < 10 := by
    simpa using fun c hc => digitValue_lt (h c hc)
  have hlt := foldl_digits_lt hd 0
  rwa [List.length_map, Nat.zero_add, Nat.one_mul] at hlt

/-- A number below the power of the limit can be written. -/
theorem isWritable_of_lt_pow {n length : Nat} (h : n < Nat.pow 10 length)
    (hl : length ≤ digitLimit) : isWritable n = true := by
  unfold isWritable
  -- the limit is large, so its power must not be worked out
  generalize digitLimit = limit at hl
  exact decide_eq_true (Nat.lt_of_lt_of_le h (Nat.pow_le_pow_right (by omega) hl))

/-- A run of digits within the limit stands for a number that can be written. -/
theorem isWritable_ofDecimal {s : List Char} (h : ∀ c ∈ s, isDigit c = true)
    (hl : s.length ≤ digitLimit) : isWritable (ofDecimal s) = true :=
  isWritable_of_lt_pow (ofDecimal_lt h) hl

theorem isDigit_digitChar (n : Nat) : isDigit (digitChar n) = true := by
  have h : ∀ d < 10, isDigit (Char.ofNat (48 + d)) = true := by decide
  exact h (n % 10) (Nat.mod_lt n (by omega))

theorem digitValue_digitChar (n : Nat) : digitValue (digitChar n) = n % 10 := by
  have h : ∀ d < 10, digitValue (Char.ofNat (48 + d)) = d := by decide
  exact h (n % 10) (Nat.mod_lt n (by omega))

theorem isDigit_of_mem_decimalOnto {n : Nat} {acc : List Char} (h : ∀ c ∈ acc, isDigit c = true) :
    ∀ c ∈ decimalOnto n acc, isDigit c = true := by
  induction n, acc using decimalOnto.induct with
  | case1 n acc hn =>
    rw [decimalOnto, if_pos hn]
    exact List.forall_mem_cons.mpr ⟨isDigit_digitChar n, h⟩
  | case2 n acc hn ih =>
    rw [decimalOnto, if_neg hn]
    exact ih (List.forall_mem_cons.mpr ⟨isDigit_digitChar n, h⟩)

theorem isDigit_of_mem_decimal {n : Nat} {c : Char} (h : c ∈ decimal n) : isDigit c = true :=
  isDigit_of_mem_decimalOnto (by simp) c h

theorem decimalOnto_ne_nil (n : Nat) (acc : List Char) : decimalOnto n acc ≠ [] := by
  induction n, acc using decimalOnto.induct with
  | case1 n acc hn =>
    rw [decimalOnto, if_pos hn]
    exact List.cons_ne_nil _ _
  | case2 n acc hn ih =>
    rw [decimalOnto, if_neg hn]
    exact ih

/-- The digits of a number in front of others are read as the number so far. -/
theorem foldl_decimalOnto (n : Nat) (acc : List Char) :
    ((decimalOnto n acc).map digitValue).foldl (fun n d => n * 10 + d) 0 =
      (acc.map digitValue).foldl (fun n d => n * 10 + d) n := by
  induction n, acc using decimalOnto.induct with
  | case1 n acc hn =>
    rw [decimalOnto, if_pos hn, List.map_cons, List.foldl_cons, digitValue_digitChar,
      Nat.mod_eq_of_lt hn, Nat.zero_mul, Nat.zero_add]
  | case2 n acc hn ih =>
    rw [decimalOnto, if_neg hn, ih, List.map_cons, List.foldl_cons, digitValue_digitChar,
      Nat.mul_comm, Nat.div_add_mod]

/-- **A number is read back from its digits**, whatever zeros stand in front of them. -/
theorem ofDecimal_zeros_decimal (zeros n : Nat) :
    ofDecimal (List.replicate zeros '0' ++ decimal n) = n := by
  induction zeros with
  | zero => exact foldl_decimalOnto n []
  | succ zeros ih => exact ih

end HostFacts.Number
