/-
Numbers written in digits.

* `decimalValue`: the number that decimal digits write;
* `hexValue?`, `hexNumber?`: hexadecimal digits of either case;
* `padded`: a number in decimal, filled up with zeros on the left;
* `decimalValue_cons`, `decimalValue_append`: digits on the right shift those on the left.
-/

namespace AccessPolicy.Text

/-! ### Decimal digits -/

/-- The number that decimal digits write. -/
def decimalValue (cs : List Char) : Nat :=
  cs.foldl (fun n c => 10 * n + (c.toNat - '0'.toNat)) 0

/-- A number in decimal, at least `width` digits long. -/
def padded (width n : Nat) : List Char :=
  (Nat.toDigits 10 n).leftpad width '0'

/-! ### Hexadecimal digits -/

/-- The value of a hexadecimal digit of either case. -/
def hexValue? (c : Char) : Option Nat :=
  if c.isDigit then some (c.toNat - '0'.toNat)
  else if 'a' ≤ c ∧ c ≤ 'f' then some (c.toNat - 'a'.toNat + 10)
  else if 'A' ≤ c ∧ c ≤ 'F' then some (c.toNat - 'A'.toNat + 10)
  else none

/-- The number that hexadecimal digits write. -/
def hexNumber? (cs : List Char) : Option Nat :=
  cs.foldlM (fun n c => (hexValue? c).map (16 * n + ·)) 0

/-! ### The value of digits in a row -/

/-- A fold over digits that starts with `n` has `n` in front of them. -/
theorem foldl_decimal (n : Nat) (cs : List Char) :
    cs.foldl (fun n c => 10 * n + (c.toNat - '0'.toNat)) n
      = n * Nat.pow 10 cs.length + decimalValue cs := by
  unfold decimalValue
  induction cs generalizing n with
  | nil => exact (Nat.mul_one n).symm
  | cons c cs ih =>
    have hp : Nat.pow 10 (c :: cs).length = 10 * Nat.pow 10 cs.length :=
      Nat.mul_comm _ _
    rw [List.foldl_cons, List.foldl_cons, ih, ih (10 * 0 + _), hp, Nat.add_mul,
      Nat.mul_zero, Nat.zero_add, Nat.mul_comm 10 n, Nat.mul_assoc, Nat.add_assoc]

/-- The first digit counts as often as the digits behind it say. -/
theorem decimalValue_cons (c : Char) (cs : List Char) :
    decimalValue (c :: cs) = (c.toNat - '0'.toNat) * Nat.pow 10 cs.length + decimalValue cs := by
  rw [decimalValue, List.foldl_cons, foldl_decimal, Nat.mul_zero, Nat.zero_add]

/-- Digits on the right shift those on the left. -/
theorem decimalValue_append (as bs : List Char) :
    decimalValue (as ++ bs) = decimalValue as * Nat.pow 10 bs.length + decimalValue bs := by
  rw [decimalValue, List.foldl_append, foldl_decimal]
  rfl

end AccessPolicy.Text
