/-
Integers of 64 bits that report overflow.

* `Long`: the integers from -2^63 to 2^63 - 1;
* `Long.ofInt?`: the long equal to an integer, if there is one;
  `Long.ofInt?_eq_some_iff` says exactly when, and which;
* `Long.add?`, `Long.sub?`, `Long.mul?`, `Long.neg?`: the exact result of an
  operation, or nothing;
* `Long.ofDigits?`: the long that decimal digits write, by checked operations;
  `Long.ofDigits?_eq` says that the checks refuse a number only if it is too great.
-/
import AccessPolicy.Text.Digits

namespace AccessPolicy

/-- An integer of 64 bits. -/
abbrev Long := Int64

namespace Long

/-- The least long. -/
def least : Int := -9223372036854775808

/-- The greatest long. -/
def greatest : Int := 9223372036854775807

/-- The long equal to `n`, if `n` lies between the bounds. -/
def ofInt? (n : Int) : Option Long :=
  if least ≤ n ∧ n ≤ greatest then some (.ofInt n) else none

/-- The exact sum. -/
def add? (a b : Long) : Option Long := ofInt? (a.toInt + b.toInt)

/-- The exact difference. -/
def sub? (a b : Long) : Option Long := ofInt? (a.toInt - b.toInt)

/-- The exact product. -/
def mul? (a b : Long) : Option Long := ofInt? (a.toInt * b.toInt)

/-- The exact negation. -/
def neg? (a : Long) : Option Long := ofInt? (-a.toInt)

/-- A digit behind the digits of a long. -/
def appendDigit? (n : Long) (c : Char) : Option Long := do
  let tens ← mul? n 10
  add? tens (.ofNat (c.toNat - '0'.toNat))

/-- The long that decimal digits write. Every step is checked, for there may be any number of
digits. -/
def ofDigits? (cs : List Char) : Option Long :=
  cs.foldlM appendDigit? 0

/-- The text of a long: a sign if it is negative, and its digits. -/
def toText (a : Long) : String := toString a.toInt

/-! ### Bounds -/

/-- A long lies between the bounds. -/
theorem toInt_bounds (a : Long) : least ≤ a.toInt ∧ a.toInt ≤ greatest := by
  have h1 := Int64.le_toInt a
  have h2 := Int64.toInt_lt a
  unfold least greatest
  omega

/-- A long is the one of an integer exactly if the two are equal. -/
theorem ofInt?_eq_some_iff {n : Int} {a : Long} : ofInt? n = some a ↔ a.toInt = n := by
  unfold ofInt?
  constructor
  · intro h
    split at h
    · rename_i hn
      obtain rfl := Option.some.inj h
      unfold least greatest at hn
      exact Int64.toInt_ofInt_of_le (by omega) (by omega)
    · simp at h
  · rintro rfl
    rw [if_pos (toInt_bounds a), Int64.ofInt_toInt]

/-- There is no long for an integer outside the bounds. -/
theorem ofInt?_eq_none_iff {n : Int} : ofInt? n = none ↔ n < least ∨ greatest < n := by
  unfold ofInt?
  constructor
  · intro h
    split at h
    · simp at h
    · omega
  · intro h
    rw [if_neg (by omega)]

/-- If there is no long for an integer that is not negative, there is none for a greater one. -/
theorem ofInt?_eq_none_of_le {a b : Int} (ha : 0 ≤ a) (hab : a ≤ b) (h : ofInt? a = none) :
    ofInt? b = none := by
  rw [ofInt?_eq_none_iff, least] at h ⊢
  omega

/-! ### Digits -/

/-- The value of a digit is a long. -/
theorem toInt_digit {c : Char} (h : c.isDigit) :
    (Int64.ofNat (c.toNat - '0'.toNat)).toInt = (c.toNat - '0'.toNat : Nat) := by
  have hnine : '9'.toNat = 57 := rfl
  have hle := (Char.isDigit_iff_toNat.1 h).2
  exact Int64.toInt_ofNat_of_lt (by omega)

/-- A digit is appended exactly if the result is a long. -/
theorem appendDigit?_eq {n : Long} {c : Char} (hn : 0 ≤ n.toInt) (hc : c.isDigit) :
    appendDigit? n c = ofInt? (n.toInt * 10 + (c.toNat - '0'.toNat : Nat)) := by
  have hmul : mul? n 10 = ofInt? (n.toInt * 10) := rfl
  rw [appendDigit?, hmul]
  cases htens : ofInt? (n.toInt * 10) with
  | none => exact (ofInt?_eq_none_of_le (by omega) (by omega) htens).symm
  | some tens =>
    show add? tens _ = _
    rw [add?, toInt_digit hc, ofInt?_eq_some_iff.1 htens]

/-- Digits are appended exactly if the result is a long: what is too great stays so. -/
theorem foldlM_appendDigit?_eq {n : Long} {cs : List Char} (hn : 0 ≤ n.toInt)
    (h : ∀ c ∈ cs, c.isDigit) : cs.foldlM appendDigit? n =
      ofInt? (n.toInt * Nat.pow 10 cs.length + Text.decimalValue cs) := by
  induction cs generalizing n with
  | nil =>
    have hwhole : n.toInt * Nat.pow 10 0 + (0 : Nat) = n.toInt := by
      show n.toInt * 1 + 0 = n.toInt
      omega
    exact (ofInt?_eq_some_iff.2 hwhole.symm).symm
  | cons c cs ih =>
    have hvalue : n.toInt * Nat.pow 10 (c :: cs).length + Text.decimalValue (c :: cs) =
        (n.toInt * 10 + (c.toNat - '0'.toNat : Nat)) * Nat.pow 10 cs.length
          + Text.decimalValue cs := by
      have hpow : Nat.pow 10 (c :: cs).length = 10 * Nat.pow 10 cs.length := Nat.mul_comm _ _
      rw [Text.decimalValue_cons, hpow, Int.natCast_mul, Int.natCast_add, Int.natCast_mul,
        Int.add_mul, Int.mul_assoc, Int.add_assoc]
      rfl
    have hpos : (1 : Int) ≤ Nat.pow 10 cs.length :=
      Int.ofNat_le.2 (Nat.pow_pos (by decide))
    rw [hvalue, List.foldlM_cons, appendDigit?_eq hn (h c (.head _))]
    cases hk : ofInt? (n.toInt * 10 + (c.toNat - '0'.toNat : Nat)) with
    | none =>
      refine (ofInt?_eq_none_of_le (by omega) ?_ hk).symm
      have := Int.mul_le_mul_of_nonneg_left hpos
        (show 0 ≤ n.toInt * 10 + (c.toNat - '0'.toNat : Nat) by omega)
      omega
    | some k =>
      rw [← ofInt?_eq_some_iff.1 hk]
      refine ih ?_ fun d hd => h d (.tail _ hd)
      rw [ofInt?_eq_some_iff.1 hk]
      omega

/-- **Digits are read as a long exactly if their number is one.** -/
theorem ofDigits?_eq {cs : List Char} (h : ∀ c ∈ cs, c.isDigit) :
    ofDigits? cs = ofInt? (Text.decimalValue cs) := by
  have hzero : (0 : Long).toInt = 0 := rfl
  rw [ofDigits?, foldlM_appendDigit?_eq (Int.le_of_eq hzero.symm) h, hzero, Int.zero_mul,
    Int.zero_add]

end Long

end AccessPolicy
