/-
Decimal numbers with four places.

* `Decimal`: a long that counts ten-thousandths;
* `Decimal.toText`: a sign if the number is negative, the whole part without
  superfluous zeros, a point and four digits;
* `Decimal.ofText?`: an optional sign, digits, a point and one to four digits;
  their number is put together by checked operations on longs.
-/
import AccessPolicy.Long
import AccessPolicy.Text.Digits

namespace AccessPolicy

/-- A decimal number, as a count of ten-thousandths. -/
structure Decimal where
  scaled : Long
  deriving DecidableEq, Repr

namespace Decimal

/-- The number of places after the point. -/
def places : Nat := 4

/-- How many ten-thousandths make one. -/
def unit : Nat := Nat.pow 10 places

/-- Decimals are ordered as numbers. -/
instance : Ord Decimal where
  compare a b := compare a.scaled.toInt b.scaled.toInt

/-- The decimal zero. -/
def zero : Decimal := ⟨0⟩

/-- The text of a decimal. -/
def toText (d : Decimal) : String :=
  let n := d.scaled.toInt
  let sign := if n < 0 then ['-'] else []
  String.ofList (sign ++ Nat.toDigits 10 (n.natAbs / unit)
    ++ '.' :: Text.padded places (n.natAbs % unit))

/-- The text is no decimal number, or its value is out of range. -/
structure ParseError where
  text : String
  deriving DecidableEq, Repr

/-- The wording of a parse error. -/
def ParseError.message (e : ParseError) : String :=
  "invalid decimal literal: " ++ e.text

/-- The parts of a decimal text: whether it has a sign, the digits before the
point and those after it. -/
def splitText? (cs : List Char) : Option (Bool × List Char × List Char) :=
  let negative := cs.head? == some '-'
  let body := if negative then cs.tail else cs
  let whole := body.takeWhile Char.isDigit
  match body.dropWhile Char.isDigit with
  | '.' :: frac =>
    if whole ≠ [] ∧ frac ≠ [] ∧ frac.length ≤ places ∧ frac.all Char.isDigit then
      some (negative, whole, frac)
    else none
  | _ => none

/-- The ten-thousandths that the digits after the point count; a place without a digit counts
as a zero. -/
def fraction? (frac : List Char) : Option Long :=
  (Long.ofDigits? frac).map (Nat.repeat (· * 10) (places - frac.length))

/-- The ten-thousandths that the parts of a text count. The sign is given to the whole part
before the fraction joins it, for the opposite of the least long is no long. -/
def scaled? (negative : Bool) (whole frac : List Char) : Option Long := do
  let ones ← Long.ofDigits? whole
  let rest ← fraction? frac
  let magnitude ← Long.mul? ones (.ofNat unit)
  if negative then
    let opposite ← Long.neg? magnitude
    Long.sub? opposite rest
  else Long.add? magnitude rest

/-- The decimal that a text writes. -/
def ofText? (text : String) : Except ParseError Decimal :=
  match splitText? text.toList with
  | none => .error ⟨text⟩
  | some (negative, whole, frac) =>
    match scaled? negative whole frac with
    | some n => .ok ⟨n⟩
    | none => .error ⟨text⟩

instance : Std.TransOrd Decimal :=
  inferInstanceAs (Std.TransCmp (compareOn fun d : Decimal => d.scaled.toInt))

/-- Two decimals compare as equal only if they are equal. -/
instance : Std.LawfulEqOrd Decimal where
  compare_self {a} := Std.ReflCmp.compare_self
  eq_of_compare {a b} h := by
    change compare a.scaled.toInt b.scaled.toInt = .eq at h
    obtain ⟨m⟩ := a
    obtain ⟨n⟩ := b
    exact congrArg Decimal.mk (Int64.toInt_inj.1 (Std.LawfulEqCmp.eq_of_compare h))

end Decimal

end AccessPolicy
