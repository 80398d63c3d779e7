/-
Blocks of internet addresses.

* `Range`: an address and a number of leading bits, at most the width of the
  family; it stands for the addresses that agree with it on those bits, and a
  bare address for itself alone;
* `Range.toText`, `Range.ofText?`: the address, then a slash and the number of
  bits unless that is the full width;
* `Range.isIn`: containment of blocks; `Range.isLoopback`, `Range.isMulticast`:
  containment in the blocks set aside for these uses.
-/
import AccessPolicy.Ip.Address

namespace AccessPolicy.Ip

/-- An address with the number of leading bits that matter. -/
structure Range where
  address : Address
  bits : Nat
  bits_le : bits ≤ address.width
  deriving DecidableEq

namespace Range

/-- Ranges are ordered by address and then by the number of bits. -/
instance : Ord Range where
  compare a b := (compare a.address b.address).then (compare a.bits b.bits)

instance : Std.TransOrd Range :=
  inferInstanceAs (Std.TransCmp (compareLex (compareOn address) (compareOn bits)))

/-- Two ranges compare as equal only if they are equal. -/
instance : Std.LawfulEqOrd Range where
  compare_self {a} := Std.ReflCmp.compare_self
  eq_of_compare {a b} h := by
    change (compare a.address b.address).then (compare a.bits b.bits) = .eq at h
    rw [Ordering.then_eq_eq] at h
    obtain ⟨x, m, hm⟩ := a
    obtain ⟨y, n, hn⟩ := b
    simp only [Range.mk.injEq]
    exact ⟨Std.LawfulEqCmp.eq_of_compare h.1, Std.LawfulEqCmp.eq_of_compare h.2⟩

/-! ### Making ranges -/

/-- Why a range cannot be made. -/
inductive ParseError where
  /-- The text is no range. -/
  | malformed (text : String)
  /-- The family has fewer bits. -/
  | tooLong (bits : Nat) (address : Address)
  deriving DecidableEq, Repr

/-- The wording of a parse error. -/
def ParseError.message : ParseError → String
  | .malformed text => "invalid ip address literal: " ++ text
  | .tooLong bits address =>
    "invalid ip address literal: prefix /" ++ toString bits ++ " is too long for "
      ++ address.toText

/-- The range of an address and a number of bits. -/
def make? (address : Address) (bits : Nat) : Except ParseError Range :=
  if h : bits ≤ address.width then .ok ⟨address, bits, h⟩
  else .error (.tooLong bits address)

/-- A number below 256 in any positive number of digits. -/
def bits? (cs : List Char) : Option Nat :=
  if cs ≠ [] ∧ cs.all Char.isDigit ∧ Text.decimalValue cs < 256 then
    some (Text.decimalValue cs)
  else none

/-- The range that a text writes. -/
def ofText? (text : String) : Except ParseError Range :=
  match Text.cutAtFirst '/' text.toList with
  | none =>
    match Address.ofChars? text.toList with
    | some a => .ok ⟨a, a.width, Nat.le_refl _⟩
    | none => .error (.malformed text)
  | some (front, back) =>
    match Address.ofChars? front, bits? back with
    | some a, some n => make? a n
    | _, _ => .error (.malformed text)

/-- The text of a range. -/
def toText (r : Range) : String :=
  if r.bits = r.address.width then r.address.toText
  else r.address.toText ++ "/" ++ toString r.bits

/-! ### Blocks -/

/-- An address lies in the block if it agrees with the range on the leading bits. -/
def contains (r : Range) (a : Address) : Bool :=
  r.address.isV4 == a.isV4 && r.address.top r.bits == a.top r.bits

/-- The block of `r` lies inside that of `s`. -/
def isIn (r s : Range) : Bool :=
  decide (s.bits ≤ r.bits) && s.contains r.address

/-- The block lies inside 127.0.0.0/8, or is the one address ::1. -/
def isLoopback (r : Range) : Bool :=
  match r.address with
  | .v4 _ => decide (8 ≤ r.bits) && r.address.top 8 == 127
  | .v6 b => r.bits == 128 && b == 1

/-- The block lies inside 224.0.0.0/4 or ff00::/8. -/
def isMulticast (r : Range) : Bool :=
  match r.address with
  | .v4 _ => decide (4 ≤ r.bits) && r.address.top 4 == 14
  | .v6 _ => decide (8 ≤ r.bits) && r.address.top 8 == 255

end Range

end AccessPolicy.Ip
