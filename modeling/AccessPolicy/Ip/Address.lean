/-
Internet addresses of both families.

* `Address`: 32 bits or 128 bits; the first family comes first in the order;
* `Address.ofText?`: the dotted quad of the first family, or groups of
  hexadecimal digits for the second, where a double colon stands for one or
  more groups of zeros and a dotted quad may stand for the last two groups;
* `Address.toText`: the dotted quad, or the groups in lower case without
  leading zeros, the first longest run of two or more zero groups written as a
  double colon; an address that holds one of the first family is written with
  that one's dotted quad.
-/
import AccessPolicy.Text.Digits
import AccessPolicy.Text.Fields

namespace AccessPolicy.Ip

/-- An internet address. -/
inductive Address where
  | v4 (bits : BitVec 32)
  | v6 (bits : BitVec 128)
  deriving DecidableEq, Repr

namespace Address

/-- The number of bits of an address. -/
def width : Address → Nat
  | .v4 _ => 32
  | .v6 _ => 128

/-- The bits of an address as a number. -/
def toNat : Address → Nat
  | .v4 b => b.toNat
  | .v6 b => b.toNat

/-- An address of the family with 32 bits. -/
def isV4 : Address → Bool
  | .v4 _ => true
  | .v6 _ => false

/-- The `n` first bits of an address as a number. -/
def top (a : Address) (n : Nat) : Nat :=
  a.toNat >>> (a.width - n)

/-- The place of the family in the order. -/
def rank : Address → Nat
  | .v4 _ => 4
  | .v6 _ => 6

/-- Addresses are ordered by family and then as numbers. -/
instance : Ord Address where
  compare a b := (compare a.rank b.rank).then (compare a.toNat b.toNat)

instance : Std.TransOrd Address :=
  inferInstanceAs (Std.TransCmp (compareLex (compareOn rank) (compareOn toNat)))

/-- Two addresses compare as equal only if they are equal. -/
instance : Std.LawfulEqOrd Address where
  compare_self {a} := Std.ReflCmp.compare_self
  eq_of_compare {a b} h := by
    change (compare a.rank b.rank).then (compare a.toNat b.toNat) = .eq at h
    rw [Ordering.then_eq_eq, Nat.compare_eq_eq, Nat.compare_eq_eq] at h
    cases a with
    | v4 a =>
      cases b with
      | v4 b => exact congrArg v4 (BitVec.eq_of_toNat_eq h.2)
      | v6 b => exact absurd h.1 (by simp [rank])
    | v6 a =>
      cases b with
      | v4 b => exact absurd h.1 (by simp [rank])
      | v6 b => exact congrArg v6 (BitVec.eq_of_toNat_eq h.2)

/-! ### Digits of an address -/

/-- The number with these digits in a base, most significant first. -/
def ofDigits (base : Nat) (ds : List Nat) : Nat :=
  ds.foldl (fun n d => base * n + d) 0

/-- The last `n` digits of a number in a base, most significant first. -/
def digits (base : Nat) : Nat → Nat → List Nat
  | 0, _ => []
  | n + 1, x => digits base n (x / base) ++ [x % base]

/-! ### Writing -/

/-- The dotted quad of 32 bits. -/
def dottedQuad (bits : Nat) : List Char :=
  Text.joined '.' ((digits 256 4 bits).map (Nat.toDigits 10))

/-- The number of zeros that a list of groups begins with. -/
def zerosAt (groups : List Nat) (i : Nat) : Nat :=
  ((groups.drop i).takeWhile (· == 0)).length

/-- Where the first longest run of zero groups begins, and its length. -/
def longestZeros (groups : List Nat) : Nat × Nat :=
  (List.range groups.length).foldl
    (fun best i => if best.2 < zerosAt groups i then (i, zerosAt groups i) else best) (0, 0)

/-- Groups in hexadecimal, joined by colons. -/
def groupText (groups : List Nat) : List Char :=
  Text.joined ':' (groups.map (Nat.toDigits 16))

/-- The text of 128 bits. -/
def colonText (bits : Nat) : List Char :=
  if bits / 0x100000000 = 0xffff then "::ffff:".toList ++ dottedQuad (bits % 0x100000000)
  else
    let groups := digits 0x10000 8 bits
    let (start, length) := longestZeros groups
    if length < 2 then groupText groups
    else groupText (groups.take start) ++ ':' :: ':' ::
      groupText (groups.drop (start + length))

/-- The text of an address. -/
def chars : Address → List Char
  | .v4 b => dottedQuad b.toNat
  | .v6 b => colonText b.toNat

/-- The text of an address, as a string. -/
def toText (a : Address) : String :=
  String.ofList a.chars

/-! ### Reading -/

/-- A number below 256 in one to three digits, without superfluous zeros. -/
def octet? (cs : List Char) : Option Nat :=
  if cs ≠ [] ∧ cs.length ≤ 3 ∧ cs.all Char.isDigit ∧ (cs.head? = some '0' → cs.length = 1)
      ∧ Text.decimalValue cs < 256 then
    some (Text.decimalValue cs)
  else none

/-- The four numbers of a dotted quad. -/
def quad? (cs : List Char) : Option (List Nat) := do
  let os ← (Text.fields '.' cs).mapM octet?
  if os.length = 4 then some os else none

/-- A group of one to four hexadecimal digits. -/
def group? (cs : List Char) : Option Nat :=
  if cs ≠ [] ∧ cs.length ≤ 4 then Text.hexNumber? cs else none

/-- The groups that pieces write; with `quad` the last may be a dotted quad, which
counts for two groups. -/
def groups? (quad : Bool) : List (List Char) → Option (List Nat)
  | [] => some []
  | [p] =>
    match group? p with
    | some g => some [g]
    | none =>
      if quad then do
        let bits := ofDigits 256 (← quad? p)
        some [bits / 0x10000, bits % 0x10000]
      else none
  | p :: ps => do return (← group? p) :: (← groups? quad ps)

/-- The groups on one side of a double colon, where there may be none. -/
def side? (quad : Bool) (cs : List Char) : Option (List Nat) :=
  if cs = [] then some [] else groups? quad (Text.fields ':' cs)

/-- Cuts a text at its first double colon. -/
def splitAtZeros : List Char → Option (List Char × List Char)
  | [] => none
  | ':' :: ':' :: rest => some ([], rest)
  | c :: rest => (splitAtZeros rest).map fun (a, b) => (c :: a, b)

/-- The eight groups that a text of the second family writes. -/
def eightGroups? (cs : List Char) : Option (List Nat) :=
  match splitAtZeros cs with
  | none => do
    let gs ← groups? true (Text.fields ':' cs)
    if gs.length = 8 then some gs else none
  | some (a, b) => do
    let hs ← side? false a
    let ts ← side? true b
    if hs.length + ts.length ≤ 7 then
      some (hs ++ List.replicate (8 - hs.length - ts.length) 0 ++ ts)
    else none

/-- The address that characters write. -/
def ofChars? (cs : List Char) : Option Address :=
  match quad? cs with
  | some os => some (.v4 (.ofNat 32 (ofDigits 256 os)))
  | none => (eightGroups? cs).map fun gs => .v6 (.ofNat 128 (ofDigits 0x10000 gs))

/-- The address that a text writes. -/
def ofText? (text : String) : Option Address :=
  ofChars? text.toList

end Address

end AccessPolicy.Ip
