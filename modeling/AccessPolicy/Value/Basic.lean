/-
The values that policies compute with.

* `Value`: booleans, longs, strings, sets, records, entity identities, decimals
  and ranges of internet addresses; `Value.kind` tells them apart;
* `Value.compare`: the order that keeps sets and records canonical. Values of
  different kinds compare by kind, sets and records as the lists that hold them;
* `Value.compare_eq_iff`: two values compare as equal exactly if they are equal,
  which makes equality decidable.

A set is held as an ascending list of its elements and a record as a list of
pairs with ascending keys; the functions that make them are in
`Value/Collection.lean`.
-/
import AccessPolicy.Decimal
import AccessPolicy.Entity.Uid
import AccessPolicy.Ip.Range

namespace AccessPolicy

/-! ### Values and their kinds -/

/-- A value. -/
inductive Value where
  | bool (b : Bool)
  | long (n : Long)
  | string (s : String)
  | set (elems : List Value)
  | record (fields : List (String × Value))
  | entity (uid : EntityUid)
  | decimal (d : Decimal)
  | ip (r : Ip.Range)

/-- The kind of a value. -/
inductive ValueKind where
  | bool
  | long
  | string
  | set
  | record
  | entity
  | decimal
  | ip
  deriving DecidableEq, Repr

namespace ValueKind

/-- The name of a kind. -/
def name : ValueKind → String
  | bool => "Bool"
  | long => "Long"
  | string => "String"
  | set => "Set"
  | record => "Record"
  | entity => "EntityUid"
  | decimal => "Decimal"
  | ip => "IpAddr"

/-- The place of a kind in the order of values. -/
def rank : ValueKind → Nat
  | bool => 0
  | long => 1
  | string => 2
  | set => 3
  | record => 4
  | entity => 5
  | decimal => 6
  | ip => 7

/-- The rank determines the kind. -/
theorem eq_of_rank_eq {k l : ValueKind} (h : k.rank = l.rank) : k = l := by
  cases k <;> cases l <;> first | rfl | exact absurd h (by decide)

end ValueKind

namespace Value

/-- The kind of a value. -/
def kind : Value → ValueKind
  | .bool _ => .bool
  | .long _ => .long
  | .string _ => .string
  | .set _ => .set
  | .record _ => .record
  | .entity _ => .entity
  | .decimal _ => .decimal
  | .ip _ => .ip

/-! ### The order -/

mutual

/-- The order of values. -/
def compare : Value → Value → Ordering
  | .bool a, .bool b => Ord.compare a b
  | .long a, .long b => Ord.compare a.toInt b.toInt
  | .string a, .string b => Ord.compare a b
  | .set a, .set b => compareElems a b
  | .record a, .record b => compareFields a b
  | .entity a, .entity b => Ord.compare a b
  | .decimal a, .decimal b => Ord.compare a b
  | .ip a, .ip b => Ord.compare a b
  | a, b => Ord.compare a.kind.rank b.kind.rank

/-- The order of element lists: by the first difference, the shorter first. -/
def compareElems : List Value → List Value → Ordering
  | [], [] => .eq
  | [], _ :: _ => .lt
  | _ :: _, [] => .gt
  | x :: xs, y :: ys => (x.compare y).then (compareElems xs ys)

/-- The order of field lists: a key counts before its value. -/
def compareFields : List (String × Value) → List (String × Value) → Ordering
  | [], [] => .eq
  | [], _ :: _ => .lt
  | _ :: _, [] => .gt
  | (k, x) :: fs, (l, y) :: gs =>
    ((Ord.compare k l).then (x.compare y)).then (compareFields fs gs)

end

instance : Ord Value := ⟨Value.compare⟩

/-! ### Equality -/

mutual

/-- Two values compare as equal exactly if they are equal. -/
theorem compare_eq_iff : ∀ a b : Value, a.compare b = .eq ↔ a = b
  | .bool a, y => by
    cases y <;> simp [compare, kind, ValueKind.rank]
  | .long a, y => by
    cases y <;> simp [compare, kind, ValueKind.rank, Int64.toInt_inj]
  | .string a, y => by
    cases y <;> simp [compare, kind, ValueKind.rank]
  | .set xs, y => by
    cases y with
    | set ys => simp [compare, compareElems_eq_iff xs ys]
    | _ => simp [compare, kind, ValueKind.rank]
  | .record fs, y => by
    cases y with
    | record gs => simp [compare, compareFields_eq_iff fs gs]
    | _ => simp [compare, kind, ValueKind.rank]
  | .entity a, y => by
    cases y <;> simp [compare, kind, ValueKind.rank]
  | .decimal a, y => by
    cases y <;> simp [compare, kind, ValueKind.rank]
  | .ip a, y => by
    cases y <;> simp [compare, kind, ValueKind.rank]

/-- Two element lists compare as equal exactly if they are equal. -/
theorem compareElems_eq_iff : ∀ xs ys : List Value, compareElems xs ys = .eq ↔ xs = ys
  | [], ys => by cases ys <;> simp [compareElems]
  | x :: xs, [] => by simp [compareElems]
  | x :: xs, y :: ys => by
    simp [compareElems, Ordering.then_eq_eq, compare_eq_iff x y, compareElems_eq_iff xs ys]

/-- Two field lists compare as equal exactly if they are equal. -/
theorem compareFields_eq_iff : ∀ fs gs : List (String × Value),
    compareFields fs gs = .eq ↔ fs = gs
  | [], gs => by cases gs <;> simp [compareFields]
  | (k, x) :: fs, [] => by simp [compareFields]
  | (k, x) :: fs, (l, y) :: gs => by
    simp [compareFields, Ordering.then_eq_eq, compare_eq_iff x y, compareFields_eq_iff fs gs]

end

instance : Std.LawfulEqOrd Value where
  compare_self {a} := (compare_eq_iff a a).2 rfl
  eq_of_compare h := (compare_eq_iff _ _).1 h

instance : DecidableEq Value := fun a b =>
  decidable_of_iff _ (compare_eq_iff a b)

end Value

end AccessPolicy
