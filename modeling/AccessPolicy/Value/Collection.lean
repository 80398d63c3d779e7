/-
Sets and records.

* `Value.setOf`, `Value.recordOf`: the set of a list of values and the record of
  a list of pairs, in canonical form; of two pairs with one key the later counts;
* `containsAll`, `containsAny`: the relations between the element lists of two
  sets;
* `Value.WellFormed`: every set and every record in a value, at any depth, is in
  canonical form; `wellFormed_setOf` and `wellFormed_recordOf` say that the
  functions above keep it so.
-/
import AccessPolicy.Ascending
import AccessPolicy.Value.Order

namespace AccessPolicy

/-- Named values, as a list of pairs with ascending keys. -/
abbrev Record := List (String × Value)

namespace Value

/-! ### Making and asking -/

/-- The set of the values in a list. -/
def setOf (xs : List Value) : Value :=
  .set (Ascending.ofList xs)

/-- The record of a list of pairs. -/
def recordOf (ps : List (String × Value)) : Value :=
  .record (Ascending.ofPairs ps)

/-- Every element of the set `ys` is one of the set `xs`. -/
def containsAll (xs ys : List Value) : Bool :=
  Ascending.isSubset ys xs

/-- Some element of the set `ys` is one of the set `xs`. -/
def containsAny (xs ys : List Value) : Bool :=
  !Ascending.isDisjoint xs ys

/-! ### Canonical form -/

mutual

/-- Every set and every record in a value is in canonical form. -/
def WellFormed : Value → Prop
  | .set xs => Ascending.IsAscending xs ∧ WellFormedElems xs
  | .record fs => Ascending.KeysAscending fs ∧ WellFormedFields fs
  | _ => True

/-- The elements of a list are well-formed. -/
def WellFormedElems : List Value → Prop
  | [] => True
  | x :: xs => x.WellFormed ∧ WellFormedElems xs

/-- The values of the fields are well-formed. -/
def WellFormedFields : List (String × Value) → Prop
  | [] => True
  | (_, x) :: fs => x.WellFormed ∧ WellFormedFields fs

end

/-- A list of elements is well-formed if each of them is. -/
theorem wellFormedElems_iff {xs : List Value} :
    WellFormedElems xs ↔ ∀ x ∈ xs, x.WellFormed := by
  induction xs with
  | nil => simp [WellFormedElems]
  | cons x xs ih => simp [WellFormedElems, ih]

/-- A list of fields is well-formed if each value is. -/
theorem wellFormedFields_iff {fs : List (String × Value)} :
    WellFormedFields fs ↔ ∀ f ∈ fs, f.2.WellFormed := by
  induction fs with
  | nil => simp [WellFormedFields]
  | cons f fs ih =>
    obtain ⟨k, x⟩ := f
    simp [WellFormedFields, ih]

/-- The set of well-formed values is well-formed. -/
theorem wellFormed_setOf {xs : List Value}
    (h : ∀ x ∈ xs, x.WellFormed) : (setOf xs).WellFormed := by
  rw [setOf, WellFormed]
  exact ⟨Ascending.isAscending_ofList xs,
    wellFormedElems_iff.2 fun x hx => h x (Ascending.mem_ofList.1 hx)⟩

/-- The record of well-formed values is well-formed. -/
theorem wellFormed_recordOf {ps : List (String × Value)}
    (h : ∀ p ∈ ps, p.2.WellFormed) : (recordOf ps).WellFormed := by
  rw [recordOf, WellFormed]
  exact ⟨Ascending.keysAscending_ofPairs ps,
    wellFormedFields_iff.2 fun p hp => h p (Ascending.mem_of_mem_ofPairs hp)⟩

end Value

end AccessPolicy
