/-
Sets and records are what they hold.

* `Collects`: the set that is collected from a list of values, by its members, its order and its
  length; `exists_collects` says that `setOf` makes it, and `exists_lookup` what `recordOf` makes;
* `setOf_eq_iff`: the lists with one set are those with the same members;
* `containsAll_iff`, `containsAny_iff`, `set_eq_iff`: the relations of two sets, and
  `record_eq_iff`, that of two records, in terms of what they hold;
* `BinaryOp.Answers`: an operator tells of two values whether something holds, and `SetLaws`,
  what the operators on two sets tell.
-/
import AccessPolicy.Proofs.Ascending
import AccessPolicy.Expr.Eval

namespace AccessPolicy

open Ascending (IsAscending KeysAscending)

namespace Value

variable {xs ys : List Value} {fs gs : Record} {v : Value}

/-! ### Collecting -/

/-- The ascending list `ys` holds the set of the values in `xs`. -/
structure Collects (xs ys : List Value) : Prop where
  ascending : IsAscending ys
  contains_iff : ∀ v, ys.contains v = true ↔ ∃ x ∈ xs, x = v
  length_eq : ys.length = xs.dedup.length

/-- The set of a list is collected from it. -/
lemma exists_collects (xs : List Value) : ∃ ys, setOf xs = .set ys ∧ Collects xs ys :=
  ⟨Ascending.ofList xs, rfl, Ascending.isAscending_ofList xs,
    fun v => by rw [List.contains_iff_mem, Ascending.mem_ofList, exists_eq_right],
    Ascending.length_ofList xs⟩

/-- The record of a list holds for each key the value of its last pair. -/
lemma exists_lookup (ps : List (String × Value)) :
    ∃ fs, recordOf ps = .record fs ∧ KeysAscending fs ∧
      ∀ k v, fs.lookup k = some v ↔ Ascending.IsLastPair ps k v :=
  ⟨Ascending.ofPairs ps, rfl, Ascending.keysAscending_ofPairs ps,
    fun _ _ => Ascending.lookup_ofPairs_eq_some_iff⟩

/-- Ascending lists hold one set exactly if they have the same members. -/
lemma set_eq_iff_mem (hx : IsAscending xs) (hy : IsAscending ys) :
    Value.set xs = .set ys ↔ ∀ v, v ∈ xs ↔ v ∈ ys := by
  rw [Value.set.injEq]
  constructor
  · rintro rfl v
    rfl
  · exact Ascending.eq_of_mem_iff hx hy

/-- **Lists have one set exactly if they have the same members**, in whatever order and however
often. -/
theorem setOf_eq_iff : setOf xs = setOf ys ↔ ∀ v, v ∈ xs ↔ v ∈ ys := by
  rw [setOf, setOf, set_eq_iff_mem (Ascending.isAscending_ofList xs)
    (Ascending.isAscending_ofList ys)]
  simp only [Ascending.mem_ofList]

/-! ### Relations -/

/-- One set contains all of another if it contains each element. -/
lemma containsAll_iff (hx : IsAscending xs) (hy : IsAscending ys) :
    containsAll xs ys = true ↔ ∀ v ∈ ys, v ∈ xs :=
  Ascending.isSubset_iff hy hx

/-- One set contains some of another if it contains an element. -/
lemma containsAny_iff (hx : IsAscending xs) (hy : IsAscending ys) :
    containsAny xs ys = true ↔ ∃ v ∈ ys, v ∈ xs := by
  rw [containsAny, Bool.not_eq_true', Bool.eq_false_iff, Ne, Ascending.isDisjoint_iff hx hy]
  simp only [not_forall, not_not, exists_prop]
  exact exists_congr fun v => and_comm

/-- Two sets are equal if each contains all of the other. -/
lemma set_eq_iff (hx : IsAscending xs) (hy : IsAscending ys) :
    Value.set xs = .set ys ↔ containsAll xs ys = true ∧ containsAll ys xs = true := by
  rw [set_eq_iff_mem hx hy, containsAll_iff hx hy, containsAll_iff hy hx, ← forall_and]
  exact forall_congr' fun v => iff_comm.trans iff_iff_implies_and_implies

/-- Two records are equal if they answer every key alike. -/
lemma record_eq_iff (hf : KeysAscending fs) (hg : KeysAscending gs) :
    Value.record fs = .record gs ↔ ∀ k, fs.lookup k = gs.lookup k := by
  rw [Value.record.injEq]
  constructor
  · rintro rfl k
    rfl
  · exact Ascending.eq_of_lookup_eq hf hg

end Value

/-! ### Operators -/

/-- An operator tells of two values whether a proposition holds, whatever entities there are. -/
def BinaryOp.Answers (op : BinaryOp) (a b : Value) (P : Prop) : Prop :=
  ∀ store, ∃ c, op.apply store a b = .ok (.bool c) ∧ (c = true ↔ P)

/-- Equality tells whether two values are equal. -/
lemma BinaryOp.answers_eq {a b : Value} {P : Prop} (h : a = b ↔ P) : BinaryOp.eq.Answers a b P :=
  fun _ => ⟨a == b, rfl, beq_iff_eq.trans h⟩

namespace Value

/-- What the operators tell of two sets. -/
structure SetLaws (xs ys : List Value) : Prop where
  contains : ∀ v, BinaryOp.contains.Answers (.set xs) v (v ∈ xs)
  containsAll : BinaryOp.containsAll.Answers (.set xs) (.set ys) (∀ v ∈ ys, v ∈ xs)
  containsAny : BinaryOp.containsAny.Answers (.set xs) (.set ys) (∃ v ∈ ys, v ∈ xs)
  eq_mem : BinaryOp.eq.Answers (.set xs) (.set ys) (∀ v, v ∈ xs ↔ v ∈ ys)
  eq_containsAll : BinaryOp.eq.Answers (.set xs) (.set ys)
    (Value.containsAll xs ys = true ∧ Value.containsAll ys xs = true)

/-- **The operators on two sets tell what the sets hold**, though they go through ascending
lists. -/
theorem setLaws {xs ys : List Value} (hx : IsAscending xs) (hy : IsAscending ys) :
    SetLaws xs ys where
  contains v _ := ⟨xs.contains v, rfl, List.contains_iff_mem⟩
  containsAll _ := ⟨Value.containsAll xs ys, rfl, containsAll_iff hx hy⟩
  containsAny _ := ⟨Value.containsAny xs ys, rfl, containsAny_iff hx hy⟩
  eq_mem := BinaryOp.answers_eq (set_eq_iff_mem hx hy)
  eq_containsAll := BinaryOp.answers_eq (set_eq_iff hx hy)

end Value

end AccessPolicy
