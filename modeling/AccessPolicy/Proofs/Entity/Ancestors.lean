/-
The ancestors that a store is built with.

* `mem_ancestorsOf`: the ancestors of an entity are what is reached along one parent or
  more, since climbing is one of the searches for them;
* `isAncestor_ofDeclarations`, `isIn_ofDeclarations`: a built store knows the ancestors
  of every identity, and an entity lies in another exactly if a path of parents, which
  may be empty, leads there;
* `Store.IsTransitive`, `isTransitive_ofDeclarations`: so lying in is transitive.
-/
import AccessPolicy.Proofs.Entity.Search

namespace AccessPolicy

open Relation (TransGen ReflTransGen)

variable {ds : List Declaration} {u v : EntityUid}

/-! ### Ancestors -/

/-- What climbing from an entity finds is found by a search. -/
lemma isFound_climb (ds : List Declaration) (u : EntityUid) :
    Search.IsFound ds u (climb ds [] (parentsOf ds u)) :=
  ⟨_, listsParents_parentsOf ds u, climb_steps ds [] (parentsOf ds u)⟩

/-- **The ancestors of an entity are what is reached along one parent or more.** -/
theorem mem_ancestorsOf : v ∈ ancestorsOf ds u ↔ TransGen (IsParent ds) u v := by
  rw [ancestorsOf, Ascending.mem_ofList, Search.mem_iff_of_isFound (isFound_climb ds u)]

/-! ### Built stores -/

/-- The store holds the entities that are declared, each with what its declarations give. -/
lemma find?_ofDeclarations (ds : List Declaration) (u : EntityUid) :
    (Entities.ofDeclarations ds).find? u =
      if u ∈ ds.map (·.uid) then some ⟨u, (attrsOf? ds u).getD [], ancestorsOf ds u⟩ else none := by
  have hfind : ∀ us : List EntityUid, us.find? (· = u) = if u ∈ us then some u else none := by
    intro us
    split
    · next hu =>
        cases hw : us.find? (· = u) with
        | none => simpa using List.find?_eq_none.1 hw u hu
        | some w => simpa using List.find?_some hw
    · next hu =>
        refine List.find?_eq_none.2 fun w hw => ?_
        rw [decide_eq_true_eq]
        rintro rfl
        exact hu hw
  rw [Entities.find?, Entities.ofDeclarations, List.find?_map]
  simp only [Function.comp_def, hfind, Ascending.mem_ofList]
  split <;> rfl

/-- **A built store knows as ancestors what is reached along one parent or more.** -/
theorem isAncestor_ofDeclarations :
    (Entities.ofDeclarations ds).toStore.isAncestor u v = true ↔ TransGen (IsParent ds) u v := by
  show ((Entities.ofDeclarations ds).find? u).any (·.ancestors.contains v) = true ↔ _
  rw [find?_ofDeclarations]
  split
  · rw [Option.any_some, List.contains_iff_mem, mem_ancestorsOf]
  · next hu =>
      refine iff_of_false Bool.false_ne_true fun h => hu ?_
      obtain ⟨w, hw, -⟩ := TransGen.head'_iff.1 h
      exact hw.isDeclared

/-- **In a built store an entity lies in another exactly if a path of parents leads
there.** -/
theorem isIn_ofDeclarations :
    (Entities.ofDeclarations ds).toStore.isIn u v = true ↔ ReflTransGen (IsParent ds) u v := by
  rw [(Entities.isRegular_toStore _).isIn_eq, Bool.or_eq_true, beq_iff_eq,
    isAncestor_ofDeclarations, Relation.reflTransGen_iff_eq_or_transGen, eq_comm]

/-- Lying in is transitive; it is reflexive in every regular store. -/
def Store.IsTransitive (store : Store) : Prop :=
  ∀ u v w, store.isIn u v = true → store.isIn v w = true → store.isIn u w = true

/-- **In a built store lying in is transitive**, also where the path leads over entities
that are not declared or that lie on a cycle. -/
theorem isTransitive_ofDeclarations (ds : List Declaration) :
    (Entities.ofDeclarations ds).toStore.IsTransitive := by
  intro u v w huv hvw
  rw [isIn_ofDeclarations] at huv hvw ⊢
  exact huv.trans hvw

end AccessPolicy
