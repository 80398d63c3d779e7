/-
Stores of entities.

* `Store`: what an evaluation may ask: the attribute of an entity, whether one
  entity is an ancestor of another, and whether an entity is present; also
  whether an entity has an attribute, and whether it lies in another, which a
  store may answer in ways of its own;
* `Store.IsRegular`: the last two answers are what the others say: an entity lies
  in itself and in its ancestors;
* `Entities`: a store held as a list of entities in the order of their
  identities, each with its attributes and all its ancestors;
* `Entities.ofDeclarations`: the store of a list of declarations. Of several
  declarations of one entity the last gives the attributes, and all of them give
  parents; an undeclared parent is an ancestor but not present;
* `ancestorsOf`: climbs from parents to parents and visits each identity once,
  so that it ends on cycles too.
-/
import AccessPolicy.Value.Collection

namespace AccessPolicy

/-! ### What a store answers -/

/-- The questions about entities that evaluation asks. -/
structure Store where
  /-- An attribute of a present entity. -/
  attribute? : EntityUid → String → Option Value
  /-- The second identity is an ancestor of the first. -/
  isAncestor : EntityUid → EntityUid → Bool
  /-- The entity is present. -/
  isPresent : EntityUid → Bool
  /-- The entity is present and has the attribute. -/
  hasAttribute : EntityUid → String → Bool := fun uid key => (attribute? uid key).isSome
  /-- The first entity lies in the second: they are equal, or the second is an
  ancestor of the first. -/
  isIn : EntityUid → EntityUid → Bool := fun uid other => uid == other || isAncestor uid other

/-- The store answers by its attributes and its ancestors what it could answer in
another way. -/
structure Store.IsRegular (s : Store) : Prop where
  hasAttribute_eq : ∀ uid key, s.hasAttribute uid key = (s.attribute? uid key).isSome
  isIn_eq : ∀ uid other, s.isIn uid other = (uid == other || s.isAncestor uid other)

/-- In a regular store an entity lies in itself. -/
theorem Store.IsRegular.isIn_self {s : Store} (h : s.IsRegular) (uid : EntityUid) :
    s.isIn uid uid = true := by
  rw [h.isIn_eq, beq_self_eq_true, Bool.true_or]

/-! ### Entities -/

/-- An entity with its attributes and all its ancestors. -/
structure Entity where
  uid : EntityUid
  attrs : Record
  ancestors : List EntityUid

/-- A store that holds its entities. -/
structure Entities where
  entries : List Entity

namespace Entities

/-- The entity with an identity. -/
def find? (es : Entities) (uid : EntityUid) : Option Entity :=
  es.entries.find? (·.uid = uid)

/-- The answers of the store. -/
def toStore (es : Entities) : Store where
  attribute? uid key := (es.find? uid).bind (·.attrs.lookup key)
  isAncestor uid other := (es.find? uid).any (·.ancestors.contains other)
  isPresent uid := (es.find? uid).isSome

/-- A store that holds its entities is regular. -/
theorem isRegular_toStore (es : Entities) : es.toStore.IsRegular :=
  ⟨fun _ _ => rfl, fun _ _ => rfl⟩

end Entities

/-! ### Declarations -/

/-- A declaration of an entity: its attributes and some of its parents. -/
structure Declaration where
  uid : EntityUid
  attrs : Record
  parents : List EntityUid

/-- All parents that declarations give an entity. -/
def parentsOf (ds : List Declaration) (uid : EntityUid) : List EntityUid :=
  (ds.filter (·.uid = uid)).flatMap (·.parents)

/-- The attributes in the last declaration of an entity. -/
def attrsOf? (ds : List Declaration) (uid : EntityUid) : Option Record :=
  (ds.reverse.find? (·.uid = uid)).map (·.attrs)

/-- The declarations of identities that have not been seen. -/
def unseen (ds : List Declaration) (seen : List EntityUid) : List Declaration :=
  ds.filter fun d => !seen.contains d.uid

/-- An entity without declarations has no parents. -/
theorem parentsOf_eq_nil {ds : List Declaration} {uid : EntityUid}
    (h : ∀ d ∈ ds, d.uid ≠ uid) : parentsOf ds uid = [] := by
  have hf : ds.filter (·.uid = uid) = [] :=
    List.filter_eq_nil_iff.2 fun d hd => by simpa using h d hd
  rw [parentsOf, hf, List.flatMap_nil]

/-- Seeing one more identity strikes its declarations out. -/
theorem unseen_cons (ds : List Declaration) (uid : EntityUid) (seen : List EntityUid) :
    unseen ds (uid :: seen) = (unseen ds seen).filter fun d => !(d.uid == uid) := by
  rw [unseen, unseen, List.filter_filter]
  refine List.filter_congr fun d _ => ?_
  rw [List.contains_cons, Bool.not_or]

/-- Seeing a declared identity leaves fewer declarations unseen. -/
theorem length_unseen_cons_lt {ds : List Declaration} {d : Declaration}
    {seen : List EntityUid} (hd : d ∈ ds) (hs : d.uid ∉ seen) :
    (unseen ds (d.uid :: seen)).length < (unseen ds seen).length := by
  rw [unseen_cons, List.length_filter_lt_length_iff_exists]
  refine ⟨d, List.mem_filter.2 ⟨hd, ?_⟩, ?_⟩
  · rw [Bool.not_eq_true', List.contains_eq_mem, decide_eq_false_iff_not]
    exact hs
  · rw [beq_self_eq_true]
    exact Bool.false_ne_true

/-- Adds to `seen` the identities on the stack, their parents, and so on. -/
def climb (ds : List Declaration) (seen stack : List EntityUid) : List EntityUid :=
  match stack with
  | [] => seen
  | uid :: rest =>
    if uid ∈ seen then climb ds seen rest
    else climb ds (uid :: seen) (parentsOf ds uid ++ rest)
termination_by ((unseen ds seen).length, stack.length)
decreasing_by
  · exact Prod.Lex.right _ (Nat.lt_succ_self _)
  · rename_i hs
    by_cases h : ∃ d ∈ ds, d.uid = uid
    · obtain ⟨d, hd, rfl⟩ := h
      exact Prod.Lex.left _ _ (length_unseen_cons_lt hd hs)
    · have hp : parentsOf ds uid = [] :=
        parentsOf_eq_nil fun d hd he => h ⟨d, hd, he⟩
      rw [hp, List.nil_append]
      have hle : (unseen ds (uid :: seen)).length ≤ (unseen ds seen).length := by
        rw [unseen_cons]
        exact List.length_filter_le _ _
      rcases Nat.lt_or_eq_of_le hle with hlt | heq
      · exact Prod.Lex.left _ _ hlt
      · rw [heq]
        exact Prod.Lex.right _ (Nat.lt_succ_self _)

/-- All ancestors of an entity, in the order of identities. -/
def ancestorsOf (ds : List Declaration) (uid : EntityUid) : List EntityUid :=
  Ascending.ofList (climb ds [] (parentsOf ds uid))

/-- The store of a list of declarations. -/
def Entities.ofDeclarations (ds : List Declaration) : Entities where
  entries := (Ascending.ofList (ds.map (·.uid))).map fun uid =>
    ⟨uid, (attrsOf? ds uid).getD [], ancestorsOf ds uid⟩

end AccessPolicy
