/-
Searching for the ancestors of an entity, in whatever order.

* `collect`: what is collected from declarations, one after the other; each replaces the
  attributes of its entity and adds to the parents (`attrs?_collect`, `parents_collect`);
* `IsParent`: some declaration gives an entity a parent;
* `Search`, `Search.Step`: what a search has seen and what waits on its stack. A step takes
  any identity off the stack; if it was not seen before, its parents are put on the stack,
  in any order;
* `Search.wellFounded_step`, `Search.exists_end`: whatever is taken first, a search ends, and
  it ends with an empty stack. Each step sees a declared identity or shortens the stack;
* `Search.Finds`: what has been seen, or is reached from the stack along parents. A step
  keeps it (`Step.finds_iff`) as long as the parents of what has been seen are known
  (`Search.IsExplored`), and this is kept too. Declarations play no part in it, so that
  cycles and undeclared parents need no care of their own;
* `mem_iff_of_isFound`: so every order finds the same, which is what is reached along one
  parent or more;
* `climb_steps`: climbing is one way of searching.
-/
import AccessPolicy.Entity.Store
import Mathlib.Data.List.Induction
import Mathlib.Logic.Function.Basic
import Mathlib.Logic.Relation
import Mathlib.Tactic.Common

namespace AccessPolicy

open Relation (TransGen ReflTransGen)

variable {ds : List Declaration} {d : Declaration} {u v : EntityUid}

/-! ### Collecting -/

/-- What is collected from declarations before a store is built: the attributes of each
entity that was declared, and parents. -/
structure Collected where
  attrs? : EntityUid → Option Record
  parents : EntityUid → List EntityUid

/-- One more declaration: its attributes take the place of those from before, and its parents
join those from before. -/
def Collected.add (c : Collected) (d : Declaration) : Collected where
  attrs? := Function.update c.attrs? d.uid (some d.attrs)
  parents := Function.update c.parents d.uid (c.parents d.uid ++ d.parents)

lemma Collected.attrs?_add (c : Collected) (d : Declaration) (u : EntityUid) :
    (c.add d).attrs? u = if d.uid = u then some d.attrs else c.attrs? u := by
  show Function.update c.attrs? d.uid (some d.attrs) u = _
  rw [Function.update_apply]
  simp only [eq_comm]

lemma Collected.parents_add (c : Collected) (d : Declaration) (u : EntityUid) :
    (c.add d).parents u = c.parents u ++ if d.uid = u then d.parents else [] := by
  show Function.update c.parents d.uid (c.parents d.uid ++ d.parents) u = _
  rw [Function.update_apply]
  by_cases h : u = d.uid
  · rw [if_pos h, if_pos h.symm, h]
  · rw [if_neg h, if_neg (Ne.symm h), List.append_nil]

/-- What is collected from declarations, one after the other. -/
def collect (ds : List Declaration) : Collected :=
  ds.foldl .add ⟨fun _ => none, fun _ => []⟩

lemma collect_concat (ds : List Declaration) (d : Declaration) :
    collect (ds ++ [d]) = (collect ds).add d := by
  rw [collect, List.foldl_append, List.foldl_cons, List.foldl_nil, ← collect]

/-- One more declaration replaces the attributes of its entity, and of no other. -/
lemma attrsOf?_concat (ds : List Declaration) (d : Declaration) (u : EntityUid) :
    attrsOf? (ds ++ [d]) u = if d.uid = u then some d.attrs else attrsOf? ds u := by
  rw [attrsOf?, List.reverse_append, List.reverse_singleton, List.singleton_append,
    List.find?_cons]
  split
  · next h => rw [if_pos (of_decide_eq_true h), Option.map_some]
  · next h => rw [if_neg (of_decide_eq_false h), attrsOf?]

/-- One more declaration adds its parents to those of its entity. -/
lemma parentsOf_concat (ds : List Declaration) (d : Declaration) (u : EntityUid) :
    parentsOf (ds ++ [d]) u = parentsOf ds u ++ if d.uid = u then d.parents else [] := by
  rw [parentsOf, List.filter_append, List.flatMap_append, ← parentsOf]
  by_cases h : d.uid = u <;> simp [h]

/-- **The attributes that are collected are those of the last declaration.** -/
lemma attrs?_collect (ds : List Declaration) (u : EntityUid) :
    (collect ds).attrs? u = attrsOf? ds u := by
  induction ds using List.reverseRecOn with
  | nil => rfl
  | append_singleton ds d ih =>
      rw [collect_concat, Collected.attrs?_add, attrsOf?_concat, ih]

/-- **The parents that are collected are those of all declarations.** -/
lemma parents_collect (ds : List Declaration) (u : EntityUid) :
    (collect ds).parents u = parentsOf ds u := by
  induction ds using List.reverseRecOn with
  | nil => rfl
  | append_singleton ds d ih =>
      rw [collect_concat, Collected.parents_add, parentsOf_concat, ih]

/-! ### Parents -/

/-- A declaration of the entity names the second identity as a parent. -/
def IsParent (ds : List Declaration) (uid parent : EntityUid) : Prop :=
  ∃ d ∈ ds, d.uid = uid ∧ parent ∈ d.parents

lemma mem_parentsOf : v ∈ parentsOf ds u ↔ IsParent ds u v := by
  simp [parentsOf, IsParent, and_assoc]

/-- Only declared entities have parents. -/
lemma IsParent.isDeclared (h : IsParent ds u v) : u ∈ ds.map (·.uid) := by
  obtain ⟨d, hd, rfl, -⟩ := h
  exact List.mem_map_of_mem hd

/-- The list holds the parents that are collected for the entity, in some order. -/
def ListsParents (ds : List Declaration) (uid : EntityUid) (parents : List EntityUid) : Prop :=
  ∀ v, v ∈ parents ↔ v ∈ (collect ds).parents uid

lemma listsParents_iff {parents : List EntityUid} :
    ListsParents ds u parents ↔ ∀ v, v ∈ parents ↔ IsParent ds u v := by
  simp only [ListsParents, parents_collect, mem_parentsOf]

lemma listsParents_parentsOf (ds : List Declaration) (u : EntityUid) :
    ListsParents ds u (parentsOf ds u) :=
  listsParents_iff.2 fun _ => mem_parentsOf

/-! ### Steps -/

/-- A search: the identities it has seen, and those that wait to be looked at. -/
structure Search where
  seen : List EntityUid
  stack : List EntityUid

namespace Search

variable {s s' : Search}

/-- A step takes an identity off the stack, wherever it lies there. One that has been seen is
dropped; otherwise it is seen now, and its parents are put on the stack. -/
inductive Step (ds : List Declaration) : Search → Search → Prop
  | skip {seen stack rest : List EntityUid} {u : EntityUid}
      (htake : stack.Perm (u :: rest)) (hseen : u ∈ seen) :
      Step ds ⟨seen, stack⟩ ⟨seen, rest⟩
  | visit {seen stack rest parents : List EntityUid} {u : EntityUid}
      (htake : stack.Perm (u :: rest)) (hnew : u ∉ seen) (hparents : ListsParents ds u parents) :
      Step ds ⟨seen, stack⟩ ⟨u :: seen, parents ++ rest⟩

/-! ### Every search ends -/

/-- What is left to do: the declarations of unseen identities, then the stack. -/
def left (ds : List Declaration) (s : Search) : ℕ × ℕ :=
  ((unseen ds s.seen).length, s.stack.length)

/-- Each step leaves less to do. -/
lemma Step.left_lt (h : Step ds s s') : Prod.Lex (· < ·) (· < ·) (left ds s') (left ds s) := by
  cases h with
  | skip htake =>
      refine Prod.Lex.right _ ?_
      rw [htake.length_eq]
      exact Nat.lt_succ_self _
  | @visit seen stack rest parents u htake hnew hparents =>
      by_cases hdeclared : u ∈ ds.map (·.uid)
      · obtain ⟨d, hd, rfl⟩ := List.mem_map.1 hdeclared
        exact Prod.Lex.left _ _ (length_unseen_cons_lt hd hnew)
      · -- An undeclared identity has no parents, so that the stack is shorter now.
        have hnone : parents = [] := List.eq_nil_iff_forall_not_mem.2 fun v hv =>
          hdeclared ((listsParents_iff.1 hparents v).1 hv).isDeclared
        have hsame : unseen ds (u :: seen) = unseen ds seen := by
          rw [unseen_cons, List.filter_eq_self]
          intro d hd
          have hne : d.uid ≠ u := fun he =>
            hdeclared (he ▸ List.mem_map_of_mem (List.mem_filter.1 hd).1)
          rw [beq_false_of_ne hne, Bool.not_false]
        rw [left, left, hsame, hnone, List.nil_append, htake.length_eq]
        exact Prod.Lex.right _ (Nat.lt_succ_self _)

/-- **No search goes on for ever**, in whatever order it takes identities off its stack. -/
theorem wellFounded_step (ds : List Declaration) :
    WellFounded fun after before => Step ds before after :=
  Subrelation.wf (fun h => h.left_lt)
    (InvImage.wf (left ds) (Prod.lex Nat.lt_wfRel Nat.lt_wfRel).wf)

/-- A search goes on while something waits. -/
lemma exists_step (ds : List Declaration) (hs : s.stack ≠ []) : ∃ s', Step ds s s' := by
  obtain ⟨seen, stack⟩ := s
  obtain ⟨u, rest, rfl⟩ := List.exists_cons_of_ne_nil hs
  by_cases hu : u ∈ seen
  · exact ⟨_, .skip (.refl _) hu⟩
  · exact ⟨_, .visit (.refl _) hu (listsParents_parentsOf ds u)⟩

/-! ### What a search finds -/

/-- The search has seen the identity, or will reach it from the stack along parents. -/
def Finds (ds : List Declaration) (s : Search) (v : EntityUid) : Prop :=
  v ∈ s.seen ∨ ∃ w ∈ s.stack, ReflTransGen (IsParent ds) w v

/-- Parents of what has been seen have been seen, or wait on the stack. -/
def IsExplored (ds : List Declaration) (s : Search) : Prop :=
  ∀ u ∈ s.seen, ∀ v, IsParent ds u v → v ∈ s.seen ∨ v ∈ s.stack

/-- What is reached from an identity that has been seen is found. -/
lemma IsExplored.finds (hs : IsExplored ds s) (hu : u ∈ s.seen)
    (h : ReflTransGen (IsParent ds) u v) : Finds ds s v := by
  induction h using ReflTransGen.head_induction_on with
  | refl => exact .inl hu
  | head hparent hrest ih =>
      rcases hs _ hu _ hparent with hseen | hwaits
      · exact ih hseen
      · exact .inr ⟨_, hwaits, hrest⟩

/-- Dropping an identity that has been seen from the stack loses no parents. -/
lemma IsExplored.drop {seen stack rest : List EntityUid} (hs : IsExplored ds ⟨seen, stack⟩)
    (htake : stack.Perm (u :: rest)) (hu : u ∈ seen) : IsExplored ds ⟨seen, rest⟩ := by
  intro w hw v hv
  rcases hs w hw v hv with hseen | hwaits
  · exact .inl hseen
  · rcases List.mem_cons.1 (htake.mem_iff.1 hwaits) with rfl | hrest
    · exact .inl hu
    · exact .inr hrest

/-- A step leaves the search explored. -/
lemma Step.isExplored (h : Step ds s s') (hs : IsExplored ds s) : IsExplored ds s' := by
  cases h with
  | skip htake hseen => exact hs.drop htake hseen
  | visit htake hnew hparents =>
      intro w hw v hv
      rcases List.mem_cons.1 hw with rfl | hw
      · exact .inr (List.mem_append_left _ ((listsParents_iff.1 hparents v).2 hv))
      · rcases hs w hw v hv with hseen | hwaits
        · exact .inl (List.mem_cons_of_mem _ hseen)
        · rcases List.mem_cons.1 (htake.mem_iff.1 hwaits) with rfl | hrest
          · exact .inl List.mem_cons_self
          · exact .inr (List.mem_append_right _ hrest)

/-- What is taken off the stack was on it, and so was the rest. -/
lemma finds_take {seen stack rest : List EntityUid} (htake : stack.Perm (u :: rest)) :
    Finds ds ⟨seen, stack⟩ v ↔ ReflTransGen (IsParent ds) u v ∨ Finds ds ⟨seen, rest⟩ v := by
  simp only [Finds, htake.mem_iff, List.mem_cons, or_and_right, exists_or, exists_eq_left]
  exact or_left_comm

/-- What an identity reaches, it is itself or its parents reach it. -/
lemma finds_visit {seen rest parents : List EntityUid} (hparents : ListsParents ds u parents) :
    Finds ds ⟨u :: seen, parents ++ rest⟩ v ↔
      ReflTransGen (IsParent ds) u v ∨ Finds ds ⟨seen, rest⟩ v := by
  have hreach : ReflTransGen (IsParent ds) u v ↔
      v = u ∨ ∃ w ∈ parents, ReflTransGen (IsParent ds) w v := by
    rw [ReflTransGen.cases_head_iff, eq_comm]
    simp only [listsParents_iff.1 hparents _]
  rw [hreach]
  simp only [Finds, List.mem_cons, List.mem_append, or_and_right, exists_or]
  exact or_or_or_comm

/-- **A step does not change what a search finds.** -/
lemma Step.finds_iff (h : Step ds s s') (hs : IsExplored ds s) : Finds ds s' v ↔ Finds ds s v := by
  cases h with
  | skip htake hseen =>
      rw [finds_take htake]
      exact ⟨.inr, Or.rec ((hs.drop htake hseen).finds hseen) id⟩
  | visit htake hnew hparents => rw [finds_take htake, finds_visit hparents]

/-- Nor do any number of steps. -/
lemma finds_iff_of_steps (h : ReflTransGen (Step ds) s s') (hs : IsExplored ds s) :
    IsExplored ds s' ∧ (Finds ds s' v ↔ Finds ds s v) := by
  induction h with
  | refl => exact ⟨hs, Iff.rfl⟩
  | tail _ hstep ih => exact ⟨hstep.isExplored ih.1, (hstep.finds_iff ih.1).trans ih.2⟩

/-- At the end, what the search finds has been seen. -/
lemma mem_seen_iff_of_steps {seen : List EntityUid} (h : ReflTransGen (Step ds) s ⟨seen, []⟩)
    (hs : IsExplored ds s) : v ∈ seen ↔ Finds ds s v := by
  rw [← (finds_iff_of_steps h hs).2]
  simp [Finds]

/-! ### Searches from an entity -/

/-- A search that starts with the parents of the entity ends with these identities seen. -/
def IsFound (ds : List Declaration) (uid : EntityUid) (found : List EntityUid) : Prop :=
  ∃ parents, ListsParents ds uid parents ∧
    ReflTransGen (Step ds) ⟨[], parents⟩ ⟨found, []⟩

/-- **Every search from an entity finds what is reached along one parent or more.** -/
theorem mem_iff_of_isFound {found : List EntityUid} (h : IsFound ds u found) :
    v ∈ found ↔ TransGen (IsParent ds) u v := by
  obtain ⟨parents, hparents, hsteps⟩ := h
  have hstart : IsExplored ds ⟨[], parents⟩ := fun w hw => absurd hw List.not_mem_nil
  rw [mem_seen_iff_of_steps hsteps hstart, TransGen.head'_iff]
  simp only [Finds, List.not_mem_nil, false_or, listsParents_iff.1 hparents _]

end Search

/-- **Climbing is a search** that takes the top of its stack each time. -/
theorem climb_steps (ds : List Declaration) (seen stack : List EntityUid) :
    ReflTransGen (Search.Step ds) ⟨seen, stack⟩ ⟨climb ds seen stack, []⟩ := by
  induction seen, stack using climb.induct ds with
  | case1 seen =>
      rw [climb]
  | case2 seen u rest hu ih =>
      rw [climb, if_pos hu]
      exact .head (.skip (.refl _) hu) ih
  | case3 seen u rest hu ih =>
      rw [climb, if_neg hu]
      exact .head (.visit (.refl _) hu (listsParents_parentsOf ds u)) ih

/-- Every search can be brought to an end. -/
theorem Search.exists_end (ds : List Declaration) (s : Search) :
    ∃ seen, ReflTransGen (Step ds) s ⟨seen, []⟩ :=
  ⟨_, climb_steps ds s.seen s.stack⟩

end AccessPolicy
