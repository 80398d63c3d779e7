/-
Sets of policies that are made by additions.

* `PolicySet.Built`: the sets that the operations make: the set without
  policies, additions to it, and the sets of lists;
* `PolicySet.Consistent`: the ids are pairwise distinct, and the index gives
  each id its place and nothing else; `Built.consistent` says that every set
  that is made is consistent, because one addition keeps a set so;
* `policies_of_ofPolicies`, `exists_ofPolicies`: the set of a list holds the
  policies of the list, and there is one if the ids are pairwise distinct.
-/
import AccessPolicy.Policy.Set
import Mathlib.Data.List.Nodup

namespace AccessPolicy

/-- The entries of a list with one more at its end. -/
lemma getElem?_concat_eq_some_iff {α : Type*} {l : List α} {x y : α} {n : Nat} :
    (l ++ [x])[n]? = some y ↔ l[n]? = some y ∨ n = l.length ∧ x = y := by
  rcases Nat.lt_trichotomy n l.length with hlt | rfl | hlt
  · simp [List.getElem?_append_left hlt, Nat.ne_of_lt hlt]
  · simp
  · have hlen : (l ++ [x]).length ≤ n := by simpa using Nat.succ_le_of_lt hlt
    simp [List.getElem?_eq_none hlen, List.getElem?_eq_none (Nat.le_of_lt hlt), Nat.ne_of_gt hlt]

namespace PolicySet

/-! ### Consistency -/

/-- The ids of a set are pairwise distinct, and its index gives each of them its
place. -/
structure Consistent (s : PolicySet) : Prop where
  nodup_ids : s.ids.Nodup
  index_iff : ∀ (id : PolicyId) (i : Nat), s.index[id]? = some i ↔ s.ids[i]? = some id

/-- The set without policies is consistent. -/
lemma consistent_empty : empty.Consistent where
  nodup_ids := List.nodup_nil
  index_iff := by simp [empty, ids]

/-- The index of a consistent set holds the ids of its policies. -/
lemma Consistent.contains_iff {s : PolicySet} (h : s.Consistent) {id : PolicyId} :
    s.index.contains id = true ↔ id ∈ s.ids := by
  rw [Std.HashMap.contains_eq_isSome_getElem?, Option.isSome_iff_exists,
    List.mem_iff_getElem?]
  exact exists_congr fun i => h.index_iff id i

/-- The ids after an addition that succeeds. -/
lemma ids_of_add {s t : PolicySet} {p : Policy} (h : s.add p = .ok t) :
    t.ids = s.ids ++ [p.id] := by
  rw [ids, policies_of_add h, List.map_append, List.map_singleton, ids]

/-- The index after an addition that succeeds. -/
lemma index_of_add {s t : PolicySet} {p : Policy} (h : s.add p = .ok t) :
    t.index = s.index.insert p.id s.ids.length := by
  rw [add] at h
  split at h
  · cases h
  · cases h
    rw [ids, List.length_map]

/-- An addition to a consistent set succeeds exactly if the id is new. -/
lemma Consistent.add_isOk_iff {s : PolicySet} (h : s.Consistent) {p : Policy} :
    (∃ t, s.add p = .ok t) ↔ p.id ∉ s.ids := by
  rw [← h.contains_iff, add]
  split
  · simp_all
  · simp_all

/-- **An addition keeps a set consistent.** -/
lemma Consistent.of_add {s t : PolicySet} {p : Policy} (h : s.Consistent)
    (ha : s.add p = .ok t) : t.Consistent := by
  have hnew : p.id ∉ s.ids := h.add_isOk_iff.1 ⟨t, ha⟩
  constructor
  · rw [ids_of_add ha, List.nodup_append_comm]
    exact List.nodup_cons.2 ⟨hnew, h.nodup_ids⟩
  · intro id i
    rw [index_of_add ha, ids_of_add ha, Std.HashMap.getElem?_insert, getElem?_concat_eq_some_iff]
    by_cases hid : p.id = id
    · -- the new id stands at the end and, as it is new, nowhere else
      subst hid
      have hold : s.ids[i]? ≠ some p.id := fun he => hnew (List.mem_of_getElem? he)
      simp [hold, eq_comm]
    · rw [if_neg (by simpa using hid), h.index_iff]
      simp [hid]

/-! ### Sets that are made -/

/-- The sets that the operations make. -/
inductive Built : PolicySet → Prop
  | empty : Built .empty
  | add {s t : PolicySet} {p : Policy} (hs : Built s) (ha : s.add p = .ok t) : Built t
  | ofPolicies {ps : List Policy} {s : PolicySet} (h : ofPolicies ps = .ok s) : Built s

/-- A list of additions succeeds exactly if the first does and then the others do. -/
lemma foldlM_add_cons_iff {p : Policy} {ps : List Policy} {s t : PolicySet} :
    (p :: ps).foldlM add s = .ok t ↔ ∃ u, s.add p = .ok u ∧ ps.foldlM add u = .ok t := by
  rw [List.foldlM_cons]
  cases ha : s.add p with
  | error e => exact ⟨fun h => (by cases h), fun ⟨u, hu, _⟩ => (by cases hu)⟩
  | ok u => exact ⟨fun h => ⟨u, rfl, h⟩, fun ⟨v, hv, h⟩ => Except.ok.inj hv ▸ h⟩

/-- What an addition keeps, a list of additions keeps. -/
lemma foldlM_add_induction {P : PolicySet → Prop}
    (hadd : ∀ s t p, P s → s.add p = .ok t → P t) {ps : List Policy} {s t : PolicySet}
    (hs : P s) (h : ps.foldlM add s = .ok t) : P t := by
  induction ps generalizing s with
  | nil => exact Except.ok.inj h ▸ hs
  | cons p ps ih =>
      obtain ⟨u, hu, h⟩ := foldlM_add_cons_iff.1 h
      exact ih (hadd s u p hs hu) h

/-- **Every set that is made is consistent.** -/
theorem Built.consistent {s : PolicySet} (h : s.Built) : s.Consistent := by
  induction h with
  | empty => exact consistent_empty
  | add _ ha ih => exact ih.of_add ha
  | ofPolicies h =>
      exact foldlM_add_induction (fun _ _ _ => Consistent.of_add) consistent_empty h

/-! ### Sets of lists -/

/-- Additions put their policies at the end, in their order. -/
lemma policies_of_foldlM_add {ps : List Policy} {s t : PolicySet}
    (h : ps.foldlM add s = .ok t) : t.policies = s.policies ++ ps := by
  induction ps generalizing s with
  | nil =>
      obtain rfl := Except.ok.inj h
      exact (List.append_nil _).symm
  | cons p ps ih =>
      obtain ⟨u, hu, h⟩ := foldlM_add_cons_iff.1 h
      rw [ih h, policies_of_add hu, List.append_assoc, List.singleton_append]

/-- The set of a list holds the policies of the list. -/
lemma policies_of_ofPolicies {ps : List Policy} {s : PolicySet} (h : ofPolicies ps = .ok s) :
    s.policies = ps :=
  policies_of_foldlM_add h

/-- Policies with new and pairwise distinct ids can be added to a consistent set. -/
lemma Consistent.exists_foldlM_add {ps : List Policy} {s : PolicySet} (hs : s.Consistent)
    (hn : (s.ids ++ ps.map (·.id)).Nodup) : ∃ t, ps.foldlM add s = .ok t := by
  induction ps generalizing s with
  | nil => exact ⟨s, rfl⟩
  | cons p ps ih =>
      have hnew : p.id ∉ s.ids := fun hp =>
        (List.nodup_append.1 hn).2.2 _ hp _ List.mem_cons_self rfl
      obtain ⟨u, hu⟩ := hs.add_isOk_iff.2 hnew
      have hrest : (u.ids ++ ps.map (·.id)).Nodup := by
        rw [ids_of_add hu, List.append_assoc]
        exact hn
      obtain ⟨t, ht⟩ := ih (hs.of_add hu) hrest
      exact ⟨t, foldlM_add_cons_iff.2 ⟨u, hu, ht⟩⟩

/-- **Policies with pairwise distinct ids make a set.** -/
theorem exists_ofPolicies {ps : List Policy} (h : (ps.map (·.id)).Nodup) :
    ∃ s, ofPolicies ps = .ok s :=
  consistent_empty.exists_foldlM_add h

end PolicySet

end AccessPolicy
