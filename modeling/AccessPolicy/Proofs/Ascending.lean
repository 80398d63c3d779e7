/-
Ascending lists as canonical forms.

* `eq_of_mem_iff`: two ascending lists with the same members are one list, so that
  a finite set has one ascending list, and `ofList` leaves an ascending list as it is;
* `isSubset_iff`, `isDisjoint_iff`: a pass through two ascending lists finds out which
  elements of the one are elements of the other, for what is skipped is below all that
  is still asked for;
* `mem_iff_lookup`: in a list of pairs whose keys occur once, the pairs are what the
  keys are looked up as; `lookup_eq_of_perm` says that the order of such a list does
  not matter for looking up;
* `eq_of_lookup_eq`: two lists of pairs with ascending keys that answer every key
  alike are one list; `lookup_ofPairs_eq_some_iff` says what `ofPairs` answers, and
  `ofPairs_eq_of_perm` that it finds a list again from its pairs in any order.
-/
import AccessPolicy.Ascending
import Mathlib.Data.List.Dedup
import Mathlib.Tactic.Common

namespace AccessPolicy.Ascending

variable {α β : Type}

/-! ### Looking up -/

section

variable [BEq α] [LawfulBEq α]

/-- Where no key occurs twice, a pair stands in the list exactly if its key is looked up
as its value. -/
lemma mem_iff_lookup {ps : List (α × β)} (h : (ps.map (·.1)).Nodup) {k : α} {v : β} :
    (k, v) ∈ ps ↔ ps.lookup k = some v := by
  induction ps with
  | nil => simp
  | cons p ps ih =>
      obtain ⟨l, w⟩ := p
      obtain ⟨hnew, hrest⟩ := List.nodup_cons.1 h
      rw [List.mem_cons, List.lookup_cons, ih hrest]
      by_cases hkl : k = l
      · subst hkl
        have hnone : ps.lookup k ≠ some v := fun hv =>
          hnew (List.mem_map.2 ⟨(k, v), (ih hrest).2 hv, rfl⟩)
        simp [hnone, eq_comm]
      · have hbeq : (k == l) = false := beq_eq_false_iff_ne.2 hkl
        simp [hbeq, hkl]

/-- Where no key occurs twice, looking up does not depend on the order of the pairs. -/
lemma lookup_eq_of_perm {ps qs : List (α × β)} (h : (ps.map (·.1)).Nodup) (hp : ps.Perm qs)
    (k : α) : ps.lookup k = qs.lookup k := by
  have hq : (qs.map (·.1)).Nodup := (hp.map _).nodup_iff.1 h
  refine Option.ext fun v => ?_
  rw [← mem_iff_lookup h, ← mem_iff_lookup hq, hp.mem_iff]

end

variable [Ord α] [Std.LawfulEqOrd α]

/-- Nothing is below itself. -/
lemma ne_of_lt {a b : α} (h : compare a b = .lt) : a ≠ b := by
  rintro rfl
  have heq : compare a a = .eq := Std.ReflCmp.compare_self
  rw [heq] at h
  cases h

/-- In an ascending list nothing occurs twice. -/
lemma IsAscending.nodup {xs : List α} (h : IsAscending xs) : xs.Nodup :=
  h.imp ne_of_lt

/-- Ascending keys are distinct. -/
lemma KeysAscending.nodup_keys {ps : List (α × β)} (h : KeysAscending ps) :
    (ps.map (·.1)).Nodup :=
  List.pairwise_map.2 (h.imp ne_of_lt)

variable [Std.TransOrd α]

/-! ### Sets -/

/-- **An ascending list is determined by its members.** -/
theorem eq_of_mem_iff {xs ys : List α} (hx : IsAscending xs) (hy : IsAscending ys)
    (h : ∀ a, a ∈ xs ↔ a ∈ ys) : xs = ys := by
  have hperm : xs.Perm ys := (List.perm_ext_iff_of_nodup hx.nodup hy.nodup).2 h
  refine hperm.eq_of_pairwise (fun a b _ _ hab hba => ?_) hx hy
  exact absurd hba (Std.OrientedCmp.not_lt_of_lt hab)

/-- The set of an ascending list is the list. -/
lemma ofList_eq_self {xs : List α} (h : IsAscending xs) : ofList xs = xs :=
  eq_of_mem_iff (isAscending_ofList xs) h fun _ => mem_ofList

/-- The set of a list has an element for each one that occurs in the list. -/
lemma length_ofList [DecidableEq α] (xs : List α) : (ofList xs).length = xs.dedup.length := by
  have hperm : (ofList xs).Perm xs.dedup :=
    (List.perm_ext_iff_of_nodup (isAscending_ofList xs).nodup xs.nodup_dedup).2 fun a => by
      rw [mem_ofList, List.mem_dedup]
  exact hperm.length_eq

/-! ### Passing through two sets -/

section

variable {x y z : α} {xs ys zs : List α}

omit [Std.LawfulEqOrd α] in
/-- Of an ascending list what is below an element is skipped, and nothing else. -/
lemma mem_skipBelow (h : IsAscending ys) : z ∈ skipBelow x ys ↔ z ∈ ys ∧ compare z x ≠ .lt := by
  induction ys with
  | nil => exact iff_of_false List.not_mem_nil fun h => List.not_mem_nil h.1
  | cons y ys ih =>
      obtain ⟨hy, hys⟩ := List.pairwise_cons.1 h
      by_cases hlt : compare y x = .lt
      · rw [skipBelow, List.dropWhile_cons_of_pos (by rw [hlt]; rfl)]
        rw [← skipBelow, ih hys, List.mem_cons]
        constructor
        · rintro ⟨hz, hle⟩
          exact ⟨.inr hz, hle⟩
        · rintro ⟨rfl | hz, hle⟩
          · exact absurd hlt hle
          · exact ⟨hz, hle⟩
      · rw [skipBelow, List.dropWhile_cons_of_neg (by simpa using hlt)]
        refine (and_iff_left_of_imp fun hz hzx => hlt ?_).symm
        obtain rfl | hz := List.mem_cons.1 hz
        · exact hzx
        · exact Std.TransCmp.lt_trans (hy z hz) hzx

omit [Std.LawfulEqOrd α] [Std.TransOrd α] in
/-- What is left is ascending. -/
lemma IsAscending.skipBelow (h : IsAscending ys) (x : α) : IsAscending (skipBelow x ys) :=
  h.sublist (List.dropWhile_sublist _)

omit [Std.LawfulEqOrd α] in
/-- An element above is found among what is left, if it is found. -/
lemma mem_skipBelow_of_lt (h : IsAscending ys) (hxz : compare x z = .lt) :
    z ∈ skipBelow x ys ↔ z ∈ ys := by
  rw [mem_skipBelow h]
  exact and_iff_left (Std.OrientedCmp.not_lt_of_lt hxz)

/-- An element is found among what is left, if it is found. -/
lemma mem_skipBelow_self (h : IsAscending ys) : x ∈ skipBelow x ys ↔ x ∈ ys := by
  rw [mem_skipBelow h]
  exact and_iff_left fun hlt => ne_of_lt hlt rfl

/-- An element is found exactly if it is the first of what is left. -/
lemma mem_iff_of_skipBelow (h : IsAscending ys) (hskip : skipBelow x ys = y :: zs) :
    x ∈ ys ↔ compare x y = .eq := by
  have hasc : IsAscending (y :: zs) := hskip ▸ h.skipBelow x
  have hle := ((mem_skipBelow h).1 (hskip ▸ List.mem_cons_self : y ∈ skipBelow x ys)).2
  rw [← mem_skipBelow_self h, hskip, Std.LawfulEqCmp.compare_eq_iff_eq, List.mem_cons,
    or_iff_left fun hx => hle ((List.pairwise_cons.1 hasc).1 x hx)]

/-- **One pass tells whether each element of the one set is an element of the other.** -/
theorem isSubset_iff (hx : IsAscending xs) (hy : IsAscending ys) :
    isSubset xs ys = true ↔ ∀ x ∈ xs, x ∈ ys := by
  induction xs generalizing ys with
  | nil => exact iff_of_true rfl nofun
  | cons x xs ih =>
      obtain ⟨habove, hxs⟩ := List.pairwise_cons.1 hx
      rw [isSubset, List.forall_mem_cons]
      cases hskip : skipBelow x ys with
      | nil =>
          have hnot : x ∉ ys := by
            rw [← mem_skipBelow_self hy, hskip]
            exact List.not_mem_nil
          exact iff_of_false nofun fun h => hnot h.1
      | cons y zs =>
          have hzs : IsAscending (y :: zs) := hskip ▸ hy.skipBelow x
          rw [Bool.and_eq_true, beq_iff_eq, ih hxs (List.pairwise_cons.1 hzs).2,
            mem_iff_of_skipBelow hy hskip]
          refine and_congr_right fun heq => forall₂_congr fun z hz => ?_
          obtain rfl := Std.LawfulEqCmp.eq_of_compare heq
          rw [← mem_skipBelow_of_lt hy (habove z hz), hskip, List.mem_cons,
            or_iff_right (ne_of_lt (habove z hz)).symm]

/-- **One pass tells whether no element of the one set is an element of the other.** -/
theorem isDisjoint_iff (hx : IsAscending xs) (hy : IsAscending ys) :
    isDisjoint xs ys = true ↔ ∀ x ∈ xs, x ∉ ys := by
  induction xs generalizing ys with
  | nil => exact iff_of_true rfl nofun
  | cons x xs ih =>
      obtain ⟨habove, hxs⟩ := List.pairwise_cons.1 hx
      have hlater : ∀ z ∈ xs, z ∈ skipBelow x ys ↔ z ∈ ys := fun z hz =>
        mem_skipBelow_of_lt hy (habove z hz)
      rw [isDisjoint, List.forall_mem_cons]
      cases hskip : skipBelow x ys with
      | nil =>
          have hnone : ∀ z, z ∉ skipBelow x ys := by
            rw [hskip]
            exact fun _ => List.not_mem_nil
          refine iff_of_true rfl ⟨?_, fun z hz => ?_⟩
          · rw [← mem_skipBelow_self hy]
            exact hnone x
          · rw [← hlater z hz]
            exact hnone z
      | cons y zs =>
          have hzs : IsAscending (y :: zs) := hskip ▸ hy.skipBelow x
          rw [Bool.and_eq_true, bne_iff_ne, ih hxs hzs, mem_iff_of_skipBelow hy hskip]
          refine and_congr_right fun _ => forall₂_congr fun z hz => ?_
          rw [← hskip, hlater z hz]

end

/-! ### Maps -/

/-- Two lists of pairs with ascending keys and the same pairs are one list. -/
lemma eq_of_pairs_iff {ps qs : List (α × β)} (hp : KeysAscending ps) (hq : KeysAscending qs)
    (h : ∀ p, p ∈ ps ↔ p ∈ qs) : ps = qs := by
  have hperm : ps.Perm qs :=
    (List.perm_ext_iff_of_nodup hp.nodup_keys.of_map hq.nodup_keys.of_map).2 h
  refine hperm.eq_of_pairwise (fun p q _ _ hpq hqp => ?_) hp hq
  exact absurd hqp (Std.OrientedCmp.not_lt_of_lt hpq)

section

variable [BEq α] [LawfulBEq α]

/-- **A list of pairs with ascending keys is determined by what it answers.** -/
theorem eq_of_lookup_eq {ps qs : List (α × β)} (hp : KeysAscending ps) (hq : KeysAscending qs)
    (h : ∀ k, ps.lookup k = qs.lookup k) : ps = qs :=
  eq_of_pairs_iff hp hq fun p => by
    rw [mem_iff_lookup hp.nodup_keys, mem_iff_lookup hq.nodup_keys, h]

omit [Std.TransOrd α] in
/-- Of the pairs with one key, the last of a list is the one that its map holds. -/
lemma lookup_ofPairs (ps : List (α × β)) (k : α) :
    (ofPairs ps).lookup k = ps.reverse.lookup k := by
  have key : ∀ acc : List (α × β), (ps.foldl (fun acc p => put p.1 p.2 acc) acc).lookup k =
      (ps.reverse.lookup k).or (acc.lookup k) := by
    induction ps with
    | nil => exact fun _ => rfl
    | cons p ps ih =>
        intro acc
        obtain ⟨l, w⟩ := p
        rw [List.foldl_cons, ih, List.reverse_cons, List.lookup_append, Option.or_assoc]
        congr 1
        by_cases hkl : k = l
        · subst hkl
          simp [lookup_put_self]
        · have hbeq : (k == l) = false := beq_eq_false_iff_ne.2 hkl
          simp [lookup_put_of_ne hkl, List.lookup_cons, hbeq]
  rw [ofPairs, key, List.lookup_nil, Option.or_none]

/-- Of the pairs with this key, the last of the list has this value. -/
def IsLastPair (ps : List (α × β)) (k : α) (v : β) : Prop :=
  ∃ before after, ps = before ++ (k, v) :: after ∧ ∀ p ∈ after, p.1 ≠ k

omit [Std.TransOrd α] in
/-- **A map holds for each key the value of its last pair.** -/
theorem lookup_ofPairs_eq_some_iff {ps : List (α × β)} {k : α} {v : β} :
    (ofPairs ps).lookup k = some v ↔ IsLastPair ps k v := by
  rw [lookup_ofPairs, List.lookup_eq_some_iff]
  constructor
  · rintro ⟨after, before, hps, hother⟩
    refine ⟨before.reverse, after.reverse, ?_, fun p hp => ?_⟩
    · rw [← List.reverse_reverse ps, hps]
      simp
    · exact (bne_iff_ne.1 (hother p (List.mem_reverse.1 hp))).symm
  · rintro ⟨before, after, rfl, hother⟩
    refine ⟨after.reverse, before.reverse, by simp, fun p hp => ?_⟩
    exact bne_iff_ne.2 (hother p (List.mem_reverse.1 hp)).symm

/-- **The pairs of a map, in any order, make the map again.** -/
theorem ofPairs_eq_of_perm {ps qs : List (α × β)} (h : KeysAscending ps) (hp : ps.Perm qs) :
    ofPairs qs = ps := by
  refine eq_of_lookup_eq (keysAscending_ofPairs qs) h fun k => ?_
  rw [lookup_ofPairs, lookup_eq_of_perm h.nodup_keys (hp.trans (List.reverse_perm qs).symm)]

end

end AccessPolicy.Ascending
