/-
Runs of additions to one set of policies.

* `PolicySet.addInPlace`: an addition as a change of the set at hand, where the index and
  the list of policies are changed one after the other; `call_eq` says that it makes the
  set of `PolicySet.add`, and that a refused addition leaves the set as it is;
* `PolicySet.run`: additions to a new set, one after the other and whatever comes of them,
  with a log of what each of them gave;
* `PolicySet.Tracks`: what a set is after such a log, and what it does with one more
  addition; `tracks_run` says that it holds after every run, since one addition keeps it;
* `PolicySet.FirstRepeat`: the first policy of a list whose id an earlier one has, which is
  the one that `PolicySet.ofPolicies` refuses (`ofPolicies_eq_error_iff`);
* `additions_consistent`: both together.
-/
import AccessPolicy.Proofs.Policy.Additions
import Mathlib.Data.List.Induction

namespace AccessPolicy

namespace PolicySet

/-! ### Looking up -/

section Consistent

variable {s : PolicySet} {p : Policy}

/-- **A policy is found by its id**, and nothing is found by another text. -/
lemma Consistent.policy?_eq_some_iff (h : s.Consistent) {id : PolicyId} :
    s.policy? id = some p ↔ p ∈ s.policies ∧ p.id = id := by
  have hids : ∀ i : Nat, s.ids[i]? = s.policies[i]?.map (·.id) := fun _ => List.getElem?_map
  rw [policy?, Option.bind_eq_some_iff]
  constructor
  · rintro ⟨i, hi, hp⟩
    rw [h.index_iff, hids, hp] at hi
    exact ⟨List.mem_of_getElem? hp, Option.some.inj hi⟩
  · rintro ⟨hp, rfl⟩
    obtain ⟨i, hi⟩ := List.mem_iff_getElem?.1 hp
    exact ⟨i, by rw [h.index_iff, hids, hi, Option.map_some], hi⟩

/-- Nothing is found exactly by the ids that are not there. -/
lemma Consistent.policy?_eq_none_iff (h : s.Consistent) {id : PolicyId} :
    s.policy? id = none ↔ id ∉ s.ids := by
  simp only [Option.eq_none_iff_forall_ne_some, ne_eq, h.policy?_eq_some_iff, ids, List.mem_map,
    not_exists]

end Consistent

/-! ### One addition -/

/-- Adds a policy to the set at hand, or refuses it before anything is changed. -/
def addInPlace (p : Policy) : ExceptT DuplicateId (StateM PolicySet) Unit := do
  if (← get).index.contains p.id then throw ⟨p.id⟩
  modify fun s => { s with index := s.index.insert p.id s.policies.length }
  modify fun s => { s with policies := s.policies ++ [p] }

/-- What an addition to a set gives, and the set after it. -/
def call (s : PolicySet) (p : Policy) : Except DuplicateId Unit × PolicySet :=
  Id.run ((addInPlace p).run.run s)

/-- **An addition in place makes the set of the addition, or changes nothing.** -/
lemma call_eq (s : PolicySet) (p : Policy) : s.call p =
    match s.add p with
    | .ok t => (.ok (), t)
    | .error e => (.error e, s) := by
  have hcall : s.call p = if s.index.contains p.id = true then (.error ⟨p.id⟩, s)
      else (.ok (), ⟨s.policies ++ [p], s.index.insert p.id s.policies.length⟩) := by
    show (if s.index.contains p.id = true then
      (_ : ExceptT DuplicateId (StateM PolicySet) Unit) else _) s = _
    split <;> rfl
  rw [hcall, add]
  split <;> rfl

section Consistent

variable {s : PolicySet} {p : Policy}

/-- An id that is there is refused. -/
lemma Consistent.add_of_mem (h : s.Consistent) (hp : p.id ∈ s.ids) :
    s.add p = .error ⟨p.id⟩ := by
  rw [add, if_pos (h.contains_iff.2 hp)]

/-- An id that is there is refused, and the set stays as it is. -/
lemma Consistent.call_of_mem (h : s.Consistent) (hp : p.id ∈ s.ids) :
    s.call p = (.error ⟨p.id⟩, s) := by
  rw [call_eq, h.add_of_mem hp]

/-- A new id is added. -/
lemma Consistent.call_of_not_mem (h : s.Consistent) (hp : p.id ∉ s.ids) :
    ∃ t, s.add p = .ok t ∧ s.call p = (.ok (), t) := by
  obtain ⟨t, ht⟩ := h.add_isOk_iff.2 hp
  exact ⟨t, ht, by rw [call_eq, ht]⟩

end Consistent

/-! ### Several additions -/

/-- An addition that was tried, with what it gave. -/
abbrev Call := Policy × Except DuplicateId Unit

/-- One more addition to a set, noted at the end of a log. -/
def record (st : PolicySet × List Call) (p : Policy) : PolicySet × List Call :=
  ((st.1.call p).2, st.2 ++ [(p, (st.1.call p).1)])

/-- Additions to a new set, one after the other: the set at the end, and the log. -/
def run (ps : List Policy) : PolicySet × List Call :=
  ps.foldl record (empty, [])

/-- A run with one more addition. -/
lemma run_append_singleton (ps : List Policy) (p : Policy) :
    run (ps ++ [p]) = record (run ps) p :=
  List.foldl_concat ..

/-- The policy of an addition, unless it was refused. -/
def accepted? : Call → Option Policy
  | (p, .ok ()) => some p
  | (_, .error _) => none

/-- What a set is after a log of additions, and what it does with one more. -/
structure Tracks (log : List Call) (s : PolicySet) : Prop where
  /-- The ids are pairwise distinct, and the index gives each of them its place and holds
  nothing else. -/
  consistent : s.Consistent
  /-- The set lists what was accepted, in the order of the additions. -/
  policies : s.policies = log.filterMap accepted?
  /-- The ids are those of all additions, also of the refused ones. -/
  mem_ids : ∀ id, id ∈ s.ids ↔ id ∈ (log.map (·.1)).map (·.id)
  /-- Under an id the policy with this id is found. -/
  found : ∀ id p, s.policy? id = some p ↔ p ∈ s.policies ∧ p.id = id
  /-- Under another id nothing is found. -/
  not_found : ∀ id, s.policy? id = none ↔ id ∉ s.ids
  /-- An addition with an id that is there is refused for this id and changes neither the
  list nor the index. -/
  refused : ∀ p : Policy, p.id ∈ s.ids → s.call p = (.error ⟨p.id⟩, s)
  /-- Every other addition succeeds and puts the policy at the end. -/
  added : ∀ p : Policy, p.id ∉ s.ids →
    ∃ t, s.call p = (.ok (), t) ∧ t.policies = s.policies ++ [p]

/-- A consistent set that lists what a log accepted tracks the log. -/
lemma Consistent.tracks {log : List Call} {s : PolicySet} (h : s.Consistent)
    (hp : s.policies = log.filterMap accepted?)
    (hids : ∀ id, id ∈ s.ids ↔ id ∈ (log.map (·.1)).map (·.id)) : Tracks log s where
  consistent := h
  policies := hp
  mem_ids := hids
  found _ _ := h.policy?_eq_some_iff
  not_found _ := h.policy?_eq_none_iff
  refused _ := h.call_of_mem
  added p hnew := by
    obtain ⟨t, ht, hcall⟩ := h.call_of_not_mem hnew
    exact ⟨t, hcall, policies_of_add ht⟩

/-- **One more addition is tracked, too.** -/
lemma Tracks.record {log : List Call} {s : PolicySet} (h : Tracks log s) (p : Policy) :
    Tracks (record (s, log) p).2 (record (s, log) p).1 := by
  by_cases hp : p.id ∈ s.ids
  · have hcall := h.refused p hp
    refine Consistent.tracks ?_ ?_ fun id => ?_ <;> simp only [PolicySet.record, hcall]
    · exact h.consistent
    · rw [List.filterMap_append, ← h.policies]
      exact (List.append_nil _).symm
    · rw [h.mem_ids, List.map_append, List.map_append, List.mem_append, List.map_singleton,
        List.map_singleton, List.mem_singleton]
      refine ⟨.inl, ?_⟩
      rintro (hid | rfl)
      · exact hid
      · exact (h.mem_ids _).1 hp
  · obtain ⟨t, ht, hcall⟩ := h.consistent.call_of_not_mem hp
    refine Consistent.tracks ?_ ?_ fun id => ?_ <;> simp only [PolicySet.record, hcall]
    · exact h.consistent.of_add ht
    · rw [policies_of_add ht, List.filterMap_append, ← h.policies]
      rfl
    · rw [ids_of_add ht, List.mem_append, h.mem_ids, List.map_append, List.map_append,
        List.mem_append]
      rfl

/-- **After every run the set tracks the log.** -/
lemma tracks_run (ps : List Policy) : Tracks (run ps).2 (run ps).1 := by
  induction ps using List.reverseRecOn with
  | nil => exact consistent_empty.tracks rfl (by simp [run, empty, ids])
  | append_singleton ps p ih =>
      rw [run_append_singleton]
      exact ih.record p

/-- The log of a run holds one entry for each addition, in their order. -/
lemma map_fst_run (ps : List Policy) : (run ps).2.map (·.1) = ps := by
  induction ps using List.reverseRecOn with
  | nil => rfl
  | append_singleton ps p ih =>
      rw [run_append_singleton, record, List.map_append, ih]
      rfl

/-! ### Sets of lists -/

/-- The first policy of a list whose id an earlier one has. -/
def FirstRepeat (ps : List Policy) (p : Policy) : Prop :=
  ∃ before after, ps = before ++ p :: after ∧ (before.map (·.id)).Nodup ∧
    p.id ∈ before.map (·.id)

/-- A list of additions to a consistent set is refused at the first policy whose id is
there or is that of an earlier addition of the list. -/
lemma Consistent.foldlM_add_eq_error_iff {ps : List Policy} {s : PolicySet}
    (h : s.Consistent) {e : DuplicateId} : ps.foldlM add s = .error e ↔
      ∃ before p after, ps = before ++ p :: after ∧ (s.ids ++ before.map (·.id)).Nodup ∧
        p.id ∈ s.ids ++ before.map (·.id) ∧ e = ⟨p.id⟩ := by
  induction ps generalizing s with
  | nil => exact ⟨nofun, fun ⟨before, p, after, hps, _⟩ => by simp at hps⟩
  | cons q ps ih =>
      rw [List.foldlM_cons]
      by_cases hq : q.id ∈ s.ids
      · rw [h.add_of_mem hq]
        constructor
        · rintro ⟨⟩
          exact ⟨[], q, ps, rfl, by simpa using h.nodup_ids, by simpa using hq, rfl⟩
        · rintro ⟨before, p, after, hps, hn, -, rfl⟩
          cases before with
          | nil =>
              obtain ⟨rfl, rfl⟩ := List.cons.inj hps
              rfl
          | cons b before =>
              -- the id of the head would stand twice before the repeated one
              obtain ⟨rfl, rfl⟩ := List.cons.inj hps
              exact absurd rfl ((List.nodup_append.1 hn).2.2 _ hq _ List.mem_cons_self)
      · obtain ⟨u, hu⟩ := h.add_isOk_iff.2 hq
        have hids : ∀ before : List Policy, u.ids ++ before.map (·.id) =
            s.ids ++ (q :: before).map (·.id) := by
          intro before
          rw [ids_of_add hu, List.append_assoc, List.singleton_append, List.map_cons]
        rw [hu]
        show ps.foldlM add u = .error e ↔ _
        rw [ih (h.of_add hu)]
        constructor
        · rintro ⟨before, p, after, rfl, hn, hp, rfl⟩
          rw [hids] at hn hp
          exact ⟨q :: before, p, after, rfl, hn, hp, rfl⟩
        · rintro ⟨before, p, after, hps, hn, hp, rfl⟩
          cases before with
          | nil =>
              obtain ⟨rfl, rfl⟩ := List.cons.inj hps
              rw [List.map_nil, List.append_nil] at hp
              exact absurd hp hq
          | cons b before =>
              obtain ⟨rfl, rfl⟩ := List.cons.inj hps
              rw [← hids] at hn hp
              exact ⟨before, p, after, rfl, hn, hp, rfl⟩

/-- **The set of a list is refused for its first repeated id**, and for nothing else. -/
lemma ofPolicies_eq_error_iff {ps : List Policy} {e : DuplicateId} :
    ofPolicies ps = .error e ↔ ∃ p, FirstRepeat ps p ∧ e = ⟨p.id⟩ := by
  rw [ofPolicies, consistent_empty.foldlM_add_eq_error_iff]
  constructor
  · rintro ⟨before, p, after, hps, hn, hp, he⟩
    exact ⟨p, ⟨before, after, hps, hn, hp⟩, he⟩
  · rintro ⟨p, ⟨before, after, hps, hn, hp⟩, he⟩
    exact ⟨before, p, after, hps, hn, hp, he⟩

/-- There is a set of a list exactly if its ids are pairwise distinct. -/
lemma ofPolicies_isOk_iff {ps : List Policy} :
    (∃ s, ofPolicies ps = .ok s) ↔ (ps.map (·.id)).Nodup := by
  refine ⟨?_, exists_ofPolicies⟩
  rintro ⟨s, hs⟩
  rw [← policies_of_ofPolicies hs]
  exact (Built.ofPolicies hs).consistent.nodup_ids

/-- **A set of policies stays consistent over every run of additions**: after each of them
its index and its list are in step, a repeated id is refused and changes nothing, and every
other policy is added. The set of a list is made exactly if no id repeats an earlier one,
and otherwise it is refused for the first that does. -/
theorem additions_consistent (ps : List Policy) :
    (run ps).2.map (·.1) = ps ∧ Tracks (run ps).2 (run ps).1 ∧
      ((∃ s, ofPolicies ps = .ok s) ↔ (ps.map (·.id)).Nodup) ∧
      (∀ s, ofPolicies ps = .ok s → s.policies = ps ∧ s.Consistent) ∧
      (∀ e, ofPolicies ps = .error e ↔ ∃ p, FirstRepeat ps p ∧ e = ⟨p.id⟩) := by
  refine ⟨map_fst_run ps, tracks_run ps, ofPolicies_isOk_iff, fun s hs => ⟨?_, ?_⟩, fun e => ?_⟩
  · exact policies_of_ofPolicies hs
  · exact (Built.ofPolicies hs).consistent
  · exact ofPolicies_eq_error_iff

/-- A permit and a forbid. -/
def permitAndForbid : List Policy := [.unconstrained "a" .permit, .unconstrained "b" .forbid]

/-- After the two a forbid with the id of the permit is refused, the set of the two stays as
it is, and the three make no set. -/
theorem additions_consistent_repeat :
    (run permitAndForbid).1.call (.unconstrained "a" .forbid) =
        (.error ⟨"a"⟩, (run permitAndForbid).1) ∧
      ofPolicies (permitAndForbid ++ [.unconstrained "a" .forbid]) = .error ⟨"a"⟩ := by
  obtain ⟨hlog, htracks, -⟩ := additions_consistent permitAndForbid
  obtain ⟨-, -, -, -, herror⟩ :=
    additions_consistent (permitAndForbid ++ [.unconstrained "a" .forbid])
  have hold : "a" ∈ permitAndForbid.map (·.id) := by decide
  have hrepeat : FirstRepeat (permitAndForbid ++ [.unconstrained "a" .forbid])
      (.unconstrained "a" .forbid) :=
    ⟨permitAndForbid, [], rfl, by decide, hold⟩
  have hthere : "a" ∈ (run permitAndForbid).1.ids := (htracks.mem_ids "a").2 (hlog ▸ hold)
  exact ⟨htracks.refused (.unconstrained "a" .forbid) hthere, (herror ⟨"a"⟩).2 ⟨_, hrepeat, rfl⟩⟩

end PolicySet

end AccessPolicy
