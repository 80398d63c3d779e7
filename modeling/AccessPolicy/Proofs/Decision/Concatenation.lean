/-
Responses to lists of policies that are joined.

* `Response.Forbids`: a denial for which some policy is the reason;
* `Response.Joins`: how two responses determine a third. If one of them forbids, the
  third is a denial for the reasons of those that are denials; otherwise it has the
  reasons of both and allows exactly if there are any. The errors come one after the
  other. `Joins.unique` says that there is at most one such response;
* `Response.SameButOrder`: two responses differ in the order of their errors at most;
* `authorize_append`: the response to the policies of two lists is the join of the
  responses to the lists. Hence the order of policies does not matter but for the
  errors, a further permit takes no permission away and a further forbid grants none.

A response shows less than the judged policies do: with a satisfied forbid, the
satisfied permits are lost. So each part of a response is first said in terms of the
satisfied ids (`allow_ofJudged_iff`, `forbids_ofJudged_iff`, `deniesFor_ofJudged_iff`,
`reasons_ofJudged_of_nil`), and it is the satisfied ids that are added up over a list.
-/
import AccessPolicy.Decision.Authorize
import AccessPolicy.Proofs.Ascending
import AccessPolicy.Proofs.Policy.Additions
import Mathlib.Tactic.Common

namespace AccessPolicy

/-! ### Joining responses -/

/-- What is not allowed is denied. -/
lemma Decision.eq_deny_iff {d : Decision} : d = .deny ↔ d ≠ .allow := by
  cases d <;> simp

/-- Decisions that allow in the same cases are equal. -/
lemma Decision.eq_of_allow_iff {d d' : Decision} (h : d = .allow ↔ d' = .allow) : d = d' := by
  cases d <;> cases d' <;> simp_all

namespace Response

/-- A denial for which some policy is the reason. -/
def Forbids (r : Response) : Prop :=
  r.decision = .deny ∧ r.reasons ≠ []

/-- The policy with an id is a reason of a denial. -/
def DeniesFor (r : Response) (id : PolicyId) : Prop :=
  r.decision = .deny ∧ id ∈ r.reasons

/-- A response is the join of two others. -/
structure Joins (r r' joint : Response) : Prop where
  /-- If one of the two forbids, the join denies, for the reasons of denials. -/
  forbidden : r.Forbids ∨ r'.Forbids →
    joint.decision = .deny ∧ ∀ id, id ∈ joint.reasons ↔ r.DeniesFor id ∨ r'.DeniesFor id
  /-- Otherwise the join has the reasons of both, and allows if there are any. -/
  otherwise : ¬(r.Forbids ∨ r'.Forbids) →
    (joint.decision = .allow ↔ joint.reasons ≠ []) ∧
      ∀ id, id ∈ joint.reasons ↔ id ∈ r.reasons ∨ id ∈ r'.reasons
  /-- The reasons are a set in its canonical form. -/
  reasons_ascending : Ascending.IsAscending joint.reasons
  /-- The errors of the first come before those of the second. -/
  errors : joint.errors = r.errors ++ r'.errors

/-- **Two responses have at most one join.** -/
lemma Joins.unique {r r' s t : Response} (hs : Joins r r' s) (ht : Joins r r' t) : s = t := by
  have hreasons : s.reasons = t.reasons := by
    refine Ascending.eq_of_mem_iff hs.reasons_ascending ht.reasons_ascending fun id => ?_
    by_cases h : r.Forbids ∨ r'.Forbids
    · rw [(hs.forbidden h).2, (ht.forbidden h).2]
    · rw [(hs.otherwise h).2, (ht.otherwise h).2]
  have hdecision : s.decision = t.decision := by
    by_cases h : r.Forbids ∨ r'.Forbids
    · rw [(hs.forbidden h).1, (ht.forbidden h).1]
    · refine Decision.eq_of_allow_iff ?_
      rw [(hs.otherwise h).1, (ht.otherwise h).1, hreasons]
  have herrors : s.errors = t.errors := hs.errors.trans ht.errors.symm
  obtain ⟨d, rs, es⟩ := s
  obtain ⟨d', rs', es'⟩ := t
  rw [Response.mk.injEq]
  exact ⟨hdecision, hreasons, herrors⟩

/-- Two responses differ in the order of their errors at most. -/
structure SameButOrder (r r' : Response) : Prop where
  decision : r'.decision = r.decision
  reasons : r'.reasons = r.reasons
  errors : r'.errors.Perm r.errors

end Response

/-! ### Satisfied ids -/

/-- The satisfied ids are those of the satisfied policies. -/
lemma mem_satisfiedIds_iff {effect : Effect} {js : List Judged} {id : PolicyId} :
    id ∈ satisfiedIds effect js ↔ ∃ j ∈ js, satisfiedId? effect j = some id := by
  rw [satisfiedIds, Ascending.mem_ofList, List.mem_filterMap]

/-- The satisfied ids of two lists are those of the one and those of the other. -/
lemma mem_satisfiedIds_append {effect : Effect} {js ks : List Judged} {id : PolicyId} :
    id ∈ satisfiedIds effect (js ++ ks) ↔
      id ∈ satisfiedIds effect js ∨ id ∈ satisfiedIds effect ks := by
  simp only [mem_satisfiedIds_iff, List.mem_append, or_and_right, exists_or]

/-- Two lists have a satisfied id if one of them has. -/
lemma satisfiedIds_append_ne_nil_iff {effect : Effect} {js ks : List Judged} :
    satisfiedIds effect (js ++ ks) ≠ [] ↔
      satisfiedIds effect js ≠ [] ∨ satisfiedIds effect ks ≠ [] := by
  simp only [ne_eq, List.eq_nil_iff_forall_not_mem, mem_satisfiedIds_append, not_or,
    forall_and, not_and_or]

/-- The satisfied ids do not depend on the order of the policies. -/
lemma satisfiedIds_eq_of_perm {effect : Effect} {js ks : List Judged} (h : js.Perm ks) :
    satisfiedIds effect js = satisfiedIds effect ks :=
  Ascending.eq_of_mem_iff (Ascending.isAscending_ofList _) (Ascending.isAscending_ofList _)
    fun id => by simp only [mem_satisfiedIds_iff, h.mem_iff]

/-- A policy with another effect adds no satisfied id. -/
lemma satisfiedIds_append_of_ne {effect : Effect} {js : List Judged} {p : Policy} {v : Verdict}
    (h : p.effect ≠ effect) : satisfiedIds effect (js ++ [(p, v)]) = satisfiedIds effect js := by
  have hnone : satisfiedId? effect (p, v) = none := by
    cases v <;> simp [satisfiedId?, h]
  rw [satisfiedIds, List.filterMap_append, List.filterMap_cons_none hnone, List.filterMap_nil,
    List.append_nil, satisfiedIds]

/-! ### The parts of a response -/

section Parts

variable {js : List Judged}

/-- A response is a denial unless some permit and no forbid is satisfied. -/
lemma allow_ofJudged_iff : (Response.ofJudged js).decision = .allow ↔
    satisfiedIds .forbid js = [] ∧ satisfiedIds .permit js ≠ [] := by
  rw [Response.ofJudged]
  split
  · simp_all
  · split <;> simp_all

/-- A response forbids if some forbid is satisfied. -/
lemma forbids_ofJudged_iff :
    (Response.ofJudged js).Forbids ↔ satisfiedIds .forbid js ≠ [] := by
  rw [Response.Forbids, Response.ofJudged]
  split
  · simp_all
  · split <;> simp_all

/-- The reasons of a denial are the satisfied forbids. -/
lemma deniesFor_ofJudged_iff {id : PolicyId} :
    (Response.ofJudged js).DeniesFor id ↔ id ∈ satisfiedIds .forbid js := by
  rw [Response.DeniesFor, Response.ofJudged]
  split
  · simp_all
  · split <;> simp_all

/-- Without a satisfied forbid, the reasons are the satisfied permits. -/
lemma reasons_ofJudged_of_nil (h : satisfiedIds .forbid js = []) :
    (Response.ofJudged js).reasons = satisfiedIds .permit js := by
  rw [Response.ofJudged]
  split
  · simp_all
  · split <;> simp_all

/-- The reasons are a set in its canonical form. -/
lemma isAscending_reasons_ofJudged :
    Ascending.IsAscending (Response.ofJudged js).reasons := by
  rw [Response.ofJudged]
  split
  · exact Ascending.isAscending_ofList _
  · split
    · exact Ascending.isAscending_ofList _
    · exact List.Pairwise.nil

end Parts

/-! ### Responses to lists -/

/-- **The response to two lists of judged policies is the join of the responses.** -/
lemma joins_ofJudged (js ks : List Judged) :
    Response.Joins (.ofJudged js) (.ofJudged ks) (.ofJudged (js ++ ks)) := by
  have hforbids : (Response.ofJudged js).Forbids ∨ (Response.ofJudged ks).Forbids ↔
      (Response.ofJudged (js ++ ks)).Forbids := by
    rw [forbids_ofJudged_iff, forbids_ofJudged_iff, forbids_ofJudged_iff,
      satisfiedIds_append_ne_nil_iff]
  refine ⟨fun h => ?_, fun h => ?_, isAscending_reasons_ofJudged, ?_⟩
  · have hdeny := (hforbids.1 h).1
    refine ⟨hdeny, fun id => ?_⟩
    have hreason : id ∈ (Response.ofJudged (js ++ ks)).reasons ↔
        (Response.ofJudged (js ++ ks)).DeniesFor id := (and_iff_right hdeny).symm
    rw [hreason, deniesFor_ofJudged_iff, deniesFor_ofJudged_iff, deniesFor_ofJudged_iff,
      mem_satisfiedIds_append]
  · have hboth := mt hforbids.2 h
    rw [not_or] at h
    simp only [forbids_ofJudged_iff, ne_eq, not_not] at h hboth
    rw [allow_ofJudged_iff, reasons_ofJudged_of_nil hboth, reasons_ofJudged_of_nil h.1,
      reasons_ofJudged_of_nil h.2]
    exact ⟨and_iff_right hboth, fun id => mem_satisfiedIds_append⟩
  · rw [errors_ofJudged, errors_ofJudged, errors_ofJudged, List.filterMap_append]

/-- Decision and reasons are a matter of the satisfied ids alone. -/
lemma ofJudged_congr {js ks : List Judged}
    (h : ∀ effect, satisfiedIds effect ks = satisfiedIds effect js) :
    (Response.ofJudged ks).decision = (Response.ofJudged js).decision ∧
      (Response.ofJudged ks).reasons = (Response.ofJudged js).reasons := by
  rw [Response.ofJudged, Response.ofJudged, h, h]
  split
  · exact ⟨rfl, rfl⟩
  · split <;> exact ⟨rfl, rfl⟩

/-- Judged policies in another order give the same response but for the order of the
errors. -/
lemma sameButOrder_ofJudged {js ks : List Judged} (h : ks.Perm js) :
    Response.SameButOrder (.ofJudged js) (.ofJudged ks) := by
  obtain ⟨hdecision, hreasons⟩ := ofJudged_congr fun _ => satisfiedIds_eq_of_perm h
  refine ⟨hdecision, hreasons, ?_⟩
  rw [errors_ofJudged, errors_ofJudged]
  exact h.filterMap _

/-- What becomes of the policies of a set with one more policy. -/
lemma judge_of_add {s t : PolicySet} {p : Policy} (h : s.add p = .ok t) (env : Env) :
    t.judge env = s.judge env ++ [(p, p.verdict env)] := by
  rw [PolicySet.judge, PolicySet.policies_of_add h, List.map_append, List.map_singleton,
    PolicySet.judge]

section Adding

variable {s t : PolicySet} {p : Policy} {request : Request} {store : Store}

/-- A permit that is added takes no permission away. -/
lemma allow_of_add_permit (h : s.add p = .ok t) (hp : p.effect = .permit)
    (ha : (authorize request s store).decision = .allow) :
    (authorize request t store).decision = .allow := by
  have hforbid : p.effect ≠ .forbid := by simp [hp]
  rw [authorize, allow_ofJudged_iff] at ha
  rw [authorize, allow_ofJudged_iff, judge_of_add h, satisfiedIds_append_of_ne hforbid,
    satisfiedIds_append_ne_nil_iff]
  exact ⟨ha.1, .inl ha.2⟩

/-- A forbid that is added grants no permission. -/
lemma deny_of_add_forbid (h : s.add p = .ok t) (hp : p.effect = .forbid)
    (hd : (authorize request s store).decision = .deny) :
    (authorize request t store).decision = .deny := by
  have hpermit : p.effect ≠ .permit := by simp [hp]
  rw [Decision.eq_deny_iff] at hd ⊢
  refine mt (fun ha => ?_) hd
  rw [authorize, allow_ofJudged_iff, judge_of_add h, satisfiedIds_append_of_ne hpermit] at ha
  rw [authorize, allow_ofJudged_iff]
  refine ⟨?_, ha.2⟩
  by_contra hne
  exact satisfiedIds_append_ne_nil_iff.2 (.inl hne) ha.1

end Adding

/-- The policies of a list in another order make a set, and it gives the same response but
for the order of the errors. -/
lemma exists_sameButOrder {ps qs : List Policy} {s : PolicySet}
    (hs : PolicySet.ofPolicies ps = .ok s) (h : (ps.map (·.id)).Nodup) (hp : qs.Perm ps)
    (request : Request) (store : Store) : ∃ t, PolicySet.ofPolicies qs = .ok t ∧
      Response.SameButOrder (authorize request s store) (authorize request t store) := by
  obtain ⟨t, ht⟩ := PolicySet.exists_ofPolicies ((hp.map _).nodup_iff.2 h)
  refine ⟨t, ht, sameButOrder_ofJudged ?_⟩
  rw [PolicySet.judge, PolicySet.judge, PolicySet.policies_of_ofPolicies hs,
    PolicySet.policies_of_ofPolicies ht]
  exact hp.map _

/-- **Decisions compose over lists of policies.** The policies of two lists with pairwise
distinct ids make a set, as do those of each list, and the response to the set is the one
join of the two responses. Policies in another order make a set with the same response but
for the order of the errors; a permit that is added turns no permission into a denial, and
a forbid that is added turns no denial into a permission. -/
theorem authorize_append {ps qs : List Policy} (h : ((ps ++ qs).map (·.id)).Nodup) :
    ∃ s t u, PolicySet.ofPolicies ps = .ok s ∧ PolicySet.ofPolicies qs = .ok t ∧
      PolicySet.ofPolicies (ps ++ qs) = .ok u ∧
      ∀ (request : Request) (store : Store),
        (∀ r, Response.Joins (authorize request s store) (authorize request t store) r ↔
          r = authorize request u store) ∧
        (∀ ps', ps'.Perm ps → ∃ s', PolicySet.ofPolicies ps' = .ok s' ∧
          Response.SameButOrder (authorize request s store) (authorize request s' store)) ∧
        (∀ p s', s.add p = .ok s' → p.effect = .permit →
          (authorize request s store).decision = .allow →
            (authorize request s' store).decision = .allow) ∧
        (∀ p s', s.add p = .ok s' → p.effect = .forbid →
          (authorize request s store).decision = .deny →
            (authorize request s' store).decision = .deny) := by
  have hsplit := h
  rw [List.map_append, List.nodup_append] at hsplit
  obtain ⟨s, hs⟩ := PolicySet.exists_ofPolicies hsplit.1
  obtain ⟨t, ht⟩ := PolicySet.exists_ofPolicies hsplit.2.1
  obtain ⟨u, hu⟩ := PolicySet.exists_ofPolicies h
  refine ⟨s, t, u, hs, ht, hu, fun request store => ⟨fun r => ?_, ?_, ?_, ?_⟩⟩
  · have hjudge : u.judge ⟨request, store⟩ =
        s.judge ⟨request, store⟩ ++ t.judge ⟨request, store⟩ := by
      rw [PolicySet.judge, PolicySet.policies_of_ofPolicies hu, List.map_append,
        PolicySet.judge, PolicySet.judge, PolicySet.policies_of_ofPolicies hs,
        PolicySet.policies_of_ofPolicies ht]
    have hjoin : Response.Joins (authorize request s store) (authorize request t store)
        (authorize request u store) := by
      rw [authorize, authorize, authorize, hjudge]
      exact joins_ofJudged _ _
    exact ⟨fun hr => hr.unique hjoin, fun hr => hr ▸ hjoin⟩
  · exact fun ps' hp => exists_sameButOrder hs hsplit.1 hp request store
  · exact fun p s' ha hp hallow => allow_of_add_permit ha hp hallow
  · exact fun p s' ha hp hdeny => deny_of_add_forbid ha hp hdeny

/-- A permit for everybody. -/
def openDoor : Policy := Policy.unconstrained "open" .permit

/-- A permit whose condition is no Boolean. -/
def brokenPermit : Policy :=
  (Policy.unconstrained "broken" .permit).withCondition .whenTrue (.lit (.long 1) none)

/-- A forbid on one action. -/
def closedAction : Policy :=
  (Policy.unconstrained "closed" .forbid).withScope .action (.eq ⟨⟨"Action"⟩, "delete"⟩)

/-- A request for the action that is forbidden. -/
def deletion : Request :=
  ⟨⟨⟨"User"⟩, "carol"⟩, ⟨⟨"Action"⟩, "delete"⟩, ⟨⟨"File"⟩, "notes"⟩, []⟩

/-- A permission is joined with a denial: the forbid is the reason, and the error of the
permit that fails stays. -/
theorem authorize_append_deletion :
    ∃ s t u, PolicySet.ofPolicies [openDoor, brokenPermit] = .ok s ∧
      PolicySet.ofPolicies [closedAction] = .ok t ∧
      PolicySet.ofPolicies [openDoor, brokenPermit, closedAction] = .ok u ∧
      (authorize deletion s (Entities.toStore ⟨[]⟩)).decision = .allow ∧
      Response.Joins (authorize deletion s (Entities.toStore ⟨[]⟩))
        (authorize deletion t (Entities.toStore ⟨[]⟩))
        (authorize deletion u (Entities.toStore ⟨[]⟩)) ∧
      (authorize deletion u (Entities.toStore ⟨[]⟩)).reasons = ["closed"] ∧
      (authorize deletion u (Entities.toStore ⟨[]⟩)).errors.map (·.policy) = ["broken"] := by
  have hn : (([openDoor, brokenPermit] ++ [closedAction]).map (·.id)).Nodup := by decide
  obtain ⟨s, t, u, hs, ht, hu, hkey⟩ := authorize_append hn
  have hjoin := ((hkey deletion (Entities.toStore ⟨[]⟩)).1 _).2 rfl
  refine ⟨s, t, u, hs, ht, hu, ?_, hjoin, ?_, ?_⟩
  · rw [authorize, PolicySet.judge, PolicySet.policies_of_ofPolicies hs]
    rfl
  · rw [authorize, PolicySet.judge, PolicySet.policies_of_ofPolicies hu]
    rfl
  · rw [authorize, PolicySet.judge, PolicySet.policies_of_ofPolicies hu]
    rfl

end AccessPolicy
