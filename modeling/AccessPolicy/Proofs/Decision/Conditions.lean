/-
The order of the conditions of a policy.

* `Policy.SameConditions`: two policies that differ at most in the order of their conditions and
  in how often each of them stands there;
* `SameConditions.satisfied_iff`: one of them is satisfied exactly if the other is, for the
  conditions hold if each of them passes, whatever the order in which they are looked at;
* `OwnErrors`: what a response reports of a policy is raised by one of the conditions of the
  policy, and only if they do not all pass;
* `conditions_unordered`: so rearranged conditions change neither the decision nor the reasons.

Which condition is looked at does depend on the order, because the first that does not pass ends
the search. So the errors may change, and a policy that failed may become one that is merely not
satisfied; but neither is satisfied, and it is from the satisfied policies that the decision is
made.
-/
import AccessPolicy.Proofs.Decision.Concatenation
import AccessPolicy.Proofs.Decision.Folding
import AccessPolicy.Proofs.Decision.Rule

namespace AccessPolicy

/-! ### One policy -/

/-- A condition that raises an error does not pass. -/
lemma Condition.Raises.not_passes {env : Env} {c : Condition} {e : EvalError}
    (h : c.Raises env e) : ¬ c.Passes env := by
  intro hp
  rw [Passes] at hp
  rcases h with h | ⟨h, hv⟩
  · rw [h] at hp
    cases hp
  · rw [h] at hp
    obtain rfl := Except.ok.inj hp
    exact hv rfl

namespace Policy

/-- The second policy is the first with its conditions in another order, or with some of them
more or less often. -/
structure SameConditions (p q : Policy) : Prop where
  id : q.id = p.id
  effect : q.effect = p.effect
  scope : ∀ slot, q.scope slot = p.scope slot
  conditions : ∀ c, c ∈ q.conditions ↔ c ∈ p.conditions

variable {env : Env} {p q : Policy}

/-- **A policy is satisfied whatever the order of its conditions.** -/
lemma SameConditions.satisfied_iff (h : p.SameConditions q) :
    q.Satisfied env ↔ p.Satisfied env := by
  have happlies : q.Applies env ↔ p.Applies env := by
    simp only [Applies, h.scope]
  have hpasses : (∀ c ∈ q.conditions, c.Passes env) ↔ ∀ c ∈ p.conditions, c.Passes env := by
    simp only [h.conditions]
  constructor
  · exact fun hq => ⟨happlies.1 hq.applies, hpasses.1 hq.passes⟩
  · exact fun hp => ⟨happlies.2 hp.applies, hpasses.2 hp.passes⟩

/-- The error of an erring policy is raised by one of its conditions. -/
lemma Erring.exists_raises {e : EvalError} (h : p.Erring env e) :
    ∃ c ∈ p.conditions, c.Raises env e := by
  obtain ⟨before, c, after, hcs, -, hc⟩ := h.first
  exact ⟨c, hcs ▸ List.mem_append_right _ List.mem_cons_self, hc⟩

end Policy

/-! ### Sets of policies -/

/-- What stands in the second of two lists that are related one by one has a counterpart in the
first. -/
lemma exists_of_forall₂_right {α β : Type} {R : α → β → Prop} {as : List α} {bs : List β}
    (h : List.Forall₂ R as bs) {b : β} (hb : b ∈ bs) : ∃ a ∈ as, R a b := by
  induction h with
  | nil => exact absurd hb List.not_mem_nil
  | @cons a _ as _ hab _ ih =>
      rcases List.mem_cons.1 hb with rfl | hb
      · exact ⟨a, List.mem_cons_self, hab⟩
      · obtain ⟨c, hc, hcb⟩ := ih hb
        exact ⟨c, List.mem_cons_of_mem a hc, hcb⟩

/-- The satisfied policies of a list are those of a list with the same conditions. -/
lemma satisfiedId_iff {env : Env} {ps qs : List Policy}
    (h : List.Forall₂ Policy.SameConditions ps qs) {effect : Effect} {id : PolicyId} :
    SatisfiedId env qs effect id ↔ SatisfiedId env ps effect id := by
  induction h with
  | nil => rfl
  | @cons p q ps qs hpq _ ih =>
      simp only [SatisfiedId] at ih ⊢
      rw [List.exists_mem_cons_iff, List.exists_mem_cons_iff, ih, hpq.effect,
        hpq.satisfied_iff, hpq.id]

/-- What a response reports of a policy of a set is raised by one of the conditions of the
policy, and its conditions do not all pass. -/
def OwnErrors (env : Env) (s : PolicySet) (r : Response) : Prop :=
  ∀ p ∈ s.policies, ∀ e, ⟨p.id, e⟩ ∈ r.errors →
    (∃ c ∈ p.conditions, c.Raises env e) ∧ ¬ ∀ c ∈ p.conditions, c.Passes env

/-- What is reported is the error of an erring policy. -/
lemma mem_errors_iff {request : Request} {store : Store} {s : PolicySet} {id : PolicyId}
    {e : EvalError} : ⟨id, e⟩ ∈ (authorize request s store).errors ↔
      ∃ p ∈ s.policies, p.id = id ∧ p.Erring ⟨request, store⟩ e := by
  rw [authorize, errors_ofJudged, PolicySet.judge, List.filterMap_map, List.mem_filterMap]
  refine exists_congr fun p => and_congr_right fun _ => ?_
  rw [Policy.erring_iff, Function.comp_apply]
  cases p.verdict ⟨request, store⟩ with
  | failed f => simp [policyError?]
  | _ => simp [policyError?]

section Rearranged

variable {s t : PolicySet} {request : Request} {store : Store}

/-- Policies with the same conditions give the same decision for the same reasons. -/
lemma outcome_of_sameConditions (h : List.Forall₂ Policy.SameConditions s.policies t.policies) :
    (authorize request t store).decision = (authorize request s store).decision ∧
      (authorize request t store).reasons = (authorize request s store).reasons :=
  ofJudged_congr fun _ =>
    Ascending.eq_of_mem_iff (Ascending.isAscending_ofList _) (Ascending.isAscending_ofList _)
      fun _ => mem_satisfiedIds.trans ((satisfiedId_iff h).trans mem_satisfiedIds.symm)

/-- With the same conditions, no policy is reported for an error of another one. -/
lemma ownErrors_of_sameConditions (hs : s.Built)
    (h : List.Forall₂ Policy.SameConditions s.policies t.policies) :
    OwnErrors ⟨request, store⟩ s (authorize request t store) := by
  intro p hp e he
  obtain ⟨q, hq, hid, herr⟩ := mem_errors_iff.1 he
  obtain ⟨p', hp', hsame⟩ := exists_of_forall₂_right h hq
  have heq : p' = p := hs.consistent.eq_of_id_eq hp' hp (hsame.id.symm.trans hid)
  subst heq
  obtain ⟨c, hc, hraises⟩ := herr.exists_raises
  have hmem := (hsame.conditions c).1 hc
  exact ⟨⟨c, hmem, hraises⟩, fun hall => hraises.not_passes (hall c hmem)⟩

end Rearranged

/-- **The order of conditions does not matter to the outcome.** The conditions of a policy hold
exactly if each of them passes, evaluated by itself. Policies with the same conditions make a set
again, and every request has the same decision for the same reasons. The errors may be others,
but what is reported of a policy, before and after, is raised by one of its own conditions, and
only if these do not all pass. -/
theorem conditions_unordered :
    (∀ (p : Policy) (env : Env),
      conditionsHold env p.conditions = .ok true ↔ ∀ c ∈ p.conditions, c.Passes env) ∧
    ∀ s : PolicySet, s.Built →
      (∀ (request : Request) (store : Store),
        OwnErrors ⟨request, store⟩ s (authorize request s store)) ∧
      ∀ qs : List Policy, List.Forall₂ Policy.SameConditions s.policies qs →
        ∃ t, PolicySet.ofPolicies qs = .ok t ∧ ∀ (request : Request) (store : Store),
          (authorize request t store).decision = (authorize request s store).decision ∧
          (authorize request t store).reasons = (authorize request s store).reasons ∧
          OwnErrors ⟨request, store⟩ s (authorize request t store) := by
  refine ⟨fun p env => conditionsHold_eq_ok_true_iff, fun s hs => ⟨fun request store => ?_,
    fun qs h => ?_⟩⟩
  · exact ownErrors_of_sameConditions hs
      (List.forall₂_same.2 fun _ _ => ⟨rfl, rfl, fun _ => rfl, fun _ => Iff.rfl⟩)
  · have hids : qs.map (·.id) = s.ids := map_eq_of_forall₂ (h.imp fun _ _ hpq => hpq.id)
    obtain ⟨t, ht⟩ := PolicySet.exists_ofPolicies (hids ▸ hs.consistent.nodup_ids)
    rw [← PolicySet.policies_of_ofPolicies ht] at h
    refine ⟨t, ht, fun request store => ?_⟩
    obtain ⟨hdecision, hreasons⟩ := @outcome_of_sameConditions s t request store h
    exact ⟨hdecision, hreasons, ownErrors_of_sameConditions hs h⟩

/-- A condition that is no Boolean. -/
def brokenCondition : Condition := ⟨.whenTrue, .lit (.long 1) none⟩

/-- A condition that is not met. -/
def unmetCondition : Condition := ⟨.whenFalse, .lit (.bool true) none⟩

/-- A permit with the conditions of a list. -/
def permitIf (cs : List Condition) : Policy :=
  { Policy.unconstrained "conditional" .permit with conditions := cs }

/-- The condition that is not met, moved to the front and repeated, hides the error of the other
one; the decision is that of the other permit, before and after. -/
theorem conditions_unordered_hidden :
    ∃ s t, PolicySet.ofPolicies [permitIf [brokenCondition, unmetCondition], openDoor] = .ok s ∧
      PolicySet.ofPolicies
        [permitIf [unmetCondition, brokenCondition, unmetCondition], openDoor] = .ok t ∧
      (authorize plainRequest s (Entities.toStore ⟨[]⟩)).errors.map (·.policy) =
        ["conditional"] ∧
      (authorize plainRequest t (Entities.toStore ⟨[]⟩)).errors = [] ∧
      (authorize plainRequest t (Entities.toStore ⟨[]⟩)).decision = .allow ∧
      ∀ (request : Request) (store : Store),
        (authorize request t store).decision = (authorize request s store).decision ∧
        (authorize request t store).reasons = (authorize request s store).reasons ∧
        OwnErrors ⟨request, store⟩ s (authorize request t store) := by
  have hn : ([permitIf [brokenCondition, unmetCondition], openDoor].map (·.id)).Nodup := by decide
  obtain ⟨s, hs⟩ := PolicySet.exists_ofPolicies hn
  have hsp := PolicySet.policies_of_ofPolicies hs
  have hsame : List.Forall₂ Policy.SameConditions s.policies
      [permitIf [unmetCondition, brokenCondition, unmetCondition], openDoor] := by
    rw [hsp]
    refine .cons ⟨rfl, rfl, fun _ => rfl, fun c => ?_⟩
      (.cons ⟨rfl, rfl, fun _ => rfl, fun _ => Iff.rfl⟩ .nil)
    simp only [permitIf, List.mem_cons, List.not_mem_nil]
    tauto
  obtain ⟨t, ht, hkey⟩ := (conditions_unordered.2 s (.ofPolicies hs)).2 _ hsame
  have htp := PolicySet.policies_of_ofPolicies ht
  refine ⟨s, t, hs, ht, ?_, ?_, ?_, hkey⟩
  · rw [authorize, PolicySet.judge, hsp]
    rfl
  · rw [authorize, PolicySet.judge, htp]
    rfl
  · rw [authorize, PolicySet.judge, htp]
    rfl

end AccessPolicy
