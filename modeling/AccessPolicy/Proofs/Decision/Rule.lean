/-
The rule by which requests are decided.

* `Condition.Passes`, `Condition.Raises`: what becomes of one condition, said in
  terms of the evaluation of its body;
* `Policy.Satisfied`, `Policy.Erring`: a policy whose scopes admit the request is
  satisfied if all its conditions pass, and erring if the first condition that
  does not pass raises an error;
* `Reports`: the errors of the erring policies of a list, one for each of them,
  in the order of the list;
* `FollowsRule`: the rule itself. A satisfied forbid denies, otherwise a
  satisfied permit allows, otherwise the request is denied; the reasons are the
  ids of the policies that determined the decision;
* `authorize_followsRule`: the response to every request follows the rule.

The way there is from the conditions, which are read one by one
(`conditionsHold_eq_ok_true_iff`, `conditionsHold_eq_error_iff`), to the verdict
of one policy, and from there to the lists that the response is made of.
-/
import AccessPolicy.Decision.Authorize
import AccessPolicy.Proofs.Expr.Truth
import AccessPolicy.Proofs.Policy.Additions
import Mathlib.Tactic.Common

namespace AccessPolicy

/-! ### One condition -/

/-- The Boolean that a condition of this kind asks for. -/
def ConditionKind.wanted : ConditionKind → Bool
  | .whenTrue => true
  | .whenFalse => false

/-- A condition passes exactly if its body has the Boolean that is asked for. -/
lemma ConditionKind.passes_iff {k : ConditionKind} {b : Bool} :
    k.passes b = true ↔ b = k.wanted := by
  cases k <;> simp [passes, wanted]

namespace Condition

/-- The body evaluates to the Boolean that the condition asks for. -/
def Passes (env : Env) (c : Condition) : Prop :=
  c.body.eval env = .ok (.bool c.kind.wanted)

/-- The body fails, or evaluates to something that is no Boolean; this is the
error that is reported. -/
inductive Raises (env : Env) (c : Condition) : EvalError → Prop
  | failed {f : Failure} (h : c.body.eval env = .error f) : Raises env c f.report
  | notBool {v : Value} (h : c.body.eval env = .ok v) (hv : v.kind ≠ .bool) :
      Raises env c ((EvalError.typeMismatch "bool" v.kind.name).blame c.body.loc)

/-- A condition raises what is reported of the failure of its body where a Boolean
is needed. -/
lemma raises_iff {env : Env} {c : Condition} {e : EvalError} :
    c.Raises env e ↔ ∃ f, c.body.evalBool env = .error f ∧ f.report = e := by
  constructor
  · rintro (h | ⟨h, hv⟩)
    · exact ⟨_, Expr.evalBool_eq_error_iff.2 (.inl h), rfl⟩
    · exact ⟨_, Expr.evalBool_eq_error_iff.2 (.inr ⟨_, h, hv, rfl⟩), rfl⟩
  · rintro ⟨f, hf, rfl⟩
    rcases Expr.evalBool_eq_error_iff.1 hf with h | ⟨v, h, hv, rfl⟩
    · exact .failed h
    · exact .notBool h hv

end Condition

/-! ### The conditions of a policy -/

/-- The conditions hold exactly if each of them passes. -/
lemma conditionsHold_eq_ok_true_iff {env : Env} {cs : List Condition} :
    conditionsHold env cs = .ok true ↔ ∀ c ∈ cs, c.Passes env := by
  induction cs with
  | nil => simp [conditionsHold]
  | cons c cs ih =>
      rw [List.forall_mem_cons, Condition.Passes, ← Expr.evalBool_eq_ok_iff, conditionsHold]
      cases hb : c.body.evalBool env with
      | error f => simp [Bind.bind, Except.bind]
      | ok b =>
          show (if c.kind.passes b then conditionsHold env cs else .ok false) = _ ↔ _
          rw [Except.ok.injEq, ← ConditionKind.passes_iff]
          split
          · simp_all
          · simp_all

/-- The conditions fail exactly if the first of them that does not pass fails, and
then with its failure. -/
lemma conditionsHold_eq_error_iff {env : Env} {cs : List Condition} {f : Failure} :
    conditionsHold env cs = .error f ↔ ∃ before c after, cs = before ++ c :: after ∧
      (∀ b ∈ before, b.Passes env) ∧ c.body.evalBool env = .error f := by
  induction cs with
  | nil => simp [conditionsHold]
  | cons c cs ih =>
      rw [conditionsHold]
      constructor
      · intro h
        cases hb : c.body.evalBool env with
        | error g =>
            rw [hb] at h
            exact ⟨[], c, cs, rfl, by simp, by rw [hb]; exact h⟩
        | ok b =>
            rw [hb] at h
            change (if c.kind.passes b then conditionsHold env cs else .ok false) = _ at h
            split at h
            · rename_i hp
              obtain ⟨before, d, after, rfl, hall, hd⟩ := ih.1 h
              refine ⟨c :: before, d, after, rfl, ?_, hd⟩
              rw [List.forall_mem_cons, Condition.Passes, ← Expr.evalBool_eq_ok_iff, hb,
                ConditionKind.passes_iff.1 hp]
              exact ⟨rfl, hall⟩
            · cases h
      · rintro ⟨before, d, after, hcs, hall, hd⟩
        cases before with
        | nil =>
            obtain ⟨rfl, rfl⟩ := List.cons.inj hcs
            rw [hd]
            rfl
        | cons b before =>
            obtain ⟨rfl, rfl⟩ := List.cons.inj hcs
            rw [List.forall_mem_cons] at hall
            rw [Expr.evalBool_eq_ok_iff.2 hall.1]
            show (if c.kind.passes c.kind.wanted then _ else _) = _
            rw [if_pos (ConditionKind.passes_iff.2 rfl)]
            exact ih.2 ⟨before, d, after, rfl, hall.2, hd⟩

/-! ### One policy -/

namespace Policy

/-- All three scopes of a policy admit the request. -/
def Applies (env : Env) (p : Policy) : Prop :=
  ∀ slot, (p.scope slot).admits env.store (env.request.entity slot) = true

/-- The scopes admit the request and every condition passes. -/
structure Satisfied (env : Env) (p : Policy) : Prop where
  applies : p.Applies env
  passes : ∀ c ∈ p.conditions, c.Passes env

/-- The scopes admit the request, and the first condition that does not pass raises
the error. -/
structure Erring (env : Env) (p : Policy) (e : EvalError) : Prop where
  applies : p.Applies env
  first : ∃ before c after, p.conditions = before ++ c :: after ∧
    (∀ b ∈ before, b.Passes env) ∧ c.Raises env e

/-- A request is rejected in no slot exactly if the policy applies. -/
lemma rejectedBy?_eq_none_iff_applies {env : Env} {p : Policy} :
    p.rejectedBy? env.store env.request = none ↔ p.Applies env := by
  rw [rejectedBy?, List.find?_eq_none]
  constructor
  · intro h slot
    have hs := h slot (by cases slot <;> simp [Slot.all])
    simpa using hs
  · intro h slot _
    simpa using h slot

/-- The verdict on a policy that applies is that of its conditions. -/
lemma verdict_of_applies {env : Env} {p : Policy} (h : p.Applies env) :
    p.verdict env = match conditionsHold env p.conditions with
      | .ok true => .satisfied
      | .ok false => .unsatisfied
      | .error f => .failed f := by
  have hnone := rejectedBy?_eq_none_iff_applies.2 h
  rw [verdict]
  split
  · rename_i slot hs
    rw [hnone] at hs
    cases hs
  · rfl

/-- The verdict on a policy that does not apply is that it is skipped. -/
lemma verdict_of_not_applies {env : Env} {p : Policy} (h : ¬ p.Applies env) :
    ∃ slot, p.verdict env = .skipped slot := by
  rw [← rejectedBy?_eq_none_iff_applies, ← ne_eq, Option.ne_none_iff_exists'] at h
  obtain ⟨slot, hs⟩ := h
  exact ⟨slot, by rw [verdict, hs]⟩

/-- **The verdict is that a policy is satisfied exactly if it is.** -/
lemma verdict_eq_satisfied_iff {env : Env} {p : Policy} :
    p.verdict env = .satisfied ↔ p.Satisfied env := by
  by_cases ha : p.Applies env
  · have hc : p.verdict env = .satisfied ↔ conditionsHold env p.conditions = .ok true := by
      rw [verdict_of_applies ha]
      split <;> simp_all
    rw [hc, conditionsHold_eq_ok_true_iff]
    exact ⟨fun h => ⟨ha, h⟩, fun h => h.passes⟩
  · obtain ⟨slot, hs⟩ := verdict_of_not_applies ha
    rw [hs]
    exact ⟨fun h => (by cases h), fun h => absurd h.applies ha⟩

/-- **The verdict is a failure exactly if the policy is erring**, and the error of
the policy is what is reported of the failure. -/
lemma erring_iff {env : Env} {p : Policy} {e : EvalError} :
    p.Erring env e ↔ ∃ f, p.verdict env = .failed f ∧ f.report = e := by
  by_cases ha : p.Applies env
  · have hc : ∀ f, p.verdict env = .failed f ↔ conditionsHold env p.conditions = .error f := by
      intro f
      rw [verdict_of_applies ha]
      split <;> simp_all
    simp only [hc, conditionsHold_eq_error_iff]
    constructor
    · rintro ⟨-, before, c, after, hcs, hall, hr⟩
      obtain ⟨f, hf, he⟩ := Condition.raises_iff.1 hr
      exact ⟨f, ⟨before, c, after, hcs, hall, hf⟩, he⟩
    · rintro ⟨f, ⟨before, c, after, hcs, hall, hf⟩, he⟩
      exact ⟨ha, before, c, after, hcs, hall, Condition.raises_iff.2 ⟨f, hf, he⟩⟩
  · obtain ⟨slot, hs⟩ := verdict_of_not_applies ha
    rw [hs]
    exact ⟨fun h => absurd h.applies ha, fun ⟨f, hf, _⟩ => (by cases hf)⟩

/-- A policy that is erring is not satisfied. -/
lemma Erring.not_satisfied {env : Env} {p : Policy} {e : EvalError} (h : p.Erring env e) :
    ¬ p.Satisfied env := by
  obtain ⟨f, hf, -⟩ := erring_iff.1 h
  intro hs
  rw [verdict_eq_satisfied_iff.2 hs] at hf
  cases hf

end Policy

/-! ### The rule -/

/-- A policy of the list with this effect and this id is satisfied. -/
def SatisfiedId (env : Env) (ps : List Policy) (effect : Effect) (id : PolicyId) : Prop :=
  ∃ p ∈ ps, p.effect = effect ∧ p.Satisfied env ∧ p.id = id

/-- The errors of the erring policies of a list: one for each of them, in their
order, and none for another policy. -/
inductive Reports (env : Env) : List Policy → List PolicyError → Prop
  | nil : Reports env [] []
  | erring {p : Policy} {e : EvalError} {ps : List Policy} {es : List PolicyError}
      (h : p.Erring env e) (hs : Reports env ps es) : Reports env (p :: ps) (⟨p.id, e⟩ :: es)
  | silent {p : Policy} {ps : List Policy} {es : List PolicyError}
      (h : ∀ e, ¬ p.Erring env e) (hs : Reports env ps es) : Reports env (p :: ps) es

/-- **The rule by which a list of policies is combined to a response.** -/
structure FollowsRule (env : Env) (ps : List Policy) (r : Response) : Prop where
  /-- A satisfied forbid denies, and the satisfied forbids are the reasons. -/
  forbidden : (∃ id, SatisfiedId env ps .forbid id) →
    r.decision = .deny ∧ ∀ id, id ∈ r.reasons ↔ SatisfiedId env ps .forbid id
  /-- Otherwise a satisfied permit allows, and the satisfied permits are the reasons. -/
  permitted : (¬ ∃ id, SatisfiedId env ps .forbid id) →
    (∃ id, SatisfiedId env ps .permit id) →
      r.decision = .allow ∧ ∀ id, id ∈ r.reasons ↔ SatisfiedId env ps .permit id
  /-- Otherwise the request is denied without a reason. -/
  otherwise : (¬ ∃ id, SatisfiedId env ps .forbid id) →
    (¬ ∃ id, SatisfiedId env ps .permit id) → r.decision = .deny ∧ r.reasons = []
  /-- The reasons are a set in its canonical form. -/
  reasons_ascending : Ascending.IsAscending r.reasons
  /-- The errors are those of the erring policies, whatever the decision is. -/
  errors : Reports env ps r.errors
  /-- No policy is reported twice. -/
  errors_nodup : (r.errors.map (·.policy)).Nodup
  /-- No reason is reported as an error. -/
  not_reported : ∀ id ∈ r.reasons, id ∉ r.errors.map (·.policy)

/-! ### What the judged policies give -/

variable {env : Env} {s : PolicySet}

/-- A satisfied policy is one that is judged so. -/
lemma mem_satisfiedIds {effect : Effect} {id : PolicyId} :
    id ∈ satisfiedIds effect (s.judge env) ↔ SatisfiedId env s.policies effect id := by
  rw [satisfiedIds, Ascending.mem_ofList, PolicySet.judge, List.filterMap_map,
    List.mem_filterMap]
  refine exists_congr fun p => and_congr_right fun _ => ?_
  rw [← Policy.verdict_eq_satisfied_iff, Function.comp_apply]
  cases p.verdict env with
  | satisfied => simp [satisfiedId?]
  | _ => simp [satisfiedId?]

/-- There is a satisfied id exactly if the list of them is not empty. -/
lemma satisfiedIds_ne_nil_iff {effect : Effect} :
    satisfiedIds effect (s.judge env) ≠ [] ↔ ∃ id, SatisfiedId env s.policies effect id := by
  simp only [ne_eq, List.eq_nil_iff_forall_not_mem, mem_satisfiedIds, not_forall, not_not]

/-- The errors of judged policies are those of the erring ones. -/
lemma reports_judge (env : Env) (ps : List Policy) :
    Reports env ps ((ps.map fun p => (p, p.verdict env)).filterMap policyError?) := by
  induction ps with
  | nil => exact .nil
  | cons p ps ih =>
      rw [List.map_cons, List.filterMap_cons]
      cases hv : p.verdict env with
      | failed f => exact .erring (Policy.erring_iff.2 ⟨f, hv, rfl⟩) ih
      | _ =>
          refine .silent (fun e he => ?_) ih
          obtain ⟨f, hf, -⟩ := Policy.erring_iff.1 he
          rw [hv] at hf
          cases hf

namespace Reports

variable {ps : List Policy} {es : List PolicyError}

/-- The reported ids are ids of the list, in its order. -/
lemma ids_sublist (h : Reports env ps es) :
    (es.map (·.policy)).Sublist (ps.map (·.id)) := by
  induction h with
  | nil => exact .slnil
  | erring _ _ ih => exact ih.cons_cons _
  | silent _ _ ih => exact ih.cons _

/-- A reported id is that of an erring policy. -/
lemma exists_erring (h : Reports env ps es) {id : PolicyId} (hid : id ∈ es.map (·.policy)) :
    ∃ p ∈ ps, p.id = id ∧ ∃ e, p.Erring env e := by
  induction h with
  | nil => simp at hid
  | erring he _ ih =>
      rcases List.mem_cons.1 hid with rfl | hid
      · exact ⟨_, List.mem_cons_self, rfl, _, he⟩
      · obtain ⟨p, hp, h⟩ := ih hid
        exact ⟨p, List.mem_cons_of_mem _ hp, h⟩
  | silent _ _ ih =>
      obtain ⟨p, hp, h⟩ := ih hid
      exact ⟨p, List.mem_cons_of_mem _ hp, h⟩

end Reports

/-- Two policies of a set with one id are one policy. -/
lemma PolicySet.Consistent.eq_of_id_eq (h : s.Consistent) {p q : Policy}
    (hp : p ∈ s.policies) (hq : q ∈ s.policies) (hid : p.id = q.id) : p = q :=
  List.inj_on_of_nodup_map h.nodup_ids hp hq hid

/-! ### The response -/

/-- The reasons of a response are satisfied ids. -/
lemma exists_of_mem_reasons {id : PolicyId}
    (h : id ∈ (Response.ofJudged (s.judge env)).reasons) :
    ∃ effect, SatisfiedId env s.policies effect id := by
  rw [Response.ofJudged] at h
  split at h
  · exact ⟨.forbid, mem_satisfiedIds.1 h⟩
  · split at h
    · exact ⟨.permit, mem_satisfiedIds.1 h⟩
    · cases h

/-- **The response to a request follows the rule**, for every set of policies that
is made by additions and for every store. -/
theorem authorize_followsRule {s : PolicySet} (hs : s.Built) (request : Request)
    (store : Store) :
    FollowsRule ⟨request, store⟩ s.policies (authorize request s store) := by
  have hc := hs.consistent
  have herrors : Reports ⟨request, store⟩ s.policies (authorize request s store).errors := by
    rw [authorize, errors_ofJudged]
    exact reports_judge _ _
  refine ⟨?_, ?_, ?_, ?_, herrors, ?_, ?_⟩
  · intro hf
    rw [authorize, ofJudged_of_forbid (satisfiedIds_ne_nil_iff.2 hf)]
    exact ⟨rfl, fun id => mem_satisfiedIds⟩
  · intro hf hp
    rw [← satisfiedIds_ne_nil_iff] at hf hp
    rw [authorize, Response.ofJudged, if_neg hf, if_pos hp]
    exact ⟨rfl, fun id => mem_satisfiedIds⟩
  · intro hf hp
    rw [← satisfiedIds_ne_nil_iff] at hf hp
    rw [authorize, Response.ofJudged, if_neg hf, if_neg hp]
    exact ⟨rfl, rfl⟩
  · rw [authorize, Response.ofJudged]
    split
    · exact Ascending.isAscending_ofList _
    · split
      · exact Ascending.isAscending_ofList _
      · exact List.Pairwise.nil
  · exact hc.nodup_ids.sublist herrors.ids_sublist
  · intro id hr he
    obtain ⟨effect, p, hp, -, hsat, hpid⟩ := exists_of_mem_reasons hr
    obtain ⟨q, hq, hqid, e, herr⟩ := herrors.exists_erring he
    have hpq : p = q := hc.eq_of_id_eq hp hq (hpid.trans hqid.symm)
    subst hpq
    exact herr.not_satisfied hsat

/-- A permit whose condition overflows. -/
def overflowingPermit : Policy :=
  (Policy.unconstrained "overflowing" .permit).withCondition .whenTrue
    (.binary (.arith .add) (.lit (.long 9223372036854775807) none) (.lit (.long 1) none) none)

/-- A forbid about every request. -/
def blanketForbid : Policy := Policy.unconstrained "always" .forbid

/-- A request without a context. -/
def plainRequest : Request :=
  ⟨⟨⟨"User"⟩, "alice"⟩, ⟨⟨"Action"⟩, "view"⟩, ⟨⟨"Photo"⟩, "vacation"⟩, []⟩

/-- A permit that fails beside a satisfied forbid: the forbid is the reason, and the
permit is reported. -/
theorem authorize_followsRule_overflow :
    ∃ s, PolicySet.ofPolicies [overflowingPermit, blanketForbid] = .ok s ∧
      FollowsRule ⟨plainRequest, Entities.toStore ⟨[]⟩⟩ s.policies
        (authorize plainRequest s (Entities.toStore ⟨[]⟩)) ∧
      (authorize plainRequest s (Entities.toStore ⟨[]⟩)).reasons = ["always"] ∧
      (authorize plainRequest s (Entities.toStore ⟨[]⟩)).errors.map (·.policy) =
        ["overflowing"] := by
  have hn : ([overflowingPermit, blanketForbid].map (·.id)).Nodup := by decide
  obtain ⟨s, hs⟩ := PolicySet.exists_ofPolicies hn
  have hp := PolicySet.policies_of_ofPolicies hs
  refine ⟨s, hs, authorize_followsRule (.ofPolicies hs) _ _, ?_, ?_⟩
  · rw [authorize, PolicySet.judge, hp]
    rfl
  · rw [authorize, PolicySet.judge, hp]
    rfl

end AccessPolicy
