/-
A policy as one expression.

* `Scope.toExpr`, `Condition.toExpr`, `Policy.toExpr`: scopes and conditions in the
  language of expressions, joined to one conjunction without positions of its own;
* `Policy.folded`: the policy about every request whose only condition is that
  expression;
* `evalBool_toExpr`: the expression gives exactly what the policy gives, so that
  matching of scopes and chaining of conditions are conjunction. A policy that is
  skipped gives false;
* `authorize_eq_of_folded`: policies may be folded anywhere in a set, and no
  response changes.
-/
import AccessPolicy.Decision.Authorize
import AccessPolicy.Proofs.Expr.Truth
import AccessPolicy.Proofs.Policy.Additions
import Mathlib.Data.List.Forall2
import Mathlib.Data.Set.List
import Mathlib.Tactic.Common

namespace AccessPolicy

/-! ### Policies as expressions -/

/-- The variable that a slot is about. -/
def Slot.var : Slot → Var
  | .principal => .principal
  | .action => .action
  | .resource => .resource

/-- An identity as an expression. -/
def EntityUid.toExpr (uid : EntityUid) : Expr := .lit (.entity uid) none

/-- A scope as an expression about a variable. -/
def Scope.toExpr (x : Var) : Scope → Expr
  | .any => .lit (.bool true) none
  | .eq uid => .binary .eq (.var x none) uid.toExpr none
  | .isIn uid => .binary .isIn (.var x none) uid.toExpr none
  | .inSet uids => .binary .isIn (.var x none) (.set (uids.map (·.toExpr)) none) none
  | .isType type => .isType (.var x none) type none
  | .isTypeIn type uid => .isTypeIn (.var x none) type uid.toExpr none

/-- A condition as an expression. -/
def Condition.toExpr (c : Condition) : Expr :=
  match c.kind with
  | .whenTrue => c.body
  | .whenFalse => .not c.body none

/-- The conjunction of conditions, in their order. -/
def conjunction : List Condition → Expr
  | [] => .lit (.bool true) none
  | c :: cs => .and c.toExpr (conjunction cs) none

namespace Policy

/-- A policy as an expression: the three scopes, then the conditions. -/
def toExpr (p : Policy) : Expr :=
  .and (p.principal.toExpr .principal)
    (.and (p.action.toExpr .action)
      (.and (p.resource.toExpr .resource) (conjunction p.conditions) none) none) none

/-- The policy about every request, with the expression of a policy as its only
condition. -/
def folded (p : Policy) : Policy :=
  (unconstrained p.id p.effect).withCondition .whenTrue p.toExpr

end Policy

/-! ### Scopes -/

/-- Identities among the elements of a set are read as they are. -/
lemma mapM_asMember (us : List EntityUid) :
    (us.map Value.entity).mapM Value.asMember = .ok us := by
  induction us with
  | nil => rfl
  | cons u us ih =>
      rw [List.map_cons, List.mapM_cons, ih]
      rfl

/-- Identities as expressions evaluate to themselves. -/
lemma evalAll_toExpr (env : Env) (us : List EntityUid) :
    Expr.evalAll env (us.map (·.toExpr)) = .ok (us.map Value.entity) := by
  induction us with
  | nil => rfl
  | cons u us ih =>
      rw [List.map_cons, Expr.evalAll, ih]
      rfl

/-- A set of identities holds identities only. -/
lemma exists_ofList_eq_map (us : List EntityUid) :
    ∃ vs : List EntityUid, Ascending.ofList (us.map Value.entity) = vs.map Value.entity ∧
      ∀ v, v ∈ vs ↔ v ∈ us := by
  have hall : ∀ x ∈ Ascending.ofList (us.map Value.entity), x ∈ Set.range Value.entity := by
    intro x hx
    obtain ⟨u, -, rfl⟩ := List.mem_map.1 (Ascending.mem_ofList.1 hx)
    exact ⟨u, rfl⟩
  obtain ⟨vs, hvs⟩ :
      Ascending.ofList (us.map Value.entity) ∈ Set.range (List.map Value.entity) := by
    rw [Set.range_list_map]
    exact hall
  refine ⟨vs, hvs.symm, fun v => ?_⟩
  have hinj : Function.Injective Value.entity := fun a b h => Value.entity.inj h
  rw [← List.mem_map_of_injective hinj, hvs, Ascending.mem_ofList,
    List.mem_map_of_injective hinj]

/-- A binary node gives what its operator makes of the operands. -/
lemma eval_binary {env : Env} {l r : Expr} {a b : Value} (op : BinaryOp)
    (hl : l.eval env = .ok a) (hr : r.eval env = .ok b) :
    (Expr.binary op l r none).eval env = raise (op.apply env.store a b) := by
  rw [Expr.eval, located_none, hl, hr]
  rfl

/-- An identity lies in a set of identities if it lies in one of them. -/
lemma isInTarget_setOf (store : Store) (uid : EntityUid) (us : List EntityUid) :
    isInTarget store uid (Value.setOf (us.map Value.entity)) =
      .ok (.bool (us.any (store.isIn uid))) := by
  obtain ⟨vs, hvs, hmem⟩ := exists_ofList_eq_map us
  have hany : vs.any (store.isIn uid) = us.any (store.isIn uid) := by
    rw [Bool.eq_iff_iff, List.any_eq_true, List.any_eq_true]
    exact exists_congr fun v => and_congr_left fun _ => hmem v
  rw [Value.setOf, hvs, isInTarget, mapM_asMember, ← hany]
  rfl

/-- **A scope as an expression gives whether the scope admits the entity.** -/
lemma evalBool_scope (env : Env) (slot : Slot) (scope : Scope) :
    (scope.toExpr slot.var).evalBool env =
      .ok (scope.admits env.store (env.request.entity slot)) := by
  rw [Expr.evalBool_eq_ok_iff]
  have hvar : (Expr.var slot.var none).eval env = .ok (.entity (env.request.entity slot)) := by
    cases slot <;> rfl
  have huid : ∀ uid : EntityUid, uid.toExpr.eval env = .ok (.entity uid) := fun _ => rfl
  cases scope with
  | any => rfl
  | eq uid =>
      have hbeq : (Value.entity (env.request.entity slot) == .entity uid) =
          (env.request.entity slot == uid) := by
        rw [Bool.eq_iff_iff, beq_iff_eq, beq_iff_eq, Value.entity.injEq]
      rw [Scope.toExpr, eval_binary .eq hvar (huid uid), BinaryOp.apply, hbeq]
      rfl
  | isIn uid =>
      rw [Scope.toExpr, eval_binary .isIn hvar (huid uid)]
      rfl
  | inSet uids =>
      have hset : (Expr.set (uids.map (·.toExpr)) none).eval env =
          .ok (Value.setOf (uids.map Value.entity)) := by
        rw [Expr.eval, located_none, evalAll_toExpr]
        rfl
      have htarget := isInTarget_setOf env.store (env.request.entity slot) uids
      rw [Scope.toExpr, eval_binary .isIn hvar hset]
      exact congrArg raise htarget
  | isType type =>
      rw [Scope.toExpr, Expr.eval, located_none, hvar]
      rfl
  | isTypeIn type uid =>
      rw [Scope.toExpr, Expr.eval, located_none, hvar, huid, Scope.admits]
      by_cases h : (env.request.entity slot).type = type
      · rw [beq_iff_eq.2 h, Bool.true_and]
        exact if_pos h
      · rw [beq_eq_false_iff_ne.2 h, Bool.false_and]
        exact if_neg h

/-! ### Conditions -/

/-- A condition as an expression gives whether the condition passes. -/
lemma evalBool_condition (env : Env) (c : Condition) :
    c.toExpr.evalBool env = (c.body.evalBool env).map c.kind.passes := by
  rw [Condition.toExpr]
  cases hk : c.kind with
  | whenTrue => cases c.body.evalBool env <;> rfl
  | whenFalse => exact Expr.evalBool_not env c.body

/-- **The conjunction of conditions gives whether they hold.** -/
lemma evalBool_conjunction (env : Env) (cs : List Condition) :
    (conjunction cs).evalBool env = conditionsHold env cs := by
  induction cs with
  | nil => rfl
  | cons c cs ih =>
      rw [conjunction, Expr.evalBool_and, evalBool_condition, ih, conditionsHold]
      cases c.body.evalBool env <;> rfl

/-! ### Policies -/

/-- What a verdict says about the policy as a whole: a policy that is skipped does
not hold. -/
def Verdict.outcome : Verdict → Outcome Bool
  | .skipped _ => .ok false
  | .satisfied => .ok true
  | .unsatisfied => .ok false
  | .failed f => .error f

/-- A policy as an expression gives whether its conditions hold, if its scopes admit
the request. -/
lemma evalBool_toExpr_eq_ite (env : Env) (p : Policy) :
    p.toExpr.evalBool env =
      if p.admits env.store env.request then conditionsHold env p.conditions else .ok false := by
  have hp : (p.principal.toExpr .principal).evalBool env =
      .ok (p.principal.admits env.store env.request.principal) :=
    evalBool_scope env .principal p.principal
  have ha : (p.action.toExpr .action).evalBool env =
      .ok (p.action.admits env.store env.request.action) :=
    evalBool_scope env .action p.action
  have hr : (p.resource.toExpr .resource).evalBool env =
      .ok (p.resource.admits env.store env.request.resource) :=
    evalBool_scope env .resource p.resource
  rw [Policy.toExpr, Expr.evalBool_and, Expr.evalBool_and, Expr.evalBool_and,
    evalBool_conjunction, hp, ha, hr, Policy.admits]
  cases p.principal.admits env.store env.request.principal
  · rfl
  · cases p.action.admits env.store env.request.action
    · rfl
    · cases p.resource.admits env.store env.request.resource <;> rfl

/-- **A policy as an expression gives what becomes of the policy.** -/
theorem evalBool_toExpr (env : Env) (p : Policy) :
    p.toExpr.evalBool env = (p.verdict env).outcome := by
  rw [evalBool_toExpr_eq_ite, Policy.verdict]
  split
  · rename_i hadmits
    rw [Policy.rejectedBy?_eq_none_iff.2 hadmits]
    rcases conditionsHold env p.conditions with f | b
    · rfl
    · cases b <;> rfl
  · rename_i hadmits
    rw [← Policy.rejectedBy?_eq_none_iff, ← ne_eq, Option.ne_none_iff_exists'] at hadmits
    obtain ⟨slot, hslot⟩ := hadmits
    rw [hslot]
    rfl

/-- A folded policy gives what becomes of the policy. -/
lemma outcome_verdict_folded (env : Env) (p : Policy) :
    (p.folded.verdict env).outcome = (p.verdict env).outcome := by
  rw [← evalBool_toExpr env p.folded, evalBool_toExpr_eq_ite, ← evalBool_toExpr env p]
  show p.toExpr.evalBool env >>= (fun b => if b then .ok true else .ok false) = _
  rcases p.toExpr.evalBool env with f | b
  · rfl
  · cases b <;> rfl

/-! ### Responses -/

/-- A satisfied policy is told by what its verdict says about it as a whole. -/
lemma satisfiedId?_eq_match (effect : Effect) (p : Policy) (v : Verdict) :
    satisfiedId? effect (p, v) = match v.outcome with
      | .ok true => if p.effect = effect then some p.id else none
      | _ => none := by
  cases v <;> rfl

/-- A policy that failed is told by what its verdict says about it as a whole. -/
lemma policyError?_eq_match (p : Policy) (v : Verdict) :
    policyError? (p, v) = match v.outcome with
      | .error f => some ⟨p.id, f.report⟩
      | .ok _ => none := by
  cases v <;> rfl

/-- The two policies agree in what a response shows of them. -/
structure SameShare (env : Env) (p q : Policy) : Prop where
  id : q.id = p.id
  effect : q.effect = p.effect
  outcome : (q.verdict env).outcome = (p.verdict env).outcome

/-- Lists whose members are alike under a function have one image. -/
lemma map_eq_of_forall₂ {α β : Type} {f : α → β} {xs ys : List α}
    (h : List.Forall₂ (fun x y => f y = f x) xs ys) : ys.map f = xs.map f := by
  induction h with
  | nil => rfl
  | cons hxy _ ih => rw [List.map_cons, List.map_cons, hxy, ih]

/-- Alike policies leave the same in what is picked out of their verdicts. -/
lemma filterMap_judge_congr {env : Env} {s t : PolicySet} {β : Type} {f : Judged → Option β}
    (h : List.Forall₂ (SameShare env) s.policies t.policies)
    (hf : ∀ p q, SameShare env p q → f (q, q.verdict env) = f (p, p.verdict env)) :
    (t.judge env).filterMap f = (s.judge env).filterMap f := by
  have hpick : ∀ u : PolicySet, (u.judge env).filterMap f =
      (u.policies.map fun p => f (p, p.verdict env)).filterMap id := by
    intro u
    rw [PolicySet.judge, List.filterMap_map, List.filterMap_map]
    rfl
  have hmap := map_eq_of_forall₂ (h.imp hf)
  rw [hpick, hpick, hmap]

/-- **Policies that agree one by one in what is shown of them give one response.** -/
lemma authorize_congr {s t : PolicySet} {request : Request} {store : Store}
    (h : List.Forall₂ (SameShare ⟨request, store⟩) s.policies t.policies) :
    authorize request t store = authorize request s store := by
  have hids : ∀ effect, satisfiedIds effect (t.judge ⟨request, store⟩) =
      satisfiedIds effect (s.judge ⟨request, store⟩) := by
    intro effect
    refine congrArg Ascending.ofList (filterMap_judge_congr h fun p q hpq => ?_)
    rw [satisfiedId?_eq_match, satisfiedId?_eq_match, hpq.id, hpq.effect, hpq.outcome]
  have herrors : (t.judge ⟨request, store⟩).filterMap policyError? =
      (s.judge ⟨request, store⟩).filterMap policyError? := by
    refine filterMap_judge_congr h fun p q hpq => ?_
    rw [policyError?_eq_match, policyError?_eq_match, hpq.id, hpq.outcome]
  rw [authorize, authorize, Response.ofJudged, Response.ofJudged, hids, hids, herrors]

/-- A folded policy agrees with the policy in all that a response shows. -/
lemma sameShare_folded (env : Env) (p : Policy) : SameShare env p p.folded :=
  ⟨rfl, rfl, outcome_verdict_folded env p⟩

/-- **Policies may be folded anywhere in a set**: the policies still make a set, and
every set of them gives the same response to every request. -/
theorem authorize_eq_of_folded {s : PolicySet} {qs : List Policy}
    (h : List.Forall₂ (fun p q => q = p ∨ q = p.folded) s.policies qs) :
    (s.Built → ∃ t, PolicySet.ofPolicies qs = .ok t) ∧
      ∀ t : PolicySet, t.policies = qs → ∀ (request : Request) (store : Store),
        authorize request t store = authorize request s store := by
  constructor
  · intro hs
    have hids : qs.map (·.id) = s.ids := map_eq_of_forall₂ (h.imp fun p q hpq => by
      rcases hpq with rfl | rfl <;> rfl)
    exact PolicySet.exists_ofPolicies (hids ▸ hs.consistent.nodup_ids)
  · rintro t rfl request store
    refine authorize_congr (h.imp fun p q hpq => ?_)
    rcases hpq with rfl | rfl
    · exact ⟨rfl, rfl, rfl⟩
    · exact sameShare_folded _ p

/-- A permit with a scope that names an action twice, and a condition that fails at a
position unless the context says otherwise. -/
def guardedPermit : Policy :=
  ((Policy.unconstrained "guarded" .permit).withScope .action
      (.inSet [⟨⟨"Action"⟩, "view"⟩, ⟨⟨"Action"⟩, "view"⟩])).withCondition .whenFalse
    (.getAttr (.var .context none) "locked" (some ⟨3, 7⟩))

/-- A request for the action of the guarded permit, without a context. -/
def viewing : Request :=
  ⟨⟨⟨"User"⟩, "ann"⟩, ⟨⟨"Action"⟩, "view"⟩, ⟨⟨"Doc"⟩, "plan"⟩, []⟩

/-- The guarded permit may be folded beside a forbid that stays as it is: its condition
fails at the same position as before, and the forbid is the reason to deny. -/
theorem authorize_eq_of_folded_guarded :
    ∃ s t, PolicySet.ofPolicies [guardedPermit, Policy.unconstrained "never" .forbid] = .ok s ∧
      PolicySet.ofPolicies [guardedPermit.folded, Policy.unconstrained "never" .forbid] = .ok t ∧
      (∀ (request : Request) (store : Store),
        authorize request t store = authorize request s store) ∧
      authorize viewing t (Entities.toStore ⟨[]⟩) = ⟨.deny, ["never"],
        [⟨"guarded", Failure.report ⟨.missingAttribute .record "locked", some ⟨3, 7⟩⟩⟩]⟩ := by
  have hn : ([guardedPermit, Policy.unconstrained "never" .forbid].map (·.id)).Nodup := by decide
  obtain ⟨s, hs⟩ := PolicySet.exists_ofPolicies hn
  have hp := PolicySet.policies_of_ofPolicies hs
  have hfold : List.Forall₂ (fun p q => q = p ∨ q = p.folded) s.policies
      [guardedPermit.folded, Policy.unconstrained "never" .forbid] := by
    rw [hp]
    exact .cons (.inr rfl) (.cons (.inl rfl) .nil)
  have hkey := authorize_eq_of_folded hfold
  obtain ⟨t, ht⟩ := hkey.1 (.ofPolicies hs)
  have hsame := hkey.2 t (PolicySet.policies_of_ofPolicies ht)
  refine ⟨s, t, hs, ht, hsame, ?_⟩
  rw [hsame, authorize, PolicySet.judge, hp]
  rfl

end AccessPolicy
