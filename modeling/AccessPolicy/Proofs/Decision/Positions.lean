/-
Positions do not matter to decisions.

* `PolicySet.unlocated`, `Response.unlocated` and their like: conditions, policies, verdicts and
  responses in which all positions are forgotten;
* `PolicySet.SameButLocs`, `Response.SameButLocs`: sets of policies that are equal up to the
  positions in the bodies of conditions, and responses that are equal up to those of errors;
* `verdict_unlocated`, `ofJudged_unlocated`: one policy, and what the judged policies give;
* `authorize_unlocated`: policies without positions have the response that they had, its
  positions forgotten;
* `positions_immaterial`: so expressions and sets of policies that are equal up to positions have
  one outcome.

A position is looked at only to blame it for a failure. Which fault it is, whether the conditions
hold and which policies are satisfied is decided without it, so that forgetting the positions at
the start leaves the same as forgetting them at the end.
-/
import AccessPolicy.Proofs.Decision.Concatenation
import AccessPolicy.Proofs.Expr.Positions

namespace AccessPolicy

/-! ### Forgetting positions -/

/-- The condition without the positions in its body. -/
def Condition.unlocated (c : Condition) : Condition := { c with body := c.body.unlocated }

/-- The policy without the positions in its conditions. -/
def Policy.unlocated (p : Policy) : Policy :=
  { p with conditions := p.conditions.map (·.unlocated) }

/-- The policies without the positions in their conditions. -/
def PolicySet.unlocated (s : PolicySet) : PolicySet :=
  { s with policies := s.policies.map (·.unlocated) }

/-- The verdict without the position of its failure. -/
def Verdict.unlocated : Verdict → Verdict
  | .failed f => .failed f.unlocated
  | v => v

/-- The judged policy without positions. -/
def Judged.unlocated (j : Judged) : Judged := (j.1.unlocated, j.2.unlocated)

/-- The error of a policy without its position. -/
def PolicyError.unlocated (e : PolicyError) : PolicyError :=
  { e with error := { e.error with loc := none } }

/-- The response without the positions of its errors. -/
def Response.unlocated (r : Response) : Response :=
  { r with errors := r.errors.map (·.unlocated) }

/-! ### One policy -/

/-- Conditions hold without their positions as they held. -/
lemma conditionsHold_unlocated (env : Env) (cs : List Condition) :
    conditionsHold env (cs.map (·.unlocated)) = unlocate (conditionsHold env cs) := by
  induction cs with
  | nil => rfl
  | cons c cs ih =>
      rw [List.map_cons, conditionsHold, conditionsHold, Condition.unlocated,
        Expr.evalBool_unlocated, ih]
      simp [apply_ite unlocate]

/-- **A policy has its verdict without its positions.** -/
lemma Policy.verdict_unlocated (env : Env) (p : Policy) :
    p.unlocated.verdict env = (p.verdict env).unlocated := by
  have hscope : p.unlocated.rejectedBy? env.store env.request =
      p.rejectedBy? env.store env.request := rfl
  have hconditions : conditionsHold env p.unlocated.conditions =
      unlocate (conditionsHold env p.conditions) := conditionsHold_unlocated env p.conditions
  rw [verdict, verdict, hscope, hconditions]
  cases p.rejectedBy? env.store env.request with
  | some slot => rfl
  | none =>
      rcases conditionsHold env p.conditions with f | b
      · rfl
      · cases b <;> rfl

/-- All policies of a set have their verdicts without their positions. -/
lemma PolicySet.judge_unlocated (env : Env) (s : PolicySet) :
    s.unlocated.judge env = (s.judge env).map Judged.unlocated := by
  rw [judge, judge, unlocated, List.map_map, List.map_map]
  refine List.map_congr_left fun p _ => ?_
  rw [Function.comp_apply, Policy.verdict_unlocated]
  rfl

/-! ### The response -/

/-- A satisfied policy is told without its position. -/
lemma satisfiedId?_unlocated (effect : Effect) (j : Judged) :
    satisfiedId? effect j.unlocated = satisfiedId? effect j := by
  obtain ⟨p, v⟩ := j
  cases v <;> rfl

/-- The error of a policy without positions is that of the policy. -/
lemma policyError?_unlocated (j : Judged) :
    policyError? j.unlocated = (policyError? j).map (·.unlocated) := by
  obtain ⟨p, v⟩ := j
  cases v <;> rfl

/-- **Judged policies give their response without their positions.** -/
lemma ofJudged_unlocated (js : List Judged) :
    Response.ofJudged (js.map Judged.unlocated) = (Response.ofJudged js).unlocated := by
  have hids : ∀ effect, satisfiedIds effect (js.map Judged.unlocated) =
      satisfiedIds effect js := by
    intro effect
    rw [satisfiedIds, List.filterMap_map]
    exact congrArg (fun f => Ascending.ofList (js.filterMap f))
      (funext (satisfiedId?_unlocated effect))
  have herrors : (js.map Judged.unlocated).filterMap policyError? =
      (js.filterMap policyError?).map (·.unlocated) := by
    rw [List.filterMap_map, List.map_filterMap]
    exact congrArg (js.filterMap ·) (funext policyError?_unlocated)
  obtain ⟨hdecision, hreasons⟩ := ofJudged_congr hids
  rw [Response.unlocated, Response.mk.injEq, errors_ofJudged, errors_ofJudged]
  exact ⟨hdecision, hreasons, herrors⟩

/-- **Forgetting positions before a decision is forgetting them after it.** -/
theorem authorize_unlocated (request : Request) (s : PolicySet) (store : Store) :
    authorize request s.unlocated store = (authorize request s store).unlocated := by
  rw [authorize, PolicySet.judge_unlocated, ofJudged_unlocated, authorize]

/-! ### Equal up to positions -/

/-- Two sets have the same policies in the same order, up to the positions in the bodies of
conditions. -/
def PolicySet.SameButLocs (s t : PolicySet) : Prop :=
  s.unlocated.policies = t.unlocated.policies

/-- Two errors are of one policy and equal up to their positions. -/
structure PolicyError.SameButLoc (e e' : PolicyError) : Prop where
  policy : e.policy = e'.policy
  error : e.error.SameButLoc e'.error

/-- Two responses are equal up to the positions of errors. -/
structure Response.SameButLocs (r r' : Response) : Prop where
  decision : r.decision = r'.decision
  reasons : r.reasons = r'.reasons
  errors : List.Forall₂ PolicyError.SameButLoc r.errors r'.errors

/-- Errors that are equal once positions are forgotten are equal up to positions. -/
lemma PolicyError.sameButLoc_of_unlocated_eq {e e' : PolicyError}
    (h : e.unlocated = e'.unlocated) : e.SameButLoc e' := by
  simp only [unlocated, PolicyError.mk.injEq, EvalError.mk.injEq, and_true] at h
  exact ⟨h.1, h.2.1, h.2.2⟩

/-- Responses that are equal once positions are forgotten are equal up to positions. -/
lemma Response.sameButLocs_of_unlocated_eq {r r' : Response}
    (h : r.unlocated = r'.unlocated) : r.SameButLocs r' := by
  rw [unlocated, unlocated, Response.mk.injEq] at h
  obtain ⟨hdecision, hreasons, herrors⟩ := h
  rw [← List.forall₂_eq_eq_eq, List.forall₂_map_left_iff, List.forall₂_map_right_iff] at herrors
  exact ⟨hdecision, hreasons,
    herrors.imp fun _ _ => PolicyError.sameButLoc_of_unlocated_eq⟩

/-- **Sets of policies that are equal up to positions give responses that are.** -/
lemma authorize_of_sameButLocs {s t : PolicySet} (h : s.SameButLocs t) (request : Request)
    (store : Store) :
    (authorize request s store).SameButLocs (authorize request t store) := by
  have hjudge : s.unlocated.judge ⟨request, store⟩ = t.unlocated.judge ⟨request, store⟩ :=
    congrArg (List.map fun p : Policy => (p, p.verdict ⟨request, store⟩)) h
  refine Response.sameButLocs_of_unlocated_eq ?_
  rw [← authorize_unlocated, ← authorize_unlocated, authorize, hjudge, authorize]

/-- **Positions never influence an outcome.** Expressions that are equal up to the positions of
their nodes evaluate to the same value, or both fail with one kind and wording, and so they do
where a Boolean is needed. Sets of policies that are equal up to the positions in the bodies of
conditions have the same decision for the same reasons, and errors that are equal up to their
positions. -/
theorem positions_immaterial :
    (∀ e e' : Expr, e.SameButLocs e' → ∀ (request : Request) (store : Store),
      SameOutcome (e.eval ⟨request, store⟩) (e'.eval ⟨request, store⟩) ∧
      SameOutcome (e.evalBool ⟨request, store⟩) (e'.evalBool ⟨request, store⟩)) ∧
    ∀ s t : PolicySet, s.SameButLocs t → ∀ (request : Request) (store : Store),
      (authorize request s store).SameButLocs (authorize request t store) := by
  refine ⟨fun e e' h request store => ?_, fun s t h => authorize_of_sameButLocs h⟩
  exact ⟨h.sameOutcome_eval ⟨request, store⟩, h.sameOutcome_evalBool ⟨request, store⟩⟩

/-- The opposite of an attribute that no plain request has, with positions for the access and for
the negation around it. -/
def notLocked (inner outer : Option Loc) : Expr :=
  .not (.getAttr (.var .context none) "locked" inner) outer

/-- A permit on that condition. -/
def permitNotLocked (inner outer : Option Loc) : Policy :=
  (Policy.unconstrained "lock" .permit).withCondition .whenTrue (notLocked inner outer)

/-- The position of the access is moved to the negation: the failure is then blamed on another
line, and is otherwise the one that it was; the other permit still decides. -/
theorem positions_immaterial_moved :
    (notLocked (some ⟨3, 7⟩) none).SameButLocs (notLocked none (some ⟨1, 1⟩)) ∧
    SameOutcome ((notLocked (some ⟨3, 7⟩) none).eval ⟨deletion, Entities.toStore ⟨[]⟩⟩)
      ((notLocked none (some ⟨1, 1⟩)).eval ⟨deletion, Entities.toStore ⟨[]⟩⟩) ∧
    ∃ s t, PolicySet.ofPolicies [permitNotLocked (some ⟨3, 7⟩) none, openDoor] = .ok s ∧
      PolicySet.ofPolicies [permitNotLocked none (some ⟨1, 1⟩), openDoor] = .ok t ∧
      s.SameButLocs t ∧
      (authorize deletion s (Entities.toStore ⟨[]⟩)).SameButLocs
        (authorize deletion t (Entities.toStore ⟨[]⟩)) ∧
      (authorize deletion s (Entities.toStore ⟨[]⟩)).reasons = ["open"] ∧
      (authorize deletion s (Entities.toStore ⟨[]⟩)).errors.map (·.error.loc) =
        [some ⟨3, 7⟩] ∧
      (authorize deletion t (Entities.toStore ⟨[]⟩)).errors.map (·.error.loc) =
        [some ⟨1, 1⟩] := by
  have hbody : (notLocked (some ⟨3, 7⟩) none).SameButLocs (notLocked none (some ⟨1, 1⟩)) := rfl
  have hn : ∀ inner outer, ([permitNotLocked inner outer, openDoor].map (·.id)).Nodup :=
    fun _ _ => (by decide : ["lock", "open"].Nodup)
  obtain ⟨s, hs⟩ := PolicySet.exists_ofPolicies (hn (some ⟨3, 7⟩) none)
  obtain ⟨t, ht⟩ := PolicySet.exists_ofPolicies (hn none (some ⟨1, 1⟩))
  have hsp := PolicySet.policies_of_ofPolicies hs
  have htp := PolicySet.policies_of_ofPolicies ht
  have hsets : s.SameButLocs t := by
    rw [PolicySet.SameButLocs, PolicySet.unlocated, PolicySet.unlocated, hsp, htp]
    rfl
  obtain ⟨hexpr, hset⟩ := positions_immaterial
  refine ⟨hbody, (hexpr _ _ hbody deletion _).1, s, t, hs, ht, hsets, hset _ _ hsets deletion _,
    ?_, ?_, ?_⟩
  · rw [authorize, PolicySet.judge, hsp]
    rfl
  · rw [authorize, PolicySet.judge, hsp]
    rfl
  · rw [authorize, PolicySet.judge, htp]
    rfl

end AccessPolicy
