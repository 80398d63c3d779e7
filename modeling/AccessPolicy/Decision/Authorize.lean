/-
Deciding requests.

* `Verdict`: what became of one policy: a scope rejects the request, all
  conditions pass, one does not pass, or one fails;
* `conditionsHold`: the conditions as one conjunction, in their order, which
  stops at the first that does not pass or fails;
* `authorize`: a satisfied forbid denies, otherwise a satisfied permit allows,
  otherwise the request is denied; an error in a policy is reported and changes
  nothing else;
* `ofJudged_of_forbid`: with a satisfied forbid, the response is a denial for the
  satisfied forbids.
-/
import AccessPolicy.Decision.Response
import AccessPolicy.Expr.Eval
import AccessPolicy.Policy.Set

namespace AccessPolicy

/-! ### Verdicts -/

/-- What became of a policy. -/
inductive Verdict where
  /-- The scope in a slot does not admit the request. -/
  | skipped (slot : Slot)
  /-- All conditions pass. -/
  | satisfied
  /-- A condition does not pass. -/
  | unsatisfied
  /-- A condition cannot be evaluated. -/
  | failed (failure : Failure)
  deriving DecidableEq

/-- Whether all conditions of a list pass. -/
def conditionsHold (env : Env) : List Condition → Outcome Bool
  | [] => .ok true
  | c :: cs => do
    let b ← c.body.evalBool env
    if c.kind.passes b then conditionsHold env cs else return false

/-- What becomes of a policy in an evaluation. -/
def Policy.verdict (p : Policy) (env : Env) : Verdict :=
  match p.rejectedBy? env.store env.request with
  | some slot => .skipped slot
  | none =>
    match conditionsHold env p.conditions with
    | .ok true => .satisfied
    | .ok false => .unsatisfied
    | .error f => .failed f

/-- A policy together with what became of it. -/
abbrev Judged := Policy × Verdict

/-- What becomes of each policy of a set. -/
def PolicySet.judge (s : PolicySet) (env : Env) : List Judged :=
  s.policies.map fun p => (p, p.verdict env)

/-! ### Decisions -/

/-- The id of a satisfied policy with an effect. -/
def satisfiedId? (effect : Effect) : Judged → Option PolicyId
  | (p, .satisfied) => if p.effect = effect then some p.id else none
  | _ => none

/-- The error of a policy that failed. -/
def policyError? : Judged → Option PolicyError
  | (p, .failed f) => some ⟨p.id, f.report⟩
  | _ => none

/-- The ids of the satisfied policies with an effect, in ascending order. -/
def satisfiedIds (effect : Effect) (js : List Judged) : List PolicyId :=
  Ascending.ofList (js.filterMap (satisfiedId? effect))

/-- The response that judged policies give. -/
def Response.ofJudged (js : List Judged) : Response :=
  let forbids := satisfiedIds .forbid js
  let permits := satisfiedIds .permit js
  let errors := js.filterMap policyError?
  if forbids ≠ [] then ⟨.deny, forbids, errors⟩
  else if permits ≠ [] then ⟨.allow, permits, errors⟩
  else ⟨.deny, [], errors⟩

/-- The response of a set of policies to a request. -/
def authorize (request : Request) (policies : PolicySet) (store : Store) : Response :=
  Response.ofJudged (policies.judge ⟨request, store⟩)

/-- The errors do not depend on the decision. -/
theorem errors_ofJudged (js : List Judged) :
    (Response.ofJudged js).errors = js.filterMap policyError? := by
  rw [Response.ofJudged]
  split
  · rfl
  · split <;> rfl

/-- With a satisfied forbid, the response is a denial for the satisfied forbids. -/
theorem ofJudged_of_forbid {js : List Judged} (h : satisfiedIds .forbid js ≠ []) :
    Response.ofJudged js = ⟨.deny, satisfiedIds .forbid js, js.filterMap policyError?⟩ := by
  rw [Response.ofJudged, if_pos h]

end AccessPolicy
