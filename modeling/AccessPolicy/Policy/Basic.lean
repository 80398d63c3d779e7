/-
Policies.

* `Policy`: an effect, three scopes and a list of conditions, whose order is
  that of their declaration;
* `Policy.rejectedBy?`: the first slot whose scope does not admit the request;
* `Policy.admits`: no slot rejects the request.
-/
import AccessPolicy.Expr.Basic
import AccessPolicy.Policy.Scope
import AccessPolicy.Request.Basic

namespace AccessPolicy

/-- The identity of a policy. -/
abbrev PolicyId := String

/-- What a satisfied policy asks for. -/
inductive Effect where
  | permit
  | forbid
  deriving DecidableEq, Repr

namespace Effect

/-- The name of an effect. -/
def name : Effect → String
  | permit => "permit"
  | forbid => "forbid"

/-- The effect with a name. -/
def ofName? : String → Option Effect := Text.named? [permit, forbid] name

end Effect

/-- Whether a condition passes when its body is true or when it is false. -/
inductive ConditionKind where
  | whenTrue
  | whenFalse
  deriving DecidableEq, Repr

namespace ConditionKind

/-- The name of a kind of condition. -/
def name : ConditionKind → String
  | whenTrue => "when"
  | whenFalse => "unless"

/-- The kind of condition with a name. -/
def ofName? : String → Option ConditionKind := Text.named? [whenTrue, whenFalse] name

/-- A condition of this kind passes when its body has this value. -/
def passes : ConditionKind → Bool → Bool
  | whenTrue, b => b
  | whenFalse, b => !b

end ConditionKind

/-- A condition of a policy. -/
structure Condition where
  kind : ConditionKind
  body : Expr

/-- A policy. -/
structure Policy where
  id : PolicyId
  effect : Effect
  principal : Scope
  action : Scope
  resource : Scope
  conditions : List Condition
  /-- Free remarks, with ascending keys. -/
  annotations : List (String × String)

/-- The entity of a request that a slot is about. -/
def Request.entity (r : Request) : Slot → EntityUid
  | .principal => r.principal
  | .action => r.action
  | .resource => r.resource

namespace Policy

/-! ### Making policies -/

/-- A policy about every request, without conditions. -/
def unconstrained (id : PolicyId) (effect : Effect) : Policy :=
  ⟨id, effect, .any, .any, .any, [], []⟩

/-- The policy with another scope in a slot. -/
def withScope (p : Policy) (slot : Slot) (scope : Scope) : Policy :=
  match slot with
  | .principal => { p with principal := scope }
  | .action => { p with action := scope }
  | .resource => { p with resource := scope }

/-- The policy with one more condition at the end. -/
def withCondition (p : Policy) (kind : ConditionKind) (body : Expr) : Policy :=
  { p with conditions := p.conditions ++ [⟨kind, body⟩] }

/-- The policy with an annotation. -/
def annotate (p : Policy) (key value : String) : Policy :=
  { p with annotations := Ascending.put key value p.annotations }

/-- The annotation with a key. -/
def annotation? (p : Policy) (key : String) : Option String :=
  p.annotations.lookup key

/-- The bodies of the conditions of a kind, in their order. -/
def bodies (p : Policy) (kind : ConditionKind) : List Expr :=
  (p.conditions.filter (·.kind = kind)).map (·.body)

/-! ### Scopes -/

/-- The scope in a slot. -/
def scope (p : Policy) : Slot → Scope
  | .principal => p.principal
  | .action => p.action
  | .resource => p.resource

/-- The first slot whose scope does not admit the request. -/
def rejectedBy? (p : Policy) (store : Store) (r : Request) : Option Slot :=
  Slot.all.find? fun slot => !(p.scope slot).admits store (r.entity slot)

/-- All three scopes admit the request. -/
def admits (p : Policy) (store : Store) (r : Request) : Bool :=
  p.principal.admits store r.principal && p.action.admits store r.action
    && p.resource.admits store r.resource

/-- A request is admitted exactly if no slot rejects it. -/
theorem rejectedBy?_eq_none_iff {p : Policy} {store : Store} {r : Request} :
    p.rejectedBy? store r = none ↔ p.admits store r = true := by
  rw [rejectedBy?, List.find?_eq_none]
  simp [Slot.all, admits, scope, Request.entity, and_assoc]

/-- Why a principal is admitted, if it is. -/
def principalReason? (p : Policy) (store : Store) (uid : EntityUid) : Option MatchReason :=
  if p.principal.admits store uid then some ⟨.principal, p.principal.form⟩ else none

end Policy

end AccessPolicy
