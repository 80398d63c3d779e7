/-
Policies as JSON.

* a scope is tagged inside: its form stands in `op`, beside the entities and the
  type that it names;
* a policy is a structure in which everything but the id and the effect may be
  left out, and which is written without annotations when there are none.
-/
import AccessPolicy.Expr.Json
import AccessPolicy.Policy.Basic

namespace AccessPolicy

/-! ### Scopes -/

namespace Scope

/-- A scope as JSON. -/
def toJson : Scope → Json
  | .any => .obj [("op", .str "any")]
  | .eq uid => .obj [("op", .str "eq"), ("entity", uid.toJson)]
  | .isIn uid => .obj [("op", .str "in"), ("entity", uid.toJson)]
  | .inSet uids => .obj [("op", .str "in_set"), ("entities", .arr (uids.map (·.toJson)))]
  | .isType type => .obj [("op", .str "is"), ("entity_type", .str type.path)]
  | .isTypeIn type uid =>
    .obj [("op", .str "is_in"), ("entity_type", .str type.path), ("entity", uid.toJson)]

/-- The scope that a JSON value stands for. -/
def ofJson? (j : Json) : Option Scope := do
  match ← (← j.member? 3 0 "op").1.str? with
  | "any" => (j.member? 1 0 "op").map fun _ => .any
  | "eq" => return .eq (← EntityUid.ofJson? (← j.member? 2 1 "entity").1)
  | "in" => return .isIn (← EntityUid.ofJson? (← j.member? 2 1 "entity").1)
  | "in_set" => do
    let items ← (← j.member? 2 1 "entities").1.arr?
    return .inSet (← items.mapM EntityUid.ofJson?)
  | "is" => return .isType ⟨← (← j.member? 2 1 "entity_type").1.str?⟩
  | "is_in" => do
    let type ← (← j.member? 3 1 "entity_type").1.str?
    return .isTypeIn ⟨type⟩ (← EntityUid.ofJson? (← j.member? 3 2 "entity").1)
  | _ => none

end Scope

/-! ### Policies -/

/-- A condition as JSON. -/
def Condition.toJson (c : Condition) : Json :=
  .obj [("kind", .str c.kind.name), ("body", c.body.toJson)]

/-- The condition that a JSON value stands for. -/
def Condition.ofJson? (j : Json) : Option Condition := do
  let kind ← ConditionKind.ofName? (← (← j.member? 2 0 "kind").1.unit?)
  let body ← Expr.ofJson? (← j.member? 2 1 "body").1
  return ⟨kind, body⟩

namespace Policy

/-- Annotations as the field of a policy; there is none without them. -/
def annotationFields : List (String × String) → List (String × Json)
  | [] => []
  | as => [("annotations", .obj (as.map fun (k, v) => (k, .str v)))]

/-- A policy as JSON. -/
def toJson (p : Policy) : Json :=
  .obj ([("id", .str p.id), ("effect", .str p.effect.name),
    ("principal", p.principal.toJson), ("action", p.action.toJson),
    ("resource", p.resource.toJson),
    ("conditions", .arr (p.conditions.map (·.toJson)))] ++ annotationFields p.annotations)

/-- The conditions that a JSON value stands for. -/
def conditionsOfJson? (j : Json) : Option (List Condition) := do
  (← j.arr?).mapM Condition.ofJson?

/-- The annotations that a JSON value stands for. -/
def annotationsOfJson? (j : Json) : Option (List (String × String)) := do
  let fields ← (← j.obj?).mapM fun (k, v) => return (k, ← v.str?)
  return Ascending.ofPairs fields

/-- The policy that a JSON value stands for. -/
def ofJson? (j : Json) : Option Policy := do
  let id ← (← j.member? 7 0 "id").1.str?
  let effect ← Effect.ofName? (← (← j.member? 7 1 "effect").1.unit?)
  let principal ← j.memberOr 7 2 "principal" .any Scope.ofJson?
  let action ← j.memberOr 7 3 "action" .any Scope.ofJson?
  let resource ← j.memberOr 7 4 "resource" .any Scope.ofJson?
  let conditions ← j.memberOr 7 5 "conditions" [] conditionsOfJson?
  let annotations ← j.memberOr 7 6 "annotations" [] annotationsOfJson?
  return ⟨id, effect, principal, action, resource, conditions, annotations⟩

end Policy

end AccessPolicy
