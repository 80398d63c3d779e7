/-
Requests as JSON: a structure of the three identities and the context, which may
be left out.
-/
import AccessPolicy.Request.Basic
import AccessPolicy.Value.Json

namespace AccessPolicy

namespace Request

/-- A request as JSON. -/
def toJson (r : Request) : Json :=
  .obj [("principal", r.principal.toJson), ("action", r.action.toJson),
    ("resource", r.resource.toJson), ("context", Record.toJson r.context)]

/-- The request that a JSON value stands for. -/
def ofJson? (j : Json) : Option Request := do
  let principal ← EntityUid.ofJson? (← j.member? 4 0 "principal").1
  let action ← EntityUid.ofJson? (← j.member? 4 1 "action").1
  let resource ← EntityUid.ofJson? (← j.member? 4 2 "resource").1
  let context ← j.memberOr 4 3 "context" [] Record.ofJson?
  return ⟨principal, action, resource, context⟩

end Request

end AccessPolicy
