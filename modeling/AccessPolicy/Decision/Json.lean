/-
Responses as JSON.

* an error is a structure of `kind`, `detail` and, if it has a position, `loc`;
* a response is a structure of `decision` and `diagnostics`, which in turn holds
  `reasons` and `errors`; reading makes the reasons a set;
* a version is a structure of `hash` and `loaded_at`.
-/
import AccessPolicy.Ascending
import AccessPolicy.Decision.Response
import AccessPolicy.Expr.Json

namespace AccessPolicy

namespace EvalError

/-- An error as JSON. -/
def toJson (e : EvalError) : Json :=
  .obj ([("kind", .str e.kind.name), ("detail", .str e.detail)] ++ Loc.fields e.loc)

/-- The error that a JSON value stands for. -/
def ofJson? (j : Json) : Option EvalError := do
  let kind ← ErrorKind.ofName? (← (← j.member? 3 0 "kind").1.unit?)
  let detail ← (← j.member? 3 1 "detail").1.str?
  let loc ← Loc.optional? ((j.member? 3 2 "loc").map (·.1))
  return ⟨kind, detail, loc⟩

end EvalError

namespace PolicyError

/-- An error of a policy as JSON. -/
def toJson (e : PolicyError) : Json :=
  .obj [("policy_id", .str e.policy), ("error", e.error.toJson)]

/-- The error of a policy that a JSON value stands for. -/
def ofJson? (j : Json) : Option PolicyError := do
  let policy ← (← j.member? 2 0 "policy_id").1.str?
  let error ← EvalError.ofJson? (← j.member? 2 1 "error").1
  return ⟨policy, error⟩

end PolicyError

namespace Response

/-- A response as JSON. -/
def toJson (r : Response) : Json :=
  .obj [("decision", .str r.decision.name),
    ("diagnostics", .obj [("reasons", .arr (r.reasons.map .str)),
      ("errors", .arr (r.errors.map (·.toJson)))])]

/-- The response that a JSON value stands for; its reasons become a set. -/
def ofJson? (j : Json) : Option Response := do
  let decision ← Decision.ofName? (← (← j.member? 2 0 "decision").1.unit?)
  let ⟨diagnostics, _⟩ ← j.member? 2 1 "diagnostics"
  let reasons ← (← (← diagnostics.member? 2 0 "reasons").1.arr?).mapM Json.str?
  let errors ← (← (← diagnostics.member? 2 1 "errors").1.arr?).mapM PolicyError.ofJson?
  return ⟨decision, Ascending.ofList reasons, errors⟩

end Response

namespace Version

/-- A version as JSON. -/
def toJson (v : Version) : Json :=
  .obj [("hash", .str v.hash), ("loaded_at", .str v.loadedAt)]

/-- The version that a JSON value stands for. -/
def ofJson? (j : Json) : Option Version := do
  let hash ← (← j.member? 2 0 "hash").1.str?
  let loadedAt ← (← j.member? 2 1 "loaded_at").1.str?
  return ⟨hash, loadedAt⟩

end Version

end AccessPolicy
