/-
Decisions and their diagnostics.

* `Response`: a decision, the ids of the policies that determined it, in
  ascending order, and the errors of policies, in the order of the policies;
* `Response.toText`: the decision with its reasons and the number of errors;
* `Version`: which set of policies was in force, and since when.
-/
import AccessPolicy.Expr.Fault
import AccessPolicy.Policy.Basic

namespace AccessPolicy

/-- Whether a request is granted. -/
inductive Decision where
  | allow
  | deny
  deriving DecidableEq, Repr

namespace Decision

/-- The name of a decision. -/
def name : Decision → String
  | allow => "Allow"
  | deny => "Deny"

/-- The decision with a name. -/
def ofName? : String → Option Decision := Text.named? [allow, deny] name

end Decision

/-- An error in the conditions of a policy. -/
structure PolicyError where
  policy : PolicyId
  error : EvalError
  deriving DecidableEq, Repr

/-- The text of an error of a policy. -/
def PolicyError.toText (e : PolicyError) : String :=
  e.policy ++ ": " ++ e.error.toText

/-- The answer to a request. -/
structure Response where
  decision : Decision
  reasons : List PolicyId
  errors : List PolicyError
  deriving DecidableEq, Repr

/-- The request is granted. -/
def Response.isAllowed (r : Response) : Bool :=
  r.decision == .allow

/-- The text of a response. -/
def Response.toText (r : Response) : String :=
  r.decision.name ++ "(reasons=[" ++ ", ".intercalate r.reasons ++ "]; errors="
    ++ toString r.errors.length ++ ")"

/-- A set of policies by the digest of its content, with the time of its loading. -/
structure Version where
  hash : String
  loadedAt : String
  deriving DecidableEq, Repr

/-- The text of a version. -/
def Version.toText (v : Version) : String :=
  v.hash ++ " @ " ++ v.loadedAt

end AccessPolicy
