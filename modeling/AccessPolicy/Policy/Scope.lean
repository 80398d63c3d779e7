/-
Scopes: which principals, actions and resources a policy is about.

* `Scope`: a constraint on one entity of a request; `Scope.admits` looks at the
  identity and at the hierarchy only, so it cannot fail;
* `Slot`: the three places of a policy where a scope stands;
* `MatchReason`: a slot with the form of the scope that stands there.
-/
import AccessPolicy.Entity.Store
import AccessPolicy.Text.Name

namespace AccessPolicy

/-! ### Scopes -/

/-- A constraint on an entity. -/
inductive Scope where
  /-- Every entity. -/
  | any
  /-- This entity. -/
  | eq (uid : EntityUid)
  /-- The entities in this one. -/
  | isIn (uid : EntityUid)
  /-- The entities in one of these. -/
  | inSet (uids : List EntityUid)
  /-- The entities of this type. -/
  | isType (type : EntityType)
  /-- The entities of this type in this one. -/
  | isTypeIn (type : EntityType) (uid : EntityUid)
  deriving DecidableEq, Repr

/-- The constraint admits an entity. -/
def Scope.admits (store : Store) : Scope → EntityUid → Bool
  | .any, _ => true
  | .eq other, uid => uid == other
  | .isIn other, uid => store.isIn uid other
  | .inSet others, uid => others.any (store.isIn uid)
  | .isType type, uid => uid.type == type
  | .isTypeIn type other, uid => uid.type == type && store.isIn uid other

/-- The form of a constraint. -/
inductive ScopeForm where
  | any
  | eq
  | isIn
  | inSet
  | isType
  | isTypeIn
  deriving DecidableEq, Repr

/-- The form of a constraint. -/
def Scope.form : Scope → ScopeForm
  | .any => .any
  | .eq _ => .eq
  | .isIn _ => .isIn
  | .inSet _ => .inSet
  | .isType _ => .isType
  | .isTypeIn _ _ => .isTypeIn

/-! ### Slots -/

/-- A place in a policy where a scope stands. -/
inductive Slot where
  | principal
  | action
  | resource
  deriving DecidableEq, Repr

/-- The slots, in the order in which they are looked at. -/
def Slot.all : List Slot := [.principal, .action, .resource]

/-- The name of a slot. -/
def Slot.name : Slot → String
  | principal => "principal"
  | action => "action"
  | resource => "resource"

/-! ### Reasons of a match -/

/-- Why an entity is admitted: by which slot, and by which form of scope. -/
structure MatchReason where
  slot : Slot
  form : ScopeForm
  deriving DecidableEq, Repr

/-- The name of a reason. -/
def MatchReason.name (r : MatchReason) : String :=
  (match r.slot with
    | .principal => "Principal"
    | .action => "Action"
    | .resource => "Resource") ++
  (match r.form with
    | .any => "Any"
    | .eq => "Eq"
    | .isIn => "In"
    | .inSet => "InSet"
    | .isType => "Is"
    | .isTypeIn => "IsIn")

end AccessPolicy
