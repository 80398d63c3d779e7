/-
Requests: may this principal perform this action on this resource?
-/
import AccessPolicy.Value.Collection

namespace AccessPolicy

/-- A request, with what is known about its circumstances. -/
structure Request where
  principal : EntityUid
  action : EntityUid
  resource : EntityUid
  context : Record

end AccessPolicy
