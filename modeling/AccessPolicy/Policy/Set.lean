/-
Sets of policies.

* `PolicySet`: policies in the order of their addition, no two with one id, and
  an index from the ids to the places;
* `PolicySet.add`: refuses an id that is there already;
* `PolicySet.ofPolicies`: adds the policies of a list one by one;
* `PolicySet.contentHash`: the SHA-256 digest of the compact text of the
  policies, which identifies the set as far as digests do.
-/
import AccessPolicy.Digest.Sha256
import AccessPolicy.Json.Printer
import AccessPolicy.Policy.Json
import Std.Data.HashMap

namespace AccessPolicy

/-- Policies with their places. -/
structure PolicySet where
  policies : List Policy
  index : Std.HashMap PolicyId Nat

/-- A policy with this id is there already. -/
structure DuplicateId where
  id : PolicyId
  deriving DecidableEq, Repr

/-- The wording of a refused addition. -/
def DuplicateId.message (e : DuplicateId) : String :=
  "duplicate policy id: " ++ e.id

namespace PolicySet

/-- The set without policies. -/
def empty : PolicySet := ⟨[], ∅⟩

/-- Adds a policy at the end. -/
def add (s : PolicySet) (p : Policy) : Except DuplicateId PolicySet :=
  if s.index.contains p.id then .error ⟨p.id⟩
  else .ok ⟨s.policies ++ [p], s.index.insert p.id s.policies.length⟩

/-- The set of the policies in a list. -/
def ofPolicies (ps : List Policy) : Except DuplicateId PolicySet :=
  ps.foldlM add empty

/-- The policy with an id. -/
def policy? (s : PolicySet) (id : PolicyId) : Option Policy :=
  s.index[id]?.bind fun i => s.policies[i]?

/-- The number of policies. -/
def size (s : PolicySet) : Nat := s.policies.length

/-- The ids, in the order of the policies. -/
def ids (s : PolicySet) : List PolicyId := s.policies.map (·.id)

/-- The policies as a JSON array. -/
def policiesJson (s : PolicySet) : Json :=
  .arr (s.policies.map (·.toJson))

/-- A set as JSON. -/
def toJson (s : PolicySet) : Json :=
  .obj [("policies", s.policiesJson)]

/-- The digest of the compact text of the policies. -/
def contentHash (s : PolicySet) : String :=
  Sha256.hex s.policiesJson.render

/-- An addition that succeeds puts the policy at the end. -/
theorem policies_of_add {s t : PolicySet} {p : Policy} (h : s.add p = .ok t) :
    t.policies = s.policies ++ [p] := by
  rw [add] at h
  split at h
  · cases h
  · cases h
    rfl

end PolicySet

end AccessPolicy
