/-
Listings of the policies about a principal, against decisions.

* `rejectedBy?_eq_principal_iff`: a decision skips a policy for its principal exactly if the
  scope of the principal does not admit it; the first slot is looked at first;
* `PolicySet.map_policy_about`, `mem_about_iff`, `exists_mem_about_iff`: a listing has the
  policies whose principal scope admits the principal, in their order, each with its reason;
* `exists_admits_of_names`: an id that a response names is that of a policy that admits the
  request;
* `CompleteListing`: a listing shows every policy that can matter to a request of the
  principal; `list_complete` says that this is what an engine lists.

A listing looks at one slot and a decision at all three, so a policy that a decision can name
admits the principal, while a listed policy may still be about other actions or resources.
-/
import AccessPolicy.Proofs.Decision.Rule
import AccessPolicy.Proofs.Engine.Current

namespace AccessPolicy

/-! ### Slots -/

/-- The principal is looked at first. -/
lemma Policy.rejectedBy?_eq_principal_iff {p : Policy} {store : Store} {r : Request} :
    p.rejectedBy? store r = some .principal ↔ p.principal.admits store r.principal = false := by
  rw [rejectedBy?, Slot.all, List.find?_cons, scope, Request.entity]
  cases hp : p.principal.admits store r.principal with
  | false => simp
  | true =>
      -- The slots that are left are not that of the principal.
      simp only [Bool.not_true, Bool.true_eq_false, iff_false]
      intro h
      simpa using List.mem_of_find?_eq_some h

/-- A request is admitted for its principal too. -/
lemma Policy.principal_admits_of_admits {p : Policy} {store : Store} {r : Request}
    (h : p.admits store r = true) : p.principal.admits store r.principal = true := by
  rw [admits, Bool.and_eq_true, Bool.and_eq_true] at h
  exact h.1.1

/-! ### What is listed -/

namespace PolicySet

variable {s : PolicySet} {store : Store} {principal : EntityUid}

/-- A listing keeps the policies whose principal scope admits the principal. -/
lemma map_policy_about : (s.about store principal).map (·.policy) =
    s.policies.filter (·.principal.admits store principal) := by
  rw [about, List.map_filterMap, ← List.filterMap_eq_filter]
  refine List.filterMap_congr fun p _ => ?_
  cases hp : p.principal.admits store principal <;>
    simp [Policy.principalReason?, Option.guard, hp]

/-- What is listed, with the reason. -/
lemma mem_about_iff {m : PolicyMatch} : m ∈ s.about store principal ↔
    m.policy ∈ s.policies ∧ m.policy.principal.admits store principal = true ∧
      m.reason = ⟨.principal, m.policy.principal.form⟩ := by
  rw [about, List.mem_filterMap]
  constructor
  · rintro ⟨p, hp, h⟩
    obtain ⟨reason, hr, rfl⟩ := Option.map_eq_some_iff.1 h
    obtain ⟨ha, ⟨⟩⟩ := Option.ite_none_right_eq_some.1 hr
    exact ⟨hp, ha, rfl⟩
  · rintro ⟨hp, ha, hr⟩
    exact ⟨m.policy, hp, by rw [Policy.principalReason?, if_pos ha, Option.map_some, ← hr]⟩

/-- A policy of the set is listed exactly if its principal scope admits the principal. -/
lemma exists_mem_about_iff {p : Policy} (hp : p ∈ s.policies) :
    (∃ m ∈ s.about store principal, m.policy = p) ↔
      p.principal.admits store principal = true := by
  rw [← List.mem_map, map_policy_about, List.mem_filter]
  exact and_iff_right hp

end PolicySet

/-! ### What a response names -/

/-- A response names an id as a reason or with an error. -/
def Response.Names (r : Response) (id : PolicyId) : Prop :=
  id ∈ r.reasons ∨ id ∈ r.errors.map (·.policy)

/-- **What a response names is a policy that admits the request.** -/
lemma exists_admits_of_names {s : PolicySet} {request : Request} {store : Store} {id : PolicyId}
    (h : (authorize request s store).Names id) :
    ∃ p ∈ s.policies, p.id = id ∧ p.admits store request = true := by
  have happlies : ∃ p ∈ s.policies, p.id = id ∧ p.Applies ⟨request, store⟩ := by
    obtain hr | he := h
    · obtain ⟨_, p, hp, -, hsat, hid⟩ := exists_of_mem_reasons hr
      exact ⟨p, hp, hid, hsat.applies⟩
    · rw [authorize, errors_ofJudged] at he
      obtain ⟨p, hp, hid, _, herr⟩ := (reports_judge _ _).exists_erring he
      exact ⟨p, hp, hid, herr.applies⟩
  obtain ⟨p, hp, hid, ha⟩ := happlies
  rw [← Policy.rejectedBy?_eq_none_iff_applies, Policy.rejectedBy?_eq_none_iff] at ha
  exact ⟨p, hp, hid, ha⟩

/-! ### Complete listings -/

/-- A listing, out of the policies of an engine, of all that can matter to a principal. -/
structure CompleteListing (es : Engines) (handle : Nat) (store : Store) (principal : EntityUid)
    (ps : List Policy) (ms : List PolicyMatch) : Prop where
  /-- The listed policies are those whose principal scope admits the principal, in their
  order. -/
  policies : ms.map (·.policy) = ps.filter (·.principal.admits store principal)
  /-- No policy stands there twice, and no two have one id. -/
  once : ((ms.map (·.policy)).map (·.id)).Nodup
  /-- The reason is the slot of the principal, with the form of the scope there. -/
  reason : ∀ m ∈ ms, m.reason = ⟨.principal, m.policy.principal.form⟩
  /-- The engine decides every request of the principal, and what it names is listed. -/
  named : ∀ request : Request, request.principal = principal → ∃ response,
    es.does store (.evaluate handle request) = some (es, .response response) ∧
      ∀ id, response.Names id → ∃ m ∈ ms, m.policy.id = id
  /-- A policy whose scopes admit a request of the principal is listed. -/
  admitted : ∀ request : Request, request.principal = principal → ∀ p ∈ ps,
    p.admits store request = true → ∃ m ∈ ms, m.policy = p
  /-- What is not listed is what decisions skip for the principal. -/
  skipped : ∀ request : Request, request.principal = principal → ∀ p ∈ ps,
    ((∀ m ∈ ms, m.policy ≠ p) ↔ p.rejectedBy? store request = some .principal)

/-- **The listing of an engine is complete for its decisions**, whatever the handle, the
principal and the store. The policies are a set that is made by additions, as they are
after every history that gives such sets (`Ran.built_of_current`). -/
theorem list_complete {es : Engines} {handle : Nat} {s : Snapshot}
    (hs : es.current? handle = some s) (hb : s.policies.Built) (store : Store)
    (principal : EntityUid) :
    ∃ ms, es.does store (.list handle principal) = some (es, .listing ms) ∧
      CompleteListing es handle store principal s.policies.policies ms := by
  have hfrom := Engines.answersFrom_of_current hs
  refine ⟨_, hfrom.list store principal, PolicySet.map_policy_about, ?once,
    fun m hm => (PolicySet.mem_about_iff.1 hm).2.2, ?named, ?admitted, ?skipped⟩
  case once =>
    rw [PolicySet.map_policy_about]
    exact hb.consistent.nodup_ids.sublist (List.filter_sublist.map _)
  case named =>
    rintro request rfl
    refine ⟨_, hfrom.evaluate store request, fun id hid => ?_⟩
    obtain ⟨p, hp, rfl, ha⟩ := exists_admits_of_names hid
    obtain ⟨m, hm, rfl⟩ :=
      (PolicySet.exists_mem_about_iff hp).2 (Policy.principal_admits_of_admits ha)
    exact ⟨m, hm, rfl⟩
  case admitted =>
    rintro request rfl p hp ha
    exact (PolicySet.exists_mem_about_iff hp).2 (Policy.principal_admits_of_admits ha)
  case skipped =>
    rintro request rfl p hp
    rw [Policy.rejectedBy?_eq_principal_iff, ← Bool.not_eq_true,
      ← PolicySet.exists_mem_about_iff hp]
    simp only [not_exists, not_and, ne_eq]

/-- A permit for the members of a group, about one action. -/
def permitStaff : Policy :=
  ((Policy.unconstrained "staff" .permit).withScope .principal
    (.isIn ⟨⟨"Group"⟩, "staff"⟩)).withScope .action (.eq ⟨⟨"Action"⟩, "edit"⟩)

/-- A permit for one user. -/
def permitBob : Policy :=
  (Policy.unconstrained "bob" .permit).withScope .principal (.eq ⟨⟨"User"⟩, "bob"⟩)

/-- A store with a member of the group. -/
def staffStore : Store :=
  Entities.toStore ⟨[⟨plainRequest.principal, [], [⟨⟨"Group"⟩, "staff"⟩]⟩]⟩

/-- The permit for the group and the forbid about every request are listed for a member, the
former although it is not about the action of the request; the permit for another user is
not. -/
theorem list_complete_member :
    ∃ s ms, PolicySet.ofPolicies [permitStaff, permitBob, blanketForbid] = .ok s ∧
      CompleteListing ⟨[.load s "noon"], [0], [], none⟩ 0 staffStore plainRequest.principal
        s.policies ms ∧
      ms.map (fun m => (m.policy.id, m.reason.name)) =
        [("staff", "PrincipalIn"), ("always", "PrincipalAny")] ∧
      permitStaff.admits staffStore plainRequest = false := by
  have hn : ([permitStaff, permitBob, blanketForbid].map (·.id)).Nodup := by decide
  obtain ⟨s, hs⟩ := PolicySet.exists_ofPolicies hn
  have hp := PolicySet.policies_of_ofPolicies hs
  -- The engine is one that was just made of the policies.
  have hran : Ran [⟨.create s "noon", _⟩] ⟨[.load s "noon"], [0], [], none⟩ :=
    .step staffStore .start rfl
  have hcurrent : (⟨[.load s "noon"], [0], [], none⟩ : Engines).current? 0 =
    some (.load s "noon") := rfl
  have hbuilt : (Snapshot.load s "noon").policies.Built := by
    refine hran.built_of_current (fun e he n t hl => ?_) hcurrent
    obtain rfl := List.mem_singleton.1 he
    cases hl with
    | create => exact .ofPolicies hs
  obtain ⟨ms, hms, hlist⟩ := list_complete hcurrent hbuilt staffStore plainRequest.principal
  refine ⟨s, ms, hs, hlist, ?_, by decide⟩
  obtain rfl : s.about staffStore plainRequest.principal = ms :=
    Answer.listing.inj (Prod.mk.inj (Option.some.inj hms)).2
  rw [PolicySet.about, hp]
  rfl

end AccessPolicy
