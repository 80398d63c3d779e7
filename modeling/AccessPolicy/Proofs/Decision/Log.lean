/-
What the log of a decision tells about its response.

* `Policy.RejectedFirst`: the first slot whose scope rejects the request;
* `Policy.Unsatisfied`: the first condition that does not pass is merely not met;
* `Policy.Leaves`: what one policy leaves in the log, said in terms of its scopes and its
  conditions; `leaves_iff` says that this is what its verdict leaves, and no more than one event;
* `Event.decided`: a decision with its reasons, as a reader finds it in a log;
* `Accounts`: a log accounts for a response. It goes through the stages of the decision in
  order, its warnings are the errors and its notes the reasons, and the satisfied policies that
  it shows are enough to find decision and reasons again;
* `trace_accounts`: this is what the log of every decision does.

The log has the policies in the order of the set, and a response has the reasons in the order of
their ids. So the errors are compared as lists, and the reasons through the sets of ids that
both are made of (`satisfiedIn_trace`).
-/
import AccessPolicy.Decision.Event
import AccessPolicy.Proofs.Decision.Concatenation
import AccessPolicy.Proofs.Decision.Rule

namespace AccessPolicy

/-! ### The first that does not admit, or does not pass -/

/-- Conditions that pass do not matter to what comes after them. -/
lemma conditionsHold_append {env : Env} {before cs : List Condition}
    (h : ∀ b ∈ before, b.Passes env) :
    conditionsHold env (before ++ cs) = conditionsHold env cs := by
  induction before with
  | nil => rfl
  | cons b before ih =>
      rw [List.forall_mem_cons] at h
      rw [List.cons_append, conditionsHold, Expr.evalBool_eq_ok_iff.2 h.1]
      show (if b.kind.passes b.kind.wanted then _ else _) = _
      rw [if_pos (ConditionKind.passes_iff.2 rfl), ih h.2]

/-- The conditions do not hold exactly if the first of them that does not pass has the other
Boolean. -/
lemma conditionsHold_eq_ok_false_iff {env : Env} {cs : List Condition} :
    conditionsHold env cs = .ok false ↔ ∃ before c after, cs = before ++ c :: after ∧
      (∀ b ∈ before, b.Passes env) ∧ c.body.eval env = .ok (.bool !c.kind.wanted) := by
  constructor
  · intro h
    induction cs with
    | nil => cases h
    | cons c cs ih =>
        rw [conditionsHold] at h
        obtain ⟨b, hb, h⟩ := bind_eq_ok_iff.1 h
        rw [Expr.evalBool_eq_ok_iff] at hb
        split at h
        · rename_i hpasses
          obtain rfl := ConditionKind.passes_iff.1 hpasses
          obtain ⟨before, d, after, rfl, hall, hd⟩ := ih h
          exact ⟨c :: before, d, after, rfl, List.forall_mem_cons.2 ⟨hb, hall⟩, hd⟩
        · rename_i hpasses
          rw [ConditionKind.passes_iff] at hpasses
          exact ⟨[], c, cs, rfl, List.forall_mem_nil _, Bool.eq_not.2 hpasses ▸ hb⟩
  · rintro ⟨before, c, after, rfl, hall, hc⟩
    rw [conditionsHold_append hall, conditionsHold, Expr.evalBool_eq_ok_iff.2 hc]
    exact if_neg (by simp [ConditionKind.passes_iff])

namespace Policy

variable {env : Env} {p : Policy}

/-- The slot is the first whose scope rejects the request; the principal is looked at before the
action, and the action before the resource. -/
inductive RejectedFirst (env : Env) (p : Policy) : Slot → Prop
  | principal (hp : p.principal.admits env.store env.request.principal = false) :
      RejectedFirst env p .principal
  | action (hp : p.principal.admits env.store env.request.principal = true)
      (ha : p.action.admits env.store env.request.action = false) :
      RejectedFirst env p .action
  | resource (hp : p.principal.admits env.store env.request.principal = true)
      (ha : p.action.admits env.store env.request.action = true)
      (hr : p.resource.admits env.store env.request.resource = false) :
      RejectedFirst env p .resource

/-- The scopes admit the request, and the first condition that does not pass has the Boolean
that is not asked for. -/
structure Unsatisfied (env : Env) (p : Policy) : Prop where
  applies : p.Applies env
  first : ∃ before c after, p.conditions = before ++ c :: after ∧
    (∀ b ∈ before, b.Passes env) ∧ c.body.eval env = .ok (.bool !c.kind.wanted)

/-- What a policy leaves in the log of a decision. -/
inductive Leaves (env : Env) (p : Policy) : Option Event → Prop
  | skipped {slot : Slot} (h : p.RejectedFirst env slot) :
      Leaves env p (some (.skipped p.id slot))
  | satisfied (h : p.Satisfied env) : Leaves env p (some (.satisfied p.id p.effect))
  | erring {e : EvalError} (h : p.Erring env e) :
      Leaves env p (some (.failed p.id e.kind e.detail))
  | unsatisfied (h : p.Unsatisfied env) : Leaves env p none

/-- The slots are looked at in their order. -/
lemma rejectedBy?_eq_some_iff {slot : Slot} :
    p.rejectedBy? env.store env.request = some slot ↔ p.RejectedFirst env slot := by
  rw [rejectedBy?, Slot.all]
  constructor
  · intro h
    cases hp : p.principal.admits env.store env.request.principal with
    | false =>
        simp [scope, Request.entity, hp] at h
        exact h ▸ .principal hp
    | true =>
        cases ha : p.action.admits env.store env.request.action with
        | false =>
            simp [scope, Request.entity, hp, ha] at h
            exact h ▸ .action hp ha
        | true =>
            simp [scope, Request.entity, hp, ha] at h
            obtain ⟨hr, rfl⟩ := h
            exact .resource hp ha hr
  · rintro (hp | ⟨hp, ha⟩ | ⟨hp, ha, hr⟩)
    · simp [scope, Request.entity, hp]
    · simp [scope, Request.entity, hp, ha]
    · simp [scope, Request.entity, hp, ha, hr]

/-- The verdict is that a policy is skipped in a slot exactly if the slot rejects first. -/
lemma verdict_eq_skipped_iff {slot : Slot} :
    p.verdict env = .skipped slot ↔ p.RejectedFirst env slot := by
  rw [← rejectedBy?_eq_some_iff, verdict]
  cases hs : p.rejectedBy? env.store env.request with
  | some s => simp
  | none =>
      rcases conditionsHold env p.conditions with f | b
      · simp
      · cases b <;> simp

/-- The verdict is that a policy is not satisfied exactly if a condition is merely not met. -/
lemma verdict_eq_unsatisfied_iff : p.verdict env = .unsatisfied ↔ p.Unsatisfied env := by
  by_cases ha : p.Applies env
  · have hc : p.verdict env = .unsatisfied ↔ conditionsHold env p.conditions = .ok false := by
      rw [verdict_of_applies ha]
      split <;> simp_all
    rw [hc, conditionsHold_eq_ok_false_iff]
    exact ⟨fun h => ⟨ha, h⟩, fun h => h.first⟩
  · obtain ⟨slot, hs⟩ := verdict_of_not_applies ha
    rw [hs]
    exact ⟨fun h => (by cases h), fun h => absurd h.applies ha⟩

/-- **A policy leaves what its verdict leaves.** -/
theorem leaves_iff {left : Option Event} :
    p.Leaves env left ↔ Event.ofJudged? (p, p.verdict env) = left := by
  constructor
  · rintro (h | h | h | h)
    · rw [verdict_eq_skipped_iff.2 h, Event.ofJudged?]
    · rw [verdict_eq_satisfied_iff.2 h, Event.ofJudged?]
    · obtain ⟨f, hf, rfl⟩ := erring_iff.1 h
      rw [hf, Event.ofJudged?]
    · rw [verdict_eq_unsatisfied_iff.2 h, Event.ofJudged?]
  · rintro rfl
    cases hv : p.verdict env with
    | skipped slot => exact .skipped (verdict_eq_skipped_iff.1 hv)
    | satisfied => exact .satisfied (verdict_eq_satisfied_iff.1 hv)
    | unsatisfied => exact .unsatisfied (verdict_eq_unsatisfied_iff.1 hv)
    | failed f => exact .erring (erring_iff.2 ⟨f, hv, rfl⟩)

end Policy

/-! ### Reading a log -/

namespace Event

/-- The event tells that a policy is satisfied. -/
def isSatisfied : Event → Bool
  | satisfied .. => true
  | _ => false

/-- The id of a policy with an effect that the event tells to be satisfied. -/
def satisfiedId? (effect : Effect) : Event → Option PolicyId
  | satisfied id e => if e = effect then some id else none
  | _ => none

/-- The ids of the policies with an effect that a log tells to be satisfied, in ascending
order. -/
def satisfiedIn (effect : Effect) (log : List Event) : List PolicyId :=
  Ascending.ofList (log.filterMap (satisfiedId? effect))

/-- The decision with its reasons, as a reader of a log finds it: a satisfied forbid denies,
otherwise a satisfied permit allows. -/
def decided (log : List Event) : Decision × List PolicyId :=
  if satisfiedIn .forbid log ≠ [] then (.deny, satisfiedIn .forbid log)
  else if satisfiedIn .permit log ≠ [] then (.allow, satisfiedIn .permit log)
  else (.deny, [])

/-- The warning about an error in the conditions of a policy. -/
def warning (e : PolicyError) : Event :=
  .failed e.policy e.error.kind e.error.detail

end Event

/-- **A log accounts for a response** of a set of policies. -/
structure Accounts (env : Env) (s : PolicySet) (r : Response) (log : List Event) : Prop where
  /-- The log begins with the request; then each policy leaves what it leaves, in the order of
  the set; then there is a note on each reason; and the result comes last. -/
  stages : ∃ left : List (Option Event), List.Forall₂ (Policy.Leaves env) s.policies left ∧
    log = [.request env.request.principal env.request.action env.request.resource
        s.policies.length] ++
      left.reduceOption ++ r.reasons.map (.reason r.decision) ++
      [.result r.decision r.reasons.length r.errors.length]
  /-- The notes on the reasons are in ascending order. -/
  reasons_ascending : Ascending.IsAscending r.reasons
  /-- The warnings are the errors, in their order. -/
  warnings : (log.filter fun e => e.level = .warn) = r.errors.map Event.warning
  /-- The notes are the reasons, each with the decision. -/
  notes : (log.filter fun e => e.level = .info) = r.reasons.map (.reason r.decision)
  /-- A policy is shown as skipped exactly if its scopes do not admit the request. -/
  skipped : ∀ p ∈ s.policies, (∃ slot, .skipped p.id slot ∈ log) ↔
    p.admits env.store env.request = false
  /-- The satisfied policies alone tell the decision and its reasons. -/
  decided : Event.decided (log.filter Event.isSatisfied) = (r.decision, r.reasons)

/-! ### What the judged policies leave -/

section Judged

variable {js : List Judged}

/-- What is left of judged policies, one by one. -/
lemma reduceOption_map_ofJudged? :
    (js.map Event.ofJudged?).reduceOption = js.filterMap Event.ofJudged? := by
  show (js.map Event.ofJudged?).filterMap id = _
  rw [List.filterMap_map]
  rfl

/-- The warnings about judged policies are about those that failed. -/
lemma filter_warn_ofJudged? :
    ((js.filterMap Event.ofJudged?).filter fun e => e.level = .warn) =
      (js.filterMap policyError?).map Event.warning := by
  rw [List.filter_filterMap, List.map_filterMap]
  refine List.filterMap_congr fun j _ => ?_
  obtain ⟨p, v⟩ := j
  cases v <;> rfl

/-- There are no notes on judged policies. -/
lemma filter_info_ofJudged? :
    ((js.filterMap Event.ofJudged?).filter fun e => e.level = .info) = [] := by
  rw [List.filter_eq_nil_iff]
  intro e he
  obtain ⟨⟨p, v⟩, -, h⟩ := List.mem_filterMap.1 he
  cases v <;> cases h <;> simp [Event.level]

/-- A satisfied policy is shown with its id. -/
lemma satisfiedId?_ofJudged? (effect : Effect) (j : Judged) :
    (Event.ofJudged? j).bind (Event.satisfiedId? effect) = satisfiedId? effect j := by
  obtain ⟨p, v⟩ := j
  cases v <;> rfl

end Judged

/-! ### The log of a decision -/

/-- A policy is skipped exactly if its scopes do not admit the request. -/
lemma Policy.exists_verdict_eq_skipped_iff {env : Env} {p : Policy} :
    (∃ slot, p.verdict env = .skipped slot) ↔ p.admits env.store env.request = false := by
  simp only [verdict_eq_skipped_iff, ← rejectedBy?_eq_some_iff]
  rw [← Option.ne_none_iff_exists', ne_eq, rejectedBy?_eq_none_iff, Bool.not_eq_true]

section Trace

variable {s : PolicySet} {request : Request} {store : Store}

/-- A policy of a set that is made by additions is shown as skipped exactly if it is; there is
no other with its id. -/
lemma skipped_mem_trace_iff (hs : s.Built) {p : Policy} (hp : p ∈ s.policies) {slot : Slot} :
    .skipped p.id slot ∈ trace request s store ↔ p.verdict ⟨request, store⟩ = .skipped slot := by
  have hmem : .skipped p.id slot ∈ trace request s store ↔
      .skipped p.id slot ∈ (s.judge ⟨request, store⟩).filterMap Event.ofJudged? := by
    simp [trace]
  rw [hmem, PolicySet.judge, List.filterMap_map, List.mem_filterMap]
  constructor
  · rintro ⟨q, hq, h⟩
    rw [Function.comp_apply] at h
    cases hv : q.verdict ⟨request, store⟩ with
    | skipped _ =>
        rw [hv] at h
        obtain ⟨hid, rfl⟩ := Event.skipped.inj (Option.some.inj h)
        rw [← hs.consistent.eq_of_id_eq hq hp hid, hv]
    | unsatisfied => rw [hv] at h; cases h
    | _ => rw [hv] at h; cases Option.some.inj h
  · intro h
    exact ⟨p, hp, by rw [Function.comp_apply, h, Event.ofJudged?]⟩

/-- The warnings of a log are about the errors of the response. -/
lemma filter_warn_trace :
    ((trace request s store).filter fun e => e.level = .warn) =
      (authorize request s store).errors.map Event.warning := by
  have hreasons : ∀ (d : Decision) (ids : List PolicyId),
      ((ids.map (Event.reason d)).filter fun e => e.level = .warn) = [] := by
    intro d ids
    simp [List.filter_eq_nil_iff, Event.level]
  rw [authorize, errors_ofJudged, ← filter_warn_ofJudged?, trace]
  simp only [List.filter_append, hreasons]
  simp [Event.level]

/-- The notes of a log are on the reasons of the response. -/
lemma filter_info_trace :
    ((trace request s store).filter fun e => e.level = .info) =
      (authorize request s store).reasons.map
        (.reason (authorize request s store).decision) := by
  have hreasons : ∀ (d : Decision) (ids : List PolicyId),
      ((ids.map (Event.reason d)).filter fun e => e.level = .info) = ids.map (Event.reason d) := by
    intro d ids
    simp [List.filter_eq_self, Event.level]
  rw [authorize, trace]
  simp only [List.filter_append, hreasons, List.filter_cons, filter_info_ofJudged?]
  simp [Event.level]

/-- The satisfied policies that a log shows, with nothing else of it, are those of the
decision. -/
lemma satisfiedIn_trace (effect : Effect) :
    Event.satisfiedIn effect ((trace request s store).filter Event.isSatisfied) =
      satisfiedIds effect (s.judge ⟨request, store⟩) := by
  have hkeep : ∀ log : List Event,
      (log.filter Event.isSatisfied).filterMap (Event.satisfiedId? effect) =
        log.filterMap (Event.satisfiedId? effect) := by
    intro log
    rw [List.filterMap_filter]
    refine List.filterMap_congr fun e _ => ?_
    cases e <;> rfl
  have hreasons : ∀ (d : Decision) (ids : List PolicyId),
      (ids.map (Event.reason d)).filterMap (Event.satisfiedId? effect) = [] := by
    intro d ids
    rw [List.filterMap_map]
    exact List.filterMap_eq_nil_iff.2 fun _ _ => rfl
  rw [Event.satisfiedIn, hkeep, trace, satisfiedIds]
  simp only [List.filterMap_append, hreasons, List.filterMap_cons, List.filterMap_filterMap,
    satisfiedId?_ofJudged?]
  simp [Event.satisfiedId?]

end Trace

/-- **The log of a decision accounts for its response**, for every request, every set of
policies that is made by additions and every store. -/
theorem trace_accounts {s : PolicySet} (hs : s.Built) (request : Request) (store : Store) :
    Accounts ⟨request, store⟩ s (authorize request s store) (trace request s store) := by
  refine ⟨⟨(s.judge ⟨request, store⟩).map Event.ofJudged?, ?left, ?log⟩,
    isAscending_reasons_ofJudged, filter_warn_trace, filter_info_trace, fun p hp => ?skipped,
    ?decided⟩
  case left =>
    rw [PolicySet.judge, List.map_map, List.forall₂_map_right_iff]
    exact List.forall₂_same.2 fun p _ => Policy.leaves_iff.2 rfl
  case log =>
    rw [reduceOption_map_ofJudged?]
    rfl
  case skipped =>
    refine Iff.trans ?_ Policy.exists_verdict_eq_skipped_iff
    exact exists_congr fun slot => skipped_mem_trace_iff hs hp
  case decided =>
    rw [Event.decided, satisfiedIn_trace, satisfiedIn_trace, authorize, Response.ofJudged]
    split
    · rfl
    · split <;> rfl

/-- A permit whose condition is not met. -/
def unmetPermit : Policy :=
  (Policy.unconstrained "unmet" .permit).withCondition .whenFalse (.lit (.bool true) none)

/-- One policy of each fate: the two that are satisfied are shown in the order of the set and
named in the order of their ids; the one that is not met leaves nothing. -/
theorem trace_accounts_fates :
    ∃ s, PolicySet.ofPolicies [Policy.unconstrained "watch" .permit, closedAction, brokenPermit,
        unmetPermit, openDoor] = .ok s ∧
      Accounts ⟨plainRequest, Entities.toStore ⟨[]⟩⟩ s
        (authorize plainRequest s (Entities.toStore ⟨[]⟩))
        (trace plainRequest s (Entities.toStore ⟨[]⟩)) ∧
      trace plainRequest s (Entities.toStore ⟨[]⟩) =
        [.request plainRequest.principal plainRequest.action plainRequest.resource 5,
          .satisfied "watch" .permit, .skipped "closed" .action,
          .failed "broken" .typeMismatch "expected bool, got Long", .satisfied "open" .permit,
          .reason .allow "open", .reason .allow "watch", .result .allow 2 1] := by
  have hn : ([Policy.unconstrained "watch" .permit, closedAction, brokenPermit, unmetPermit,
    openDoor].map (·.id)).Nodup := by decide
  obtain ⟨s, hs⟩ := PolicySet.exists_ofPolicies hn
  have hp := PolicySet.policies_of_ofPolicies hs
  refine ⟨s, hs, trace_accounts (.ofPolicies hs) _ _, ?_⟩
  rw [trace, PolicySet.judge, PolicySet.size, hp]
  rfl

end AccessPolicy
