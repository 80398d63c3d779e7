/-
Slices of a store.

* `Value.Mentions`, `Value.Within`: the identities that occur in a value at any
  depth, and the values in which only identities of a set occur;
* `Store.AgreeOn`, `Store.AgreeFullyOn`: two stores answer questions about an identity of
  a set alike. The first leaves out two questions, which regular stores answer by the
  others;
* `Closed`: a set of identities that holds those of a request, and those in the
  attributes of its members;
* `kept_within`: no rule of a node makes up an identity, so that every value of an
  evaluation stays within such a set;
* `eval_eq_of_agreeFullyOn`: then all questions that an evaluation asks are about
  identities of the set, and it cannot tell the two stores apart;
* `authorize_eq_of_agreeOn`: the same of the response to a request. The scopes of
  policies may name any identity, since the questions they ask are about the
  identities of the request.
-/
import AccessPolicy.Decision.Authorize
import AccessPolicy.Proofs.Expr.Invariant
import AccessPolicy.Proofs.Policy.Additions
import Mathlib.Data.Set.Insert

namespace AccessPolicy

/-! ### Identities in values -/

/-- The identity occurs in a value, at any depth. -/
inductive Value.Mentions (uid : EntityUid) : Value → Prop
  | here : Mentions uid (.entity uid)
  | elem {v : Value} {vs : List Value} (hv : v ∈ vs) (h : Mentions uid v) :
      Mentions uid (.set vs)
  | field {p : String × Value} {ps : Record} (hp : p ∈ ps) (h : Mentions uid p.2) :
      Mentions uid (.record ps)

/-- All identities in a value are in a set. -/
def Value.Within (U : Set EntityUid) (v : Value) : Prop :=
  ∀ uid, v.Mentions uid → uid ∈ U

variable {U : Set EntityUid}

lemma within_entity_iff {uid : EntityUid} : (Value.entity uid).Within U ↔ uid ∈ U := by
  constructor
  · intro h
    exact h uid .here
  · rintro h _ ⟨⟩
    exact h

lemma within_set_iff {vs : List Value} : (Value.set vs).Within U ↔ ∀ v ∈ vs, v.Within U := by
  constructor
  · intro h v hv uid hm
    exact h uid (.elem hv hm)
  · intro h uid hm
    cases hm with
    | elem hv hm => exact h _ hv uid hm

lemma within_record_iff {ps : Record} :
    (Value.record ps).Within U ↔ ∀ p ∈ ps, p.2.Within U := by
  constructor
  · intro h p hp uid hm
    exact h uid (.field hp hm)
  · intro h uid hm
    cases hm with
    | field hp hm => exact h _ hp uid hm

/-- What is looked up in a record is one of its values. -/
lemma within_of_lookup {ps : Record} {k : String} {v : Value}
    (h : (Value.record ps).Within U) (hv : ps.lookup k = some v) : v.Within U := by
  obtain ⟨l, r, rfl, -⟩ := List.lookup_eq_some_iff.1 hv
  exact within_record_iff.1 h (k, v) (by simp)

/-- The identity that a value is read as occurs in it. -/
lemma yields_asEntity {v : Value} (h : v.Within U) : Yields (· ∈ U) v.asEntity := by
  cases v with
  | entity uid => exact yields_ok (within_entity_iff.1 h)
  | _ => exact yields_error _

/-! ### Stores that agree -/

/-- Two stores give the same answers about the identities of a set. -/
structure Store.AgreeOn (U : Set EntityUid) (S S' : Store) : Prop where
  isPresent : ∀ uid ∈ U, S'.isPresent uid = S.isPresent uid
  attribute? : ∀ uid ∈ U, ∀ key, S'.attribute? uid key = S.attribute? uid key
  isAncestor : ∀ uid ∈ U, ∀ other, S'.isAncestor uid other = S.isAncestor uid other

/-- Two stores give the same answers about the identities of a set to every question
that evaluation asks. -/
structure Store.AgreeFullyOn (U : Set EntityUid) (S S' : Store) : Prop
    extends S.AgreeOn U S' where
  hasAttribute : ∀ uid ∈ U, ∀ key, S'.hasAttribute uid key = S.hasAttribute uid key
  isIn : ∀ uid ∈ U, ∀ other, S'.isIn uid other = S.isIn uid other

/-- Regular stores that agree about an identity agree fully: they answer the rest by
what they agree about. -/
lemma Store.AgreeOn.agreeFullyOn {S S' : Store} (h : S.AgreeOn U S') (hS : S.IsRegular)
    (hS' : S'.IsRegular) : S.AgreeFullyOn U S' where
  toAgreeOn := h
  hasAttribute uid hu key := by
    rw [hS'.hasAttribute_eq, h.attribute? uid hu, hS.hasAttribute_eq]
  isIn uid hu other := by rw [hS'.isIn_eq, h.isAncestor uid hu, hS.isIn_eq]

namespace Store.AgreeFullyOn

variable {S S' : Store}

lemma isIn_eq (h : S.AgreeFullyOn U S') {uid : EntityUid} (hu : uid ∈ U) :
    S'.isIn uid = S.isIn uid :=
  funext (h.isIn uid hu)

/-- A scope admits an identity of the set in both stores, or in none. -/
lemma admits (h : S.AgreeFullyOn U S') {uid : EntityUid} (hu : uid ∈ U) (c : Scope) :
    c.admits S' uid = c.admits S uid := by
  cases c <;> simp only [Scope.admits, h.isIn_eq hu]

/-- Membership of an identity of the set is the same in both stores. -/
lemma isInTarget (h : S.AgreeFullyOn U S') {uid : EntityUid} (hu : uid ∈ U) (v : Value) :
    isInTarget S' uid v = isInTarget S uid v := by
  cases v <;> simp only [AccessPolicy.isInTarget, h.isIn_eq hu]

/-- An operator asks about its left operand only. -/
lemma apply (h : S.AgreeFullyOn U S') (op : BinaryOp) {a : Value} (ha : a.Within U) (b : Value) :
    op.apply S' a b = op.apply S a b := by
  cases op with
  | isIn => exact (yields_asEntity ha).bind_congr fun uid hu => h.isInTarget hu b
  | _ => rfl

lemma getAttribute (h : S.AgreeFullyOn U S') (attr : String) {v : Value} (hv : v.Within U) :
    getAttribute S' attr v = getAttribute S attr v := by
  cases v with
  | entity uid =>
      have hu := within_entity_iff.1 hv
      rw [AccessPolicy.getAttribute, h.isPresent uid hu, h.attribute? uid hu,
        AccessPolicy.getAttribute]
  | _ => rfl

lemma hasAttribute_value (h : S.AgreeFullyOn U S') (attr : String) {v : Value} (hv : v.Within U) :
    AccessPolicy.hasAttribute S' attr v = AccessPolicy.hasAttribute S attr v := by
  cases v with
  | entity uid =>
      have hu := within_entity_iff.1 hv
      rw [AccessPolicy.hasAttribute, h.hasAttribute uid hu, AccessPolicy.hasAttribute]
  | _ => rfl

end Store.AgreeFullyOn

/-! ### Evaluations -/

/-- The identities in the literals of an expression are in a set. -/
def Expr.LitsWithin (U : Set EntityUid) (e : Expr) : Prop :=
  ∀ v, e.HasLit v → v.Within U

lemma Expr.LitsWithin.child {e c : Expr} (h : e.LitsWithin U) (hc : c ∈ e.children) :
    c.LitsWithin U := fun v hv => h v (.inside hc hv)

/-- A set holds the identities of a request, and with each identity all those in its
attributes. -/
structure Covers (U : Set EntityUid) (request : Request) (store : Store) : Prop where
  principal : request.principal ∈ U
  action : request.action ∈ U
  resource : request.resource ∈ U
  context : (Value.record request.context).Within U
  attrs : ∀ uid ∈ U, ∀ key v, store.attribute? uid key = some v → v.Within U

/-- The identity in each slot of a covered request is in the set. -/
lemma Covers.entity {request : Request} {S : Store} (h : Covers U request S) (slot : Slot) :
    request.entity slot ∈ U := by
  cases slot with
  | principal => exact h.principal
  | action => exact h.action
  | resource => exact h.resource

section Evaluation

variable {request : Request} {S S' : Store}

/-- **No rule of a node makes up an identity.** -/
lemma kept_within (hc : Covers U request S) : Kept (Value.Within U) ⟨request, S⟩ where
  var x := by
    cases x with
    | principal => exact within_entity_iff.2 hc.principal
    | action => exact within_entity_iff.2 hc.action
    | resource => exact within_entity_iff.2 hc.resource
    | context => exact hc.context
  bool b := by rintro uid ⟨⟩
  long n := by rintro uid ⟨⟩
  decimal _ := by rintro uid ⟨⟩
  ip _ := by rintro uid ⟨⟩
  setOf h := within_set_iff.2 fun v hv => h v (Ascending.mem_ofList.1 hv)
  recordOf h := within_record_iff.2 fun p hp => h p (Ascending.mem_of_mem_ofPairs hp)
  getAttribute key v hv := by
    refine yields_getAttribute ?_ ?_
    · rintro ps w rfl hk
      exact within_of_lookup hv hk
    · rintro uid w rfl hk
      exact hc.attrs uid (within_entity_iff.1 hv) key w hk

/-- **An evaluation cannot tell stores apart that agree on a set which covers it.** -/
theorem eval_eq_of_agreeFullyOn (hc : Covers U request S) (ha : S.AgreeFullyOn U S') (e : Expr)
    (he : e.LitsWithin U) : e.eval ⟨request, S'⟩ = e.eval ⟨request, S⟩ := by
  induction e using Expr.ind with
  | h e ih =>
  have hsame : ∀ c ∈ e.children, c.eval ⟨request, S'⟩ = c.eval ⟨request, S⟩ :=
    fun c hm => ih c hm (he.child hm)
  have hin : ∀ c ∈ e.children, Yields (Value.Within U) (c.eval ⟨request, S⟩) :=
    fun c hm => (kept_within hc).eval c (he.child hm)
  cases e with
  | lit | var => rfl
  | and l r loc | or l r loc =>
      rw [Expr.eval, Expr.eval, hsame l (by simp [Expr.children]),
        hsame r (by simp [Expr.children])]
  | not e loc | neg e loc | like e pattern loc | isType e type loc =>
      rw [Expr.eval, Expr.eval, hsame e (by simp [Expr.children])]
  | ite c t e loc =>
      rw [Expr.eval, Expr.eval, hsame c (by simp [Expr.children]),
        hsame t (by simp [Expr.children]), hsame e (by simp [Expr.children])]
  | binary op l r loc =>
      rw [Expr.eval, Expr.eval, hsame l (by simp [Expr.children]),
        hsame r (by simp [Expr.children])]
      refine congrArg (located loc) ((hin l (by simp [Expr.children])).bind_congr fun a hw => ?_)
      simp only [ha.apply op hw]
  | getAttr e attr loc =>
      rw [Expr.eval, Expr.eval, hsame e (by simp [Expr.children])]
      refine congrArg (located loc) ((hin e (by simp [Expr.children])).bind_congr fun v hw => ?_)
      rw [ha.getAttribute attr hw]
  | hasAttr e attr loc =>
      rw [Expr.eval, Expr.eval, hsame e (by simp [Expr.children])]
      refine congrArg (located loc) ((hin e (by simp [Expr.children])).bind_congr fun v hw => ?_)
      rw [ha.hasAttribute_value attr hw]
  | isTypeIn e type other loc =>
      rw [Expr.eval, Expr.eval, hsame e (by simp [Expr.children]),
        hsame other (by simp [Expr.children])]
      refine congrArg (located loc) ((hin e (by simp [Expr.children])).bind_congr fun v hw => ?_)
      refine ((yields_asEntity hw).mapError _).bind_congr fun uid hu => ?_
      simp only [ha.isInTarget hu]
  | set es loc | call name es loc =>
      have hes : Expr.evalAll ⟨request, S'⟩ es = Expr.evalAll ⟨request, S⟩ es :=
        Expr.evalAll_congr hsame
      rw [Expr.eval, Expr.eval, hes]
  | record fs loc =>
      have hfs := Expr.evalFields_congr fun f hf => hsame f.2 (List.mem_map_of_mem hf)
      rw [Expr.eval, Expr.eval, hfs]

/-! ### Responses -/

/-- The identities in the literals of all conditions are in a set. -/
def PolicySet.LitsWithin (U : Set EntityUid) (s : PolicySet) : Prop :=
  ∀ p ∈ s.policies, ∀ c ∈ p.conditions, c.body.LitsWithin U

/-- Conditions that evaluate alike hold alike. -/
lemma conditionsHold_congr {env env' : Env} {cs : List Condition}
    (h : ∀ c ∈ cs, c.body.eval env' = c.body.eval env) :
    conditionsHold env' cs = conditionsHold env cs := by
  induction cs with
  | nil => rfl
  | cons c cs ih =>
      have hc := h c (.head _)
      have htail := ih fun d hd => h d (.tail _ hd)
      rw [conditionsHold, conditionsHold, Expr.evalBool, Expr.evalBool, hc, htail]

/-- A policy that is rejected alike and whose conditions evaluate alike has one verdict. -/
lemma Policy.verdict_congr {env env' : Env} {p : Policy}
    (hscope : p.rejectedBy? env'.store env'.request = p.rejectedBy? env.store env.request)
    (h : ∀ c ∈ p.conditions, c.body.eval env' = c.body.eval env) :
    p.verdict env' = p.verdict env := by
  rw [Policy.verdict, Policy.verdict, hscope, conditionsHold_congr h]

/-- A policy whose conditions evaluate alike is skipped alike and holds alike. -/
lemma verdict_eq_of_agreeFullyOn (hc : Covers U request S) (ha : S.AgreeFullyOn U S') {p : Policy}
    (hp : ∀ c ∈ p.conditions, c.body.eval ⟨request, S'⟩ = c.body.eval ⟨request, S⟩) :
    p.verdict ⟨request, S'⟩ = p.verdict ⟨request, S⟩ := by
  have hscope : p.rejectedBy? S' request = p.rejectedBy? S request := by
    refine congrArg (List.find? · Slot.all) (funext fun slot => ?_)
    rw [ha.admits (hc.entity slot)]
  exact Policy.verdict_congr hscope hp

/-- **Slicing is sound**: if a set covers a request in a store and holds the identities
in the literals of all conditions, then every store that agrees with the first on the
set gives every condition the same result and the request the same response. Both
stores are regular. -/
theorem authorize_eq_of_agreeOn {s : PolicySet} (hS : S.IsRegular) (hS' : S'.IsRegular)
    (hc : Covers U request S) (hlit : s.LitsWithin U) (ha : S.AgreeOn U S') :
    authorize request s S' = authorize request s S ∧
      ∀ p ∈ s.policies, ∀ c ∈ p.conditions,
        c.body.eval ⟨request, S'⟩ = c.body.eval ⟨request, S⟩ := by
  have hfull : S.AgreeFullyOn U S' := ha.agreeFullyOn hS hS'
  have heval : ∀ p ∈ s.policies, ∀ c ∈ p.conditions,
      c.body.eval ⟨request, S'⟩ = c.body.eval ⟨request, S⟩ :=
    fun p hp c hm => eval_eq_of_agreeFullyOn hc hfull c.body (hlit p hp c hm)
  refine ⟨?_, heval⟩
  have hjudge : s.judge ⟨request, S'⟩ = s.judge ⟨request, S⟩ :=
    List.map_congr_left fun p hp => by rw [verdict_eq_of_agreeFullyOn hc hfull (heval p hp)]
  rw [authorize, authorize, hjudge]

end Evaluation

/-! ### A slice -/

/-- A user, who is in a group and owns a document. -/
def owner : EntityUid := ⟨⟨"User"⟩, "ann"⟩

/-- A document. -/
def plan : EntityUid := ⟨⟨"Doc"⟩, "plan"⟩

/-- Another user. -/
def stranger : EntityUid := ⟨⟨"User"⟩, "bob"⟩

/-- The owner opens the document. -/
def opening : Request := ⟨owner, ⟨⟨"Action"⟩, "open"⟩, plan, []⟩

/-- A store that holds the owner and the document. -/
def sliceStore : Store :=
  Entities.toStore ⟨[⟨owner, [], [⟨⟨"Group"⟩, "staff"⟩]⟩,
    ⟨plan, [("owner", .entity owner)], []⟩]⟩

/-- A store that holds the other user too. -/
def wholeStore : Store :=
  Entities.toStore ⟨[⟨stranger, [("friend", .entity owner)], []⟩,
    ⟨owner, [], [⟨⟨"Group"⟩, "staff"⟩]⟩, ⟨plan, [("owner", .entity owner)], []⟩]⟩

/-- A permit for the members of a group, about the documents of the owner. -/
def permitOwned : Policy :=
  ((Policy.unconstrained "owned" .permit).withScope .principal
    (.isIn ⟨⟨"Group"⟩, "staff"⟩)).withCondition .whenTrue
    (.binary .eq (.getAttr (.var .resource none) "owner" none) (.lit (.entity owner) none) none)

/-- The identities of the request cover it. -/
lemma covers_opening : Covers {owner, plan, opening.action} opening wholeStore where
  principal := by simp [opening]
  action := by simp
  resource := by simp [opening]
  context := within_record_iff.2 (by simp [opening])
  attrs := by
    rintro uid (rfl | rfl | rfl) key v hv
    · have hnone : wholeStore.attribute? owner key = none := rfl
      rw [hnone] at hv
      cases hv
    · have hplan : (Value.record [("owner", .entity owner)]).Within
          {owner, plan, opening.action} :=
        within_record_iff.2 (by simp [within_entity_iff])
      exact within_of_lookup hplan hv
    · have hnone : wholeStore.attribute? opening.action key = none := rfl
      rw [hnone] at hv
      cases hv

/-- The smaller store is enough for the request, though it lacks the other user and the
group stands in a scope: over both stores the permit is the reason to allow. -/
theorem authorize_eq_of_agreeOn_owner :
    ∃ s, PolicySet.ofPolicies [permitOwned] = .ok s ∧
      wholeStore.isPresent stranger = true ∧ sliceStore.isPresent stranger = false ∧
      authorize opening s sliceStore = authorize opening s wholeStore ∧
      (∀ c ∈ permitOwned.conditions, c.body.eval ⟨opening, sliceStore⟩ = .ok (.bool true)) ∧
      authorize opening s wholeStore = ⟨.allow, ["owned"], []⟩ := by
  have hn : ([permitOwned].map (·.id)).Nodup := by decide
  obtain ⟨s, hs⟩ := PolicySet.exists_ofPolicies hn
  have hp := PolicySet.policies_of_ofPolicies hs
  have hlit : s.LitsWithin {owner, plan, opening.action} := by
    intro p hmem c hc v hv
    rw [hp] at hmem
    obtain rfl := List.mem_singleton.1 hmem
    obtain rfl := List.mem_singleton.1 hc
    cases hv with
    | inside hm hv =>
        rcases List.mem_pair.1 hm with rfl | rfl
        · cases hv with
          | inside hm hv =>
              obtain rfl := List.mem_singleton.1 hm
              cases hv with
              | inside hm _ => cases hm
        · cases hv with
          | here loc => exact within_entity_iff.2 (by simp)
          | inside hm _ => cases hm
  have hagree : wholeStore.AgreeOn {owner, plan, opening.action} sliceStore :=
    ⟨by rintro uid (rfl | rfl | rfl) <;> rfl, by rintro uid (rfl | rfl | rfl) key <;> rfl,
      by rintro uid (rfl | rfl | rfl) other <;> rfl⟩
  have hwhole : wholeStore.IsRegular := Entities.isRegular_toStore _
  have hslice : sliceStore.IsRegular := Entities.isRegular_toStore _
  have hkey := authorize_eq_of_agreeOn hwhole hslice covers_opening hlit hagree
  have heval : ∀ c ∈ permitOwned.conditions,
      c.body.eval ⟨opening, sliceStore⟩ = .ok (.bool true) := by
    intro c hc
    rw [hkey.2 permitOwned (hp ▸ List.mem_singleton_self permitOwned) c hc]
    obtain rfl := List.mem_singleton.1 hc
    rfl
  refine ⟨s, hs, rfl, rfl, hkey.1, heval, ?_⟩
  rw [authorize, PolicySet.judge, hp]
  rfl

end AccessPolicy
