/-
What of a context matters.

* `Expr.StandsIn`: an expression stands in another, at any depth;
* `Expr.AsksAt`: a node that asks its operand for an attribute whose key is in a set;
* `Expr.ReadsContextAt`: wherever the context stands in an expression, it is the operand
  of such a node;
* `Request.AgreeOn`: requests that differ at most in what their contexts hold under
  keys outside a set;
* `eval_eq_of_contexts_agree`: then no evaluation can tell the requests apart, for the
  context never becomes a value that another node could look at;
* `authorize_eq_of_contexts_agree`: the same of the responses to the requests.
-/
import AccessPolicy.Proofs.Entity.Slice

namespace AccessPolicy

/-! ### Reading the context -/

namespace Expr

/-- An expression stands in another, at any depth. -/
inductive StandsIn (d : Expr) : Expr → Prop
  | here : StandsIn d d
  | inside {c e : Expr} (hc : c ∈ e.children) (h : StandsIn d c) : StandsIn d e

/-- A node that asks its operand for an attribute, or whether it has the attribute, with a
key of a set. -/
inductive AsksAt (K : Set String) : Expr → Prop
  | getAttr (e : Expr) {key : String} (loc : Option Loc) (h : key ∈ K) :
      AsksAt K (.getAttr e key loc)
  | hasAttr (e : Expr) {key : String} (loc : Option Loc) (h : key ∈ K) :
      AsksAt K (.hasAttr e key loc)

/-- Every occurrence of the context in an expression is the operand of a node that reads a
key of a set. -/
structure ReadsContextAt (K : Set String) (e : Expr) : Prop where
  /-- The expression is not the context as a whole. -/
  ne_context : ∀ loc, e ≠ .var .context loc
  /-- A node that has the context as an operand reads a key of the set. -/
  asks : ∀ d, StandsIn d e → ∀ loc, .var .context loc ∈ d.children → d.AsksAt K

variable {K : Set String}

/-- An expression reads the context as asked exactly if it is not the context, reads a key of
the set if it has the context as an operand, and its other operands read the context so. -/
lemma readsContextAt_iff {e : Expr} : e.ReadsContextAt K ↔
    (∀ loc, e ≠ .var .context loc) ∧ (∀ loc, .var .context loc ∈ e.children → e.AsksAt K) ∧
      ∀ c ∈ e.children, (∀ loc, c ≠ .var .context loc) → c.ReadsContextAt K := by
  constructor
  · intro h
    refine ⟨h.ne_context, h.asks e .here, fun c hc hne => ⟨hne, fun d hd loc hm => ?_⟩⟩
    exact h.asks d (.inside hc hd) loc hm
  · rintro ⟨hne, hasks, hrest⟩
    refine ⟨hne, fun d hd loc hm => ?_⟩
    cases hd with
    | here => exact hasks loc hm
    | @inside c e hc hd =>
        by_cases hctx : ∃ l, c = .var .context l
        · -- nothing stands in the context but the context itself, which has no operands
          obtain ⟨l, rfl⟩ := hctx
          cases hd with
          | here => cases hm
          | inside hc' _ => cases hc'
        · have hc := hrest c hc fun l hl => hctx ⟨l, hl⟩
          exact hc.asks d hd loc hm

/-- A node reads the context as asked if all its operands do. -/
lemma ReadsContextAt.node {e : Expr} (hne : ∀ loc, e ≠ .var .context loc)
    (h : ∀ c ∈ e.children, c.ReadsContextAt K) : e.ReadsContextAt K :=
  readsContextAt_iff.2 ⟨hne, fun loc hm => absurd rfl ((h _ hm).ne_context loc),
    fun c hc _ => h c hc⟩

/-- A node that reads a key of the set from the context itself reads it as asked. -/
lemma AsksAt.readsContextAt {e : Expr} {loc : Option Loc} (h : e.AsksAt K)
    (hc : e.children = [.var .context loc]) : e.ReadsContextAt K := by
  refine readsContextAt_iff.2 ⟨?_, fun _ _ => h, ?_⟩
  · rintro l rfl
    cases h
  · rw [hc]
    intro c hm hne
    exact absurd (List.mem_singleton.1 hm) (hne loc)

end Expr

/-! ### Requests that agree -/

/-- Two requests are about the same entities, and their contexts hold the same under every
key of a set. -/
structure Request.AgreeOn (K : Set String) (r r' : Request) : Prop where
  principal : r'.principal = r.principal
  action : r'.action = r.action
  resource : r'.resource = r.resource
  context : ∀ key ∈ K, r'.context.lookup key = r.context.lookup key

section Agreement

variable {K : Set String} {r r' : Request} {store : Store}

/-- The entity in each slot is the same. -/
lemma Request.AgreeOn.entity (h : r.AgreeOn K r') (slot : Slot) :
    r'.entity slot = r.entity slot := by
  cases slot with
  | principal => exact h.principal
  | action => exact h.action
  | resource => exact h.resource

/-- A variable that is not the context has the same value. -/
lemma Request.AgreeOn.var (h : r.AgreeOn K r') {x : Var} (hx : x ≠ .context) :
    Env.var ⟨r', store⟩ x = Env.var ⟨r, store⟩ x := by
  cases x with
  | principal => exact congrArg Value.entity h.principal
  | action => exact congrArg Value.entity h.action
  | resource => exact congrArg Value.entity h.resource
  | context => exact absurd rfl hx

/-- A node that reads a key of the set from the context itself gives the same. -/
lemma Request.AgreeOn.eval_asksAt (h : r.AgreeOn K r') {e : Expr} (he : e.AsksAt K)
    {loc : Option Loc} (hm : .var .context loc ∈ e.children) :
    e.eval ⟨r', store⟩ = e.eval ⟨r, store⟩ := by
  cases he with
  | @getAttr e key pos hk =>
      obtain rfl := List.mem_singleton.1 hm
      have hget : getAttribute store key (.record r'.context) =
          getAttribute store key (.record r.context) := by
        rw [getAttribute, h.context key hk, getAttribute]
      exact congrArg (fun v => located pos (raise v)) hget
  | @hasAttr e key pos hk =>
      obtain rfl := List.mem_singleton.1 hm
      have hhas : hasAttribute store key (.record r'.context) =
          hasAttribute store key (.record r.context) := by
        rw [hasAttribute, h.context key hk, hasAttribute]
      exact congrArg (fun v => located pos (raise v)) hhas

/-- **An evaluation cannot tell requests apart that agree on the keys it reads.** -/
theorem eval_eq_of_contexts_agree (h : r.AgreeOn K r') (e : Expr) (he : e.ReadsContextAt K) :
    e.eval ⟨r', store⟩ = e.eval ⟨r, store⟩ := by
  induction e using Expr.ind with
  | h e ih =>
  obtain ⟨hne, hasks, hrest⟩ := Expr.readsContextAt_iff.1 he
  -- either the node looks at the context itself, or all it does is in its operands
  by_cases hctx : ∃ loc, .var .context loc ∈ e.children
  · obtain ⟨loc, hm⟩ := hctx
    exact h.eval_asksAt (hasks loc hm) hm
  · have hvar : ∀ x loc, e = .var x loc → Env.var ⟨r', store⟩ x = Env.var ⟨r, store⟩ x :=
      fun x loc hx => h.var fun hxc => hne loc (by rw [hx, hxc])
    have hoperands : ∀ c ∈ e.children, c.eval ⟨r', store⟩ = c.eval ⟨r, store⟩ :=
      fun c hc => ih c hc (hrest c hc fun loc hcl => hctx ⟨loc, hcl ▸ hc⟩)
    exact Expr.eval_congr (by rfl) hvar hoperands

/-! ### Responses -/

/-- Every condition of a set reads the context at keys of a set only. -/
def PolicySet.ReadsContextAt (K : Set String) (s : PolicySet) : Prop :=
  ∀ p ∈ s.policies, ∀ c ∈ p.conditions, c.body.ReadsContextAt K

/-- **What no condition reads of a context is irrelevant**: requests that agree on the keys
which the conditions of a set read have the same response, over every store. -/
theorem authorize_eq_of_contexts_agree {s : PolicySet} (hs : s.ReadsContextAt K)
    (h : r.AgreeOn K r') (store : Store) : authorize r' s store = authorize r s store := by
  have hjudge : s.judge ⟨r', store⟩ = s.judge ⟨r, store⟩ := by
    refine List.map_congr_left fun p hp => ?_
    have hscope : p.rejectedBy? store r' = p.rejectedBy? store r := by
      refine congrArg (List.find? · Slot.all) (funext fun slot => ?_)
      rw [h.entity slot]
    rw [Policy.verdict_congr hscope fun c hc => eval_eq_of_contexts_agree h c.body (hs p hp c hc)]
  rw [authorize, authorize, hjudge]

end Agreement

/-! ### A context with more in it -/

/-- A permit for those who have given a second factor. -/
def permitFactor : Policy :=
  (Policy.unconstrained "factor" .permit).withCondition .whenTrue
    (.and (.hasAttr (.var .context none) "mfa" none)
      (.getAttr (.var .context none) "mfa" none) none)

/-- A forbid that looks at a ticket, at a position. -/
def forbidTicket : Policy :=
  (Policy.unconstrained "ticket" .forbid).withCondition .whenTrue
    (.binary .eq (.getAttr (.var .context none) "ticket" (some ⟨2, 5⟩)) (.lit (.long 7) none)
      none)

/-- A request with a second factor, from an address. -/
def fromAddress : Request :=
  ⟨⟨⟨"User"⟩, "ann"⟩, ⟨⟨"Action"⟩, "open"⟩, ⟨⟨"Doc"⟩, "plan"⟩,
    [("mfa", .bool true), ("src", .string "10.1.2.3")]⟩

/-- The same request, from a device. -/
def fromDevice : Request :=
  { fromAddress with context := [("device", .string "laptop"), ("mfa", .bool true)] }

/-- Address and device do not matter to policies that look at the factor and the ticket: the
request is allowed for the factor, and the missing ticket is reported. -/
theorem authorize_eq_of_contexts_agree_device :
    ∃ s, PolicySet.ofPolicies [permitFactor, forbidTicket] = .ok s ∧
      ∀ store, authorize fromDevice s store = authorize fromAddress s store ∧
        (authorize fromAddress s store).reasons = ["factor"] ∧
        (authorize fromAddress s store).errors.map (·.policy) = ["ticket"] := by
  have hn : ([permitFactor, forbidTicket].map (·.id)).Nodup := by decide
  obtain ⟨s, hs⟩ := PolicySet.exists_ofPolicies hn
  have hp := PolicySet.policies_of_ofPolicies hs
  have hreads : s.ReadsContextAt {"mfa", "ticket"} := by
    have hfactor : ∀ c ∈ permitFactor.conditions, c.body.ReadsContextAt {"mfa", "ticket"} := by
      intro c hc
      obtain rfl := List.mem_singleton.1 hc
      refine .node nofun fun d hd => ?_
      rcases List.mem_pair.1 hd with rfl | rfl
      · exact (Expr.AsksAt.hasAttr _ none (by simp)).readsContextAt rfl
      · exact (Expr.AsksAt.getAttr _ none (by simp)).readsContextAt rfl
    have hticket : ∀ c ∈ forbidTicket.conditions, c.body.ReadsContextAt {"mfa", "ticket"} := by
      intro c hc
      obtain rfl := List.mem_singleton.1 hc
      refine .node nofun fun d hd => ?_
      rcases List.mem_pair.1 hd with rfl | rfl
      · exact (Expr.AsksAt.getAttr _ _ (by simp)).readsContextAt rfl
      · exact .node nofun fun d hd => absurd hd List.not_mem_nil
    intro p hm
    rw [hp] at hm
    rcases List.mem_pair.1 hm with rfl | rfl
    · exact hfactor
    · exact hticket
  have hagree : fromAddress.AgreeOn {"mfa", "ticket"} fromDevice :=
    ⟨rfl, rfl, rfl, by rintro key (rfl | rfl) <;> rfl⟩
  refine ⟨s, hs, fun store => ⟨authorize_eq_of_contexts_agree hreads hagree store, ?_, ?_⟩⟩
  · rw [authorize, PolicySet.judge, hp]
    rfl
  · rw [authorize, PolicySet.judge, hp]
    rfl

end AccessPolicy
