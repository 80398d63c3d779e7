/-
Everything that is written as JSON is read back.

* `EvalError.reads_toJson`, `PolicyError.reads_toJson`: errors are read back, with the
  positions that they have;
* `Request.reads_toJson`, `Response.reads_toJson`: requests and responses are read back;
* `json_roundTrip`: values, expressions, policies, requests and responses in canonical
  form are read from their own trees, and from every tree that orders the fields of an
  object in another way.
-/
import AccessPolicy.Decision.Json
import AccessPolicy.Proofs.Policy.Json
import AccessPolicy.Request.Json

namespace AccessPolicy

open Json (Rearranged Reads)

/-! ### Requests -/

/-- The context of a request is a record in canonical form. -/
def Request.WellFormed (r : Request) : Prop :=
  (Value.record r.context).WellFormed

/-- A request is read back. -/
lemma Request.reads_toJson {r : Request} (hr : r.WellFormed) : Reads ofJson? r.toJson r := by
  intro i h
  obtain ⟨p, hp, hprincipal⟩ :=
    r.principal.reads_toJson.member h 4 0 "principal" (by simp) (by simp)
  obtain ⟨a, ha, haction⟩ := r.action.reads_toJson.member h 4 1 "action" (by simp) (by simp)
  obtain ⟨e, he, hresource⟩ :=
    r.resource.reads_toJson.member h 4 2 "resource" (by simp) (by simp)
  have hcontext := (Record.reads_toJson hr).memberOr h 4 3 "context" [] (by simp) (by simp)
  simp [ofJson?, hp, hprincipal, ha, haction, he, hresource, hcontext]

/-! ### Responses -/

/-- A kind of error is found by its name. -/
lemma ErrorKind.ofName?_name (k : ErrorKind) : ofName? k.name = some k := by
  cases k <;> rfl

/-- A decision is found by its name. -/
lemma Decision.ofName?_name (d : Decision) : ofName? d.name = some d := by
  cases d <;> rfl

/-- An error is read back. -/
lemma EvalError.reads_toJson (e : EvalError) : Reads ofJson? e.toJson e := by
  intro i h
  have hn : (([("kind", Json.str e.kind.name), ("detail", .str e.detail)] ++
      Loc.fields e.loc).map (·.1)).Nodup := by
    cases e.loc <;> simp [Loc.fields]
  obtain ⟨k, hk, hkind⟩ := (Json.reads_unit e.kind.name).member h 3 0 "kind" hn (by simp)
  obtain ⟨d, hd, hdetail⟩ := (Json.reads_str e.detail).member h 3 1 "detail" hn (by simp)
  have hloc := Loc.optional?_fields h 3 2 hn (by simp)
  simp only [ofJson?, hk, hd, hloc, Option.bind_eq_bind, Option.bind_some, hkind, hdetail,
    ErrorKind.ofName?_name]
  rfl

/-- An error of a policy is read back. -/
lemma PolicyError.reads_toJson (e : PolicyError) : Reads ofJson? e.toJson e := by
  intro i h
  obtain ⟨p, hp, hpolicy⟩ := (Json.reads_str e.policy).member h 2 0 "policy_id" (by simp) (by simp)
  obtain ⟨d, hd, herror⟩ := e.error.reads_toJson.member h 2 1 "error" (by simp) (by simp)
  simp [ofJson?, hp, hpolicy, hd, herror]

/-- The reasons of a response are a set in canonical form. -/
def Response.WellFormed (r : Response) : Prop :=
  Ascending.IsAscending r.reasons

/-- A response is read back. -/
lemma Response.reads_toJson {r : Response} (hr : r.WellFormed) : Reads ofJson? r.toJson r := by
  intro i h
  obtain ⟨d, hd, hdecision⟩ :=
    (Json.reads_unit r.decision.name).member h 2 0 "decision" (by simp) (by simp)
  obtain ⟨m, hm, hdiagnostics⟩ := h.field? "diagnostics" (by simp) (.tail _ (.head _))
  rw [← h.member? 2 1] at hm
  obtain ⟨⟨s, hs⟩, hreasons, hreasonsTree⟩ := hdiagnostics.field? "reasons" (by simp) (.head _)
  rw [← hdiagnostics.member? 2 0] at hreasons
  obtain ⟨⟨t, ht⟩, herrors, herrorsTree⟩ :=
    hdiagnostics.field? "errors" (by simp) (.tail _ (.head _))
  rw [← hdiagnostics.member? 2 1] at herrors
  obtain ⟨is, rfl, his⟩ :=
    Reads.items (Reads.forall₂_map fun (id : PolicyId) (_ : id ∈ r.reasons) => Json.reads_str id)
      hreasonsTree
  obtain ⟨js, rfl, hjs⟩ :=
    Reads.items (Reads.forall₂_map fun (e : PolicyError) (_ : e ∈ r.errors) => e.reads_toJson)
      herrorsTree
  simp [ofJson?, hd, hdecision, Decision.ofName?_name, hm, hreasons, herrors, Json.arr?, his, hjs,
    Ascending.ofList_eq_self hr]

/-- **What is written as JSON is read back**, from its own tree and from every tree with
the fields of its objects in another order: values, expressions, policies, requests and
responses, if the sets and maps in them are in canonical form. -/
theorem json_roundTrip :
    (∀ v : Value, v.WellFormed → Reads Value.ofJson? v.toJson v) ∧
      (∀ e : Expr, e.WellFormed → Reads Expr.ofJson? e.toJson e) ∧
      (∀ p : Policy, p.WellFormed → Reads Policy.ofJson? p.toJson p) ∧
      (∀ r : Request, r.WellFormed → Reads Request.ofJson? r.toJson r) ∧
      ∀ r : Response, r.WellFormed → Reads Response.ofJson? r.toJson r :=
  ⟨fun _ => Value.reads_toJson, fun _ => Expr.reads_toJson, fun _ => Policy.reads_toJson,
    fun _ => Request.reads_toJson, fun _ => Response.reads_toJson⟩

/-- The least long, and ranges of both families. -/
def gate : Value :=
  Value.recordOf [("least", .long Int64.minValue),
    ("from", Value.setOf [.ip ⟨.v6 0xffff0a000001, 104, by decide⟩,
      .ip ⟨.v4 0x0a000001, 8, by decide⟩])]

/-- A policy with two forms of scope, positions and an annotation. -/
def nightGuard : Policy :=
  ⟨"night", .forbid, .isTypeIn ⟨"User"⟩ ⟨⟨"Group"⟩, "staff"⟩, .inSet [⟨⟨"Action"⟩, "enter"⟩], .any,
    [⟨.whenFalse, .binary .contains (.lit gate (some ⟨1, 4294967295⟩))
      (.getAttr (.var .context none) "gate" none) none⟩], [("note", "at night")]⟩

/-- A request with a context. -/
def knock : Request :=
  ⟨⟨⟨"User"⟩, "ann"⟩, ⟨⟨"Action"⟩, "enter"⟩, ⟨⟨"Door"⟩, "north"⟩, [("gate", gate)]⟩

/-- The tree of an identity with its keys in ascending order. -/
def sortedTree (uid : EntityUid) : Json :=
  .obj [("id", .str uid.id), ("type", .str uid.type.path)]

/-- The tree of the request with its keys in ascending order. -/
def knockSorted : Json :=
  .obj [("action", sortedTree knock.action), ("context", Record.toJson knock.context),
    ("principal", sortedTree knock.principal), ("resource", sortedTree knock.resource)]

/-- A denial with two reasons and an error. -/
def refusal : Response :=
  ⟨.deny, ["night", "zone"], [⟨"door", ⟨.overflow, "too much", some ⟨3, 7⟩⟩⟩]⟩

/-- A value, an expression, a policy and a response are read from their own trees, and a
request from a tree with sorted fields. -/
theorem json_roundTrip_sorted :
    gate.WellFormed ∧ Value.ofJson? gate.toJson = some gate ∧
      (∀ c ∈ nightGuard.conditions,
        c.body.WellFormed ∧ Expr.ofJson? c.body.toJson = some c.body) ∧
      nightGuard.WellFormed ∧ Policy.ofJson? nightGuard.toJson = some nightGuard ∧
      knock.WellFormed ∧ knock.toJson.Rearranged knockSorted ∧
      Request.ofJson? knockSorted = some knock ∧
      refusal.WellFormed ∧ Response.ofJson? refusal.toJson = some refusal := by
  have hgate : gate.WellFormed := Value.wellFormed_recordOf (by
    simp only [List.forall_mem_cons, List.not_mem_nil, false_imp_iff, implies_true, and_true]
    refine ⟨by simp [Value.WellFormed], Value.wellFormed_setOf (by simp [Value.WellFormed])⟩)
  have hbody : ∀ c ∈ nightGuard.conditions, c.body.WellFormed := by
    intro c hc v hv
    obtain rfl := List.mem_singleton.1 hc
    rcases hv with _ | ⟨hd, hv⟩
    rcases List.mem_pair.1 hd with rfl | rfl
    · rcases hv with _ | ⟨hd, -⟩
      · exact hgate
      · exact absurd hd List.not_mem_nil
    · rcases hv with _ | ⟨hd, hv⟩
      obtain rfl := List.mem_singleton.1 hd
      rcases hv with _ | ⟨hd, -⟩
      exact absurd hd List.not_mem_nil
  have hguard : nightGuard.WellFormed := ⟨hbody, by simp [nightGuard, Ascending.KeysAscending]⟩
  have hknock : (Value.recordOf [("gate", gate)]).WellFormed :=
    Value.wellFormed_recordOf (by simpa using hgate)
  have hrefusal : refusal.WellFormed := by
    simp only [refusal, Response.WellFormed, Ascending.IsAscending]
    decide
  have huid : ∀ uid : EntityUid, uid.toJson.Rearranged (sortedTree uid) := fun uid =>
    .obj rfl (.cons (.refl _) (.cons (.refl _) .nil)) (.swap _ _ _)
  have hsorted : knock.toJson.Rearranged knockSorted := by
    refine @Rearranged.obj _ [("principal", sortedTree knock.principal),
      ("action", sortedTree knock.action), ("resource", sortedTree knock.resource),
      ("context", Record.toJson knock.context)] _ rfl
      (.cons (huid _) (.cons (huid _) (.cons (huid _) (.cons (.refl _) .nil)))) ?_
    exact (List.Perm.swap _ _ _).trans (.cons _ (@List.perm_append_comm _ [_, _] [_]))
  obtain ⟨hvalue, hexpr, hpolicy, hrequest, hresponse⟩ := json_roundTrip
  exact ⟨hgate, hvalue gate hgate _ (.refl _),
    fun c hc => ⟨hbody c hc, hexpr c.body (hbody c hc) _ (.refl _)⟩,
    hguard, hpolicy nightGuard hguard _ (.refl _),
    hknock, hsorted, hrequest knock hknock _ hsorted,
    hrefusal, hresponse refusal hrefusal _ (.refl _)⟩

end AccessPolicy
