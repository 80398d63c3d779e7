/-
Values are in canonical form everywhere.

* `Record.wellFormed_of_ofJson?`, `Request.wellFormed_of_ofJson?`,
  `Policy.wellFormed_of_ofJson?`: whatever is decoded holds well-formed values only;
* `Request.Overlong`, `Policy.Overlong`: the JSON of a request or a policy in which a range
  of addresses has too many bits, at whatever depth; such JSON is refused;
* `Value.Obtained`: the values that come about: made, decoded, also inside expressions,
  policies and requests, or given by an evaluation, in any succession. `Obtained.wellFormed`
  says that they are well-formed, since each of these steps keeps them so;
* `canonical_everywhere`: all of this, for values that come about and for all well-formed
  values that an evaluation may start from.
-/
import AccessPolicy.Proofs.Expr.Canonical
import AccessPolicy.Proofs.Policy.Json
import AccessPolicy.Request.Json

namespace AccessPolicy

/-! ### Components that may be left out -/

namespace Json

variable {α : Type} {j : Json} {arity position : Nat} {name : String} {default : α}
  {read : Json → Option α}

/-- What stands for a component is its default, or is read. -/
lemma eq_or_exists_of_memberOr {a : α} (h : j.memberOr arity position name default read = some a) :
    a = default ∨ ∃ i, read i = some a := by
  rw [memberOr] at h
  split at h
  · exact .inr ⟨_, h⟩
  · exact .inl (Option.some.inj h).symm

/-- A component that is there is read. -/
lemma memberOr_of_member? {i : Json} (h : (j.member? arity position name).map (·.1) = some i) :
    j.memberOr arity position name default read = read i := by
  obtain ⟨⟨_, below⟩, hm, rfl⟩ := Option.map_eq_some_iff.1 h
  rw [memberOr, hm]

end Json

/-! ### Records and requests -/

/-- Whatever JSON a record is decoded from, it is well-formed. -/
lemma Record.wellFormed_of_ofJson? {j : Json} {r : Record} (h : Record.ofJson? j = some r) :
    (Value.record r).WellFormed := by
  obtain ⟨fs, -, h⟩ := Option.bind_eq_some_iff.1 h
  obtain ⟨ps, hps, h⟩ := Option.bind_eq_some_iff.1 h
  obtain rfl := Option.some.inj h
  refine Value.wellFormed_recordOf fun p hp => ?_
  obtain ⟨f, -, hf⟩ := Value.exists_of_mem_fieldsOfJson? hps hp
  exact Value.wellFormed_of_ofJson? hf

/-- A record with a value that has, at some depth, a range with too many bits is refused. -/
lemma Record.ofJson?_eq_none {f : String × Json} {fs : List (String × Json)} (hf : f ∈ fs)
    (h : Value.Overlong f.2) : Record.ofJson? (.obj fs) = none := by
  have hread : Value.fieldsOfJson? fs = none :=
    Value.fieldsOfJson?_eq_none hf (Value.ofJson?_eq_none_of_overlong h)
  exact Option.bind_eq_none_iff.2 fun _ hps => absurd (hread.symm.trans hps) nofun

namespace Request

/-- Whatever JSON a request is decoded from, its context is well-formed. -/
lemma wellFormed_of_ofJson? {j : Json} {r : Request} (h : ofJson? j = some r) :
    (Value.record r.context).WellFormed := by
  simp only [ofJson?, Option.bind_eq_bind, Option.bind_eq_some_iff, Option.pure_def,
    Option.some.injEq] at h
  obtain ⟨_, -, _, -, _, -, _, -, _, -, _, -, context, hcontext, rfl⟩ := h
  rcases Json.eq_or_exists_of_memberOr hcontext with rfl | ⟨i, hi⟩
  · simp [Value.WellFormed, Value.WellFormedFields, Ascending.KeysAscending]
  · exact Record.wellFormed_of_ofJson? hi

/-- The JSON of a request with a range in its context that has, at some depth, more bits than
its family. -/
def Overlong (j : Json) : Prop :=
  ∃ fs, (j.member? 4 3 "context").map (·.1) = some (.obj fs) ∧ ∃ f ∈ fs, Value.Overlong f.2

/-- Such a request is refused. -/
lemma ofJson?_eq_none_of_overlong {j : Json} (h : Overlong j) : ofJson? j = none := by
  obtain ⟨fs, hcontext, f, hf, h⟩ := h
  have hnone : j.memberOr 4 3 "context" [] Record.ofJson? = none := by
    rw [Json.memberOr_of_member? hcontext, Record.ofJson?_eq_none hf h]
  simp [ofJson?, hnone]

end Request

/-! ### Policies -/

namespace Policy

/-- Whatever JSON a policy is decoded from, it is well-formed. -/
lemma wellFormed_of_ofJson? {j : Json} {p : Policy} (h : ofJson? j = some p) : p.WellFormed := by
  simp only [ofJson?, Option.bind_eq_bind, Option.bind_eq_some_iff, Option.pure_def,
    Option.some.injEq] at h
  obtain ⟨_, -, _, -, _, -, _, -, _, -, _, -, _, -, _, -, cs, hcs, as, has, rfl⟩ := h
  constructor
  case bodies =>
    intro c hc
    rcases Json.eq_or_exists_of_memberOr hcs with rfl | ⟨i, hi⟩
    · exact absurd hc List.not_mem_nil
    · obtain ⟨is, -, his⟩ := Option.bind_eq_some_iff.1 hi
      obtain ⟨k, -, hk⟩ := Text.exists_of_mem_mapM his hc
      simp only [Condition.ofJson?, Option.bind_eq_bind, Option.bind_eq_some_iff, Option.pure_def,
        Option.some.injEq] at hk
      obtain ⟨_, -, _, -, _, -, _, -, body, hbody, rfl⟩ := hk
      exact Expr.wellFormed_of_ofJson? hbody
  case annotations =>
    rcases Json.eq_or_exists_of_memberOr has with rfl | ⟨i, hi⟩
    · exact List.Pairwise.nil
    · obtain ⟨_, -, hi⟩ := Option.bind_eq_some_iff.1 hi
      obtain ⟨_, -, hi⟩ := Option.bind_eq_some_iff.1 hi
      obtain rfl := Option.some.inj hi
      exact Ascending.keysAscending_ofPairs _

/-- The JSON of a policy with a condition in which a range has, at some depth, more bits than
its family. -/
def Overlong (j : Json) : Prop :=
  ∃ cs, (j.member? 7 5 "conditions").map (·.1) = some (.arr cs) ∧
    ∃ c ∈ cs, ∃ body, (c.member? 2 1 "body").map (·.1) = some body ∧ Expr.Overlong body

/-- Such a policy is refused. -/
lemma ofJson?_eq_none_of_overlong {j : Json} (h : Overlong j) : ofJson? j = none := by
  obtain ⟨cs, hconditions, c, hc, body, hbody, h⟩ := h
  obtain ⟨⟨_, below⟩, hm, rfl⟩ := Option.map_eq_some_iff.1 hbody
  have hcondition : Condition.ofJson? c = none := by
    simp [Condition.ofJson?, hm, Expr.ofJson?_eq_none_of_overlong h]
  have hnone : j.memberOr 7 5 "conditions" [] conditionsOfJson? = none := by
    rw [Json.memberOr_of_member? hconditions]
    exact Text.mapM_eq_none_of_mem hc hcondition
  simp [ofJson?, hnone]

end Policy

/-! ### Everywhere -/

namespace Value

/-- The values that come about: those that are made, those that are decoded, by themselves or
inside something else, those that an evaluation gives, and the parts of all of these. -/
inductive Obtained : Value → Prop
  | bool (b : Bool) : Obtained (.bool b)
  | long (n : Long) : Obtained (.long n)
  | string (s : String) : Obtained (.string s)
  | entity (uid : EntityUid) : Obtained (.entity uid)
  | decimal (d : Decimal) : Obtained (.decimal d)
  | set {xs : List Value} (h : ∀ x ∈ xs, Obtained x) : Obtained (setOf xs)
  | record {ps : List (String × Value)} (h : ∀ p ∈ ps, Obtained p.2) : Obtained (recordOf ps)
  | withField {fs : Record} {k : String} {v : Value} (hfs : Obtained (.record fs))
      (hv : Obtained v) : Obtained (.record (Ascending.put k v fs))
  | range {a : Ip.Address} {n : Nat} {r : Ip.Range} (h : Ip.Range.make? a n = .ok r) :
      Obtained (.ip r)
  | rangeText {text : String} {r : Ip.Range} (h : Ip.Range.ofText? text = .ok r) :
      Obtained (.ip r)
  | decoded {j : Json} {v : Value} (h : ofJson? j = some v) : Obtained v
  | decodedRecord {j : Json} {r : Record} (h : Record.ofJson? j = some r) : Obtained (.record r)
  | inExpr {j : Json} {e : Expr} {v : Value} (h : Expr.ofJson? j = some e) (hv : e.HasLit v) :
      Obtained v
  | inPolicy {j : Json} {p : Policy} {c : Condition} {v : Value} (h : Policy.ofJson? j = some p)
      (hc : c ∈ p.conditions) (hv : c.body.HasLit v) : Obtained v
  | inRequest {j : Json} {r : Request} (h : Request.ofJson? j = some r) :
      Obtained (.record r.context)
  | part {v x : Value} (hv : Obtained v) (hx : x ∈ v.parts) : Obtained x
  | result {env : Env} {e : Expr} {v : Value} (hcontext : Obtained (.record env.request.context))
      (hattrs : ∀ uid key w, env.store.attribute? uid key = some w → Obtained w)
      (hlits : ∀ w, e.HasLit w → Obtained w) (h : e.eval env = .ok v) : Obtained v

/-- **Every value that comes about is well-formed**, since each way of coming about keeps the
canonical form. -/
theorem Obtained.wellFormed {v : Value} (h : Obtained v) : v.WellFormed := by
  induction h with
  | bool | long | string | entity | decimal | range | rangeText => simp [WellFormed]
  | set _ ih => exact wellFormed_setOf ih
  | record _ ih => exact wellFormed_recordOf ih
  | withField _ _ ihfs ihv => exact wellFormed_put ihfs ihv
  | decoded h => exact wellFormed_of_ofJson? h
  | decodedRecord h => exact Record.wellFormed_of_ofJson? h
  | inExpr h hv => exact Expr.wellFormed_of_ofJson? h _ hv
  | inPolicy h hc hv => exact (Policy.wellFormed_of_ofJson? h).bodies _ hc _ hv
  | inRequest h => exact Request.wellFormed_of_ofJson? h
  | part _ hx ih => exact ih.part hx
  | result _ _ _ h ihcontext ihattrs ihlits =>
      exact Expr.wellFormed_of_eval ⟨ihcontext, ihattrs⟩ ihlits h

end Value

/-- **Values are in canonical form everywhere**, at every depth: those that are made, those that
are decoded from JSON of any shape, and those that an evaluation gives over well-formed values,
wherever these come from. JSON with a range of addresses that has more bits than its family
is refused, wherever the range stands. -/
theorem canonical_everywhere :
    (∀ v : Value, v.WellFormed ↔ ∀ w : Value, w.OccursIn v → w.IsCanonical) ∧
      (∀ v : Value, v.Obtained → v.WellFormed) ∧
      (∀ j, (Value.Overlong j → Value.ofJson? j = none) ∧
        (Expr.Overlong j → Expr.ofJson? j = none) ∧
        (Policy.Overlong j → Policy.ofJson? j = none) ∧
        (Request.Overlong j → Request.ofJson? j = none)) ∧
      ∀ (env : Env) (e : Expr) (v : Value), env.WellFormed → e.WellFormed →
        e.eval env = .ok v → v.WellFormed :=
  ⟨fun _ => Value.wellFormed_iff, fun _ h => h.wellFormed,
    fun _ => ⟨Value.ofJson?_eq_none_of_overlong, Expr.ofJson?_eq_none_of_overlong,
      Policy.ofJson?_eq_none_of_overlong, Request.ofJson?_eq_none_of_overlong⟩,
    fun _ _ _ henv he hv => Expr.wellFormed_of_eval henv he hv⟩

/-- The JSON of a set with the block of some leading bits of `::1`. -/
def blockSetJson (bits : Int) : Json :=
  Value.tagged .set (.arr [Value.tagged .ip
    (.obj [("addr", .str (Ip.Address.v6 1).toText), ("prefix", .int bits)])])

/-- A request with a set in its context, whose elements are given in descending order. -/
def taggedRequest : Request :=
  let user : EntityUid := ⟨⟨"User"⟩, "u"⟩
  ⟨user, user, user, [("tags", Value.setOf [.string "b", .string "a"])]⟩

/-- A block with 129 bits is refused inside a set, and the set that is read from the context is
in canonical form. -/
theorem canonical_everywhere_tags :
    Value.ofJson? (blockSetJson 129) = none ∧
      ∃ v, (Expr.getAttr (.var .context none) "tags" none).eval
          ⟨taggedRequest, Entities.toStore ⟨[]⟩⟩ = .ok v ∧
        ∀ w : Value, w.OccursIn v → w.IsCanonical := by
  obtain ⟨hform, hobtained, hrefused, heval⟩ := canonical_everywhere
  constructor
  · refine (hrefused _).1 (.inSet rfl rfl List.mem_cons_self (.range rfl rfl ?_))
    exact ⟨_, .v6 1, 129, rfl, Ip.Address.ofText?_toText_eq_some _, rfl, by decide⟩
  · have htags : (Value.setOf [.string "b", .string "a"]).Obtained :=
      .set (by simp [Value.Obtained.string])
    have hcontext : (Value.recordOf taggedRequest.context).Obtained :=
      .record (List.forall_mem_singleton.2 htags)
    have henv : Env.WellFormed ⟨taggedRequest, Entities.toStore ⟨[]⟩⟩ :=
      ⟨hobtained _ hcontext, by simp [Entities.toStore, Entities.find?]⟩
    have hlits : (Expr.getAttr (.var .context none) "tags" none).WellFormed := by
      rintro v (_ | ⟨hc, hv⟩)
      obtain rfl := List.mem_singleton.1 hc
      cases hv with
      | inside hc => exact absurd hc List.not_mem_nil
    exact ⟨_, rfl, (hform _).1 (heval _ _ _ henv hlits rfl)⟩

end AccessPolicy
