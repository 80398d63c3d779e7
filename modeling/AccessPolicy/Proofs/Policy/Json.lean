/-
Policies are read back from their JSON.

* `Policy.WellFormed`: the values in the conditions and the annotations of a policy are
  in canonical form;
* `Scope.reads_toJson`, `Condition.reads_toJson`: the parts of a policy are read back;
* `Policy.reads_toJson`: every policy is read back, whichever of its parts are written.
-/
import AccessPolicy.Policy.Json
import AccessPolicy.Proofs.Expr.Json

namespace AccessPolicy

open Json (Rearranged Reads)

/-! ### Scopes -/

/-- A scope is read back. -/
lemma Scope.reads_toJson (s : Scope) : Reads ofJson? s.toJson s := by
  intro i h
  cases s with
  | any =>
      obtain ⟨o, ho, hop⟩ := (Json.reads_str "any").member h 3 0 "op" (by simp) (by simp)
      have hsame : i.member? 1 0 "op" = i.member? 3 0 "op" := by rw [h.member?, h.member?]
      simp [ofJson?, ho, hop, hsame]
  | eq uid =>
      obtain ⟨o, ho, hop⟩ := (Json.reads_str "eq").member h 3 0 "op" (by simp) (by simp)
      obtain ⟨m, hm, huid⟩ := uid.reads_toJson.member h 2 1 "entity" (by simp) (by simp)
      simp [ofJson?, ho, hop, hm, huid]
  | isIn uid =>
      obtain ⟨o, ho, hop⟩ := (Json.reads_str "in").member h 3 0 "op" (by simp) (by simp)
      obtain ⟨m, hm, huid⟩ := uid.reads_toJson.member h 2 1 "entity" (by simp) (by simp)
      simp [ofJson?, ho, hop, hm, huid]
  | inSet uids =>
      obtain ⟨o, ho, hop⟩ := (Json.reads_str "in_set").member h 3 0 "op" (by simp) (by simp)
      obtain ⟨⟨c, below⟩, hm, hc⟩ := h.field? "entities" (by simp) (.tail _ (.head _))
      rw [← h.member? 2 1] at hm
      have hall := Reads.forall₂_map fun (uid : EntityUid) (_ : uid ∈ uids) => uid.reads_toJson
      obtain ⟨is, rfl, hread⟩ := Reads.items hall hc
      simp [ofJson?, ho, hop, hm, Json.arr?, hread]
  | isType type =>
      obtain ⟨o, ho, hop⟩ := (Json.reads_str "is").member h 3 0 "op" (by simp) (by simp)
      obtain ⟨m, hm, htype⟩ :=
        (Json.reads_str type.path).member h 2 1 "entity_type" (by simp) (by simp)
      simp [ofJson?, ho, hop, hm, htype]
  | isTypeIn type uid =>
      obtain ⟨o, ho, hop⟩ := (Json.reads_str "is_in").member h 3 0 "op" (by simp) (by simp)
      obtain ⟨m, hm, htype⟩ :=
        (Json.reads_str type.path).member h 3 1 "entity_type" (by simp) (by simp)
      obtain ⟨n, hn, huid⟩ := uid.reads_toJson.member h 3 2 "entity" (by simp) (by simp)
      simp [ofJson?, ho, hop, hm, htype, hn, huid]

/-! ### Policies -/

/-- An effect is found by its name. -/
lemma Effect.ofName?_name (e : Effect) : ofName? e.name = some e := by
  cases e <;> rfl

/-- A kind of condition is found by its name. -/
lemma ConditionKind.ofName?_name (k : ConditionKind) : ofName? k.name = some k := by
  cases k <;> rfl

/-- A condition is read back. -/
lemma Condition.reads_toJson {c : Condition} (hc : c.body.WellFormed) :
    Reads ofJson? c.toJson c := by
  intro i h
  obtain ⟨k, hk, hkind⟩ := (Json.reads_unit c.kind.name).member h 2 0 "kind" (by simp) (by simp)
  obtain ⟨b, hb, hbody⟩ :=
    (Expr.reads_toJson hc).member h 2 1 "body" (by simp) (by simp)
  simp [ofJson?, hk, hkind, ConditionKind.ofName?_name, hb, hbody]

namespace Policy

/-- The values in the conditions of a policy are in canonical form, and so are its
annotations. -/
structure WellFormed (p : Policy) : Prop where
  bodies : ∀ c ∈ p.conditions, c.body.WellFormed
  annotations : Ascending.KeysAscending p.annotations

/-- Conditions are read back. -/
lemma reads_conditions {cs : List Condition} (h : ∀ c ∈ cs, c.body.WellFormed) :
    Reads conditionsOfJson? (.arr (cs.map (·.toJson))) cs := by
  intro i hi
  have hall := Reads.forall₂_map fun (c : Condition) (hc : c ∈ cs) =>
    Condition.reads_toJson (h c hc)
  obtain ⟨is, rfl, hread⟩ := Reads.items hall hi
  simpa [conditionsOfJson?, Json.arr?] using hread

/-- Annotations are read back. -/
lemma reads_annotations {as : List (String × String)} (h : Ascending.KeysAscending as) :
    Reads annotationsOfJson? (.obj (as.map fun (k, v) => (k, .str v))) as := by
  intro i hi
  have hall : List.Forall₂
      (fun (f : String × Json) (a : String × String) => f.1 = a.1 ∧ Reads Json.str? f.2 a.2)
      (as.map fun (k, v) => (k, .str v)) as :=
    List.forall₂_map_left_iff.2 (List.forall₂_same.2 fun a _ => ⟨rfl, Json.reads_str a.2⟩)
  obtain ⟨gs, qs, rfl, hperm, hread⟩ := Reads.fields hall hi
  simp [annotationsOfJson?, Json.obj?, hread, Ascending.ofPairs_eq_of_perm h hperm.symm]

/-- **A policy is read back.** -/
theorem reads_toJson {p : Policy} (hp : p.WellFormed) : Reads ofJson? p.toJson p := by
  intro i h
  have hn : (([("id", Json.str p.id), ("effect", .str p.effect.name),
      ("principal", p.principal.toJson), ("action", p.action.toJson),
      ("resource", p.resource.toJson), ("conditions", .arr (p.conditions.map (·.toJson)))] ++
      annotationFields p.annotations).map (·.1)).Nodup := by
    cases p.annotations <;> simp [annotationFields]
  obtain ⟨d, hd, hid⟩ := (Json.reads_str p.id).member h 7 0 "id" hn (by simp)
  obtain ⟨e, he, heffect⟩ := (Json.reads_unit p.effect.name).member h 7 1 "effect" hn (by simp)
  have hprincipal := p.principal.reads_toJson.memberOr h 7 2 "principal" .any hn (by simp)
  have haction := p.action.reads_toJson.memberOr h 7 3 "action" .any hn (by simp)
  have hresource := p.resource.reads_toJson.memberOr h 7 4 "resource" .any hn (by simp)
  have hconditions := (reads_conditions hp.bodies).memberOr h 7 5 "conditions" [] hn (by simp)
  have hannotations : i.memberOr 7 6 "annotations" [] annotationsOfJson? =
      some p.annotations := by
    cases has : p.annotations with
    | nil =>
        have hnone : i.member? 7 6 "annotations" = none := by
          rw [h.member?]
          exact h.field?_eq_none "annotations" hn (by simp [has, annotationFields])
        rw [Json.memberOr, hnone]
    | cons a as =>
        rw [← has]
        refine (reads_annotations hp.annotations).memberOr h 7 6 "annotations" [] hn ?_
        simp [has, annotationFields]
  simp [ofJson?, hd, hid, he, heffect, Effect.ofName?_name, hprincipal, haction, hresource,
    hconditions, hannotations]

end Policy

end AccessPolicy
