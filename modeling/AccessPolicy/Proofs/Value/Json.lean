/-
Values are read back from their JSON.

* `EntityUid.reads_toJson`, `Ip.Range.reads_toJson`: identities and ranges of addresses,
  of both families and with every number of bits;
* `Value.reads_toJson`: a value in canonical form is read back at every depth, for
  making a set or a record of what is already in canonical form changes nothing;
* `Record.reads_toJson`: the same for a record that stands by itself.
-/
import AccessPolicy.Proofs.Ip.AddressText
import AccessPolicy.Proofs.Json.Rearranged
import AccessPolicy.Proofs.Value.Order
import AccessPolicy.Value.Json

namespace AccessPolicy

open Json (Rearranged Reads)

/-! ### Identities and ranges -/

/-- An identity is read back. -/
lemma EntityUid.reads_toJson (uid : EntityUid) : Reads ofJson? uid.toJson uid := by
  intro i h
  obtain ⟨t, ht, htype⟩ :=
    (Json.reads_str uid.type.path).member h 2 0 "type" (by simp) (by simp)
  obtain ⟨d, hd, hid⟩ := (Json.reads_str uid.id).member h 2 1 "id" (by simp) (by simp)
  simp [ofJson?, ht, htype, hd, hid]

/-- A range is read back. -/
lemma Ip.Range.reads_toJson (r : Ip.Range) : Reads ofJson? r.toJson r := by
  intro i h
  have hwidth : r.address.width ≤ 128 := by
    cases r.address <;> simp [Address.width]
  have hbits : (0 : Int) ≤ r.bits ∧ (r.bits : Int) ≤ 255 := by
    have := r.bits_le
    omega
  obtain ⟨a, ha, haddress⟩ :=
    (Json.reads_str r.address.toText).member h 2 0 "addr" (by simp) (by simp)
  obtain ⟨b, hb, hread⟩ := (Json.reads_intIn hbits).member h 2 1 "prefix" (by simp) (by simp)
  simp [ofJson?, ha, haddress, hb, hread, Address.ofText?_toText_eq_some, make?, r.bits_le,
    Except.toOption]

/-! ### Values -/

namespace Value

/-- The fields of a record are written one by one. -/
lemma fieldsToJson_eq_map (fs : List (String × Value)) :
    fieldsToJson fs = fs.map fun f => (f.1, f.2.toJson) := by
  induction fs with
  | nil => rfl
  | cons f fs ih => rw [fieldsToJson, ih, List.map_cons]

/-- A long is read back. -/
lemma reads_long (n : Long) : Reads longOfJson? (.int n.toInt) n := by
  rintro i ⟨⟩
  exact Long.ofInt?_eq_some_iff.2 rfl

/-- The kind and the content of a value are found. -/
lemma exists_content {kind : ValueKind} {content i : Json}
    (h : Rearranged (tagged kind content) i) : tagOfJson? i = some kind.name ∧
      ∃ m, i.member? 2 1 "value" = some m ∧ Rearranged content m.1 := by
  obtain ⟨t, ht, hname⟩ := (Json.reads_unit kind.name).field h "type" (by simp) (by simp)
  obtain ⟨m, hm, hcontent⟩ := h.field? (v := content) "value" (by simp) (by simp)
  refine ⟨?_, m, ?_, hcontent⟩
  · obtain ⟨-, hs, rfl, -⟩ := h.exists_fields
    simp [tagOfJson?, ht, hname]
  · rw [h.member?, hm]

/-- The fields of a record are read back, in some order. -/
lemma exists_readFields {fs : List (String × Value)} {i : Json}
    (hfs : ∀ f ∈ fs, Reads ofJson? f.2.toJson f.2)
    (h : Rearranged (.obj (fieldsToJson fs)) i) : ∃ gs qs, i = .obj gs ∧ qs.Perm fs ∧
      gs.mapM (fun g => (ofJson? g.2).bind fun x => some (g.1, x)) = some qs := by
  refine Reads.fields ?_ h
  rw [fieldsToJson_eq_map]
  exact List.forall₂_map_left_iff.2 (List.forall₂_same.2 fun f hf => ⟨rfl, hfs f hf⟩)

/-- **A value in canonical form is read back.** -/
theorem reads_toJson {v : Value} (hv : v.WellFormed) : Reads ofJson? v.toJson v := by
  induction v using ind with
  | h v ih =>
  intro i h
  have hpart : ∀ x ∈ v.parts, Reads ofJson? x.toJson x := fun x hx => ih x hx (hv.part hx)
  rw [ofJson?]
  cases v with
  | bool b =>
      obtain ⟨htag, ⟨c, below⟩, hm, hc⟩ := exists_content h
      cases hc
      simp [htag, hm, ValueKind.name]
  | set xs =>
      rw [WellFormed] at hv
      obtain ⟨htag, ⟨c, below⟩, hm, hc⟩ := exists_content h
      rw [elemsToJson_eq_map] at hc
      obtain ⟨is, rfl, hread⟩ := Reads.items (Reads.forall₂_map hpart) hc
      obtain ⟨ms, hms, hitems⟩ := Json.unattach_items? is
      have hset : setOf xs = .set xs := congrArg set (Ascending.ofList_eq_self hv.1)
      simp [htag, hm, ValueKind.name, hms, hitems, hread, parts, hset]
  | record fs =>
      rw [WellFormed] at hv
      obtain ⟨htag, ⟨c, below⟩, hm, hc⟩ := exists_content h
      obtain ⟨gs, qs, rfl, hperm, hread⟩ :=
        exists_readFields (fun f hf => hpart f.2 (List.mem_map_of_mem hf)) hc
      obtain ⟨ms, hms, hfields⟩ := Json.mapM_fields? gs
      rw [hread] at hfields
      have hrecord : recordOf qs = .record fs :=
        congrArg record (Ascending.ofPairs_eq_of_perm hv.1 hperm.symm)
      simp [htag, hm, ValueKind.name, hms, hfields, hrecord]
  | long n =>
      obtain ⟨htag, m, hm, hc⟩ := exists_content h
      simp [htag, hm, ValueKind.name, reads_long n _ hc]
  | string s =>
      obtain ⟨htag, m, hm, hc⟩ := exists_content h
      simp [htag, hm, ValueKind.name, Json.reads_str s _ hc]
  | entity uid =>
      obtain ⟨htag, m, hm, hc⟩ := exists_content h
      simp [htag, hm, ValueKind.name, uid.reads_toJson _ hc]
  | decimal d =>
      obtain ⟨htag, m, hm, hc⟩ := exists_content h
      simp [htag, hm, ValueKind.name, reads_long d.scaled _ hc]
  | ip r =>
      obtain ⟨htag, m, hm, hc⟩ := exists_content h
      simp [htag, hm, ValueKind.name, r.reads_toJson _ hc]

end Value

/-- A record in canonical form is read back. -/
lemma Record.reads_toJson {r : Record} (hr : (Value.record r).WellFormed) :
    Reads ofJson? r.toJson r := by
  intro i h
  have hfields : ∀ f ∈ r, Reads Value.ofJson? f.2.toJson f.2 := fun f hf =>
    Value.reads_toJson (hr.part (List.mem_map_of_mem hf))
  rw [Value.WellFormed] at hr
  obtain ⟨gs, qs, rfl, hperm, hread⟩ := Value.exists_readFields hfields h
  simp [ofJson?, Json.obj?, hread, Ascending.ofPairs_eq_of_perm hr.1 hperm.symm]

end AccessPolicy
