/-
The digest of a set of policies identifies the policies.

* `Value.integral_toJson`, `Expr.integral_toJson`, `Policy.integral_toJson`: the only
  numbers that are written are integers, so that the texts determine the trees;
* `Policy.toJson_inj`: the trees determine the policies, for they are read back;
* `Sha256.hex_inj`, `Text.toUTF8_inj`: the digits of a digest determine the digest, and
  the bytes of a text the text;
* `PolicySet.canonicalBytes_identify`: two sets have the same bytes exactly if they hold
  the same policies in the same order, so that equal hashes mean equal policies or two
  messages with one digest.
-/
import AccessPolicy.Engine.Basic
import AccessPolicy.Proofs.Json.Text
import AccessPolicy.Proofs.Policy.Additions
import AccessPolicy.Proofs.Policy.Json

namespace AccessPolicy

open Json (Integral)

/-! ### Numbers in trees -/

lemma EntityUid.integral_toJson (uid : EntityUid) : Integral uid.toJson := by
  simp [toJson]

lemma Loc.integral_toJson (l : Loc) : Integral l.toJson := by
  simp [toJson]

/-- The numbers in the tree of a value are integers. -/
lemma Value.integral_toJson (v : Value) : Integral v.toJson := by
  induction v using ind with
  | h v ih =>
  cases v with
  | set xs =>
      have hxs : ∀ x ∈ xs, Integral x.toJson := ih
      simpa [toJson, tagged, elemsToJson_eq_map] using hxs
  | record fs =>
      have hfs : ∀ f ∈ fs.map fun f => (f.1, f.2.toJson), Integral f.2 :=
        List.forall_mem_map.2 fun f hf => ih f.2 (List.mem_map_of_mem hf)
      rw [← fieldsToJson_eq_map] at hfs
      simp [toJson, tagged, Integral.obj hfs]
  | entity uid => simp [toJson, tagged, uid.integral_toJson]
  | ip r => simp [toJson, tagged, Ip.Range.toJson]
  | _ => simp [toJson, tagged]

/-- A node holds integers only if its content does. -/
lemma Expr.integral_node {name : String} {content : Json} {loc : Option Loc}
    (h : Integral content) : Integral (node name content loc) := by
  cases loc with
  | none => simp [node, Loc.fields, h]
  | some l => simp [node, Loc.fields, h, l.integral_toJson]

/-- The numbers in the tree of an expression are integers. -/
lemma Expr.integral_toJson (e : Expr) : Integral e.toJson := by
  induction e using ind with
  | h e ih =>
  obtain ⟨name, content, hnode⟩ := e.exists_node
  rw [← hnode]
  refine integral_node ?_
  cases e with
  | lit v loc =>
      obtain ⟨-, rfl⟩ := node_inj hnode
      exact v.integral_toJson
  | set es loc =>
      obtain ⟨-, rfl⟩ := node_inj hnode
      have hes : ∀ d ∈ es, Integral d.toJson := ih
      simpa [listToJson_eq_map] using hes
  | call fn args loc =>
      obtain ⟨-, rfl⟩ := node_inj hnode
      have hargs : ∀ d ∈ args, Integral d.toJson := ih
      simpa [listToJson_eq_map] using hargs
  | record fs loc =>
      obtain ⟨-, rfl⟩ := node_inj hnode
      rw [pairsToJson_eq_map, Json.integral_arr, List.forall_mem_map]
      intro f hf
      have hfield := ih f.2 (List.mem_map_of_mem hf)
      simp [hfield]
  | var x loc =>
      obtain ⟨-, rfl⟩ := node_inj hnode
      exact .str x.name
  | _ =>
      obtain ⟨-, rfl⟩ := node_inj hnode
      simpa [children] using ih

lemma Scope.integral_toJson (s : Scope) : Integral s.toJson := by
  cases s <;> simp [toJson, EntityUid.integral_toJson]

lemma Condition.integral_toJson (c : Condition) : Integral c.toJson := by
  simp [toJson, c.body.integral_toJson]

/-- The numbers in the tree of a policy are integers. -/
lemma Policy.integral_toJson (p : Policy) : Integral p.toJson := by
  have hannotations : ∀ f ∈ annotationFields p.annotations, Integral f.2 := by
    intro f hf
    cases has : p.annotations with
    | nil =>
        rw [has] at hf
        exact absurd hf List.not_mem_nil
    | cons a as =>
        rw [has] at hf
        obtain rfl := List.mem_singleton.1 hf
        exact .obj (List.forall_mem_map.2 fun b _ => .str b.2)
  rw [toJson, Json.integral_obj, List.forall_mem_append]
  refine ⟨?_, hannotations⟩
  simp [Scope.integral_toJson, Condition.integral_toJson]

/-! ### Trees of policies -/

/-- Policies with one tree are equal. -/
lemma Policy.toJson_inj {ps qs : List Policy} (hp : ∀ p ∈ ps, p.WellFormed)
    (hq : ∀ q ∈ qs, q.WellFormed) (h : ps.map (·.toJson) = qs.map (·.toJson)) : ps = qs := by
  have hread : ∀ rs : List Policy, (∀ r ∈ rs, r.WellFormed) →
      (rs.map (·.toJson)).mapM ofJson? = some rs := fun rs hr =>
    Text.mapM_map_eq_some fun r hrs => reads_toJson (hr r hrs) _ (.refl _)
  exact Option.some.inj (by rw [← hread ps hp, h, hread qs hq])

/-! ### Digests -/

namespace Sha256

/-- A word has eight digits. -/
lemma length_word (w : UInt32) : ((Nat.toDigits 16 w.toNat).leftpad 8 '0').length = 8 := by
  have hw : (Nat.toDigits 16 w.toNat).length ≤ 8 :=
    (Nat.length_toDigits_le_iff (by decide) (by decide)).2 w.toNat_lt
  rw [List.length_leftpad]
  exact Nat.max_eq_left hw

/-- Words are determined by their digits. -/
lemma words_inj {ws vs : List UInt32}
    (h : ws.flatMap (fun w => (Nat.toDigits 16 w.toNat).leftpad 8 '0') =
      vs.flatMap fun w => (Nat.toDigits 16 w.toNat).leftpad 8 '0') : ws = vs := by
  have hne : ∀ w : UInt32, (Nat.toDigits 16 w.toNat).leftpad 8 '0' ≠ [] := by
    intro w hw
    have := length_word w
    rw [hw] at this
    cases this
  induction ws generalizing vs with
  | nil =>
      cases vs with
      | nil => rfl
      | cons v vs => exact absurd (List.append_eq_nil_iff.1 h.symm).1 (hne v)
  | cons w ws ih =>
      cases vs with
      | nil => exact absurd (List.append_eq_nil_iff.1 h).1 (hne w)
      | cons v vs =>
          rw [List.flatMap_cons, List.flatMap_cons] at h
          obtain ⟨hdigits, hrest⟩ :=
            List.append_inj h ((length_word w).trans (length_word v).symm)
          have hwv := congrArg Text.hexNumber? hdigits
          rw [Text.hexNumber?_leftpad, Text.hexNumber?_leftpad] at hwv
          rw [UInt32.toNat_inj.1 (Option.some.inj hwv), ih hrest]

/-- **The digits of a digest determine the digest.** -/
lemma hex_inj {s t : String} (h : hex s = hex t) :
    digest s.toUTF8.toList = digest t.toUTF8.toList :=
  words_inj (String.ofList_injective h)

end Sha256

namespace Text

/-- The bytes of an array are those that it holds. -/
lemma toList_eq_data (bs : ByteArray) : bs.toList = bs.data.toList := by
  have key : ∀ i acc, ByteArray.toList.loop bs i acc =
      acc.reverse ++ bs.data.toList.drop i := by
    intro i acc
    fun_induction ByteArray.toList.loop bs i acc with
    | case1 i acc hi ih =>
        have hget : bs.get! i = bs.data.toList[i] := by
          rw [ByteArray.get!, getElem!_pos bs.data i hi, Array.getElem_toList]
        rw [ih, List.reverse_cons, List.append_assoc, hget, List.singleton_append,
          ← List.drop_eq_getElem_cons]
    | case2 i acc hi =>
        have hend : bs.data.toList.length ≤ i := Nat.le_of_not_lt hi
        rw [List.drop_eq_nil_of_le hend, List.append_nil]
  exact key 0 []

/-- A text is determined by its bytes. -/
lemma toUTF8_inj {s t : String} (h : s.toUTF8.toList = t.toUTF8.toList) : s = t := by
  rw [toList_eq_data, toList_eq_data, Array.toList_inj, ← ByteArray.ext_iff] at h
  exact String.toByteArray_inj.1 h

end Text

/-! ### Sets -/

namespace PolicySet

/-- The bytes whose digest is the hash of a set. -/
def canonicalBytes (s : PolicySet) : List UInt8 :=
  s.policiesJson.render.toUTF8.toList

/-- The bytes of a set determine its policies. -/
lemma policies_of_canonicalBytes {s t : PolicySet} (hs : ∀ p ∈ s.policies, p.WellFormed)
    (ht : ∀ p ∈ t.policies, p.WellFormed) (h : s.canonicalBytes = t.canonicalBytes) :
    s.policies = t.policies := by
  have hintegral : ∀ u : PolicySet, Integral u.policiesJson := fun u =>
    .arr (List.forall_mem_map.2 fun p _ => p.integral_toJson)
  have htree : s.policiesJson = t.policiesJson :=
    Json.render_inj (hintegral s) (hintegral t) (Text.toUTF8_inj h)
  exact Policy.toJson_inj hs ht (Json.arr.inj htree)

/-- **The bytes of a set identify its policies**, in their order and with all their parts.
Two snapshots with one hash hold the same policies, or else the bytes of their policies
are two messages with one digest. -/
theorem canonicalBytes_identify {s t : PolicySet} (hs : ∀ p ∈ s.policies, p.WellFormed)
    (ht : ∀ p ∈ t.policies, p.WellFormed) :
    (s.canonicalBytes = t.canonicalBytes ↔ s.policies = t.policies) ∧
      ∀ time time', (Snapshot.load s time).version.hash = (Snapshot.load t time').version.hash →
        s.policies = t.policies ∨
          s.canonicalBytes ≠ t.canonicalBytes ∧
            Sha256.digest s.canonicalBytes = Sha256.digest t.canonicalBytes := by
  have hiff : s.canonicalBytes = t.canonicalBytes ↔ s.policies = t.policies := by
    refine ⟨policies_of_canonicalBytes hs ht, fun h => ?_⟩
    rw [canonicalBytes, canonicalBytes, policiesJson, policiesJson, h]
  refine ⟨hiff, fun time time' hhash => ?_⟩
  by_cases h : s.policies = t.policies
  · exact .inl h
  · exact .inr ⟨mt hiff.1 h, Sha256.hex_inj hhash⟩

/-- A policy whose condition is a set, perhaps with a position. -/
def stamped (loc : Option Loc) : Policy :=
  (Policy.unconstrained "stamped" .permit).withCondition .whenTrue
    (.lit (Value.setOf [.long 3, .bool true]) loc)

/-- Two policies that differ in nothing but a position have different bytes, so that they
have one hash only if the two messages have one digest. -/
theorem canonicalBytes_identify_position :
    ∃ s t, PolicySet.ofPolicies [stamped none] = .ok s ∧
      PolicySet.ofPolicies [stamped (some ⟨1, 2⟩)] = .ok t ∧
      (∀ p ∈ s.policies, p.WellFormed) ∧ (∀ p ∈ t.policies, p.WellFormed) ∧
      s.canonicalBytes ≠ t.canonicalBytes ∧
      ((Snapshot.load s "noon").version.hash = (Snapshot.load t "night").version.hash →
        Sha256.digest s.canonicalBytes = Sha256.digest t.canonicalBytes) := by
  have hids : ∀ loc, ([stamped loc].map (·.id)).Nodup := fun loc => by simp
  obtain ⟨s, hs⟩ := exists_ofPolicies (hids none)
  obtain ⟨t, ht⟩ := exists_ofPolicies (hids (some ⟨1, 2⟩))
  have hset : (Value.setOf [.long 3, .bool true]).WellFormed :=
    Value.wellFormed_setOf (by simp [Value.WellFormed])
  have hwell : ∀ loc, ∀ p ∈ [stamped loc], p.WellFormed := by
    intro loc p hp
    obtain rfl := List.mem_singleton.1 hp
    refine ⟨fun c hc v hv => ?_, List.Pairwise.nil⟩
    obtain rfl := List.mem_singleton.1 hc
    rcases hv with _ | ⟨hd, -⟩
    · exact hset
    · exact absurd hd List.not_mem_nil
  have hws : ∀ p ∈ s.policies, p.WellFormed := by
    rw [policies_of_ofPolicies hs]
    exact hwell none
  have hwt : ∀ p ∈ t.policies, p.WellFormed := by
    rw [policies_of_ofPolicies ht]
    exact hwell (some ⟨1, 2⟩)
  have hne : s.policies ≠ t.policies := by
    rw [policies_of_ofPolicies hs, policies_of_ofPolicies ht]
    intro h
    simp [stamped, Policy.unconstrained, Policy.withCondition] at h
  obtain ⟨hbytes, hhash⟩ := canonicalBytes_identify hws hwt
  exact ⟨s, t, hs, ht, hws, hwt, mt hbytes.1 hne,
    fun h => ((hhash "noon" "night" h).resolve_left hne).2⟩

end PolicySet

end AccessPolicy
