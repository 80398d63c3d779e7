/-
The order of values and the content of values.

* `Value.parts`, `Value.ind`: the values inside a set or a record, and the induction
  over all values in which what holds of the parts may be used;
* `Value.Same`: two values have the same content. Sets are compared as sets, by
  whether each element of one is the same as some element of the other, records as
  maps, key by key, and all other values by what they hold;
* `same_iff_eq`: values in canonical form with the same content are equal, at every
  depth at once;
* `compare_lawful`: the order of values is total, turned round by exchanging its
  arguments and transitive, and two values are level in it exactly if they have the
  same content.

The order compares the canonical lists that hold sets and records, which the order
itself keeps ascending. The step from lists to contents is that such a list is
determined by what it holds (`Ascending.eq_of_mem_iff`, `Ascending.eq_of_pairs_iff`).
-/
import AccessPolicy.Proofs.Ascending
import AccessPolicy.Value.Collection

namespace AccessPolicy.Value

/-! ### Parts -/

/-- The values inside a set or a record. -/
def parts : Value → List Value
  | .set xs => xs
  | .record fs => fs.map (·.2)
  | _ => []

/-- A part is smaller than the value. -/
lemma sizeOf_lt_of_mem_parts {x v : Value} (h : x ∈ v.parts) : sizeOf x < sizeOf v := by
  cases v with
  | set xs =>
      have hs := List.sizeOf_lt_of_mem (show x ∈ xs from h)
      simp only [set.sizeOf_spec]
      omega
  | record fs =>
      obtain ⟨⟨k, y⟩, hf, rfl⟩ := List.mem_map.1 h
      have hs := List.sizeOf_lt_of_mem hf
      simp only [record.sizeOf_spec, Prod.mk.sizeOf_spec] at hs ⊢
      omega
  | _ => exact absurd h List.not_mem_nil

/-- The induction over values: a property holds of every value once it is inherited from
the parts. -/
@[elab_as_elim]
theorem ind {P : Value → Prop} (h : ∀ v, (∀ x ∈ v.parts, P x) → P v) (v : Value) : P v :=
  h v fun x hx =>
    have := sizeOf_lt_of_mem_parts hx
    ind h x
termination_by sizeOf v

/-- The parts of a well-formed value are well-formed. -/
lemma WellFormed.part {x v : Value} (hv : v.WellFormed) (hx : x ∈ v.parts) : x.WellFormed := by
  cases v with
  | set xs =>
      rw [WellFormed] at hv
      exact wellFormedElems_iff.1 hv.2 x hx
  | record fs =>
      rw [WellFormed] at hv
      obtain ⟨f, hf, rfl⟩ := List.mem_map.1 hx
      exact wellFormedFields_iff.1 hv.2 f hf
  | _ => exact absurd hx List.not_mem_nil

/-! ### Contents -/

/-- Two values have the same content: sets hold the same elements and records the same
values under the same keys, in whatever order they are listed. -/
def Same (a b : Value) : Prop :=
  match a, b with
  | .set xs, .set ys =>
    (∀ x, ∀ _ : x ∈ xs, ∃ y ∈ ys, Same x y) ∧ ∀ y ∈ ys, ∃ x, ∃ _ : x ∈ xs, Same x y
  | .record fs, .record gs =>
    (∀ f, ∀ _ : f ∈ fs, ∃ g ∈ gs, f.1 = g.1 ∧ Same f.2 g.2) ∧
      ∀ g ∈ gs, ∃ f, ∃ _ : f ∈ fs, f.1 = g.1 ∧ Same f.2 g.2
  | a, b => a = b
termination_by sizeOf a
decreasing_by
  · exact sizeOf_lt_of_mem_parts ‹x ∈ xs›
  · exact sizeOf_lt_of_mem_parts ‹x ∈ xs›
  · exact sizeOf_lt_of_mem_parts (v := .record fs) (List.mem_map_of_mem ‹f ∈ fs›)
  · exact sizeOf_lt_of_mem_parts (v := .record fs) (List.mem_map_of_mem ‹f ∈ fs›)

/-- **Values in canonical form with the same content are equal.** -/
theorem same_iff_eq {a b : Value} (ha : a.WellFormed) (hb : b.WellFormed) :
    a.Same b ↔ a = b := by
  induction a using ind generalizing b with
  | h a ih =>
  have hpart : ∀ x ∈ a.parts, ∀ y ∈ b.parts, x.Same y ↔ x = y :=
    fun x hx y hy => ih x hx (ha.part hx) (hb.part hy)
  cases a with
  | set xs =>
      cases b with
      | set ys =>
          rw [WellFormed] at ha hb
          rw [Same, set.injEq]
          constructor
          · rintro ⟨hl, hr⟩
            refine Ascending.eq_of_mem_iff ha.1 hb.1 fun v => ⟨fun hv => ?_, fun hv => ?_⟩
            · obtain ⟨y, hy, hs⟩ := hl v hv
              rwa [(hpart v hv y hy).1 hs]
            · obtain ⟨x, hx, hs⟩ := hr v hv
              rwa [← (hpart x hx v hv).1 hs]
          · rintro rfl
            exact ⟨fun x hx => ⟨x, hx, (hpart x hx x hx).2 rfl⟩,
              fun y hy => ⟨y, hy, (hpart y hy y hy).2 rfl⟩⟩
      | _ => simp [Same]
  | record fs =>
      cases b with
      | record gs =>
          have hfield : ∀ f ∈ fs, ∀ g ∈ gs, f.1 = g.1 ∧ f.2.Same g.2 ↔ f = g := by
            intro f hf g hg
            rw [hpart f.2 (List.mem_map_of_mem hf) g.2 (List.mem_map_of_mem hg), Prod.ext_iff]
          rw [WellFormed] at ha hb
          rw [Same, record.injEq]
          constructor
          · rintro ⟨hl, hr⟩
            refine Ascending.eq_of_pairs_iff ha.1 hb.1 fun p => ⟨fun hp => ?_, fun hp => ?_⟩
            · obtain ⟨g, hg, hs⟩ := hl p hp
              rwa [(hfield p hp g hg).1 hs]
            · obtain ⟨f, hf, hs⟩ := hr p hp
              rwa [← (hfield f hf p hp).1 hs]
          · rintro rfl
            exact ⟨fun f hf => ⟨f, hf, (hfield f hf f hf).2 rfl⟩,
              fun g hg => ⟨g, hg, (hfield g hg g hg).2 rfl⟩⟩
      | _ => simp [Same]
  | _ => cases b <;> simp [Same]

/-! ### The order -/

/-- **The order of values is a linear order of their contents**: it is total, exchanging
two values turns it round, it is transitive, and two values in canonical form are level
exactly if they have the same content. -/
theorem compare_lawful {a b : Value} (c : Value) (ha : a.WellFormed) (hb : b.WellFormed) :
    ((a.compare b).isLE ∨ (b.compare a).isLE) ∧
      b.compare a = (a.compare b).swap ∧
      ((a.compare b).isLE → (b.compare c).isLE → (a.compare c).isLE) ∧
      (a.compare b = .eq ↔ a.Same b) := by
  have hswap : b.compare a = (a.compare b).swap := compare_swap b a
  refine ⟨?_, hswap, ?_, ?_⟩
  · rw [hswap]
    cases a.compare b <;> simp
  · intro hab hbc
    exact @Std.TransOrd.isLE_trans Value _ _ a b c hab hbc
  · rw [same_iff_eq ha hb, compare_eq_iff]

/-- A set of a range of addresses and a record that holds a set. -/
def taggedHosts : Value :=
  setOf [.ip ⟨.v6 1, 128, by decide⟩, recordOf [("tags", setOf [.string "b", .string "a"])]]

/-- The same elements in another order, and one of them twice. -/
def taggedHostsAgain : Value :=
  setOf [recordOf [("tags", setOf [.string "a", .string "b", .string "a"])],
    .ip ⟨.v6 1, 128, by decide⟩, recordOf [("tags", setOf [.string "b", .string "a"])]]

/-- The two lists of hosts have one content, below that of every decimal. -/
theorem compare_lawful_hosts :
    taggedHosts.WellFormed ∧ taggedHostsAgain.WellFormed ∧
      taggedHosts.Same taggedHostsAgain ∧
      (taggedHosts.compare (.decimal .zero)).isLE := by
  have htags : ∀ xs : List String, (setOf (xs.map string)).WellFormed := fun xs =>
    wellFormed_setOf (by simp [WellFormed])
  have hip : ∀ r, (Value.ip r).WellFormed := fun _ => by simp [WellFormed]
  have hrec : ∀ xs : List String, (recordOf [("tags", setOf (xs.map string))]).WellFormed :=
    fun xs => wellFormed_recordOf (by simpa using htags xs)
  have ha : taggedHosts.WellFormed := wellFormed_setOf (by
    simp only [List.forall_mem_cons, List.not_mem_nil, false_imp_iff, implies_true, and_true]
    exact ⟨hip _, hrec ["b", "a"]⟩)
  have hb : taggedHostsAgain.WellFormed := wellFormed_setOf (by
    simp only [List.forall_mem_cons, List.not_mem_nil, false_imp_iff, implies_true, and_true]
    exact ⟨hrec ["a", "b", "a"], hip _, hrec ["b", "a"]⟩)
  obtain ⟨-, -, htrans, hsame⟩ := compare_lawful (.decimal .zero) ha hb
  exact ⟨ha, hb, hsame.1 (by decide), htrans (by decide) (by decide)⟩

end AccessPolicy.Value
