/-
Reading a tree whatever the order of its fields.

* `Rearranged`: two trees are the same but for the order of the fields of their
  objects, at any depth;
* `Reads`: a reader finds a thing in a tree and in every rearrangement of it. The
  lemmas about `Reads` follow the ways in which readers take trees apart: components,
  alternatives, items, and the fields of an object that stands for a map.

A tree that keeps the fields of an object sorted is one of the rearrangements.
-/
import AccessPolicy.Json.Basic
import AccessPolicy.Proofs.Ascending
import AccessPolicy.Proofs.Text.Pieces
import Mathlib.Data.List.Perm.Basic

namespace AccessPolicy.Json

/-! ### Rearrangements -/

/-- The same tree but for the order of the fields of its objects. -/
inductive Rearranged : Json → Json → Prop
  | refl (j : Json) : Rearranged j j
  | arr {is js : List Json} (h : List.Forall₂ Rearranged is js) :
      Rearranged (.arr is) (.arr js)
  | obj {fs gs hs : List (String × Json)} (hkeys : fs.map (·.1) = gs.map (·.1))
      (hvals : List.Forall₂ Rearranged (fs.map (·.2)) (gs.map (·.2))) (hp : gs.Perm hs) :
      Rearranged (.obj fs) (.obj hs)

/-- Two fields have the same key, and the value of one is a rearrangement of the other's. -/
def FieldRearranged (f g : String × Json) : Prop :=
  f.1 = g.1 ∧ Rearranged f.2 g.2

/-- Fields with the same keys and rearranged values. -/
lemma forall₂_fieldRearranged {fs gs : List (String × Json)}
    (hkeys : fs.map (·.1) = gs.map (·.1))
    (hvals : List.Forall₂ Rearranged (fs.map (·.2)) (gs.map (·.2))) :
    List.Forall₂ FieldRearranged fs gs := by
  induction fs generalizing gs with
  | nil =>
      obtain rfl := List.map_eq_nil_iff.1 hkeys.symm
      exact .nil
  | cons f fs ih =>
      cases gs with
      | nil => cases hkeys
      | cons g gs =>
          simp only [List.map_cons, List.cons.injEq] at hkeys
          simp only [List.map_cons, List.forall₂_cons] at hvals
          exact .cons ⟨hkeys.1, hvals.1⟩ (ih hkeys.2 hvals.2)

/-- Two lists that are related to a third one item by item are related to each other. -/
lemma forall₂_of_common {α β γ : Type} {R : α → β → Prop} {S : α → γ → Prop}
    {T : β → γ → Prop} {as : List α} {bs : List β} {cs : List γ} (hb : List.Forall₂ R as bs)
    (hc : List.Forall₂ S as cs) (h : ∀ a b c, R a b → S a c → T b c) :
    List.Forall₂ T bs cs := by
  induction hb generalizing cs with
  | nil =>
      cases hc
      exact .nil
  | cons hr _ ih =>
      cases hc with
      | cons hs hc => exact .cons (h _ _ _ hr hs) (ih hc)

namespace Rearranged

variable {i : Json} {is : List Json} {fs : List (String × Json)}

/-- The rearrangements of an array. -/
lemma exists_items (h : Rearranged (.arr is) i) :
    ∃ js, i = .arr js ∧ List.Forall₂ Rearranged is js := by
  cases h with
  | refl => exact ⟨is, rfl, List.forall₂_same.2 fun j _ => .refl j⟩
  | arr h => exact ⟨_, rfl, h⟩

/-- The rearrangements of an object. -/
lemma exists_fields (h : Rearranged (.obj fs) i) :
    ∃ gs hs, i = .obj hs ∧ gs.Perm hs ∧ List.Forall₂ FieldRearranged fs gs := by
  cases h with
  | refl => exact ⟨fs, fs, rfl, .refl fs, List.forall₂_same.2 fun f _ => ⟨rfl, .refl f.2⟩⟩
  | obj hkeys hvals hp => exact ⟨_, _, rfl, hp, forall₂_fieldRearranged hkeys hvals⟩

/-- Keys are looked up alike in rearranged fields. -/
lemma lookup_of_forall₂ {gs : List (String × Json)} (h : List.Forall₂ FieldRearranged fs gs)
    (k : String) : Option.Rel Rearranged (fs.lookup k) (gs.lookup k) := by
  induction h with
  | nil => exact .none
  | @cons f g fs gs hfg _ ih =>
      rw [List.lookup_cons, List.lookup_cons, hfg.1]
      cases k == g.1 with
      | true => exact .some hfg.2
      | false => exact ih

/-- The keys of rearranged fields are the same. -/
lemma keys_of_forall₂ {gs : List (String × Json)} (h : List.Forall₂ FieldRearranged fs gs) :
    gs.map (·.1) = fs.map (·.1) := by
  induction h with
  | nil => rfl
  | cons hfg _ ih => rw [List.map_cons, List.map_cons, hfg.1, ih]

/-- **Keys are looked up alike in rearranged objects**, if no key occurs twice. -/
lemma lookup (h : Rearranged (.obj fs) i) (hn : (fs.map (·.1)).Nodup) (k : String) :
    ∃ hs, i = .obj hs ∧ Option.Rel Rearranged (fs.lookup k) (hs.lookup k) := by
  obtain ⟨gs, hs, rfl, hp, hgs⟩ := h.exists_fields
  have hkeys : (gs.map (·.1)).Nodup := by rwa [keys_of_forall₂ hgs]
  refine ⟨hs, rfl, ?_⟩
  rw [← Ascending.lookup_eq_of_perm hkeys hp]
  exact lookup_of_forall₂ hgs k

/-- A component of an object is found by its name. -/
lemma member? (h : Rearranged (.obj fs) i) (n p : Nat) (k : String) :
    i.member? n p k = i.field? k := by
  obtain ⟨-, hs, rfl, -⟩ := h.exists_fields
  rfl

/-- A component that is there. -/
lemma field? (h : Rearranged (.obj fs) i) (k : String) {v : Json}
    (hn : (fs.map (·.1)).Nodup) (hk : (k, v) ∈ fs) :
    ∃ m, i.field? k = some m ∧ Rearranged v m.1 := by
  obtain ⟨hs, rfl, hrel⟩ := h.lookup hn k
  rw [(Ascending.mem_iff_lookup hn).1 hk, ← map_fieldBelow?] at hrel
  cases hm : fieldBelow? hs k with
  | none =>
      rw [hm] at hrel
      cases hrel
  | some m =>
      rw [hm] at hrel
      cases hrel with
      | some hv => exact ⟨m, hm, hv⟩

/-- A component that is left out. -/
lemma field?_eq_none (h : Rearranged (.obj fs) i) (k : String)
    (hn : (fs.map (·.1)).Nodup) (hk : k ∉ fs.map (·.1)) : i.field? k = none := by
  obtain ⟨hs, rfl, hrel⟩ := h.lookup hn k
  have hnone : fs.lookup k = none := by
    refine List.lookup_eq_none_iff.2 fun f hf => ?_
    exact bne_iff_ne.2 fun hkf => hk (hkf ▸ List.mem_map_of_mem hf)
  rw [hnone, ← map_fieldBelow?] at hrel
  cases hm : fieldBelow? hs k with
  | none => exact hm
  | some m =>
      rw [hm] at hrel
      cases hrel

/-- An alternative is found by its name. -/
lemma variant? {name : String} {c : Json} (h : Rearranged (.obj [(name, c)]) i) :
    ∃ m, i.variant? = some (name, m) ∧ Rearranged c m.1 := by
  obtain ⟨gs, hs, rfl, hp, hgs⟩ := h.exists_fields
  cases hgs with
  | @cons f g fs gs hfg hnil =>
      cases hnil
      obtain rfl := List.perm_singleton.1 hp.symm
      obtain ⟨l, d⟩ := g
      obtain ⟨rfl, hd⟩ := hfg
      exact ⟨⟨d, _⟩, rfl, hd⟩

end Rearranged

/-! ### Readers -/

variable {α : Type} {read : Json → Option α} {a : α} {i : Json}

/-- A reader finds a thing in a tree, however its fields are ordered. -/
def Reads (read : Json → Option α) (j : Json) (a : α) : Prop :=
  ∀ i, Rearranged j i → read i = some a

/-- A string is read as its text. -/
lemma reads_str (s : String) : Reads str? (.str s) s := by
  rintro i ⟨⟩
  rfl

/-- A name is read as an alternative without content. -/
lemma reads_unit (s : String) : Reads unit? (.str s) s := by
  rintro i ⟨⟩
  rfl

/-- An integer between the bounds is read. -/
lemma reads_intIn {lo hi n : Int} (h : lo ≤ n ∧ n ≤ hi) : Reads (intIn? lo hi) (.int n) n := by
  rintro i ⟨⟩
  exact if_pos h

namespace Reads

/-- A component by its name. -/
lemma field {fs : List (String × Json)} {v : Json} (hv : Reads read v a)
    (h : Rearranged (.obj fs) i) (k : String) (hn : (fs.map (·.1)).Nodup)
    (hk : (k, v) ∈ fs) : ∃ m, i.field? k = some m ∧ read m.1 = some a := by
  obtain ⟨m, hm, hvm⟩ := h.field? k hn hk
  exact ⟨m, hm, hv m.1 hvm⟩

/-- A component by its name or position. -/
lemma member {fs : List (String × Json)} {v : Json} (hv : Reads read v a)
    (h : Rearranged (.obj fs) i) (n p : Nat) (k : String) (hn : (fs.map (·.1)).Nodup)
    (hk : (k, v) ∈ fs) : ∃ m, i.member? n p k = some m ∧ read m.1 = some a := by
  rw [h.member?]
  exact hv.field h k hn hk

/-- A component that may be left out, if it is there. -/
lemma memberOr {fs : List (String × Json)} {v : Json} (hv : Reads read v a)
    (h : Rearranged (.obj fs) i) (n p : Nat) (k : String) (default : α)
    (hn : (fs.map (·.1)).Nodup) (hk : (k, v) ∈ fs) :
    i.memberOr n p k default read = some a := by
  obtain ⟨m, hm, ha⟩ := hv.member h n p k hn hk
  rw [Json.memberOr, hm]
  exact ha

/-- Items that are read one by one. -/
lemma forall₂_map {write : α → Json} {as : List α} (h : ∀ a ∈ as, Reads read (write a) a) :
    List.Forall₂ (Reads read) (as.map write) as :=
  List.forall₂_map_left_iff.2 (List.forall₂_same.2 h)

/-- The items of an array. -/
lemma items {js : List Json} {as : List α} (hs : List.Forall₂ (Reads read) js as)
    (h : Rearranged (.arr js) i) : ∃ is, i = .arr is ∧ is.mapM read = some as := by
  obtain ⟨is, rfl, his⟩ := h.exists_items
  refine ⟨is, rfl, Text.mapM_eq_some_iff.2 ?_⟩
  exact forall₂_of_common his hs fun _ _ _ hi ha => ha _ hi

/-- The fields of an object that stands for a map, in some order. -/
lemma fields {fs : List (String × Json)} {ps : List (String × α)}
    (hs : List.Forall₂ (fun f p => f.1 = p.1 ∧ Reads read f.2 p.2) fs ps)
    (h : Rearranged (.obj fs) i) : ∃ gs qs, i = .obj gs ∧ qs.Perm ps ∧
      gs.mapM (fun g => (read g.2).bind fun a => some (g.1, a)) = some qs := by
  obtain ⟨gs, hs', rfl, hp, hgs⟩ := h.exists_fields
  have hread : List.Forall₂ (fun g p => ((read g.2).bind fun a => some (g.1, a)) = some p)
      gs ps := by
    refine forall₂_of_common hgs hs ?_
    rintro f ⟨k, w⟩ ⟨l, a⟩ ⟨rfl, hw⟩ ⟨rfl, ha⟩
    simp [ha w hw]
  obtain ⟨qs, hqs, hperm⟩ := List.perm_comp_forall₂ hp.symm hread
  exact ⟨hs', qs, rfl, hperm, Text.mapM_eq_some_iff.2 hqs⟩

end Reads

/-- The items of an array, as they are found below it. -/
lemma unattach_items? (is : List Json) : ∃ ms, (Json.arr is).items? = some ms ∧ ms.unattach = is :=
  Option.map_eq_some_iff.1 (map_items? is)

/-- The fields of an object are read below it. -/
lemma mapM_fields? (fs : List (String × Json)) :
    ∃ ms, (Json.obj fs).fields? = some ms ∧
      ms.mapM (fun g => (read g.2.1).bind fun a => some (g.1, a)) =
        fs.mapM (fun g => (read g.2).bind fun a => some (g.1, a)) := by
  refine ⟨_, rfl, ?_⟩
  conv_rhs => rw [← List.attach_map_subtype_val fs, List.mapM_map]
  rw [List.mapM_map]
  rfl

end AccessPolicy.Json
