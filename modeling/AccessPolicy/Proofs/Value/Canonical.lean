/-
Values are in canonical form, wherever they come from.

* `Value.OccursIn`, `Value.IsCanonical`: the values inside a value, at any depth, and what
  the canonical form asks of one of them; `wellFormed_iff` says that a value is well-formed
  if this holds of all that occur in it;
* `wellFormed_put`: a record with one more field is well-formed;
* `Value.Decoded`: a value and the JSON it was decoded from, one level deep; all that is said
  about decoding follows from it (`decoded_of_ofJson?`);
* `wellFormed_of_ofJson?`: whatever is decoded is well-formed, for sets and records are made
  anew at every depth;
* `Value.Overlong`: the JSON of a value that has, at some depth, a range of addresses with
  more bits than its family has; `ofJson?_eq_none_of_overlong` says that it is refused.
-/
import AccessPolicy.Proofs.Text.Pieces
import AccessPolicy.Proofs.Value.Json

namespace AccessPolicy

/-! ### Items and fields -/

namespace Json

variable {α : Type} {j : Json} (read : Json → Option α)

/-- Only an array has items, and they are read below it as they are read. -/
lemma exists_arr_of_items? {ms : List (Below j)} (h : j.items? = some ms) :
    ∃ is, j = .arr is ∧ ms.mapM (fun m => read m.1) = is.mapM read := by
  cases j with
  | arr is =>
      obtain ⟨ns, hns, his⟩ := unattach_items? is
      obtain rfl := Option.some.inj (hns.symm.trans h)
      have hread : ns.mapM (fun m => read m.1) = ns.unattach.mapM read := by simp
      exact ⟨is, rfl, hread.trans (by rw [his])⟩
  | _ => cases h

/-- Only an object has fields, and they are read below it as they are read. -/
lemma exists_obj_of_fields? {ms : List (String × Below j)} (h : j.fields? = some ms) :
    ∃ fs, j = .obj fs ∧ ms.mapM (fun g => (read g.2.1).bind fun a => some (g.1, a)) =
      fs.mapM (fun g => (read g.2).bind fun a => some (g.1, a)) := by
  cases j with
  | obj fs =>
      obtain ⟨ns, hns, hread⟩ := @mapM_fields? _ read fs
      obtain rfl := Option.some.inj (hns.symm.trans h)
      exact ⟨fs, rfl, hread⟩
  | _ => cases h

end Json

/-! ### At every depth -/

namespace Value

/-- The value stands in another one, at some depth, or is that value. -/
inductive OccursIn (w : Value) : Value → Prop
  | self : OccursIn w w
  | part {v x : Value} (hx : x ∈ v.parts) (h : OccursIn w x) : OccursIn w v

/-- What the canonical form asks of one value: a set is ascending, the keys of a record are
ascending, and a range has no more bits than its family. -/
def IsCanonical : Value → Prop
  | .set xs => Ascending.IsAscending xs
  | .record fs => Ascending.KeysAscending fs
  | .ip r => r.bits ≤ if r.address.isV4 then 32 else 128
  | _ => True

/-- The width of an address is that of its family. -/
lemma width_eq (a : Ip.Address) : a.width = if a.isV4 then 32 else 128 := by
  cases a <;> rfl

/-- A value is well-formed if it has the form itself and its parts are well-formed. -/
lemma wellFormed_iff_parts {v : Value} :
    v.WellFormed ↔ v.IsCanonical ∧ ∀ x ∈ v.parts, x.WellFormed := by
  cases v with
  | set xs => rw [WellFormed, wellFormedElems_iff, IsCanonical, parts]
  | record fs =>
      rw [WellFormed, wellFormedFields_iff, IsCanonical, parts, List.forall_mem_map]
  | ip r => simp [WellFormed, IsCanonical, parts, ← width_eq, r.bits_le]
  | _ => simp [WellFormed, IsCanonical, parts]

/-- **A value is well-formed if all that occurs in it has the canonical form.** -/
theorem wellFormed_iff {v : Value} : v.WellFormed ↔ ∀ w : Value, w.OccursIn v → w.IsCanonical := by
  induction v using ind with
  | h v ih =>
  rw [wellFormed_iff_parts]
  constructor
  · rintro ⟨hv, hparts⟩ w (_ | ⟨hx, hw⟩)
    · exact hv
    · exact (ih _ hx).1 (hparts _ hx) w hw
  · intro h
    exact ⟨h v .self, fun x hx => (ih x hx).2 fun w hw => h w (.part hx hw)⟩

/-- A record with one more field is well-formed. -/
lemma wellFormed_put {fs : Record} {k : String} {v : Value} (hfs : (record fs).WellFormed)
    (hv : v.WellFormed) : (record (Ascending.put k v fs)).WellFormed := by
  rw [WellFormed, wellFormedFields_iff] at hfs ⊢
  refine ⟨Ascending.keysAscending_put k v hfs.1, fun p hp => ?_⟩
  rcases Ascending.mem_of_mem_put hp with rfl | hp
  · exact hv
  · exact hfs.2 p hp

/-! ### Decoding -/

/-- The content of the JSON of a value. -/
def contentOf? (j : Json) : Option Json :=
  (j.member? 2 1 "value").map (·.1)

/-- The named values that stand for the fields of an object. -/
def fieldsOfJson? (fs : List (String × Json)) : Option (List (String × Value)) :=
  fs.mapM fun f => (ofJson? f.2).bind fun x => some (f.1, x)

/-- A value that is decoded from JSON, one level deep. -/
inductive Decoded (j : Json) : Value → Prop
  | set {is : List Json} {xs : List Value} (htag : tagOfJson? j = some "Set")
      (hcontent : contentOf? j = some (.arr is)) (hread : is.mapM ofJson? = some xs) :
      Decoded j (setOf xs)
  | record {fs : List (String × Json)} {ps : List (String × Value)}
      (htag : tagOfJson? j = some "Record") (hcontent : contentOf? j = some (.obj fs))
      (hread : fieldsOfJson? fs = some ps) : Decoded j (recordOf ps)
  | ip {content : Json} {r : Ip.Range} (htag : tagOfJson? j = some "IpAddr")
      (hcontent : contentOf? j = some content) (hread : Ip.Range.ofJson? content = some r) :
      Decoded j (.ip r)
  | scalar {tag : String} {v : Value} (htag : tagOfJson? j = some tag)
      (hother : tag ≠ "Set" ∧ tag ≠ "Record" ∧ tag ≠ "IpAddr") (hv : v.WellFormed) : Decoded j v

/-- **Whatever is decoded is decoded level by level.** -/
lemma decoded_of_ofJson? {j : Json} {v : Value} (h : ofJson? j = some v) : Decoded j v := by
  rw [ofJson?] at h
  obtain ⟨tag, htag, h⟩ := Option.bind_eq_some_iff.1 h
  obtain ⟨⟨content, below⟩, hm, h⟩ := Option.bind_eq_some_iff.1 h
  have hcontent : contentOf? j = some content := by rw [contentOf?, hm, Option.map_some]
  dsimp only at h
  split at h
  case h_1 => -- a truth value
    split at h
    · obtain rfl := Option.some.inj h
      exact .scalar htag (by decide) (by simp [WellFormed])
    · cases h
  case h_2 | h_3 | h_6 | h_7 => -- numbers, texts, identifiers and decimals
    obtain ⟨_, _, rfl⟩ := Option.map_eq_some_iff.1 h
    exact .scalar htag (by decide) (by simp [WellFormed])
  case h_4 => -- a set
    obtain ⟨ms, hms, h⟩ := Option.bind_eq_some_iff.1 h
    obtain ⟨xs, hxs, h⟩ := Option.bind_eq_some_iff.1 h
    obtain rfl := Option.some.inj h
    obtain ⟨is, rfl, hread⟩ := Json.exists_arr_of_items? ofJson? hms
    exact .set htag hcontent (hread.symm.trans hxs)
  case h_5 => -- a record
    obtain ⟨ms, hms, h⟩ := Option.bind_eq_some_iff.1 h
    obtain ⟨ps, hps, h⟩ := Option.bind_eq_some_iff.1 h
    obtain rfl := Option.some.inj h
    obtain ⟨fs, rfl, hread⟩ := Json.exists_obj_of_fields? ofJson? hms
    exact .record htag hcontent (hread.symm.trans hps)
  case h_8 => -- a range of addresses
    obtain ⟨r, hr, rfl⟩ := Option.map_eq_some_iff.1 h
    exact .ip htag hcontent hr
  case h_9 => cases h

/-- A named value stands for a field with its name. -/
lemma exists_of_mem_fieldsOfJson? {fs : List (String × Json)} {ps : List (String × Value)}
    (h : fieldsOfJson? fs = some ps) {p : String × Value} (hp : p ∈ ps) :
    ∃ f ∈ fs, ofJson? f.2 = some p.2 := by
  obtain ⟨f, hf, hread⟩ := Text.exists_of_mem_mapM h hp
  obtain ⟨x, hx, heq⟩ := Option.bind_eq_some_iff.1 hread
  obtain rfl := Option.some.inj heq
  exact ⟨f, hf, hx⟩

/-- **Whatever JSON a value is decoded from, it is well-formed.** -/
theorem wellFormed_of_ofJson? {j : Json} {v : Value} (h : ofJson? j = some v) : v.WellFormed := by
  induction v using ind generalizing j with
  | h v ih =>
  cases decoded_of_ofJson? h with
  | set _ _ hread =>
      refine wellFormed_setOf fun x hx => ?_
      obtain ⟨i, -, hi⟩ := Text.exists_of_mem_mapM hread hx
      exact ih x (Ascending.mem_ofList.2 hx) hi
  | record _ _ hread =>
      -- Of the fields with one key only the last is kept, and only for it is there a hypothesis.
      rw [recordOf, WellFormed, wellFormedFields_iff]
      refine ⟨Ascending.keysAscending_ofPairs _, fun p hp => ?_⟩
      obtain ⟨f, -, hf⟩ := exists_of_mem_fieldsOfJson? hread (Ascending.mem_of_mem_ofPairs hp)
      exact ih p.2 (List.mem_map_of_mem hp) hf
  | ip => simp [WellFormed]
  | scalar _ _ hv => exact hv

/-! ### Ranges with too many bits -/

end Value

/-- A range with more bits than the family of its address has is not made. -/
lemma Ip.Range.make?_eq_error {a : Address} {n : Nat} (h : a.width < n) :
    make? a n = .error (.tooLong n a) :=
  dif_neg (Nat.not_le.2 h)

/-- The JSON of a range with more bits than the family of its address has. -/
def Ip.Range.Overlong (j : Json) : Prop :=
  ∃ (text : String) (a : Address) (n : Int), (j.member? 2 0 "addr").map (·.1) = some (.str text) ∧
    Address.ofText? text = some a ∧ (j.member? 2 1 "prefix").map (·.1) = some (.int n) ∧
      (a.width : Int) < n

/-- Such a range is refused, also if the number does not fit into a byte. -/
lemma Ip.Range.ofJson?_eq_none {j : Json} (h : Overlong j) : ofJson? j = none := by
  obtain ⟨text, a, n, haddr, ha, hprefix, hn⟩ := h
  obtain ⟨⟨_, below⟩, hm, rfl⟩ := Option.map_eq_some_iff.1 haddr
  obtain ⟨⟨_, below'⟩, hp, rfl⟩ := Option.map_eq_some_iff.1 hprefix
  by_cases hbyte : 0 ≤ n ∧ n ≤ 255
  · have hmake : make? a n.toNat = .error (.tooLong n.toNat a) := make?_eq_error (by omega)
    simp [ofJson?, hm, hp, ha, Json.str?, Json.intIn?, hbyte, hmake, Except.toOption]
  · simp [ofJson?, hm, hp, Json.str?, Json.intIn?, hbyte]

namespace Value

/-- The JSON of a value with a range that has, at some depth, more bits than its family. -/
inductive Overlong : Json → Prop
  | range {j content : Json} (htag : tagOfJson? j = some "IpAddr")
      (hcontent : contentOf? j = some content) (h : Ip.Range.Overlong content) : Overlong j
  | inSet {j i : Json} {is : List Json} (htag : tagOfJson? j = some "Set")
      (hcontent : contentOf? j = some (.arr is)) (hi : i ∈ is) (h : Overlong i) : Overlong j
  | inRecord {j : Json} {f : String × Json} {fs : List (String × Json)}
      (htag : tagOfJson? j = some "Record") (hcontent : contentOf? j = some (.obj fs))
      (hf : f ∈ fs) (h : Overlong f.2) : Overlong j

section Equations

variable {j : Json}

/-- A set is read from its items. -/
lemma ofJson?_set {is : List Json} (htag : tagOfJson? j = some "Set")
    (hcontent : contentOf? j = some (.arr is)) : ofJson? j = (is.mapM ofJson?).map setOf := by
  obtain ⟨⟨_, below⟩, hm, rfl⟩ := Option.map_eq_some_iff.1 hcontent
  obtain ⟨ms, hms, hitems⟩ := Json.unattach_items? is
  rw [ofJson?]
  cases hread : is.mapM ofJson? <;> simp [htag, hm, hms, hitems, hread]

/-- A record is read from its fields. -/
lemma ofJson?_record {fs : List (String × Json)} (htag : tagOfJson? j = some "Record")
    (hcontent : contentOf? j = some (.obj fs)) : ofJson? j = (fieldsOfJson? fs).map recordOf := by
  obtain ⟨⟨_, below⟩, hm, rfl⟩ := Option.map_eq_some_iff.1 hcontent
  obtain ⟨ms, hms, hfields⟩ := @Json.mapM_fields? _ ofJson? fs
  change _ = fieldsOfJson? fs at hfields
  rw [ofJson?]
  cases hread : fieldsOfJson? fs <;> simp [htag, hm, hms, hfields, hread]

/-- A range is read by itself. -/
lemma ofJson?_ip {content : Json} (htag : tagOfJson? j = some "IpAddr")
    (hcontent : contentOf? j = some content) :
    ofJson? j = (Ip.Range.ofJson? content).map .ip := by
  obtain ⟨⟨_, below⟩, hm, rfl⟩ := Option.map_eq_some_iff.1 hcontent
  rw [ofJson?]
  simp [htag, hm]

end Equations

/-- Fields of which one is refused are refused. -/
lemma fieldsOfJson?_eq_none {f : String × Json} {fs : List (String × Json)} (hf : f ∈ fs)
    (h : ofJson? f.2 = none) : fieldsOfJson? fs = none :=
  Text.mapM_eq_none_of_mem hf (by rw [h, Option.bind_none])

/-- **A value with a range of too many bits is refused**, at whatever depth the range is. -/
theorem ofJson?_eq_none_of_overlong {j : Json} (h : Overlong j) : ofJson? j = none := by
  induction h with
  | range htag hcontent h =>
      rw [ofJson?_ip htag hcontent, Ip.Range.ofJson?_eq_none h, Option.map_none]
  | inSet htag hcontent hi _ ih =>
      rw [ofJson?_set htag hcontent, Text.mapM_eq_none_of_mem hi ih, Option.map_none]
  | inRecord htag hcontent hf _ ih =>
      rw [ofJson?_record htag hcontent, fieldsOfJson?_eq_none hf ih, Option.map_none]

end Value

end AccessPolicy
