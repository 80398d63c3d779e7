/-
What is written part by part is read part by part.

* `mapM_eq_some_iff`: a list is read exactly if each of its items is, and
  `mapM_eq_some_iff_map` as what it writes if each item is;
* `decimalValue_toDigits`, `hexNumber?_toDigits`, `decimalValue_padded`,
  `hexNumber?_leftpad`: the digits of a number are read as the number, also after
  superfluous zeros;
* `head?_toDigits_eq_zero_iff`: only zero itself begins with a zero, so that digits
  without superfluous zeros are written again (`toDigits_decimalValue`);
* `decimalValue_lt`, `eq_of_decimalValue_eq`: as many digits write numbers below a power
  of ten, each of them once;
* `fields_joined`: pieces without a separator in them are found again once they
  have been joined;
* `cutAtFirst_eq_none_iff`, `cutAtFirst_eq_some_iff`: where a text is cut.
-/
import AccessPolicy.Text.Digits
import AccessPolicy.Text.Fields
import Mathlib.Algebra.Group.Nat.Defs
import Mathlib.Data.List.Forall2
import Mathlib.Data.List.Induction
import Mathlib.Tactic.Common

namespace AccessPolicy.Text

/-! ### Lists -/

section Lists

variable {α β : Type}

/-- A list is read exactly if each of its items is. -/
lemma mapM_eq_some_iff {f : α → Option β} {as : List α} {bs : List β} :
    as.mapM f = some bs ↔ List.Forall₂ (fun a b => f a = some b) as bs := by
  induction as generalizing bs with
  | nil => simp [eq_comm]
  | cons a as ih =>
      simp only [List.mapM_cons, Option.bind_eq_bind, Option.bind_eq_some_iff, Option.pure_def,
        Option.some.injEq, ih, List.forall₂_cons_left_iff]
      constructor
      · rintro ⟨b, hb, cs, hcs, rfl⟩
        exact ⟨b, cs, hb, hcs, rfl⟩
      · rintro ⟨b, cs, hb, hcs, rfl⟩
        exact ⟨b, hb, cs, hcs, rfl⟩

/-- Items that are read back one by one are read back as a list. -/
lemma mapM_map_eq_some {f : α → β} {g : β → Option α} {as : List α}
    (h : ∀ a ∈ as, g (f a) = some a) : (as.map f).mapM g = some as :=
  mapM_eq_some_iff.2 (List.forall₂_map_left_iff.2 (List.forall₂_same.2 h))

/-- A list is read exactly as the items that it writes, if each item is. -/
lemma mapM_eq_some_iff_map {f : α → Option β} {g : β → α} {P : β → Prop}
    (h : ∀ a b, f a = some b ↔ P b ∧ a = g b) {as : List α} {bs : List β} :
    as.mapM f = some bs ↔ (∀ b ∈ bs, P b) ∧ as = bs.map g := by
  rw [mapM_eq_some_iff]
  constructor
  · intro hread
    induction hread with
    | nil => exact ⟨List.forall_mem_nil P, rfl⟩
    | cons hab _ ih =>
        obtain ⟨hb, rfl⟩ := (h _ _).1 hab
        obtain ⟨hbs, rfl⟩ := ih
        exact ⟨List.forall_mem_cons.2 ⟨hb, hbs⟩, rfl⟩
  · rintro ⟨hbs, rfl⟩
    exact List.forall₂_map_left_iff.2 (List.forall₂_same.2 fun b hb => (h _ _).2 ⟨hbs b hb, rfl⟩)

/-- What is in a list that was read was read from an item. -/
lemma exists_of_mem_mapM {f : α → Option β} {as : List α} {bs : List β}
    (h : as.mapM f = some bs) {b : β} (hb : b ∈ bs) : ∃ a ∈ as, f a = some b := by
  have hread := mapM_eq_some_iff.1 h
  clear h
  induction hread with
  | nil => exact absurd hb List.not_mem_nil
  | @cons a c as _ hc _ ih =>
      rcases List.mem_cons.1 hb with rfl | hb
      · exact ⟨a, List.mem_cons_self, hc⟩
      · obtain ⟨d, hd, hdb⟩ := ih hb
        exact ⟨d, List.mem_cons_of_mem a hd, hdb⟩

/-- One item that is not read spoils the list. -/
lemma mapM_eq_none_of_mem {f : α → Option β} {a : α} {as : List α} (ha : a ∈ as)
    (h : f a = none) : as.mapM f = none := by
  induction as with
  | nil => exact absurd ha List.not_mem_nil
  | cons b as ih =>
      rcases List.mem_cons.1 ha with rfl | ha
      · simp [h]
      · simp [ih ha]

end Lists

/-! ### Digits -/

section Digits

variable {b n : Nat}

/-- The characters of a number are digits. -/
lemma exists_digitChar_of_mem (hb : 1 < b) {c : Char} (hc : c ∈ Nat.toDigits b n) :
    ∃ d, c = Nat.digitChar d := by
  induction n using Nat.strongRecOn with
  | ind n ih =>
  rcases Nat.lt_or_ge n b with hn | hn
  · rw [Nat.toDigits_of_lt_base hn, List.mem_singleton] at hc
    exact ⟨n, hc⟩
  · rw [Nat.toDigits_of_base_le hb hn, List.mem_append, List.mem_singleton] at hc
    rcases hc with hc | hc
    · exact ih _ (Nat.div_lt_self (by omega) hb) hc
    · exact ⟨n % b, hc⟩

/-- A character that is no digit stands in no number. -/
lemma not_mem_toDigits (hb : 1 < b) {c : Char} (hc : ∀ d, Nat.digitChar d ≠ c) :
    c ∉ Nat.toDigits b n := by
  intro h
  obtain ⟨d, hd⟩ := exists_digitChar_of_mem hb h
  exact hc d hd.symm

/-- Only zero is written with a zero at the front. -/
lemma head?_toDigits_eq_zero_iff (hb : 1 < b) :
    (Nat.toDigits b n).head? = some '0' ↔ n = 0 := by
  induction n using Nat.strongRecOn with
  | ind n ih =>
  rcases Nat.lt_or_ge n b with hn | hn
  · rw [Nat.toDigits_of_lt_base hn, List.head?_cons, Option.some.injEq, Nat.digitChar_eq_zero]
  · have hdiv : n / b ≠ 0 := Nat.ne_of_gt (Nat.div_pos hn (by omega))
    rw [Nat.toDigits_of_base_le hb hn, List.head?_append_of_ne_nil _ Nat.toDigits_ne_nil,
      ih _ (Nat.div_lt_self (by omega) hb)]
    exact iff_of_false hdiv (by omega)

/-- The decimal digits of a number are read as the number. -/
lemma decimalValue_toDigits (n : Nat) : decimalValue (Nat.toDigits 10 n) = n := by
  rw [decimalValue, ← Nat.ofDigitChars_eq_foldl, Nat.ofDigitChars_ten_toDigits]

/-- A decimal digit is the digit of its value. -/
lemma digitChar_of_isDigit {c : Char} (h : c.isDigit) :
    c.toNat - '0'.toNat < 10 ∧ Nat.digitChar (c.toNat - '0'.toNat) = c := by
  have hzero : '0'.toNat = 48 := rfl
  have hnine : '9'.toNat = 57 := rfl
  obtain ⟨hle, hge⟩ := Char.isDigit_iff_toNat.1 h
  have hlt : c.toNat - '0'.toNat < 10 := by omega
  refine ⟨hlt, Char.toNat_inj.1 ?_⟩
  rw [Nat.toNat_digitChar_of_lt_ten hlt]
  omega

/-- The last of some decimal digits. -/
lemma decimalValue_concat (cs : List Char) (c : Char) :
    decimalValue (cs ++ [c]) = 10 * decimalValue cs + (c.toNat - '0'.toNat) := by
  rw [decimalValue, List.foldl_append]
  rfl

/-- Digits write less than the power of ten that has one more. -/
lemma decimalValue_lt {cs : List Char} (h : ∀ c ∈ cs, c.isDigit) :
    decimalValue cs < 10 ^ cs.length := by
  induction cs with
  | nil => exact Nat.one_pos
  | cons c cs ih =>
      have hc := (digitChar_of_isDigit (h c (.head _))).1
      have hcs := ih fun d hd => h d (.tail _ hd)
      have hpow : Nat.pow 10 cs.length = 10 ^ cs.length := rfl
      rw [decimalValue_cons, List.length_cons, Nat.pow_succ, hpow]
      have hle : (c.toNat - '0'.toNat) * 10 ^ cs.length ≤ 9 * 10 ^ cs.length :=
        Nat.mul_le_mul_right _ (by omega)
      omega

/-- **Digits without superfluous zeros are the digits of the number that they write.** -/
lemma toDigits_decimalValue {cs : List Char} (hne : cs ≠ []) (hdigits : cs.all Char.isDigit)
    (hzero : cs.head? = some '0' → cs.length = 1) :
    Nat.toDigits 10 (decimalValue cs) = cs := by
  -- From the end, for the last digit is the remainder.
  induction cs using List.reverseRecOn with
  | nil => exact absurd rfl hne
  | append_singleton cs c ih =>
      rw [List.all_append, List.all_cons, List.all_nil, Bool.and_true, Bool.and_eq_true]
        at hdigits
      obtain ⟨hten, hchar⟩ := digitChar_of_isDigit hdigits.2
      rw [decimalValue_concat]
      by_cases hcs : cs = []
      · subst hcs
        rw [decimalValue, List.foldl_nil, Nat.mul_zero, Nat.zero_add,
          Nat.toDigits_of_lt_base hten, hchar, List.nil_append]
      · have hhead : cs.head? ≠ some '0' := by
          intro h
          have hlength := hzero (by rw [List.head?_append_of_ne_nil cs hcs, h])
          rw [List.length_append, List.length_singleton, Nat.add_eq_right] at hlength
          exact hcs (List.length_eq_zero_iff.1 hlength)
        have hfront := ih hcs hdigits.1 fun h => absurd h hhead
        have hpos : decimalValue cs ≠ 0 := by
          intro h
          rw [← hfront, h] at hhead
          exact hhead rfl
        rw [Nat.toDigits_of_base_le (by decide) (by omega), Nat.mul_add_div (by decide),
          Nat.div_eq_of_lt hten, Nat.add_zero, Nat.mul_add_mod, Nat.mod_eq_of_lt hten, hfront,
          hchar]

/-- **Digits are determined by their number and by how many they are.** -/
lemma eq_of_decimalValue_eq {cs ds : List Char} (hc : ∀ c ∈ cs, c.isDigit)
    (hd : ∀ d ∈ ds, d.isDigit) (hlength : cs.length = ds.length)
    (h : decimalValue cs = decimalValue ds) : cs = ds := by
  induction cs generalizing ds with
  | nil => exact (List.length_eq_zero_iff.1 hlength.symm).symm
  | cons c cs ih =>
      cases ds with
      | nil => cases hlength
      | cons d ds =>
          obtain ⟨hc, hcs⟩ := List.forall_mem_cons.1 hc
          obtain ⟨hd, hds⟩ := List.forall_mem_cons.1 hd
          have hlength := Nat.succ.inj hlength
          have hlow := decimalValue_lt hcs
          have hlow' := decimalValue_lt hds
          rw [decimalValue_cons, decimalValue_cons, hlength] at h
          rw [hlength] at hlow
          -- the first digit is the quotient by the power of ten, the others are the remainder
          have hdiv : ∀ a x, x < 10 ^ ds.length →
              (a * Nat.pow 10 ds.length + x) / 10 ^ ds.length = a := by
            intro a x hx
            have hpow : Nat.pow 10 ds.length = 10 ^ ds.length := rfl
            rw [hpow, Nat.mul_comm, Nat.mul_add_div (Nat.pow_pos (by decide)),
              Nat.div_eq_of_lt hx, Nat.add_zero]
          have hquotient : c.toNat - '0'.toNat = d.toNat - '0'.toNat := by
            rw [← hdiv (c.toNat - '0'.toNat) _ hlow, h, hdiv _ _ hlow']
          have hrest : decimalValue cs = decimalValue ds := by
            rw [hquotient] at h
            exact Nat.add_left_cancel h
          have hfirst : c = d := by
            rw [← (digitChar_of_isDigit hc).2, hquotient, (digitChar_of_isDigit hd).2]
          rw [hfirst, ih hcs hds hlength hrest]

/-- A number that is filled up with zeros is read as the number. -/
lemma decimalValue_padded (width n : Nat) : decimalValue (padded width n) = n := by
  have hzeros : ∀ k, decimalValue (List.replicate k '0') = 0 := by
    intro k
    induction k with
    | zero => rfl
    | succ k ih => rw [List.replicate_succ, decimalValue_cons, ih]; simp
  rw [padded, List.leftpad, decimalValue_append, hzeros, Nat.zero_mul, Nat.zero_add,
    decimalValue_toDigits]

/-- A number that is filled up with zeros consists of digits. -/
lemma isDigit_of_mem_padded {width : Nat} {c : Char} (hc : c ∈ padded width n) : c.isDigit := by
  rw [padded, List.leftpad, List.mem_append] at hc
  rcases hc with hc | hc
  · rw [List.eq_of_mem_replicate hc]
    rfl
  · exact Nat.isDigit_of_mem_toDigits (by decide) (by decide) hc

/-- A number that is not too long is filled up to the width. -/
lemma length_padded {width : Nat} (hwidth : 0 < width) (h : n < 10 ^ width) :
    (padded width n).length = width := by
  have hle := (Nat.length_toDigits_le_iff (by decide) hwidth).2 h
  rw [padded, List.leftpad, List.length_append, List.length_replicate]
  omega

/-- A hexadecimal digit is read as its value. -/
lemma hexValue?_digitChar (hn : n < 16) : hexValue? (Nat.digitChar n) = some n := by
  revert n
  decide

/-- The hexadecimal digits of a number are read as the number. -/
lemma hexNumber?_toDigits (n : Nat) : hexNumber? (Nat.toDigits 16 n) = some n := by
  induction n using Nat.strongRecOn with
  | ind n ih =>
  rcases Nat.lt_or_ge n 16 with hn | hn
  · simp [Nat.toDigits_of_lt_base hn, hexNumber?, hexValue?_digitChar hn]
  · have hfront := ih (n / 16) (by omega)
    have hlast := hexValue?_digitChar (Nat.mod_lt n (show 0 < 16 by decide))
    rw [hexNumber?] at hfront
    rw [Nat.toDigits_of_base_le (by decide) hn, hexNumber?, List.foldlM_append, hfront]
    simp [hlast, Nat.div_add_mod]

/-- A number that is filled up with zeros is read as the number. -/
lemma hexNumber?_leftpad (width n : Nat) :
    hexNumber? ((Nat.toDigits 16 n).leftpad width '0') = some n := by
  have hzeros : ∀ k, (List.replicate k '0').foldlM
      (fun n c => (hexValue? c).map (16 * n + ·)) 0 = some 0 := by
    intro k
    induction k with
    | zero => rfl
    | succ k ih =>
        rw [List.replicate_succ, List.foldlM_cons]
        exact ih
  rw [List.leftpad, hexNumber?, List.foldlM_append, hzeros]
  exact hexNumber?_toDigits n

end Digits

/-! ### Pieces -/

section Pieces

variable {sep c : Char} {f cs : List Char} {ps : List (List Char)}

/-- A text without separators is one piece. -/
lemma fields_of_not_mem (h : sep ∉ f) : fields sep f = [f] := by
  induction f with
  | nil => rfl
  | cons c f ih =>
      obtain ⟨hc, hf⟩ := not_or.1 (mt List.mem_cons.2 h)
      rw [fields, if_neg (Ne.symm hc), ih hf]

/-- The first separator ends the first piece. -/
lemma fields_append (h : sep ∉ f) (rest : List Char) :
    fields sep (f ++ sep :: rest) = f :: fields sep rest := by
  induction f with
  | nil => rw [List.nil_append, fields, if_pos rfl]
  | cons c f ih =>
      obtain ⟨hc, hf⟩ := not_or.1 (mt List.mem_cons.2 h)
      rw [List.cons_append, fields, if_neg (Ne.symm hc), ih hf]

/-- **Pieces without separators, once joined, are found again.** -/
lemma fields_joined (hne : ps ≠ []) (h : ∀ p ∈ ps, sep ∉ p) :
    fields sep (joined sep ps) = ps := by
  induction ps with
  | nil => exact absurd rfl hne
  | cons p ps ih =>
      obtain ⟨hp, hps⟩ := List.forall_mem_cons.1 h
      cases ps with
      | nil => exact fields_of_not_mem hp
      | cons q qs => rw [joined, fields_append hp, ih (List.cons_ne_nil q qs) hps]; simp

/-- The characters of joined pieces are separators and characters of the pieces. -/
lemma mem_joined (h : c ∈ joined sep ps) : c = sep ∨ ∃ p ∈ ps, c ∈ p := by
  induction ps with
  | nil => exact absurd h List.not_mem_nil
  | cons p ps ih =>
      cases ps with
      | nil => exact .inr ⟨p, .head _, h⟩
      | cons q qs =>
          rw [joined, List.mem_append, List.mem_cons] at h
          · rcases h with hp | hsep | hrest
            · exact .inr ⟨p, .head _, hp⟩
            · exact .inl hsep
            · rcases ih hrest with hsep | ⟨r, hr, hc⟩
              · exact .inl hsep
              · exact .inr ⟨r, .tail _ hr, hc⟩
          · simp

/-- A text is not cut exactly if the separator is not in it. -/
lemma cutAtFirst_eq_none_iff : cutAtFirst sep cs = none ↔ sep ∉ cs := by
  induction cs with
  | nil => simp [cutAtFirst]
  | cons c cs ih =>
      rw [cutAtFirst, List.mem_cons, not_or]
      split
      · rename_i h
        simp [h]
      · rename_i h
        rw [Option.map_eq_none_iff, ih]
        exact ⟨fun hcs => ⟨Ne.symm h, hcs⟩, And.right⟩

/-- A text is cut at the separator that none stands before. -/
lemma cutAtFirst_eq_some_iff {a b : List Char} :
    cutAtFirst sep cs = some (a, b) ↔ sep ∉ a ∧ cs = a ++ sep :: b := by
  constructor
  · intro h
    induction cs generalizing a with
    | nil => cases h
    | cons c cs ih =>
        rw [cutAtFirst] at h
        split at h
        · rename_i hc
          cases h
          exact ⟨List.not_mem_nil, by rw [hc, List.nil_append]⟩
        · rename_i hc
          obtain ⟨⟨a', b'⟩, hcut, heq⟩ := Option.map_eq_some_iff.1 h
          cases heq
          obtain ⟨ha, rfl⟩ := ih hcut
          exact ⟨fun hmem => (List.mem_cons.1 hmem).elim (Ne.symm hc) ha, rfl⟩
  · rintro ⟨ha, rfl⟩
    induction a with
    | nil => rw [List.nil_append, cutAtFirst, if_pos rfl]
    | cons c a ih =>
        obtain ⟨hc, ha⟩ := not_or.1 (mt List.mem_cons.2 ha)
        rw [List.cons_append, cutAtFirst, if_neg (Ne.symm hc), ih ha]
        rfl

end Pieces

end AccessPolicy.Text
