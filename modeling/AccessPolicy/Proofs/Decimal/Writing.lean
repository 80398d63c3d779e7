/-
The text that a decimal is written in.

* `Literal.IsCanonical`: four digits after the point, no superfluous zero in front, and a sign
  only before a number below zero;
* `IsCanonical.unique`: each rational number has at most one canonical literal;
* `canonical`, `toList_toText`: the literal that a decimal is written as, which is canonical
  (`isCanonical_canonical`) and has the ten-thousandths of the decimal (`scaled_canonical`);
* `writing_canonical`: what is written is read again, in the canonical text of the number, so
  that two texts of decimals are rewritten alike exactly if they write one number.
-/
import AccessPolicy.Proofs.Decimal.Reading

namespace AccessPolicy.Decimal

/-! ### Canonical literals -/

namespace Literal

/-- A literal with four digits after the point and nothing superfluous in front. -/
structure IsCanonical (l : Literal) : Prop where
  length_frac : l.frac.length = 4
  /-- Only a single digit in front may be a zero. -/
  length_whole : l.whole.head? = some '0' → l.whole.length = 1
  /-- Zero has no sign. -/
  value_ne_zero : l.negative → l.value ≠ 0

variable {l l' : Literal}

/-- A sign turns the ten-thousandths into their opposite. -/
lemma scaled_eq_neg (h : l.negative = true) : l.scaled = -l.magnitude := by
  rw [scaled, if_pos h]

lemma scaled_eq_magnitude (h : l.negative = false) : l.scaled = l.magnitude := by
  rw [scaled, if_neg (by rw [h]; decide)]

/-- Two literals write one number exactly if they have the same ten-thousandths. -/
lemma value_eq_iff : l.value = l'.value ↔ l.scaled = l'.scaled := by
  have hunit : (10 : ℚ) ^ 4 ≠ 0 := by norm_num
  rw [← @Int.cast_inj ℚ, l.scaled_eq, l'.scaled_eq, mul_left_inj' hunit]

/-- Only a literal that writes zero has no ten-thousandths. -/
lemma value_eq_zero_iff : l.value = 0 ↔ l.magnitude = 0 := by
  have hunit : (10 : ℚ) ^ 4 ≠ 0 := by norm_num
  have hscaled : l.scaled = 0 ↔ l.magnitude = 0 := by
    rw [scaled]
    split <;> omega
  rw [← hscaled, ← @Int.cast_eq_zero ℚ, l.scaled_eq, mul_eq_zero, or_iff_left hunit]

/-- A canonical literal has a sign exactly if its number is below zero. -/
lemma IsCanonical.negative_iff (h : l.IsCanonical) : l.negative = true ↔ l.scaled < 0 := by
  cases hn : l.negative with
  | true =>
      have hne := mt value_eq_zero_iff.2 (h.value_ne_zero hn)
      exact iff_of_true rfl (by rw [scaled_eq_neg hn]; omega)
  | false => exact iff_of_false (by decide) (by rw [scaled_eq_magnitude hn]; omega)

/-- With four digits after the point, the parts are the quotient and the remainder. -/
lemma IsCanonical.parts (h : l.IsCanonical) :
    Text.decimalValue l.whole = l.magnitude / 10000 ∧
      Text.decimalValue l.frac = l.magnitude % 10000 := by
  have hlt := Text.decimalValue_lt l.isDigit_frac
  rw [h.length_frac] at hlt
  rw [magnitude, h.length_frac]
  omega

/-- **A number has at most one canonical literal.** -/
theorem IsCanonical.unique (h : l.IsCanonical) (h' : l'.IsCanonical) (hv : l.value = l'.value) :
    l = l' := by
  have hscaled := value_eq_iff.1 hv
  have hnegative : l.negative = l'.negative := by
    rw [Bool.eq_iff_iff, h.negative_iff, h'.negative_iff, hscaled]
  have hmagnitude : l.magnitude = l'.magnitude := by
    rw [scaled, scaled, hnegative] at hscaled
    split at hscaled <;> omega
  obtain ⟨hwhole, hfrac⟩ := h.parts
  obtain ⟨hwhole', hfrac'⟩ := h'.parts
  refine Literal.ext hnegative ?_ ?_
  · rw [← Text.toDigits_decimalValue l.whole_ne_nil (List.all_eq_true.2 l.isDigit_whole)
        h.length_whole,
      ← Text.toDigits_decimalValue l'.whole_ne_nil (List.all_eq_true.2 l'.isDigit_whole)
        h'.length_whole, hwhole, hwhole', hmagnitude]
  · refine Text.eq_of_decimalValue_eq l.isDigit_frac l'.isDigit_frac ?_ ?_
    · rw [h.length_frac, h'.length_frac]
    · rw [hfrac, hfrac', hmagnitude]

end Literal

/-! ### Writing -/

/-- Four digits are enough for what is left of a number by ten thousand. -/
lemma length_padded_mod (n : Nat) : (Text.padded 4 (n % 10000)).length = 4 :=
  Text.length_padded (by decide) (Nat.mod_lt n (by decide))

/-- The literal that a decimal is written as. -/
def canonical (d : Decimal) : Literal where
  negative := d.scaled.toInt < 0
  whole := Nat.toDigits 10 (d.scaled.toInt.natAbs / 10000)
  frac := Text.padded 4 (d.scaled.toInt.natAbs % 10000)
  whole_ne_nil := Nat.toDigits_ne_nil
  isDigit_whole _ hc := Nat.isDigit_of_mem_toDigits (by decide) (by decide) hc
  frac_ne_nil := List.ne_nil_of_length_eq_add_one (length_padded_mod _)
  isDigit_frac _ hc := Text.isDigit_of_mem_padded hc
  length_frac_le := (length_padded_mod _).le

variable {s t : String} {d e : Decimal} {l : Literal}

/-- A decimal is written as this literal. -/
lemma toList_toText (d : Decimal) : d.toText.toList = d.canonical.chars := by
  have hsign : (if (d.canonical.negative : Bool) then ['-'] else []) =
      if d.scaled.toInt < 0 then ['-'] else [] := by
    by_cases h : d.scaled.toInt < 0 <;> simp [canonical, h]
  rw [toText, String.toList_ofList, Literal.chars, hsign, List.append_assoc]
  rfl

/-- The magnitude of the literal is that of the decimal. -/
lemma magnitude_canonical (d : Decimal) : d.canonical.magnitude = d.scaled.toInt.natAbs := by
  have hfrac : d.canonical.frac.length = 4 := length_padded_mod _
  have hwhole : Text.decimalValue d.canonical.whole = d.scaled.toInt.natAbs / 10000 :=
    Text.decimalValue_toDigits _
  have hrest : Text.decimalValue d.canonical.frac = d.scaled.toInt.natAbs % 10000 :=
    Text.decimalValue_padded 4 _
  rw [Literal.magnitude, hwhole, hrest, hfrac]
  omega

/-- The literal has the ten-thousandths of the decimal, those of the least decimal too. -/
lemma scaled_canonical (d : Decimal) : d.canonical.scaled = d.scaled.toInt := by
  have hmagnitude := magnitude_canonical d
  by_cases h : d.scaled.toInt < 0
  · rw [Literal.scaled_eq_neg (decide_eq_true h), hmagnitude]
    omega
  · rw [Literal.scaled_eq_magnitude (decide_eq_false h), hmagnitude]
    omega

/-- A decimal is written as a canonical literal. -/
lemma isCanonical_canonical (d : Decimal) : d.canonical.IsCanonical where
  length_frac := length_padded_mod _
  length_whole h := by
    have hzero := (Text.head?_toDigits_eq_zero_iff (by decide)).1 h
    show (Nat.toDigits 10 (d.scaled.toInt.natAbs / 10000)).length = 1
    rw [hzero]
    rfl
  value_ne_zero h := by
    have hneg : d.scaled.toInt < 0 := of_decide_eq_true h
    rw [Ne, Literal.value_eq_zero_iff, magnitude_canonical]
    omega

/-- **What is written is read again.** -/
theorem ofText?_toText_eq_ok (d : Decimal) : ofText? d.toText = .ok d :=
  ofText?_eq_ok_iff.2 ⟨d.canonical, toList_toText d, (scaled_canonical d).symm⟩

/-- The literal that a decimal is written as has the number of every literal that is read as
the decimal. -/
lemma value_canonical (h : ofText? s = .ok d) (hl : s.toList = l.chars) :
    d.canonical.value = l.value := by
  obtain ⟨l', hl', hvalue⟩ := ofText?_eq_ok_iff.1 h
  obtain rfl := Literal.chars_inj (hl.symm.trans hl')
  rw [Literal.value_eq_iff, scaled_canonical, hvalue]

/-- **Decimals are written canonically**: what is written is read again, it is the only
canonical text of the number that was read, and two texts of decimals are rewritten alike exactly
if they write one number. -/
theorem writing_canonical :
    (∀ n : Long, ofText? (toText ⟨n⟩) = .ok ⟨n⟩) ∧
    (∀ (s : String) (d : Decimal), ofText? s = .ok d →
      ∃ l k : Literal, s.toList = l.chars ∧ d.toText.toList = k.chars ∧
        ∀ k' : Literal, k'.IsCanonical ∧ k'.value = l.value ↔ k' = k) ∧
    ∀ (s t : String) (d e : Decimal) (l m : Literal), ofText? s = .ok d → ofText? t = .ok e →
      s.toList = l.chars → t.toList = m.chars → (d.toText = e.toText ↔ l.value = m.value) := by
  refine ⟨fun n => ofText?_toText_eq_ok ⟨n⟩, fun s d h => ?_, fun s t d e l m hs ht hl hm => ?_⟩
  · obtain ⟨l, hl, -⟩ := ofText?_eq_ok_iff.1 h
    refine ⟨l, d.canonical, hl, toList_toText d, fun k' => ?_⟩
    constructor
    · rintro ⟨hk, hvalue⟩
      exact hk.unique (isCanonical_canonical d) (hvalue.trans (value_canonical h hl).symm)
    · rintro rfl
      exact ⟨isCanonical_canonical d, value_canonical h hl⟩
  · rw [← value_canonical hs hl, ← value_canonical ht hm, Literal.value_eq_iff, scaled_canonical,
      scaled_canonical, Int64.toInt_inj]
    constructor
    · intro htext
      have hread := ofText?_toText_eq_ok d
      rw [htext, ofText?_toText_eq_ok, Except.ok.injEq] at hread
      rw [hread]
    · intro hscaled
      rw [show d = e from congrArg mk hscaled]

/-! ### Zero -/

/-- Zero with a sign. -/
def minusZero : Literal where
  negative := true
  whole := ['0']
  frac := ['0']
  whole_ne_nil := by decide
  isDigit_whole := List.all_eq_true.1 (by decide)
  frac_ne_nil := by decide
  isDigit_frac := List.all_eq_true.1 (by decide)
  length_frac_le := by decide

/-- Zero with digits to spare. -/
def longZero : Literal where
  negative := false
  whole := ['0', '0']
  frac := ['0', '0', '0']
  whole_ne_nil := by decide
  isDigit_whole := List.all_eq_true.1 (by decide)
  frac_ne_nil := by decide
  isDigit_frac := List.all_eq_true.1 (by decide)
  length_frac_le := by decide

/-- Both are read as zero, which has no sign when it is written, and they write one number. -/
theorem writing_canonical_zero :
    ofText? "-0.0" = .ok zero ∧ ofText? "00.000" = .ok zero ∧
      (∃ l k : Literal, "-0.0".toList = l.chars ∧ "0.0000".toList = k.chars ∧
        ∀ k' : Literal, k'.IsCanonical ∧ k'.value = l.value ↔ k' = k) ∧
      minusZero.value = longZero.value := by
  have hminus : ofText? "-0.0" = .ok zero := by decide
  have hlong : ofText? "00.000" = .ok zero := by decide
  have htext : zero.toText = "0.0000" := by decide
  refine ⟨hminus, hlong, htext ▸ writing_canonical.2.1 "-0.0" zero hminus, ?_⟩
  exact (writing_canonical.2.2 "-0.0" "00.000" zero zero minusZero longZero hminus hlong
    (by decide) (by decide)).1 rfl

end AccessPolicy.Decimal
