/-
The texts that write decimals, and what is read from them.

* `Literal`: an optional sign, digits, a point and one to four digits; `Literal.value` is the
  rational number that it writes, and `Literal.Fits` says that there is a long for its
  ten-thousandths;
* `splitText?_chars`, `exists_literal`: these texts are split into their parts, and no others;
* `fraction?_eq`, `scaled?_eq`: the operations on longs give the exact number of
  ten-thousandths. A check refuses a part only if the whole does not fit: what is lost between
  two steps is made good by no later one;
* `ofText?_cases`: what becomes of a text, from which `ofText?_eq_ok_iff` and
  `ofText?_eq_error_iff` say what is read and what is refused.
-/
import AccessPolicy.Decimal
import AccessPolicy.Proofs.Text.Pieces
import Mathlib.Algebra.Order.Field.Rat
import Mathlib.Data.List.TakeWhile
import Mathlib.Tactic.FieldSimp
import Mathlib.Tactic.Linarith
import Mathlib.Tactic.Ring

namespace AccessPolicy.Decimal

/-! ### Literals -/

/-- The text of a decimal: an optional sign, digits, a point and one to four digits. -/
@[ext]
structure Literal where
  /-- There is a sign. -/
  negative : Bool
  /-- The digits before the point. -/
  whole : List Char
  /-- The digits after the point. -/
  frac : List Char
  whole_ne_nil : whole ≠ []
  isDigit_whole : ∀ c ∈ whole, c.isDigit
  frac_ne_nil : frac ≠ []
  isDigit_frac : ∀ c ∈ frac, c.isDigit
  length_frac_le : frac.length ≤ 4

namespace Literal

/-- The characters of a literal. -/
def chars (l : Literal) : List Char :=
  (if l.negative then ['-'] else []) ++ (l.whole ++ '.' :: l.frac)

/-- The rational number that a literal writes. -/
def value (l : Literal) : ℚ :=
  (if l.negative then -1 else 1) *
    (Text.decimalValue l.whole + Text.decimalValue l.frac / 10 ^ l.frac.length)

/-- There is a long for the ten-thousandths of the number. -/
def Fits (l : Literal) : Prop :=
  -2 ^ 63 ≤ l.value * 10 ^ 4 ∧ l.value * 10 ^ 4 ≤ 2 ^ 63 - 1

/-- The number of ten-thousandths without its sign. -/
def magnitude (l : Literal) : Nat :=
  Text.decimalValue l.whole * 10000 + Text.decimalValue l.frac * 10 ^ (4 - l.frac.length)

/-- The number of ten-thousandths. -/
def scaled (l : Literal) : Int :=
  if l.negative then -l.magnitude else l.magnitude

/-- The ten-thousandths are those of the rational number. -/
lemma scaled_eq (l : Literal) : (l.scaled : ℚ) = l.value * 10 ^ 4 := by
  have hmagnitude : (l.magnitude : ℚ) = (Text.decimalValue l.whole +
      Text.decimalValue l.frac / 10 ^ l.frac.length) * 10 ^ 4 := by
    have hpow : (10 : ℚ) ^ 4 = 10 ^ (4 - l.frac.length) * 10 ^ l.frac.length := by
      rw [← pow_add, Nat.sub_add_cancel l.length_frac_le]
    have hfrac : (Text.decimalValue l.frac : ℚ) / 10 ^ l.frac.length * 10 ^ 4 =
        Text.decimalValue l.frac * 10 ^ (4 - l.frac.length) := by
      rw [hpow]
      field_simp
    rw [add_mul, hfrac, magnitude]
    push_cast
    ring
  rw [scaled, value]
  split
  · rw [Int.cast_neg, Int.cast_natCast, hmagnitude]
    ring
  · rw [Int.cast_natCast, hmagnitude]
    ring

/-- The number fits exactly if its ten-thousandths lie between the bounds of longs. -/
lemma fits_iff (l : Literal) :
    l.Fits ↔ Long.least ≤ l.scaled ∧ l.scaled ≤ Long.greatest := by
  rw [Fits, ← l.scaled_eq, Long.least, Long.greatest]
  norm_num
  norm_cast

/-- The first character of a literal is a sign or a digit. -/
lemma isDigit_head (l : Literal) {c : Char} (h : (l.whole ++ '.' :: l.frac).head? = some c) :
    c.isDigit := by
  rw [List.head?_append_of_ne_nil _ l.whole_ne_nil] at h
  exact l.isDigit_whole c (List.mem_of_mem_head? h)

end Literal

/-! ### Splitting -/

/-- A literal is split into its parts. -/
lemma splitText?_chars (l : Literal) :
    splitText? l.chars = some (l.negative, l.whole, l.frac) := by
  have hsign : (l.chars.head? == some '-') = l.negative := by
    rw [Literal.chars]
    cases hn : l.negative with
    | true => rfl
    | false =>
        rw [if_neg (by decide), List.nil_append, beq_eq_false_iff_ne]
        intro hhead
        exact absurd (l.isDigit_head hhead) (by decide)
  have hbody : (if l.negative then l.chars.tail else l.chars) = l.whole ++ '.' :: l.frac := by
    rw [Literal.chars]
    cases l.negative <;> rfl
  have htake : (l.whole ++ '.' :: l.frac).takeWhile Char.isDigit = l.whole := by
    rw [List.takeWhile_append_of_pos l.isDigit_whole, List.takeWhile_cons_of_neg (by decide),
      List.append_nil]
  have hdrop : (l.whole ++ '.' :: l.frac).dropWhile Char.isDigit = '.' :: l.frac := by
    rw [List.dropWhile_append_of_pos l.isDigit_whole, List.dropWhile_cons_of_neg (by decide)]
  have hparts : l.whole ≠ [] ∧ l.frac ≠ [] ∧ l.frac.length ≤ places ∧
      l.frac.all Char.isDigit :=
    ⟨l.whole_ne_nil, l.frac_ne_nil, l.length_frac_le, List.all_eq_true.2 l.isDigit_frac⟩
  simp only [splitText?, hsign, hbody, htake, hdrop]
  rw [if_pos hparts]

/-- The sign and what stands behind it are the whole text. -/
lemma sign_append (cs : List Char) :
    (if cs.head? == some '-' then ['-'] else []) ++
      (if cs.head? == some '-' then cs.tail else cs) = cs := by
  cases cs with
  | nil => rfl
  | cons c cs =>
      by_cases hc : c = '-'
      · rw [hc]
        rfl
      · have hsign : ((c :: cs).head? == some '-') = false :=
          beq_eq_false_iff_ne.2 fun h => hc (Option.some.inj h)
        rw [hsign]
        rfl

/-- A text that is split is a literal of the parts. -/
lemma exists_literal {cs whole frac : List Char} {negative : Bool}
    (h : splitText? cs = some (negative, whole, frac)) :
    ∃ l : Literal, l.chars = cs ∧ l.negative = negative ∧ l.whole = whole ∧ l.frac = frac := by
  rw [splitText?] at h
  split at h
  · rename_i digits hdrop
    obtain ⟨⟨hwhole, hfrac, hlength, hall⟩, heq⟩ := Option.ite_none_right_eq_some.1 h
    cases heq
    generalize hbody : (if cs.head? == some '-' then cs.tail else cs) = body at *
    have hcut : body.takeWhile Char.isDigit ++ '.' :: frac = body := by
      rw [← hdrop, List.takeWhile_append_dropWhile]
    refine ⟨⟨_, _, _, hwhole, fun c hc => List.mem_takeWhile_imp hc, hfrac,
      List.all_eq_true.1 hall, hlength⟩, ?_, rfl, rfl, rfl⟩
    show (if cs.head? == some '-' then ['-'] else []) ++ (_ ++ '.' :: frac) = cs
    rw [hcut, ← hbody, sign_append]
  · cases h

/-- A literal is determined by its characters. -/
lemma Literal.chars_inj {l l' : Literal} (h : l.chars = l'.chars) : l = l' := by
  have hparts := splitText?_chars l
  rw [h, splitText?_chars, Option.some.injEq, Prod.mk.injEq, Prod.mk.injEq] at hparts
  exact Literal.ext hparts.1.symm hparts.2.1.symm hparts.2.2.symm

/-! ### Checked operations -/

/-- Zeros are filled in without an overflow as long as the result is a long. -/
lemma toInt_repeat {n : Long} {k : Nat} (hn : 0 ≤ n.toInt)
    (h : n.toInt * 10 ^ k ≤ Long.greatest) :
    (Nat.repeat (· * 10) k n).toInt = n.toInt * 10 ^ k := by
  induction k with
  | zero => rw [pow_zero, mul_one]; rfl
  | succ k ih =>
      have hpos : 0 ≤ n.toInt * 10 ^ k := Int.mul_nonneg hn (by positivity)
      rw [pow_succ, ← mul_assoc, Long.greatest] at h
      have hk := ih (by rw [Long.greatest]; omega)
      have hten : (10 : Long).toInt = 10 := rfl
      have hpow : n.toInt * 10 ^ (k + 1) = n.toInt * 10 ^ k * 10 := by rw [pow_succ, mul_assoc]
      rw [Nat.repeat, Int64.toInt_mul, hk, hten, hpow]
      exact Int.bmod_eq_of_le (by omega) (by omega)

/-- One to four digits after the point count less than ten thousand ten-thousandths. -/
lemma fraction?_eq (l : Literal) : ∃ n : Long, fraction? l.frac = some n ∧
    n.toInt = (Text.decimalValue l.frac * 10 ^ (4 - l.frac.length) : Nat) ∧ n.toInt < 10000 := by
  have hlt : Text.decimalValue l.frac * 10 ^ (4 - l.frac.length) < 10000 :=
    calc Text.decimalValue l.frac * 10 ^ (4 - l.frac.length)
        < 10 ^ l.frac.length * 10 ^ (4 - l.frac.length) :=
          Nat.mul_lt_mul_of_pos_right (Text.decimalValue_lt l.isDigit_frac) (by positivity)
      _ = 10 ^ 4 := by rw [← pow_add, Nat.add_sub_cancel' l.length_frac_le]
  have hle : Text.decimalValue l.frac ≤ Text.decimalValue l.frac * 10 ^ (4 - l.frac.length) :=
    Nat.le_mul_of_pos_right _ (by positivity)
  cases hn : Long.ofInt? (Text.decimalValue l.frac) with
  | none =>
      rw [Long.ofInt?_eq_none_iff, Long.least, Long.greatest] at hn
      omega
  | some n =>
      have hvalue := Long.ofInt?_eq_some_iff.1 hn
      have hscaled : n.toInt * 10 ^ (4 - l.frac.length) =
          (Text.decimalValue l.frac * 10 ^ (4 - l.frac.length) : Nat) := by
        rw [hvalue]
        norm_cast
      have hrepeat := toInt_repeat (n := n) (k := 4 - l.frac.length) (by omega)
        (by rw [hscaled, Long.greatest]; omega)
      refine ⟨Nat.repeat (· * 10) (4 - l.frac.length) n, ?_, hrepeat.trans hscaled, by omega⟩
      rw [fraction?, Long.ofDigits?_eq l.isDigit_frac, hn]
      rfl

/-- **The checks refuse a literal exactly if it does not fit.** -/
theorem scaled?_eq (l : Literal) :
    scaled? l.negative l.whole l.frac = Long.ofInt? l.scaled := by
  obtain ⟨rest, hrest, hvalue, hlt⟩ := fraction?_eq l
  have hscaled : l.scaled = if l.negative then
      -(Text.decimalValue l.whole * 10000 + rest.toInt)
      else Text.decimalValue l.whole * 10000 + rest.toInt := by
    rw [Literal.scaled, Literal.magnitude, hvalue]
    push_cast
    rfl
  have hmul : ∀ n : Long, Long.mul? n (.ofNat unit) = Long.ofInt? (n.toInt * 10000) :=
    fun n => rfl
  rw [scaled?, Long.ofDigits?_eq l.isDigit_whole, hrest, hscaled]
  cases hones : Long.ofInt? (Text.decimalValue l.whole) with
  | none =>
      -- even the whole part is too great
      rw [Long.ofInt?_eq_none_iff, Long.least, Long.greatest] at hones
      refine (Long.ofInt?_eq_none_iff.2 ?_).symm
      rw [Long.least, Long.greatest]
      split <;> omega
  | some ones =>
      rw [← Long.ofInt?_eq_some_iff.1 hones]
      show (Long.mul? ones (.ofNat unit) >>= fun magnitude => _) = _
      rw [hmul]
      cases hmagnitude : Long.ofInt? (ones.toInt * 10000) with
      | none =>
          -- no multiple of ten thousand lies between the magnitudes of the two bounds
          have hones := Long.ofInt?_eq_some_iff.1 hones
          rw [Long.ofInt?_eq_none_iff, Long.least, Long.greatest] at hmagnitude
          refine (Long.ofInt?_eq_none_iff.2 ?_).symm
          rw [Long.least, Long.greatest]
          split <;> omega
      | some magnitude =>
          have hvalue := Long.ofInt?_eq_some_iff.1 hmagnitude
          rw [← hvalue]
          cases l.negative with
          | false => rfl
          | true =>
              have hbounds := Long.toInt_bounds magnitude
              rw [Long.least, Long.greatest] at hbounds
              show (Long.neg? magnitude >>= fun opposite => Long.sub? opposite rest) = _
              cases hopposite : Long.neg? magnitude with
              | none =>
                  rw [Long.neg?, Long.ofInt?_eq_none_iff, Long.least, Long.greatest] at hopposite
                  omega
              | some opposite =>
                  have hminus := Long.ofInt?_eq_some_iff.1 hopposite
                  show Long.sub? opposite rest = _
                  rw [Long.sub?, hminus, if_pos rfl, Int.neg_add, Int.sub_eq_add_neg]

/-! ### Reading -/

variable {s : String} {d : Decimal}

/-- A number fits exactly if it is that of a decimal. -/
lemma Literal.fits_iff_exists (l : Literal) : l.Fits ↔ ∃ n : Long, n.toInt = l.scaled := by
  rw [l.fits_iff]
  constructor
  · rintro ⟨hlow, hhigh⟩
    cases hn : Long.ofInt? l.scaled with
    | some n => exact ⟨n, Long.ofInt?_eq_some_iff.1 hn⟩
    | none =>
        have hout := Long.ofInt?_eq_none_iff.1 hn
        omega
  · rintro ⟨n, hn⟩
    rw [← hn]
    exact Long.toInt_bounds n

/-- A text is a literal and read as the decimal with its ten-thousandths, or it is no literal
that fits and is refused. -/
lemma ofText?_cases (s : String) :
    (∃ (l : Literal) (d : Decimal), s.toList = l.chars ∧ d.scaled.toInt = l.scaled ∧
      ofText? s = .ok d) ∨
    ((∀ l : Literal, s.toList = l.chars → ¬ l.Fits) ∧ ofText? s = .error ⟨s⟩) := by
  rw [ofText?]
  cases hsplit : splitText? s.toList with
  | none =>
      refine .inr ⟨fun l hl => ?_, rfl⟩
      rw [hl, splitText?_chars] at hsplit
      cases hsplit
  | some parts =>
      obtain ⟨l, hl, hnegative, hwhole, hfrac⟩ := exists_literal hsplit
      dsimp only
      rw [← hnegative, ← hwhole, ← hfrac, scaled?_eq]
      cases hn : Long.ofInt? l.scaled with
      | some n => exact .inl ⟨l, ⟨n⟩, hl.symm, Long.ofInt?_eq_some_iff.1 hn, rfl⟩
      | none =>
          refine .inr ⟨fun l' hl' hfits => ?_, rfl⟩
          obtain rfl := Literal.chars_inj (hl.trans hl')
          obtain ⟨n, hvalue⟩ := l.fits_iff_exists.1 hfits
          rw [Long.ofInt?_eq_some_iff.2 hvalue] at hn
          cases hn

/-- **The texts that are read are the literals that fit, each as its number.** -/
theorem ofText?_eq_ok_iff :
    ofText? s = .ok d ↔ ∃ l : Literal, s.toList = l.chars ∧ d.scaled.toInt = l.scaled := by
  rcases ofText?_cases s with ⟨l, d', hl, hvalue, hread⟩ | ⟨hfits, hread⟩
  · rw [hread, Except.ok.injEq]
    constructor
    · rintro rfl
      exact ⟨l, hl, hvalue⟩
    · rintro ⟨l', hl', hvalue'⟩
      obtain rfl := Literal.chars_inj (hl.symm.trans hl')
      exact congrArg mk (Int64.toInt_inj.1 (hvalue.trans hvalue'.symm))
  · rw [hread]
    refine iff_of_false nofun ?_
    rintro ⟨l, hl, hvalue⟩
    exact hfits l hl (l.fits_iff_exists.2 ⟨_, hvalue⟩)

/-- **All other texts are refused**, and a refusal shows the text. -/
theorem ofText?_eq_error_iff {e : ParseError} :
    ofText? s = .error e ↔ e = ⟨s⟩ ∧ ∀ l : Literal, s.toList = l.chars → ¬ l.Fits := by
  rcases ofText?_cases s with ⟨l, d, hl, hvalue, hread⟩ | ⟨hfits, hread⟩
  · rw [hread]
    refine iff_of_false nofun ?_
    rintro ⟨-, hfits⟩
    exact hfits l hl (l.fits_iff_exists.2 ⟨_, hvalue⟩)
  · rw [hread, Except.error.injEq]
    exact ⟨fun h => ⟨h.symm, hfits⟩, fun h => h.1.symm⟩

-- One below the least, nothing before the point, a sign of the wrong kind, and
-- five places.
example : ["-922337203685477.5809", ".5", "+1.0", "1.00000"].map (fun s => (ofText? s).toOption) =
    [none, none, none, none] := by decide

end AccessPolicy.Decimal
