/-
Decimals in expressions.

* `Expr.readDecimal`: the expression that reads a decimal from a text, and `eval_readDecimal`,
  what it gives;
* `Expr.Decides`, `Expr.ComparesAs`: an expression that tells whether something holds, and two
  expressions that equality and the four comparisons tell apart as two rational numbers;
* `comparesAs_of_eval`: two expressions that give decimals compare as their ten-thousandths;
* `reading_exact`: what is read from a text and what is refused, and the comparison of two
  decimals that have been read.
-/
import AccessPolicy.Proofs.Decimal.Reading
import AccessPolicy.Proofs.Expr.Arithmetic

namespace AccessPolicy

/-! ### Comparing -/

namespace Expr

/-- The expression that reads a decimal from a text. -/
def readDecimal (text : String) (textLoc loc : Option Loc) : Expr :=
  .call "decimal" [.lit (.string text) textLoc] loc

/-- The expression tells whether a proposition holds. -/
def Decides (env : Env) (e : Expr) (P : Prop) : Prop :=
  ∃ b, e.eval env = .ok (.bool b) ∧ (b = true ↔ P)

/-- Two expressions compare as two rational numbers. -/
structure ComparesAs (env : Env) (x y : Expr) (p q : ℚ) : Prop where
  equal : ∀ loc, Decides env (.binary .eq x y loc) (p = q)
  lessThan : ∀ loc, Decides env (.call "lessThan" [x, y] loc) (p < q)
  lessThanOrEqual : ∀ loc, Decides env (.call "lessThanOrEqual" [x, y] loc) (p ≤ q)
  greaterThan : ∀ loc, Decides env (.call "greaterThan" [x, y] loc) (p > q)
  greaterThanOrEqual : ∀ loc, Decides env (.call "greaterThanOrEqual" [x, y] loc) (p ≥ q)

variable {env : Env} {x y : Expr} {d e : Decimal}

/-- A text that can be read gives its decimal. -/
lemma eval_readDecimal {text : String} (h : Decimal.ofText? text = .ok d)
    (textLoc loc : Option Loc) : (readDecimal text textLoc loc).eval env = .ok (.decimal d) := by
  have happly : ExtensionFn.decimal.apply [.string text] = .ok (.decimal d) := by
    simp only [ExtensionFn.apply, ExtensionFn.argument, Value.asString, bind, Except.bind, h]
    rfl
  show located loc (raise (ExtensionFn.decimal.apply [.string text])) = _
  rw [happly]
  rfl

/-- A comparison of two decimals compares their ten-thousandths. -/
lemma decides_compare (hx : x.eval env = .ok (.decimal d)) (hy : y.eval env = .ok (.decimal e))
    (c : Comparison) {name : String} (hname : ExtensionFn.ofName? name = some (.compare c))
    (loc : Option Loc) :
    Decides env (.call name [x, y] loc) (c.Relates d.scaled.toInt e.scaled.toInt) := by
  refine ⟨c.holds (compare d.scaled.toInt e.scaled.toInt), ?_, c.holds_compare_iff _ _⟩
  rw [eval, hname, evalAll, hx, evalAll, hy]
  rfl

/-- Two decimals are equal exactly if their ten-thousandths are. -/
lemma decides_eq (hx : x.eval env = .ok (.decimal d)) (hy : y.eval env = .ok (.decimal e))
    (loc : Option Loc) :
    Decides env (.binary .eq x y loc) (d.scaled.toInt = e.scaled.toInt) := by
  refine ⟨Value.decimal d == Value.decimal e, ?_, ?_⟩
  · rw [eval, hx, hy]
    rfl
  · rw [beq_iff_eq, Value.decimal.injEq, Int64.toInt_inj, Decimal.mk.injEq]

/-- What decides a proposition decides every other one that says the same. -/
lemma Decides.congr {P Q : Prop} (h : Decides env x P) (hiff : P ↔ Q) : Decides env x Q := by
  obtain ⟨b, heval, hb⟩ := h
  exact ⟨b, heval, hb.trans hiff⟩

/-- Two expressions that give decimals compare as the numbers of the decimals. -/
theorem comparesAs_of_eval {p q : ℚ} (hx : x.eval env = .ok (.decimal d))
    (hy : y.eval env = .ok (.decimal e)) (hp : (d.scaled.toInt : ℚ) = p * 10 ^ 4)
    (hq : (e.scaled.toInt : ℚ) = q * 10 ^ 4) : ComparesAs env x y p q := by
  have hunit : (0 : ℚ) < 10 ^ 4 := by norm_num
  have heq : d.scaled.toInt = e.scaled.toInt ↔ p = q := by
    rw [← @Int.cast_inj ℚ, hp, hq, mul_left_inj' hunit.ne']
  have hlt : d.scaled.toInt < e.scaled.toInt ↔ p < q := by
    rw [← @Int.cast_lt ℚ, hp, hq, mul_lt_mul_iff_left₀ hunit]
  have hgt : e.scaled.toInt < d.scaled.toInt ↔ q < p := by
    rw [← @Int.cast_lt ℚ, hp, hq, mul_lt_mul_iff_left₀ hunit]
  have hle : d.scaled.toInt ≤ e.scaled.toInt ↔ p ≤ q := by
    rw [← not_lt, hgt, not_lt]
  have hge : e.scaled.toInt ≤ d.scaled.toInt ↔ q ≤ p := by
    rw [← not_lt, hlt, not_lt]
  exact {
    equal := fun loc => (decides_eq hx hy loc).congr heq
    lessThan := fun loc => (decides_compare hx hy .less rfl loc).congr hlt
    lessThanOrEqual := fun loc => (decides_compare hx hy .lessEq rfl loc).congr hle
    greaterThan := fun loc => (decides_compare hx hy .greater rfl loc).congr hgt
    greaterThanOrEqual := fun loc => (decides_compare hx hy .greaterEq rfl loc).congr hge }

end Expr

/-! ### The result -/

namespace Decimal

/-- The reading of a text is exact. -/
structure ReadsExactly (s : String) : Prop where
  /-- A text is read exactly if it is a literal that fits. -/
  read_iff : (∃ d, ofText? s = .ok d) ↔ ∃ l : Literal, s.toList = l.chars ∧ l.Fits
  /-- What is read has the ten-thousandths of the rational number. -/
  exact_value : ∀ d, ofText? s = .ok d → ∀ l : Literal, s.toList = l.chars →
    (d.scaled.toInt : ℚ) = l.value * 10 ^ 4
  /-- Every other text is refused, in these words. -/
  refused : (¬∃ l : Literal, s.toList = l.chars ∧ l.Fits) →
    ∃ e, ofText? s = .error e ∧ e.message = "invalid decimal literal: " ++ s

/-- What is read has the ten-thousandths of the literal. -/
lemma scaled_of_ofText? {s : String} {d : Decimal} (h : ofText? s = .ok d) {l : Literal}
    (hl : s.toList = l.chars) : (d.scaled.toInt : ℚ) = l.value * 10 ^ 4 := by
  obtain ⟨l', hl', hvalue⟩ := ofText?_eq_ok_iff.1 h
  obtain rfl := Literal.chars_inj (hl.symm.trans hl')
  rw [hvalue, l.scaled_eq]

/-- A literal that fits is read. -/
lemma Literal.Fits.exists_ofText? {l : Literal} (h : l.Fits) {s : String}
    (hl : s.toList = l.chars) : ∃ d, ofText? s = .ok d := by
  obtain ⟨n, hn⟩ := l.fits_iff_exists.1 h
  exact ⟨⟨n⟩, ofText?_eq_ok_iff.2 ⟨l, hl, hn⟩⟩

/-- Every text is read exactly or refused. -/
lemma readsExactly (s : String) : ReadsExactly s where
  read_iff := by
    constructor
    · rintro ⟨d, hd⟩
      obtain ⟨l, hl, hvalue⟩ := ofText?_eq_ok_iff.1 hd
      exact ⟨l, hl, l.fits_iff_exists.2 ⟨_, hvalue⟩⟩
    · rintro ⟨l, hl, hfits⟩
      exact hfits.exists_ofText? hl
  exact_value d hd l hl := scaled_of_ofText? hd hl
  refused h := ⟨⟨s⟩, ofText?_eq_error_iff.2 ⟨rfl, fun l hl hfits => h ⟨l, hl, hfits⟩⟩, rfl⟩

/-- **Decimals are read exactly**: a text is read exactly if it is a literal that fits, as its
rational number, and refused otherwise; and two decimals that are read in an expression compare
as their rational numbers do. -/
theorem reading_exact :
    (∀ s : String, ReadsExactly s) ∧
      ∀ (env : Env) (a b : Literal), a.Fits → b.Fits → ∀ loc₁ loc₂ loc₃ loc₄ : Option Loc,
        Expr.ComparesAs env (.readDecimal (String.ofList a.chars) loc₁ loc₂)
          (.readDecimal (String.ofList b.chars) loc₃ loc₄) a.value b.value := by
  refine ⟨readsExactly, fun env a b ha hb loc₁ loc₂ loc₃ loc₄ => ?_⟩
  obtain ⟨d, hd⟩ := ha.exists_ofText? String.toList_ofList
  obtain ⟨e, he⟩ := hb.exists_ofText? String.toList_ofList
  exact Expr.comparesAs_of_eval (Expr.eval_readDecimal hd loc₁ loc₂)
    (Expr.eval_readDecimal he loc₃ loc₄) (scaled_of_ofText? hd String.toList_ofList)
    (scaled_of_ofText? he String.toList_ofList)

/-! ### The least decimal -/

/-- The literal of the least decimal: without its sign it would not fit. -/
def leastLiteral : Literal where
  negative := true
  whole := "922337203685477".toList
  frac := "5808".toList
  whole_ne_nil := by decide
  isDigit_whole := List.all_eq_true.1 (by decide)
  frac_ne_nil := by decide
  isDigit_frac := List.all_eq_true.1 (by decide)
  length_frac_le := by decide

/-- A literal with more digits than any long has. -/
def paddedLiteral : Literal where
  negative := true
  whole := "0000000000000000000000".toList
  frac := "5".toList
  whole_ne_nil := by decide
  isDigit_whole := List.all_eq_true.1 (by decide)
  frac_ne_nil := by decide
  isDigit_frac := List.all_eq_true.1 (by decide)
  length_frac_le := by decide

/-- Both fit, and the one is found to be less than the other. -/
theorem reading_exact_least :
    leastLiteral.Fits ∧ paddedLiteral.Fits ∧
      (Expr.call "lessThan" [.readDecimal "-922337203685477.5808" none none,
        .readDecimal "-0000000000000000000000.5" none none] none).eval Expr.bareEnv =
          .ok (.bool true) := by
  have hleast : leastLiteral.scaled = -9223372036854775808 := by decide
  have hpadded : paddedLiteral.scaled = -5000 := by decide
  have hfits : leastLiteral.Fits := by rw [Literal.fits_iff, hleast]; decide
  have hfits' : paddedLiteral.Fits := by rw [Literal.fits_iff, hpadded]; decide
  have hlt : leastLiteral.value < paddedLiteral.value := by
    have h := leastLiteral.scaled_eq
    have h' := paddedLiteral.scaled_eq
    rw [hleast] at h
    rw [hpadded] at h'
    push_cast at h h'
    linarith
  obtain ⟨b, heval, hb⟩ := (reading_exact.2 Expr.bareEnv leastLiteral paddedLiteral hfits hfits'
    none none none none).lessThan none
  rw [hb.2 hlt] at heval
  exact ⟨hfits, hfits', heval⟩

end Decimal

end AccessPolicy
