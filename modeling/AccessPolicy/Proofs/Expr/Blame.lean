/-
Which node a failure is blamed on, and at which position.

* `along`, `innermost`: the nodes from the root down to an address, and the position
  of the last of them that has one;
* `Blames`: the node at an address is evaluated, all operands that it reaches have
  values, and it raises a fault, by its own rule or because it gives something else
  where a Boolean is needed;
* `exists_blames`: there is such a node below every expression that fails;
* `Blames.exists_fails`, `Blames.address_unique`: an expression fails if there is such
  a node, and there is only one;
* `eval_error_blamed`: every failure is blamed on exactly one node, with the fault that
  this node raises and at the innermost position around it.
-/
import AccessPolicy.Proofs.Expr.Raise

namespace AccessPolicy.Expr

variable {env : Env}

/-! ### The way to a node -/

/-- The nodes from the root down to the one at an address. -/
def along (e : Expr) : List Nat → List Expr
  | [] => [e]
  | i :: p => e :: (e.children[i]?.map (·.along p)).getD []

/-- The position of the last node with a position on the way down to an address. -/
def innermost (e : Expr) (p : List Nat) : Option Loc :=
  (e.along p).reverse.findSome? loc

/-- A Boolean is needed at an address, if one is needed at the root as `bool` says. -/
def needsBoolAt (bool : Bool) (e : Expr) : List Nat → Bool
  | [] => bool
  | i :: p => (e.children[i]?.map (·.needsBoolAt (e.needsBool i) p)).getD false

lemma innermost_nil (e : Expr) : e.innermost [] = e.loc := by
  rw [innermost, along, List.reverse_singleton, List.findSome?_singleton]

lemma innermost_cons {e c : Expr} {i : Nat} {p : List Nat} (hc : e.children[i]? = some c) :
    e.innermost (i :: p) = (c.innermost p).or e.loc := by
  rw [innermost, along, hc, Option.map_some, Option.getD_some, List.reverse_cons,
    List.findSome?_append, List.findSome?_singleton, innermost]

/-! ### Blame -/

/-- The node `r` at an address is blamed for a failure, with a fault: it is evaluated, all
operands that it reaches deliver, and it refuses their values or gives something else where
a Boolean is needed. -/
structure Blames (env : Env) (bool : Bool) (e : Expr) (p : List Nat) (r : Expr) (f : Fault) :
    Prop where
  reached : e.Reached env p r
  settled : r.Settled env
  cause : r.Refuses env f ∨ (e.needsBoolAt bool p = true ∧
    ∃ v, r.eval env = .ok v ∧ v.kind ≠ .bool ∧ f = .typeMismatch .bool v.kind)
  kind : r.CanRaise f.kind

/-- The node that is blamed below an operand is blamed below the whole. -/
lemma Blames.up {bool : Bool} {e c r : Expr} {i : Nat} {p : List Nat} {f : Fault}
    (h : c.Blames env (e.needsBool i) p r f) (hc : e.children[i]? = some c)
    (hi : e.Reaches env i) : e.Blames env bool (i :: p) r f where
  reached := .down hc hi h.reached
  settled := h.settled
  cause := by
    rw [needsBoolAt, hc]
    exact h.cause
  kind := h.kind

/-- The node that is blamed below the whole is blamed below the operand on the way. -/
lemma Blames.down {bool : Bool} {e r : Expr} {i : Nat} {p : List Nat} {f : Fault}
    (h : e.Blames env bool (i :: p) r f) : ∃ c, e.children[i]? = some c ∧ e.Reaches env i ∧
      c.Blames env (e.needsBool i) p r f := by
  obtain ⟨hreached, hsettled, hcause, hkind⟩ := h
  cases hreached with
  | down hc hi hp =>
      rw [needsBoolAt, hc] at hcause
      exact ⟨_, hc, hi, hp, hsettled, hcause, hkind⟩

/-- **Below every expression that fails there is a node to blame**, and the position of
the failure is the innermost one on the way to it. -/
theorem exists_blames {bool : Bool} {e : Expr} {x : Failure} (h : e.Fails env x bool) :
    ∃ p r f, e.Blames env bool p r f ∧ x = ⟨f, e.innermost p⟩ := by
  induction e using Expr.ind generalizing bool x with
  | h e ih =>
  have heval : ∀ x, e.eval env = .error x →
      ∃ p r f, e.Blames env bool p r f ∧ x = ⟨f, e.innermost p⟩ := by
    intro x hx
    have hstep := step_eval env e
    rw [hx] at hstep
    cases hstep with
    | operand hc hi hy =>
        obtain ⟨p, r, f, hb, rfl⟩ := ih _ (List.mem_of_getElem? hc) hy
        exact ⟨_ :: p, r, f, hb.up hc hi, by rw [innermost_cons hc]; rfl⟩
    | rule hsettled hf =>
        exact ⟨[], e, _, ⟨.here e, hsettled, .inl hf, hf.canRaise⟩, by rw [innermost_nil]⟩
  cases bool with
  | false => exact heval x h
  | true =>
      rcases evalBool_eq_error_iff.1 h with hx | ⟨v, hv, hkind, rfl⟩
      · exact heval x hx
      · have hstep := step_eval env e
        rw [hv] at hstep
        cases hstep with
        | value _ hsettled =>
            exact ⟨[], e, _, ⟨.here e, hsettled, .inr ⟨rfl, v, hv, hkind, rfl⟩, trivial⟩,
              by rw [innermost_nil]⟩

/-! ### There is one node to blame -/

/-- An expression that has no value fails, whether a Boolean is needed or not. -/
lemma fails_of_eval {e : Expr} {x : Failure} (h : e.eval env = .error x) (bool : Bool) :
    e.Fails env x bool := by
  cases bool with
  | false => exact h
  | true => exact evalBool_of_error h

/-- A node fails if an operand that it reaches fails. -/
lemma exists_error_of_operand {e c : Expr} {i : Nat} {x : Failure}
    (hc : e.children[i]? = some c) (hi : e.Reaches env i)
    (hx : c.Fails env x (e.needsBool i)) : ∃ y, e.eval env = .error y := by
  have hstep := step_eval env e
  cases he : e.eval env with
  | error y => exact ⟨y, rfl⟩
  | ok v =>
      rw [he] at hstep
      cases hstep with
      | value _ hsettled => exact absurd hx ((hsettled i c hc hi).not_fails x)

/-- A node that refuses fails with its fault, at its own position. -/
lemma Refuses.eval_eq {e : Expr} {f : Fault} (h : e.Refuses env f) :
    e.eval env = .error ⟨f, e.loc⟩ := by
  cases h with
  | neg ha h | getAttr ha h | hasAttr ha h | like ha h =>
      rw [eval, ha]
      exact congrArg (fun r => located _ (raise r)) h
  | binary ha hb h =>
      rw [eval, ha, hb]
      exact congrArg (fun r => located _ (raise r)) h
  | isType ha h | isTypeIn ha h =>
      rw [eval, ha]
      show located _ (raise (Value.asEntity _) >>= _) = _
      rw [h]
      rfl
  | target ha htype hb h =>
      rw [eval, ha, hb]
      show located _ (if _ then raise (isInTarget _ _ _) else _) = _
      rw [if_pos htype, h]
      rfl
  | unknown h =>
      rw [eval, h]
      rfl
  | call hg hvs h =>
      rw [eval, hg, hvs]
      exact congrArg (fun r => located _ (raise r)) h

/-- An expression with a node to blame fails. -/
lemma Blames.exists_fails {bool : Bool} {e r : Expr} {p : List Nat} {f : Fault}
    (h : e.Blames env bool p r f) : ∃ x, e.Fails env x bool := by
  induction p generalizing e bool with
  | nil =>
      obtain ⟨hreached, -, hcause, -⟩ := h
      cases hreached
      rcases hcause with hf | ⟨rfl, v, hv, hkind, -⟩
      · exact ⟨_, fails_of_eval hf.eval_eq bool⟩
      · exact ⟨_, evalBool_eq_error_iff.2 (.inr ⟨v, hv, hkind, rfl⟩)⟩
  | cons i p ih =>
      obtain ⟨c, hc, hi, hb⟩ := h.down
      obtain ⟨x, hx⟩ := ih hb
      obtain ⟨y, hy⟩ := exists_error_of_operand hc hi hx
      exact ⟨y, fails_of_eval hy bool⟩

/-- No node below a node to blame is to blame. -/
lemma Blames.not_below {bool : Bool} {e r s : Expr} {j : Nat} {q : List Nat} {f g : Fault}
    (h : e.Blames env bool [] r f) : ¬ e.Blames env bool (j :: q) s g := by
  intro h'
  obtain ⟨hreached, hsettled, -, -⟩ := h
  cases hreached
  obtain ⟨c, hc, hj, hb⟩ := h'.down
  obtain ⟨x, hx⟩ := hb.exists_fails
  exact (hsettled j c hc hj).not_fails x hx

/-- **There is one node to blame.** -/
theorem Blames.address_unique {bool : Bool} {e r s : Expr} {p q : List Nat} {f g : Fault}
    (h : e.Blames env bool p r f) (h' : e.Blames env bool q s g) : p = q := by
  induction p generalizing e bool q with
  | nil =>
      cases q with
      | nil => rfl
      | cons j q => exact absurd h' h.not_below
  | cons i p ih =>
      cases q with
      | nil => exact absurd h h'.not_below
      | cons j q =>
          obtain ⟨c, hc, hi, hb⟩ := h.down
          obtain ⟨d, hd, hj, hb'⟩ := h'.down
          -- of two operands that are reached, the earlier one delivers
          rcases Nat.lt_trichotomy i j with hij | rfl | hij
          · obtain ⟨x, hx⟩ := hb.exists_fails
            exact absurd hx ((delivers_of_reaches hij hc hd hi hj).not_fails x)
          · obtain rfl := Option.some.inj (hc.symm.trans hd)
            rw [ih hb hb']
          · obtain ⟨x, hx⟩ := hb'.exists_fails
            exact absurd hx ((delivers_of_reaches hij hd hc hj hi).not_fails x)

/-- **Every failure is blamed on exactly one node**: what is reported is the fault that
this node raises, at the innermost position on the way to it. -/
theorem eval_error_blamed (env : Env) (e : Expr) :
    (∀ x, e.eval env = .error x → ∃! p, ∃ r f, e.Blames env false p r f ∧
      x.report = ⟨f.kind, f.detail, e.innermost p⟩) ∧
    ∀ x, e.evalBool env = .error x → ∃! p, ∃ r f, e.Blames env true p r f ∧
      x.report = ⟨f.kind, f.detail, e.innermost p⟩ := by
  have hkey : ∀ bool x, e.Fails env x bool → ∃! p, ∃ r f, e.Blames env bool p r f ∧
      x.report = ⟨f.kind, f.detail, e.innermost p⟩ := by
    intro bool x hx
    obtain ⟨p, r, f, hb, rfl⟩ := exists_blames hx
    refine ⟨p, ⟨r, f, hb, rfl⟩, ?_⟩
    rintro q ⟨s, g, hb', -⟩
    exact hb'.address_unique hb
  exact ⟨hkey false, hkey true⟩

/-! ### A failure -/

/-- A conjunction whose second operand asks for the opposite of a sum, which overflows; only
the conjunction and the negation have positions. -/
def overflowingTest : Expr :=
  .and (.lit (.bool true) none)
    (.not (.binary .eq (.lit (.long 0) none)
      (.binary (.arith .add) (.lit (.long 9223372036854775807) none) (.lit (.long 1) none) none)
      none) (some ⟨3, 7⟩)) (some ⟨3, 1⟩)

/-- The overflow is blamed on the sum, at the position of the negation around it. -/
theorem eval_error_blamed_sum :
    ∃ x, overflowingTest.eval bareEnv = .error x ∧ x.report.kind = .overflow ∧
      x.report.loc = some ⟨3, 7⟩ ∧
      ∃! p, ∃ r f, overflowingTest.Blames bareEnv false p r f ∧
        x.report = ⟨f.kind, f.detail, overflowingTest.innermost p⟩ :=
  ⟨_, rfl, rfl, rfl, (eval_error_blamed bareEnv overflowingTest).1 _ rfl⟩

end AccessPolicy.Expr
