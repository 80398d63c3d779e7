/-
Expressions without their positions.

* `Expr.unlocated`, `Failure.unlocated`, `unlocate`: an expression, a failure and a result in
  which all positions are forgotten;
* `Expr.SameButLocs`: two expressions that differ at most in the positions of their nodes;
* `unlocate_located`, `unlocate_bind`, `unlocate_truth`: forgetting undoes what blame adds, and
  passes through the steps of an evaluation;
* `eval_unlocated`, `evalBool_unlocated`: an expression without positions gives what the
  expression gives, its positions forgotten;
* `SameOutcome`: the same value, or failures of one kind and wording;
  `SameButLocs.sameOutcome_eval` says that positions cannot change more.
-/
import AccessPolicy.Proofs.Expr.Invariant
import AccessPolicy.Proofs.Expr.Truth

namespace AccessPolicy

/-! ### Forgetting positions -/

/-- The failure without its position. -/
def Failure.unlocated (f : Failure) : Failure := { f with loc := none }

/-- The result without the position of its failure. -/
def unlocate {α : Type} (r : Outcome α) : Outcome α := r.mapError Failure.unlocated

namespace Expr

mutual

/-- The expression without the positions of its nodes. -/
def unlocated : Expr → Expr
  | .lit v _ => .lit v none
  | .var x _ => .var x none
  | .and l r _ => .and (unlocated l) (unlocated r) none
  | .or l r _ => .or (unlocated l) (unlocated r) none
  | .not e _ => .not (unlocated e) none
  | .neg e _ => .neg (unlocated e) none
  | .binary op l r _ => .binary op (unlocated l) (unlocated r) none
  | .ite c t e _ => .ite (unlocated c) (unlocated t) (unlocated e) none
  | .getAttr e attr _ => .getAttr (unlocated e) attr none
  | .hasAttr e attr _ => .hasAttr (unlocated e) attr none
  | .like e pattern _ => .like (unlocated e) pattern none
  | .isType e type _ => .isType (unlocated e) type none
  | .isTypeIn e type other _ => .isTypeIn (unlocated e) type (unlocated other) none
  | .set es _ => .set (unlocatedAll es) none
  | .record fs _ => .record (unlocatedFields fs) none
  | .call name args _ => .call name (unlocatedAll args) none

/-- The expressions without positions. -/
def unlocatedAll : List Expr → List Expr
  | [] => []
  | e :: es => unlocated e :: unlocatedAll es

/-- The named expressions without positions. -/
def unlocatedFields : List (String × Expr) → List (String × Expr)
  | [] => []
  | (k, e) :: fs => (k, unlocated e) :: unlocatedFields fs

end

/-- Two expressions are equal up to the positions of their nodes. -/
def SameButLocs (e e' : Expr) : Prop := e.unlocated = e'.unlocated

lemma loc_unlocated (e : Expr) : e.unlocated.loc = none := by
  cases e <;> rfl

end Expr

/-! ### Steps of an evaluation -/

section Steps

variable {α β : Type}

@[simp] lemma unlocate_pure (a : α) : unlocate (pure a) = pure a := rfl

/-- A fault has no position before it is blamed. -/
@[simp] lemma unlocate_raise (r : Except Fault α) : unlocate (raise r) = raise r := by
  cases r <;> rfl

/-- It does not matter which node is blamed. -/
@[simp] lemma unlocate_located (loc : Option Loc) (r : Outcome α) :
    unlocate (located loc r) = unlocate r := by
  cases r <;> rfl

/-- The position of a failure does not decide what follows. -/
@[simp] lemma unlocate_bind (r : Outcome α) (f : α → Outcome β) :
    unlocate (r >>= f) = unlocate r >>= fun a => unlocate (f a) := by
  cases r <;> rfl

@[simp] lemma unlocate_map (f : α → β) (r : Outcome α) : unlocate (f <$> r) = f <$> unlocate r := by
  cases r <;> rfl

/-- Where a Boolean is needed, the position of the operand does not matter. -/
lemma unlocate_truth (loc : Option Loc) (r : Outcome Value) :
    unlocate (truth loc r) = truth none (unlocate r) := by
  rw [truth, truth, unlocate_located, located_none, unlocate_bind]
  simp only [unlocate_raise]

end Steps

/-! ### Evaluation -/

namespace Expr

variable {env : Env}

/-- Operands that give what they gave have the list of values that they had. -/
lemma evalAll_unlocatedAll {es : List Expr}
    (h : ∀ e ∈ es, e.unlocated.eval env = unlocate (e.eval env)) :
    evalAll env (unlocatedAll es) = unlocate (evalAll env es) := by
  induction es with
  | nil => rfl
  | cons e es ih =>
      rw [List.forall_mem_cons] at h
      rw [unlocatedAll, evalAll, evalAll, h.1, ih h.2]
      simp only [unlocate_bind, unlocate_pure]

/-- Named operands that give what they gave have the named values that they had. -/
lemma evalFields_unlocatedFields {fs : List (String × Expr)}
    (h : ∀ f ∈ fs, f.2.unlocated.eval env = unlocate (f.2.eval env)) :
    evalFields env (unlocatedFields fs) = unlocate (evalFields env fs) := by
  induction fs with
  | nil => rfl
  | cons f fs ih =>
      rw [List.forall_mem_cons] at h
      rw [unlocatedFields, evalFields, evalFields, h.1, ih h.2]
      simp only [unlocate_bind, unlocate_pure]

/-- An expression that gives what it gave does so where a Boolean is needed, though it is blamed
there a second time. -/
lemma evalBool_unlocated_of_eval {e : Expr}
    (h : e.unlocated.eval env = unlocate (e.eval env)) :
    e.unlocated.evalBool env = unlocate (e.evalBool env) := by
  rw [evalBool, evalBool, loc_unlocated, h, unlocate_truth]

/-- **Without its positions an expression gives what it gave**: the same value, or a failure with
the same fault. -/
theorem eval_unlocated (env : Env) (e : Expr) :
    e.unlocated.eval env = unlocate (e.eval env) := by
  induction e using Expr.ind with
  | h e ih =>
  have hbool : ∀ c ∈ e.children, c.unlocated.evalBool env = unlocate (c.evalBool env) :=
    fun c hc => evalBool_unlocated_of_eval (ih c hc)
  cases e with
  | lit | var => rfl
  | and l r loc =>
      rw [unlocated, eval_and, eval_and, hbool l (by simp [children]),
        hbool r (by simp [children])]
      simp [apply_ite unlocate]
  | or l r loc =>
      rw [unlocated, eval_or, eval_or, hbool l (by simp [children]),
        hbool r (by simp [children])]
      simp [apply_ite unlocate]
  | not e loc =>
      rw [unlocated, eval_not, eval_not, hbool e (by simp [children])]
      simp
  | ite c t e loc =>
      rw [unlocated, eval_ite, eval_ite, hbool c (by simp [children]),
        ih t (by simp [children]), ih e (by simp [children])]
      simp [apply_ite unlocate]
  | neg e loc | getAttr e attr loc | hasAttr e attr loc | like e pattern loc
  | isType e type loc =>
      rw [unlocated, eval, eval, ih e (by simp [children])]
      simp
  | binary op l r loc =>
      rw [unlocated, eval, eval, ih l (by simp [children]), ih r (by simp [children])]
      simp
  | isTypeIn e type other loc =>
      rw [unlocated, eval, eval, ih e (by simp [children]), ih other (by simp [children])]
      simp [apply_ite unlocate]
  | set es loc =>
      have hes : evalAll env (unlocatedAll es) = unlocate (evalAll env es) :=
        evalAll_unlocatedAll ih
      rw [unlocated, eval, eval, hes]
      simp
  | record fs loc =>
      have hfs : evalFields env (unlocatedFields fs) = unlocate (evalFields env fs) :=
        evalFields_unlocatedFields fun f hf => ih f.2 (List.mem_map_of_mem hf)
      rw [unlocated, eval, eval, hfs]
      simp
  | call name args loc =>
      have hargs : evalAll env (unlocatedAll args) = unlocate (evalAll env args) :=
        evalAll_unlocatedAll ih
      rw [unlocated, eval, eval, hargs]
      cases ExtensionFn.ofName? name <;> simp

/-- The same where a Boolean is needed. -/
theorem evalBool_unlocated (env : Env) (e : Expr) :
    e.unlocated.evalBool env = unlocate (e.evalBool env) :=
  evalBool_unlocated_of_eval (eval_unlocated env e)

end Expr

/-! ### Outcomes -/

/-- Two errors are of one kind and have one wording. -/
structure EvalError.SameButLoc (e e' : EvalError) : Prop where
  kind : e.kind = e'.kind
  detail : e.detail = e'.detail

/-- Two results are one value, or they are failures that are reported alike up to the position. -/
inductive SameOutcome {α : Type} : Outcome α → Outcome α → Prop
  | value (a : α) : SameOutcome (.ok a) (.ok a)
  | failure {x x' : Failure} (h : x.report.SameButLoc x'.report) :
      SameOutcome (.error x) (.error x')

/-- Failures with one fault are reported alike. -/
lemma Failure.sameButLoc_report {x x' : Failure} (h : x.unlocated = x'.unlocated) :
    x.report.SameButLoc x'.report := by
  have hfault : x.unlocated.fault = x'.unlocated.fault := by rw [h]
  exact ⟨congrArg Fault.kind hfault, congrArg Fault.detail hfault⟩

/-- Results that are equal once positions are forgotten are one outcome. -/
lemma sameOutcome_of_unlocate_eq {α : Type} {r r' : Outcome α} (h : unlocate r = unlocate r') :
    SameOutcome r r' := by
  cases r with
  | ok a =>
      cases r' with
      | ok b =>
          obtain rfl : a = b := Except.ok.inj h
          exact .value a
      | error x' => cases h
  | error x =>
      cases r' with
      | ok b => cases h
      | error x' => exact .failure (Failure.sameButLoc_report (Except.error.inj h))

namespace Expr.SameButLocs

variable {e e' : Expr}

/-- **Expressions that are equal up to positions have one outcome.** -/
lemma sameOutcome_eval (h : e.SameButLocs e') (env : Env) :
    SameOutcome (e.eval env) (e'.eval env) := by
  refine sameOutcome_of_unlocate_eq ?_
  rw [← eval_unlocated, ← eval_unlocated, h]

/-- They have one outcome where a Boolean is needed, too. -/
lemma sameOutcome_evalBool (h : e.SameButLocs e') (env : Env) :
    SameOutcome (e.evalBool env) (e'.evalBool env) := by
  refine sameOutcome_of_unlocate_eq ?_
  rw [← evalBool_unlocated, ← evalBool_unlocated, h]

end Expr.SameButLocs

end AccessPolicy
