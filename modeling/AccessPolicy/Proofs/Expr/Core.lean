/-
A smaller language of expressions, and the operators that are derived in it.

* `BinaryOp.negated?`: the operators that are the negation of another;
* `expand`: the node of a derived operator as conditionals over its operands. The outer
  node keeps the position, and the other new nodes have none;
* `core`, `IsCore`: all derived operators expanded, from the leaves up, and the
  expressions in which there are none;
* `eval_expand`: expanding a node never changes what it gives;
* `eval_core`: the core of an expression has no derived operators, and gives the same
  value or fails with the same failure at the same position.
-/
import AccessPolicy.Proofs.Expr.Reached

namespace AccessPolicy

/-! ### Negated operators -/

/-- The operator of which another is the negation. -/
def BinaryOp.negated? : BinaryOp → Option BinaryOp
  | .notEq => some .eq
  | .compare .lessEq => some (.compare .greater)
  | .compare .greaterEq => some (.compare .less)
  | _ => none

/-- What is negated is not itself the negation of another. -/
lemma BinaryOp.negated?_of_negated? {op other : BinaryOp} (h : op.negated? = some other) :
    other.negated? = none := by
  cases op with
  | notEq =>
      obtain rfl := Option.some.inj h
      rfl
  | compare c =>
      cases c with
      | lessEq | greaterEq =>
          obtain rfl := Option.some.inj h
          rfl
      | less | greater => cases h
  | _ => cases h

/-- An operator that is the negation of another gives the opposite Boolean, and fails
where the other fails. -/
lemma BinaryOp.apply_of_negated? {op other : BinaryOp} (h : op.negated? = some other)
    (store : Store) (a b : Value) :
    op.apply store a b =
      (other.apply store a b >>= Value.asBool) >>= fun t => .ok (.bool (!t)) := by
  have hcompare : ∀ c d : Comparison, (∀ o, c.holds o = !d.holds o) →
      (BinaryOp.compare c).apply store a b =
        ((BinaryOp.compare d).apply store a b >>= Value.asBool) >>=
          fun t => .ok (.bool (!t)) := by
    intro c d hcd
    rw [apply, apply]
    cases a.asLong with
    | error f => rfl
    | ok m =>
        cases b.asLong with
        | error f => rfl
        | ok n => exact congrArg (fun t => Except.ok (Value.bool t)) (hcd _)
  cases op with
  | notEq =>
      obtain rfl := Option.some.inj h
      rfl
  | compare c =>
      cases c with
      | lessEq =>
          obtain rfl := Option.some.inj h
          exact hcompare _ _ fun _ => rfl
      | greaterEq =>
          obtain rfl := Option.some.inj h
          exact hcompare _ _ fun _ => rfl
      | less | greater => cases h
  | _ => cases h

namespace Expr

/-! ### Expanding one node -/

/-- The truth of an expression as a conditional. -/
def ifTrue (e : Expr) (loc : Option Loc) : Expr :=
  .ite e (.lit (.bool true) none) (.lit (.bool false) none) loc

/-- The negation of an expression as a conditional. -/
def ifFalse (e : Expr) (loc : Option Loc) : Expr :=
  .ite e (.lit (.bool false) none) (.lit (.bool true) none) loc

/-- The node of a derived operator as conditionals. -/
def expand : Expr → Expr
  | .and l r loc => .ite l (ifTrue r none) (.lit (.bool false) none) loc
  | .or l r loc => .ite l (.lit (.bool true) none) (ifTrue r none) loc
  | .not e loc => ifFalse e loc
  | .isTypeIn e type other loc =>
      .ite (.isType e type none) (.binary .isIn e other none) (.lit (.bool false) none) loc
  | .binary op l r loc =>
      match op.negated? with
      | some other => ifFalse (.binary other l r none) loc
      | none => .binary op l r loc
  | e => e

variable {env : Env}

/-- The expanded node keeps the position. -/
lemma loc_expand (e : Expr) : e.expand.loc = e.loc := by
  cases e with
  | binary op l r loc =>
      rw [expand]
      cases op.negated? <;> rfl
  | _ => rfl

lemma eval_ifTrue (e : Expr) : (ifTrue e none).eval env =
    e.evalBool env >>= fun t => pure (.bool t) := by
  rw [ifTrue, eval_ite, located_none]
  refine bind_congr_of_ok fun t _ => ?_
  cases t <;> rfl

lemma eval_ifFalse (e : Expr) (loc : Option Loc) : (ifFalse e loc).eval env =
    located loc (e.evalBool env >>= fun t => pure (.bool (!t))) := by
  rw [ifFalse, eval_ite]
  refine congrArg (located loc) (bind_congr_of_ok fun t _ => ?_)
  cases t <;> rfl

/-- A node without a position, where a Boolean is needed. -/
lemma evalBool_binary_none (op : BinaryOp) (l r : Expr) :
    (binary op l r none).evalBool env = l.eval env >>= fun a => r.eval env >>= fun b =>
      raise (op.apply env.store a b >>= Value.asBool) := by
  rw [evalBool, loc, truth, eval, located_none, located_none]
  cases l.eval env with
  | error x => rfl
  | ok a =>
      cases r.eval env with
      | error x => rfl
      | ok b => exact (raise_bind _ _).symm

/-- A negated operator may be evaluated as the negation. -/
lemma eval_ifFalse_binary {op other : BinaryOp} (h : op.negated? = some other) (l r : Expr)
    (loc : Option Loc) :
    (ifFalse (.binary other l r none) loc).eval env = (binary op l r loc).eval env := by
  rw [eval_ifFalse, evalBool_binary_none, eval]
  refine congrArg (located loc) ?_
  cases l.eval env with
  | error x => rfl
  | ok a =>
      cases r.eval env with
      | error x => rfl
      | ok b =>
          show raise (other.apply env.store a b >>= Value.asBool) >>= _ =
            raise (op.apply env.store a b)
          rw [BinaryOp.apply_of_negated? h]
          exact (raise_bind (other.apply env.store a b >>= Value.asBool)
            fun t => Except.ok (Value.bool (!t))).symm

/-- A test of the type without a position, where a Boolean is needed. -/
lemma evalBool_isType_none (e : Expr) (type : EntityType) :
    (isType e type none).evalBool env = e.eval env >>= fun v => raise v.asEntity >>=
      fun uid => .ok (uid.type == type) := by
  rw [evalBool, loc, truth, eval, located_none, located_none]
  cases e.eval env with
  | error x => rfl
  | ok v =>
      show (raise v.asEntity >>= _) >>= _ = raise v.asEntity >>= _
      cases v.asEntity <;> rfl

/-- A test of the type and the container is a test of the type, then one of the
container. -/
lemma eval_isTypeIn (e : Expr) (type : EntityType) (other : Expr) (loc : Option Loc) :
    (ite (.isType e type none) (.binary .isIn e other none) (.lit (.bool false) none)
      loc).eval env = (isTypeIn e type other loc).eval env := by
  rw [eval_ite, evalBool_isType_none, eval, eval, located_none]
  refine congrArg (located loc) ?_
  cases he : e.eval env with
  | error x => rfl
  | ok v =>
      show (raise v.asEntity >>= _) >>= _ = raise v.asEntity >>= _
      cases huid : v.asEntity with
      | error f => rfl
      | ok uid =>
          obtain rfl := asEntity_eq_ok_iff.1 huid
          show (if (uid.type == type) = true then _ else _) = if uid.type = type then _ else _
          by_cases htype : uid.type = type
          · rw [if_pos (beq_iff_eq.2 htype), if_pos htype]
            rfl
          · rw [if_neg (mt beq_iff_eq.1 htype), if_neg htype]
            rfl

/-- **Expanding a node never changes what it gives.** -/
theorem eval_expand (e : Expr) : e.expand.eval env = e.eval env := by
  cases e with
  | and l r loc =>
      rw [expand, eval_ite, eval_ifTrue, eval_and]
      rfl
  | or l r loc =>
      rw [expand, eval_ite, eval_ifTrue, eval_or]
      rfl
  | not e loc => rw [expand, eval_ifFalse, eval_not]
  | isTypeIn e type other loc => rw [expand, eval_isTypeIn]
  | binary op l r loc =>
      rw [expand]
      cases h : op.negated? with
      | none => rfl
      | some other => exact eval_ifFalse_binary h l r loc
  | _ => rfl

/-! ### The core -/

mutual

/-- The expression without derived operators, which are expanded from the leaves up. -/
def core : Expr → Expr
  | .lit v loc => .lit v loc
  | .var x loc => .var x loc
  | .and l r loc => expand (.and (core l) (core r) loc)
  | .or l r loc => expand (.or (core l) (core r) loc)
  | .not e loc => expand (.not (core e) loc)
  | .neg e loc => .neg (core e) loc
  | .binary op l r loc => expand (.binary op (core l) (core r) loc)
  | .ite c t e loc => .ite (core c) (core t) (core e) loc
  | .getAttr e attr loc => .getAttr (core e) attr loc
  | .hasAttr e attr loc => .hasAttr (core e) attr loc
  | .like e pattern loc => .like (core e) pattern loc
  | .isType e type loc => .isType (core e) type loc
  | .isTypeIn e type other loc => expand (.isTypeIn (core e) type (core other) loc)
  | .set es loc => .set (coreAll es) loc
  | .record fs loc => .record (coreFields fs) loc
  | .call name args loc => .call name (coreAll args) loc

/-- The expressions without derived operators. -/
def coreAll : List Expr → List Expr
  | [] => []
  | e :: es => core e :: coreAll es

/-- The named expressions without derived operators. -/
def coreFields : List (String × Expr) → List (String × Expr)
  | [] => []
  | (k, e) :: fs => (k, core e) :: coreFields fs

end

/-- The node is one of a derived operator. -/
def IsDerived : Expr → Prop
  | .and .. | .or .. | .not .. | .isTypeIn .. => True
  | .binary op _ _ _ => op.negated?.isSome
  | _ => False

/-- No node is one of a derived operator. -/
inductive IsCore : Expr → Prop
  | node {e : Expr} (h : ¬ e.IsDerived) (hc : ∀ c ∈ e.children, c.IsCore) : IsCore e

lemma coreAll_eq_map (es : List Expr) : coreAll es = es.map core := by
  induction es with
  | nil => rfl
  | cons e es ih => rw [coreAll, ih, List.map_cons]

lemma coreFields_eq_map (fs : List (String × Expr)) :
    coreFields fs = fs.map fun f => (f.1, f.2.core) := by
  induction fs with
  | nil => rfl
  | cons f fs ih => rw [coreFields, ih, List.map_cons]

/-- The core keeps the position of the root. -/
lemma loc_core (e : Expr) : e.core.loc = e.loc := by
  cases e <;> first
    | rfl
    | rw [core, loc_expand]; rfl

/-- Operands whose cores evaluate alike have the same list of values as their cores. -/
lemma evalAll_map_core {es : List Expr} (h : ∀ e ∈ es, e.core.eval env = e.eval env) :
    evalAll env (es.map core) = evalAll env es := by
  induction es with
  | nil => rfl
  | cons e es ih =>
      rw [List.forall_mem_cons] at h
      rw [List.map_cons, evalAll, evalAll, h.1, ih h.2]

/-- **The core of an expression gives what the expression gives.** -/
lemma eval_core_eq (env : Env) (e : Expr) : e.core.eval env = e.eval env := by
  induction e using Expr.ind with
  | h e ih =>
  have hbool : ∀ c ∈ e.children, c.core.evalBool env = c.evalBool env := fun c hc => by
    rw [evalBool, evalBool, loc_core, ih c hc]
  cases e with
  | lit | var => rfl
  | and l r loc =>
      rw [core, eval_expand, eval_and, eval_and, hbool l (by simp [children]),
        hbool r (by simp [children])]
  | or l r loc =>
      rw [core, eval_expand, eval_or, eval_or, hbool l (by simp [children]),
        hbool r (by simp [children])]
  | not e loc => rw [core, eval_expand, eval_not, eval_not, hbool e (by simp [children])]
  | ite c t e loc =>
      rw [core, eval_ite, eval_ite, hbool c (by simp [children]), ih t (by simp [children]),
        ih e (by simp [children])]
  | neg e loc | getAttr e attr loc | hasAttr e attr loc | like e pattern loc
  | isType e type loc => rw [core, eval, eval, ih e (by simp [children])]
  | binary op l r loc =>
      rw [core, eval_expand, eval, eval, ih l (by simp [children]), ih r (by simp [children])]
  | isTypeIn e type other loc =>
      rw [core, eval_expand, eval, eval, ih e (by simp [children]),
        ih other (by simp [children])]
  | set es loc | call name es loc =>
      have hes : evalAll env (es.map core) = evalAll env es := evalAll_map_core ih
      rw [core, coreAll_eq_map, eval, eval, hes]
  | record fs loc =>
      have hes : evalAll env ((fs.map (·.2)).map core) = evalAll env (fs.map (·.2)) :=
        evalAll_map_core ih
      have hfs : evalFields env (coreFields fs) = evalFields env fs := by
        rw [evalFields_eq_map, evalFields_eq_map, ← hes, coreFields_eq_map]
        simp only [List.map_map, Function.comp_def]
      rw [core, eval, eval, hfs]

/-! ### No derived operators are left -/

lemma isCore_lit (v : Value) (loc : Option Loc) : (lit v loc).IsCore :=
  .node id (by simp [children])

lemma isCore_ite {c t e : Expr} (hc : c.IsCore) (ht : t.IsCore) (he : e.IsCore)
    (loc : Option Loc) : (ite c t e loc).IsCore :=
  .node id (by simp [children, hc, ht, he])

/-- Expanding a node over operands without derived operators leaves none. -/
lemma isCore_expand {e : Expr} (h : ∀ c ∈ e.children, c.IsCore) : e.expand.IsCore := by
  cases e with
  | and l r loc =>
      have hr : (ifTrue r none).IsCore :=
        isCore_ite (h r (by simp [children])) (isCore_lit _ none) (isCore_lit _ none) none
      exact isCore_ite (h l (by simp [children])) hr (isCore_lit _ none) loc
  | or l r loc =>
      have hr : (ifTrue r none).IsCore :=
        isCore_ite (h r (by simp [children])) (isCore_lit _ none) (isCore_lit _ none) none
      exact isCore_ite (h l (by simp [children])) (isCore_lit _ none) hr loc
  | not e loc =>
      exact isCore_ite (h e (by simp [children])) (isCore_lit _ none) (isCore_lit _ none) loc
  | isTypeIn e type other loc =>
      have he := h e (by simp [children])
      have ho := h other (by simp [children])
      have htype : (isType e type none).IsCore := .node id (by simp [children, he])
      have hin : (binary .isIn e other none).IsCore :=
        .node (by simp [IsDerived, BinaryOp.negated?]) (by simp [children, he, ho])
      exact isCore_ite htype hin (isCore_lit _ none) loc
  | binary op l r loc =>
      rw [expand]
      cases hop : op.negated? with
      | none => exact .node (by simp [IsDerived, hop]) h
      | some other =>
          have hother : (binary other l r none).IsCore :=
            .node (by simp [IsDerived, BinaryOp.negated?_of_negated? hop]) h
          exact isCore_ite hother (isCore_lit _ none) (isCore_lit _ none) loc
  | _ => exact .node id h

/-- **In the core of an expression no derived operators are left.** -/
lemma isCore_core (e : Expr) : e.core.IsCore := by
  induction e using Expr.ind with
  | h e ih =>
  cases e with
  | lit v loc => exact isCore_lit v loc
  | var x loc =>
      rw [core]
      exact .node id (by simp [children])
  | and l r loc | or l r loc | binary op l r loc | isTypeIn l type r loc =>
      have hl := ih l (by simp [children])
      have hr := ih r (by simp [children])
      rw [core]
      exact isCore_expand (by simp [children, hl, hr])
  | not e loc =>
      have he := ih e (by simp [children])
      rw [core]
      exact isCore_expand (by simp [children, he])
  | ite c t e loc =>
      exact isCore_ite (ih c (by simp [children])) (ih t (by simp [children]))
        (ih e (by simp [children])) loc
  | neg e loc | getAttr e attr loc | hasAttr e attr loc | like e pattern loc
  | isType e type loc =>
      have he := ih e (by simp [children])
      rw [core]
      exact .node id (by simp [children, he])
  | set es loc | call name es loc =>
      refine .node id ?_
      show ∀ c ∈ coreAll es, c.IsCore
      rw [coreAll_eq_map, List.forall_mem_map]
      exact ih
  | record fs loc =>
      refine .node id ?_
      show ∀ c ∈ (coreFields fs).map (·.2), c.IsCore
      rw [coreFields_eq_map, List.map_map, List.forall_mem_map]
      exact fun f hf => ih f.2 (List.mem_map_of_mem hf)

/-- **Derived operators agree with their definitions in a smaller language**: the core of
an expression has none of them, and gives the same value, or fails with the same failure
at the same position. -/
theorem eval_core (env : Env) (e : Expr) :
    e.core.IsCore ∧ e.core.eval env = e.eval env :=
  ⟨isCore_core e, eval_core_eq env e⟩

/-- The negation of a text, behind a comparison that holds. -/
def negatedText : Expr :=
  .and (.binary (.compare .lessEq) (.lit (.long 1) none) (.lit (.long 2) none) none)
    (.not (.lit (.string "no") none) (some ⟨2, 4⟩)) (some ⟨1, 1⟩)

/-- Three derived operators become four conditionals, and the text is refused as no Boolean
at the position of its negation. -/
theorem eval_core_negatedText :
    negatedText.core =
        .ite (ifFalse (.binary (.compare .greater) (.lit (.long 1) none) (.lit (.long 2) none)
            none) none)
          (ifTrue (ifFalse (.lit (.string "no") none) (some ⟨2, 4⟩)) none)
          (.lit (.bool false) none) (some ⟨1, 1⟩) ∧
      negatedText.core.IsCore ∧
      negatedText.core.eval bareEnv = negatedText.eval bareEnv ∧
      negatedText.core.eval bareEnv = .error ⟨.typeMismatch .bool .string, some ⟨2, 4⟩⟩ := by
  obtain ⟨hcore, heval⟩ := eval_core bareEnv negatedText
  exact ⟨rfl, hcore, heval, heval.trans rfl⟩

end Expr

end AccessPolicy
