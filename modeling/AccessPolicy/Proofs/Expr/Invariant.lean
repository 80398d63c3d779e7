/-
What holds of every value that an evaluation gives.

* `Expr.children`, `Expr.ind`: the operands of an expression, and the induction
  over all expressions in which what holds of the operands may be used;
  `Expr.evalAll_congr` and its like carry it over lists of operands;
* `Expr.eval_congr`: in surroundings in which its operands evaluate alike, a node
  evaluates alike;
* `Expr.HasLit`: the values that stand literally in an expression;
* `Yields`: what holds of a result if it is a value, and how it passes through
  the steps of an evaluation;
* `Kept`: a property of values that no rule of a node can lose; `Kept.eval` says
  that then every value of an expression has it, if the literals of the
  expression do.
-/
import AccessPolicy.Expr.Eval
import Mathlib.Tactic.Common

namespace AccessPolicy

/-! ### Operands -/

namespace Expr

/-- The operands of an expression, in the order of their evaluation. -/
def children : Expr → List Expr
  | .lit _ _ | .var _ _ => []
  | .not e _ | .neg e _ | .getAttr e _ _ | .hasAttr e _ _ | .like e _ _ | .isType e _ _ => [e]
  | .and l r _ | .or l r _ | .binary _ l r _ | .isTypeIn l _ r _ => [l, r]
  | .ite c t e _ => [c, t, e]
  | .set es _ | .call _ es _ => es
  | .record fs _ => fs.map (·.2)

/-- An operand is smaller than the expression. -/
lemma sizeOf_lt_of_mem_children {c e : Expr} (h : c ∈ e.children) : sizeOf c < sizeOf e := by
  cases e with
  | lit | var => exact absurd h List.not_mem_nil
  | set es loc =>
      have hs := List.sizeOf_lt_of_mem (show c ∈ es from h)
      simp only [set.sizeOf_spec]
      omega
  | call name es loc =>
      have hs := List.sizeOf_lt_of_mem (show c ∈ es from h)
      simp only [call.sizeOf_spec]
      omega
  | record fs loc =>
      obtain ⟨⟨k, d⟩, hf, rfl⟩ := List.mem_map.1 h
      have hs := List.sizeOf_lt_of_mem hf
      simp only [record.sizeOf_spec, Prod.mk.sizeOf_spec] at hs ⊢
      omega
  | _ =>
      simp only [children, List.mem_cons, List.not_mem_nil, or_false] at h
      rcases h with rfl | rfl | rfl <;>
        simp only [and.sizeOf_spec, or.sizeOf_spec, not.sizeOf_spec, neg.sizeOf_spec,
          binary.sizeOf_spec, ite.sizeOf_spec, getAttr.sizeOf_spec, hasAttr.sizeOf_spec,
          like.sizeOf_spec, isType.sizeOf_spec, isTypeIn.sizeOf_spec] <;>
        omega

/-- The induction over expressions: a property holds of every expression once it is
inherited from the operands. -/
@[elab_as_elim]
theorem ind {P : Expr → Prop} (h : ∀ e, (∀ c ∈ e.children, P c) → P e) (e : Expr) : P e :=
  h e fun c hc =>
    have := sizeOf_lt_of_mem_children hc
    ind h c
termination_by sizeOf e

/-- Expressions that evaluate alike have the same lists of values. -/
lemma evalAll_congr {env env' : Env} {es : List Expr}
    (h : ∀ e ∈ es, e.eval env' = e.eval env) : evalAll env' es = evalAll env es := by
  induction es with
  | nil => rfl
  | cons e es ih =>
      have he := h e (.head _)
      have htail := ih fun d hd => h d (.tail _ hd)
      rw [evalAll, evalAll, he, htail]

/-- Named expressions that evaluate alike have the same named values. -/
lemma evalFields_congr {env env' : Env} {fs : List (String × Expr)}
    (h : ∀ f ∈ fs, f.2.eval env' = f.2.eval env) : evalFields env' fs = evalFields env fs := by
  induction fs with
  | nil => rfl
  | cons f fs ih =>
      have hf := h f (.head _)
      have htail := ih fun g hg => h g (.tail _ hg)
      rw [evalFields, evalFields, hf, htail]

/-- An expression depends on the surroundings through its operands and the store only, and
through its own value if it is a variable. -/
lemma eval_congr {env env' : Env} (hs : env'.store = env.store) {e : Expr}
    (hvar : ∀ x loc, e = .var x loc → env'.var x = env.var x)
    (h : ∀ c ∈ e.children, c.eval env' = c.eval env) : e.eval env' = e.eval env := by
  cases e with
  | lit v loc => rfl
  | var x loc => rw [eval, eval, hvar x loc rfl]
  | and l r loc | or l r loc =>
      rw [eval, eval, h l (by simp [children]), h r (by simp [children])]
  | not e loc | neg e loc | like e pattern loc | isType e type loc =>
      rw [eval, eval, h e (by simp [children])]
  | getAttr e attr loc | hasAttr e attr loc =>
      rw [eval, eval, h e (by simp [children]), hs]
  | binary op l r loc | isTypeIn l type r loc =>
      rw [eval, eval, h l (by simp [children]), h r (by simp [children]), hs]
  | ite c t e loc =>
      rw [eval, eval, h c (by simp [children]), h t (by simp [children]),
        h e (by simp [children])]
  | set es loc | call name es loc =>
      have hes : evalAll env' es = evalAll env es := evalAll_congr h
      rw [eval, eval, hes]
  | record fs loc =>
      have hfs := evalFields_congr fun f hf => h f.2 (List.mem_map_of_mem hf)
      rw [eval, eval, hfs]

/-- The value stands literally in an expression. -/
inductive HasLit (v : Value) : Expr → Prop
  | here (loc : Option Loc) : HasLit v (.lit v loc)
  | inside {c e : Expr} (hc : c ∈ e.children) (h : HasLit v c) : HasLit v e

end Expr

/-! ### Results -/

/-- A property of a result, if it is a value. -/
def Yields {ε α : Type} (P : α → Prop) (r : Except ε α) : Prop :=
  ∀ a, r = .ok a → P a

section Yields

variable {ε ε' α β : Type} {P : α → Prop} {Q : β → Prop}

lemma yields_ok {a : α} (h : P a) : Yields P (.ok a : Except ε α) := by
  rintro b ⟨⟩
  exact h

lemma yields_error (f : ε) : Yields P (.error f : Except ε α) := by
  rintro b ⟨⟩

/-- The error of a result does not matter. -/
lemma Yields.mapError {r : Except ε α} (h : Yields P r) (g : ε → ε') :
    Yields P (r.mapError g) := by
  cases r with
  | ok a => exact yields_ok (h a rfl)
  | error f => exact yields_error (g f)

/-- A step that relies on the property of the result before. -/
lemma Yields.bind {r : Except ε α} {f : α → Except ε β} (hr : Yields P r)
    (hf : ∀ a, P a → Yields Q (f a)) : Yields Q (r >>= f) := by
  cases r with
  | ok a => exact hf a (hr a rfl)
  | error e => exact yields_error e

/-- A step that relies on nothing. -/
lemma yields_bind {r : Except ε α} {f : α → Except ε β} (hf : ∀ a, Yields Q (f a)) :
    Yields Q (r >>= f) :=
  Yields.bind (P := fun _ => True) (fun _ _ => trivial) fun a _ => hf a

/-- Two steps agree if they agree on all results with the property. -/
lemma Yields.bind_congr {r : Except ε α} {f g : α → Except ε β} (hr : Yields P r)
    (h : ∀ a, P a → f a = g a) : (r >>= f) = (r >>= g) := by
  cases r with
  | ok a => exact h a (hr a rfl)
  | error e => rfl

end Yields

/-- An attribute comes from the record, or from the store. -/
lemma yields_getAttribute {P : Value → Prop} {store : Store} {attr : String} {v : Value}
    (hrecord : ∀ fs w, v = .record fs → fs.lookup attr = some w → P w)
    (hentity : ∀ uid w, v = .entity uid → store.attribute? uid attr = some w → P w) :
    Yields P (getAttribute store attr v) := by
  cases v with
  | record fs =>
      rw [getAttribute]
      cases hk : fs.lookup attr with
      | some w => exact yields_ok (hrecord fs w rfl hk)
      | none => exact yields_error _
  | entity uid =>
      rw [getAttribute]
      split
      · cases hk : store.attribute? uid attr with
        | some w => exact yields_ok (hentity uid w rfl hk)
        | none => exact yields_error _
      · exact yields_error _
  | _ => exact yields_error _

/-! ### Properties that are kept -/

/-- A property of values that holds of the variables and that no rule of a node can
lose. -/
structure Kept (P : Value → Prop) (env : Env) : Prop where
  var : ∀ x, P (env.var x)
  bool : ∀ b, P (.bool b)
  long : ∀ n, P (.long n)
  decimal : ∀ {text d}, Decimal.ofText? text = .ok d → P (.decimal d)
  ip : ∀ {text r}, Ip.Range.ofText? text = .ok r → P (.ip r)
  setOf : ∀ {vs}, (∀ v ∈ vs, P v) → P (Value.setOf vs)
  recordOf : ∀ {ps : List (String × Value)}, (∀ p ∈ ps, P p.2) → P (Value.recordOf ps)
  getAttribute : ∀ attr {v}, P v → Yields P (AccessPolicy.getAttribute env.store attr v)

namespace Kept

variable {P : Value → Prop} {env : Env}

/-- A test of membership makes booleans only. -/
lemma target (h : Kept P env) (uid : EntityUid) (v : Value) :
    Yields P (isInTarget env.store uid v) := by
  cases v with
  | entity other => exact yields_ok (h.bool _)
  | set xs => exact yields_bind fun others => yields_ok (h.bool _)
  | _ => exact yields_error _

/-- An operator makes booleans and longs only. -/
lemma binary (h : Kept P env) (op : BinaryOp) (a b : Value) :
    Yields P (op.apply env.store a b) := by
  cases op with
  | eq | notEq => exact yields_ok (h.bool _)
  | compare c => exact yields_bind fun m => yields_bind fun n => yields_ok (h.bool _)
  | arith op =>
      refine yields_bind fun m => yields_bind fun n => ?_
      cases op.result? m n with
      | some r => exact yields_ok (h.long r)
      | none => exact yields_error _
  | isIn => exact yields_bind fun uid => h.target uid b
  | contains => exact yields_bind fun xs => yields_ok (h.bool _)
  | containsAll | containsAny =>
      exact yields_bind fun xs => yields_bind fun ys => yields_ok (h.bool _)

/-- A negation makes longs only. -/
lemma negate (h : Kept P env) (v : Value) : Yields P (negate v) := by
  refine yields_bind fun n => ?_
  cases n.neg? with
  | some m => exact yields_ok (h.long m)
  | none => exact yields_error _

/-- The presence of an attribute is a Boolean. -/
lemma hasAttribute (h : Kept P env) (attr : String) (v : Value) :
    Yields P (AccessPolicy.hasAttribute env.store attr v) := by
  cases v with
  | record fs => exact yields_ok (h.bool _)
  | entity uid => exact yields_ok (h.bool _)
  | _ => exact yields_error _

/-- A match with a pattern is a Boolean. -/
lemma likePattern (h : Kept P env) (source : String) (v : Value) :
    Yields P (likePattern source v) := by
  refine yields_bind fun text => ?_
  cases Pattern.ofText? source with
  | ok p => exact yields_ok (h.bool _)
  | error e => exact yields_error _

/-- A function makes booleans, and decimals and ranges that it has read. -/
lemma call (h : Kept P env) (f : ExtensionFn) (vs : List Value) : Yields P (f.apply vs) := by
  cases f with
  | decimal =>
      refine yields_bind fun a => yields_bind fun text => ?_
      cases ht : Decimal.ofText? text with
      | ok d => exact yields_ok (h.decimal ht)
      | error e => exact yields_error _
  | ip =>
      refine yields_bind fun a => yields_bind fun text => ?_
      cases ht : Ip.Range.ofText? text with
      | ok r => exact yields_ok (h.ip ht)
      | error e => exact yields_error _
  | isIpv4 | isIpv6 | isLoopback | isMulticast =>
      exact yields_bind fun a => yields_bind fun r => yields_ok (h.bool _)
  | compare c =>
      exact yields_bind fun p => yields_bind fun x => yields_bind fun y => yields_ok (h.bool _)
  | isInRange =>
      exact yields_bind fun p => yields_bind fun r => yields_bind fun s => yields_ok (h.bool _)

/-- The values of a list of expressions. -/
lemma evalAll {es : List Expr} (hes : ∀ e ∈ es, Yields P (e.eval env)) :
    Yields (fun vs => ∀ v ∈ vs, P v) (Expr.evalAll env es) := by
  induction es with
  | nil => exact yields_ok (by simp)
  | cons e es ih =>
      have he := hes e (.head _)
      have htail := ih fun d hd => hes d (.tail _ hd)
      rw [Expr.evalAll]
      refine he.bind fun v hv => htail.bind fun vs hvs => yields_ok ?_
      exact List.forall_mem_cons.2 ⟨hv, hvs⟩

/-- The values of named expressions. -/
lemma evalFields {fs : List (String × Expr)} (hfs : ∀ f ∈ fs, Yields P (f.2.eval env)) :
    Yields (fun ps => ∀ p ∈ ps, P p.2) (Expr.evalFields env fs) := by
  induction fs with
  | nil => exact yields_ok (by simp)
  | cons f fs ih =>
      have hf := hfs f (.head _)
      have htail := ih fun g hg => hfs g (.tail _ hg)
      rw [Expr.evalFields]
      refine hf.bind fun v hv => htail.bind fun ps hps => yields_ok ?_
      exact List.forall_mem_cons.2 ⟨hv, hps⟩

/-- **What the literals of an expression have, and no rule loses, all its values
have.** -/
theorem eval (h : Kept P env) (e : Expr) (hlit : ∀ v, e.HasLit v → P v) :
    Yields P (e.eval env) := by
  induction e using Expr.ind with
  | h e ih =>
  have hc : ∀ c ∈ e.children, Yields P (c.eval env) := fun c hc =>
    ih c hc fun v hv => hlit v (.inside hc hv)
  cases e with
  | lit v loc => exact yields_ok (hlit v (.here loc))
  | var x loc => exact yields_ok (h.var x)
  | and l r loc =>
      refine Yields.mapError (yields_bind fun a => ?_) _
      cases a with
      | true => exact yields_bind fun b => yields_ok (h.bool b)
      | false => exact yields_ok (h.bool false)
  | or l r loc =>
      refine Yields.mapError (yields_bind fun a => ?_) _
      cases a with
      | true => exact yields_ok (h.bool true)
      | false => exact yields_bind fun b => yields_ok (h.bool b)
  | not e loc => exact .mapError (yields_bind fun a => yields_ok (h.bool _)) _
  | neg e loc => exact .mapError (yields_bind fun a => (h.negate a).mapError _) _
  | binary op l r loc =>
      exact .mapError (yields_bind fun a => yields_bind fun b => (h.binary op a b).mapError _) _
  | ite c t e loc =>
      refine Yields.mapError (yields_bind fun a => ?_) _
      cases a with
      | true => exact hc t (by simp [Expr.children])
      | false => exact hc e (by simp [Expr.children])
  | getAttr e attr loc =>
      have he := hc e (by simp [Expr.children])
      exact .mapError (he.bind fun v hv => (h.getAttribute attr hv).mapError _) _
  | hasAttr e attr loc =>
      exact .mapError (yields_bind fun v => (h.hasAttribute attr v).mapError _) _
  | like e pattern loc =>
      exact .mapError (yields_bind fun v => (h.likePattern pattern v).mapError _) _
  | isType e type loc =>
      exact .mapError (yields_bind fun v => yields_bind fun uid => yields_ok (h.bool _)) _
  | isTypeIn e type other loc =>
      refine Yields.mapError (yields_bind fun v => yields_bind fun uid => ?_) _
      by_cases ht : uid.type = type
      · rw [if_pos ht]
        exact yields_bind fun b => (h.target uid b).mapError _
      · rw [if_neg ht]
        exact yields_ok (h.bool false)
  | set es loc =>
      have hes := evalAll hc
      exact .mapError (hes.bind fun vs hvs => yields_ok (h.setOf hvs)) _
  | record fs loc =>
      have hfs := evalFields fun f hf => hc f.2 (List.mem_map_of_mem hf)
      exact .mapError (hfs.bind fun ps hps => yields_ok (h.recordOf hps)) _
  | call name args loc =>
      rw [Expr.eval]
      refine Yields.mapError ?_ _
      cases ExtensionFn.ofName? name with
      | none => exact yields_error _
      | some f => exact yields_bind fun vs => (h.call f vs).mapError _

end Kept

end AccessPolicy
