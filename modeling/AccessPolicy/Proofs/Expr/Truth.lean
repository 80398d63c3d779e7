/-
Evaluation where a Boolean is needed, and the positions of its failures.

* `located_eval`: the failure of an expression carries the position of the
  expression if it carries none from further inside, so that blaming it on the
  expression once more changes nothing;
* `bind_eq_ok_iff`, `raise_eq_ok_iff`: when a step and a rule give something;
* `evalBool_eq_ok_iff`, `evalBool_eq_error_iff`: when `evalBool` gives a Boolean
  and when it fails, said in terms of `eval` alone;
* `eval_and`, `eval_or`, `eval_not`, `eval_ite`: the nodes that need a Boolean, by
  what `evalBool` gives for their operands;
* `evalBool_and`, `evalBool_not`: the connectives without a position, as
  functions of what their operands give.
-/
import AccessPolicy.Expr.Eval
import Mathlib.Tactic.Lemma

namespace AccessPolicy

/-! ### Positions -/

@[simp] lemma located_ok {α : Type} (loc : Option Loc) (a : α) :
    located loc (.ok a) = .ok a := rfl

@[simp] lemma located_error {α : Type} (loc : Option Loc) (f : Failure) :
    located loc (.error f : Outcome α) = .error (f.blame loc) := rfl

/-- A position does not change what is given. -/
@[simp] lemma located_eq_ok_iff {α : Type} {loc : Option Loc} {r : Outcome α} {a : α} :
    located loc r = .ok a ↔ r = .ok a := by
  cases r <;> simp

/-- Without a position nothing is blamed. -/
@[simp] lemma blame_none (f : Failure) : f.blame none = f := by
  obtain ⟨fault, loc⟩ := f
  simp [Failure.blame]

/-- Without a position a result stays as it is. -/
@[simp] lemma located_none {α : Type} (r : Outcome α) : located none r = r := by
  cases r with
  | ok a => rfl
  | error f => rw [located_error, blame_none]

/-- A failure is blamed on one position only. -/
lemma blame_blame (f : Failure) (loc : Option Loc) : (f.blame loc).blame loc = f.blame loc := by
  obtain ⟨fault, inner⟩ := f
  cases inner <;> cases loc <;> rfl

/-- Blaming twice is blaming once. -/
lemma located_located {α : Type} (loc : Option Loc) (r : Outcome α) :
    located loc (located loc r) = located loc r := by
  cases r with
  | ok a => rfl
  | error f => rw [located_error, located_error, blame_blame]

/-- **The failure of an expression is blamed on the expression already.** -/
lemma located_eval (env : Env) (e : Expr) : located e.loc (e.eval env) = e.eval env := by
  cases e <;> first
    | rfl
    | rw [Expr.eval, Expr.loc, located_located]

/-! ### Faults -/

/-- A fault is only missing where a value is given. -/
@[simp] lemma raise_eq_ok_iff {α : Type} {r : Except Fault α} {a : α} :
    raise r = .ok a ↔ r = .ok a := by
  cases r with
  | ok b =>
      show (.ok b : Outcome α) = .ok a ↔ (.ok b : Except Fault α) = .ok a
      rw [Except.ok.injEq, Except.ok.injEq]
  | error f => exact ⟨nofun, nofun⟩

/-- A step gives something if the result before and what follows do. -/
lemma bind_eq_ok_iff {ε α β : Type} {r : Except ε α} {f : α → Except ε β} {b : β} :
    r >>= f = .ok b ↔ ∃ a, r = .ok a ∧ f a = .ok b := by
  cases r <;> simp [bind, Except.bind]

/-- A fault is raised where it arises first. -/
lemma raise_bind {α β : Type} (r : Except Fault α) (f : α → Except Fault β) :
    raise (r >>= f) = raise r >>= fun a => raise (f a) := by
  cases r <;> rfl

/-- A value is read as an identity only if it is one. -/
lemma asEntity_eq_ok_iff {v : Value} {uid : EntityUid} :
    v.asEntity = .ok uid ↔ v = .entity uid := by
  cases v <;> simp [Value.asEntity]

/-! ### Booleans -/

/-- A value of another kind is refused, and the refusal names the kind. -/
lemma asBool_of_kind_ne {v : Value} (h : v.kind ≠ .bool) :
    v.asBool = .error (.typeMismatch .bool v.kind) := by
  cases v with
  | bool b => exact absurd rfl h
  | _ => rfl

/-- Where a Boolean is needed, a Boolean is given. -/
@[simp] lemma truth_ok_bool (loc : Option Loc) (b : Bool) :
    truth loc (.ok (.bool b)) = .ok b := rfl

@[simp] lemma truth_error (loc : Option Loc) (f : Failure) :
    truth loc (.error f) = .error (f.blame loc) := rfl

/-- Where a Boolean is needed, another value fails at the position of the operand. -/
lemma truth_ok_of_kind_ne (loc : Option Loc) {v : Value} (h : v.kind ≠ .bool) :
    truth loc (.ok v) = .error ⟨.typeMismatch .bool v.kind, loc⟩ := by
  show located loc (raise v.asBool) = _
  rw [asBool_of_kind_ne h]
  rfl

/-- A Boolean that is made where one is needed stays as it is. -/
lemma truth_map_bool (r : Outcome Bool) : truth none (r >>= fun b => pure (.bool b)) = r := by
  cases r with
  | ok b => rfl
  | error f =>
      show truth none (.error f) = _
      rw [truth_error, blame_none]

namespace Expr

/-- What an expression gives where a Boolean is needed, by what it evaluates to. -/
lemma evalBool_of_error {env : Env} {e : Expr} {f : Failure} (h : e.eval env = .error f) :
    e.evalBool env = .error f := by
  have hf := located_eval env e
  rw [h, located_error] at hf
  rw [evalBool, h, truth_error, Except.error.inj hf]

/-- **A Boolean is given exactly if the expression evaluates to it.** -/
theorem evalBool_eq_ok_iff {env : Env} {e : Expr} {b : Bool} :
    e.evalBool env = .ok b ↔ e.eval env = .ok (.bool b) := by
  cases he : e.eval env with
  | error f => rw [evalBool_of_error he]; simp
  | ok v =>
      rw [evalBool, he]
      by_cases hv : v.kind = .bool
      · cases v <;> cases hv
        simp
      · rw [truth_ok_of_kind_ne _ hv]
        simp only [reduceCtorEq, Except.ok.injEq, false_iff]
        rintro rfl
        exact hv rfl

/-- **An expression fails where a Boolean is needed exactly if its evaluation
fails, with the same failure, or gives a value of another kind.** -/
theorem evalBool_eq_error_iff {env : Env} {e : Expr} {f : Failure} :
    e.evalBool env = .error f ↔ e.eval env = .error f ∨
      ∃ v, e.eval env = .ok v ∧ v.kind ≠ .bool ∧ f = ⟨.typeMismatch .bool v.kind, e.loc⟩ := by
  cases he : e.eval env with
  | error g => rw [evalBool_of_error he]; simp
  | ok v =>
      rw [evalBool, he]
      by_cases hv : v.kind = .bool
      · cases v <;> cases hv
        simp [Value.kind]
      · rw [truth_ok_of_kind_ne _ hv]
        simp [hv, eq_comm (a := f)]

/-! ### Nodes that need a Boolean -/

lemma eval_and (env : Env) (l r : Expr) (loc : Option Loc) :
    (and l r loc).eval env = located loc (l.evalBool env >>= fun a =>
      if a then r.evalBool env >>= fun b => pure (.bool b) else pure (.bool false)) := rfl

lemma eval_or (env : Env) (l r : Expr) (loc : Option Loc) :
    (or l r loc).eval env = located loc (l.evalBool env >>= fun a =>
      if a then pure (.bool true) else r.evalBool env >>= fun b => pure (.bool b)) := rfl

lemma eval_not (env : Env) (e : Expr) (loc : Option Loc) :
    (not e loc).eval env = located loc (e.evalBool env >>= fun a => pure (.bool (!a))) := rfl

lemma eval_ite (env : Env) (c t e : Expr) (loc : Option Loc) :
    (ite c t e loc).eval env =
      located loc (c.evalBool env >>= fun a => if a then t.eval env else e.eval env) := rfl

/-! ### Connectives without a position -/

/-- A conjunction gives what its right operand gives, if its left one gives true. -/
lemma evalBool_and (env : Env) (l r : Expr) :
    (and l r none).evalBool env =
      l.evalBool env >>= fun b => if b then r.evalBool env else .ok false := by
  rw [evalBool, eval, loc, located_none]
  show truth none (l.evalBool env >>= fun a => _) = _
  cases l.evalBool env with
  | error f =>
      show truth none (.error f) = .error f
      rw [truth_error, blame_none]
  | ok b =>
      cases b with
      | false => rfl
      | true => exact truth_map_bool (r.evalBool env)

/-- A negation gives the opposite of what its operand gives. -/
lemma evalBool_not (env : Env) (e : Expr) :
    (not e none).evalBool env = (e.evalBool env).map (!·) := by
  rw [evalBool, eval, loc, located_none, ← truth_map_bool ((e.evalBool env).map (!·))]
  show truth none (e.evalBool env >>= fun a => _) = _
  cases e.evalBool env <;> rfl

end Expr

end AccessPolicy
