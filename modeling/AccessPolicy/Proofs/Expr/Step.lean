/-
What becomes of one node, by what becomes of its operands.

* `needsBool`, `Delivers`, `Fails`: where a node needs a Boolean, an operand either
  gives one or fails; elsewhere every value will do;
* `Refuses`: the rule of a node refuses the values of its operands, with a fault;
* `Step`, `step_eval`: a node has the failure of an operand that it reaches, blamed on
  the node; or all operands that it reaches deliver, and its rule refuses their values
  at the position of the node; or they deliver, and the node has a value. Whatever is
  said about failures follows from these three cases;
* `delivers_of_reaches`: an operand delivers if a later one is reached.
-/
import AccessPolicy.Proofs.Expr.Reached

namespace AccessPolicy

namespace Expr

variable {env : Env}

/-! ### What is needed of operands -/

/-- A node needs its operand at a place to be a Boolean. -/
def needsBool : Expr → Nat → Bool
  | .and .., _ | .or .., _ | .not .., _ => true
  | .ite .., i => i == 0
  | _, _ => false

/-- The expression gives a value, and a Boolean where one is needed. -/
def Delivers (env : Env) (e : Expr) : Bool → Prop
  | true => ∃ b, e.evalBool env = .ok b
  | false => ∃ v, e.eval env = .ok v

/-- The expression fails, possibly because a Boolean is needed. -/
def Fails (env : Env) (e : Expr) (x : Failure) : Bool → Prop
  | true => e.evalBool env = .error x
  | false => e.eval env = .error x

/-- What delivers does not fail. -/
lemma Delivers.not_fails {e : Expr} {bool : Bool} (h : e.Delivers env bool) (x : Failure) :
    ¬ e.Fails env x bool := by
  intro hx
  cases bool with
  | true =>
      obtain ⟨b, hb⟩ := h
      rw [Fails, hb] at hx
      cases hx
  | false =>
      obtain ⟨v, hv⟩ := h
      rw [Fails, hv] at hx
      cases hx

/-- All operands that a node reaches deliver what the node needs. -/
def Settled (env : Env) (e : Expr) : Prop :=
  ∀ i c, e.children[i]? = some c → e.Reaches env i → c.Delivers env (e.needsBool i)

lemma settled_of_nil {e : Expr} (h : e.children = []) : e.Settled env := by
  intro i c hc
  rw [h] at hc
  cases hc

lemma settled_of_single {e a : Expr} (h : e.children = [a])
    (ha : a.Delivers env (e.needsBool 0)) : e.Settled env := by
  intro i c hc _
  rw [h] at hc
  match i, hc with
  | 0, rfl => exact ha

lemma settled_of_pair {e a b : Expr} (h : e.children = [a, b])
    (ha : a.Delivers env (e.needsBool 0))
    (hb : e.Reaches env 1 → b.Delivers env (e.needsBool 1)) : e.Settled env := by
  intro i c hc hi
  rw [h] at hc
  match i, hc with
  | 0, rfl => exact ha
  | 1, rfl => exact hb hi

lemma settled_ite {c t e : Expr} {b : Bool} {v : Value} {loc : Option Loc}
    (hc : c.evalBool env = .ok b) (hv : (if b then t else e).eval env = .ok v) :
    (ite c t e loc).Settled env := by
  intro i d hd hi
  match i, hd with
  | 0, rfl => exact ⟨b, hc⟩
  | 1, rfl =>
      have htrue : c.evalBool env = .ok true := evalBool_eq_ok_iff.2 hi
      obtain rfl : b = true := by simpa [hc] using htrue
      exact ⟨v, hv⟩
  | 2, rfl =>
      have hfalse : c.evalBool env = .ok false := evalBool_eq_ok_iff.2 hi
      obtain rfl : b = false := by simpa [hc] using hfalse
      exact ⟨v, hv⟩

lemma settled_of_succeeds {e : Expr} (hneeds : ∀ i, e.needsBool i = false)
    (hall : ∀ c ∈ e.children, c.Succeeds env) : e.Settled env := by
  intro i c hc _
  rw [hneeds]
  exact hall c (List.mem_of_getElem? hc)

/-! ### Rules -/

/-- The rule of a node refuses the values of its operands, with a fault. -/
inductive Refuses (env : Env) : Expr → Fault → Prop
  | neg {e a loc f} (ha : e.eval env = .ok a) (h : negate a = .error f) :
      Refuses env (.neg e loc) f
  | binary {op l r a b loc f} (ha : l.eval env = .ok a) (hb : r.eval env = .ok b)
      (h : op.apply env.store a b = .error f) : Refuses env (.binary op l r loc) f
  | getAttr {e a attr loc f} (ha : e.eval env = .ok a)
      (h : getAttribute env.store attr a = .error f) : Refuses env (.getAttr e attr loc) f
  | hasAttr {e a attr loc f} (ha : e.eval env = .ok a)
      (h : hasAttribute env.store attr a = .error f) : Refuses env (.hasAttr e attr loc) f
  | like {e a pattern loc f} (ha : e.eval env = .ok a)
      (h : likePattern pattern a = .error f) : Refuses env (.like e pattern loc) f
  | isType {e a type loc f} (ha : e.eval env = .ok a) (h : a.asEntity = .error f) :
      Refuses env (.isType e type loc) f
  | isTypeIn {e a type other loc f} (ha : e.eval env = .ok a) (h : a.asEntity = .error f) :
      Refuses env (.isTypeIn e type other loc) f
  | target {e uid type other b loc f} (ha : e.eval env = .ok (.entity uid))
      (htype : uid.type = type) (hb : other.eval env = .ok b)
      (h : isInTarget env.store uid b = .error f) : Refuses env (.isTypeIn e type other loc) f
  | unknown {name args loc} (h : ExtensionFn.ofName? name = none) :
      Refuses env (.call name args loc) (.unknownExtension name)
  | call {name g args vs loc f} (hg : ExtensionFn.ofName? name = some g)
      (hvs : evalAll env args = .ok vs) (h : g.apply vs = .error f) :
      Refuses env (.call name args loc) f

/-! ### One node -/

/-- What becomes of a node: it has the failure of an operand, a failure of its own, or a
value. -/
inductive Step (env : Env) (e : Expr) : Outcome Value → Prop
  | operand {i : Nat} {c : Expr} {x : Failure} (hc : e.children[i]? = some c)
      (hi : e.Reaches env i) (hx : c.Fails env x (e.needsBool i)) :
      Step env e (.error (x.blame e.loc))
  | rule {f : Fault} (hsettled : e.Settled env) (hf : e.Refuses env f) :
      Step env e (.error ⟨f, e.loc⟩)
  | value (v : Value) (hsettled : e.Settled env) : Step env e (.ok v)

/-- The rule of a node, on operands that deliver, is one of the three cases. -/
lemma Step.of_rule {e : Expr} {r : Except Fault Value} (hsettled : e.Settled env)
    (hf : ∀ f, r = .error f → e.Refuses env f) : Step env e (located e.loc (raise r)) := by
  cases r with
  | ok v => exact .value v hsettled
  | error f => exact .rule hsettled (hf f rfl)

/-- A node that evaluates its only operand and applies a rule to the value. -/
lemma step_single {e a : Expr} {rule : Value → Except Fault Value} (h : e.children = [a])
    (hneeds : e.needsBool 0 = false) (hreaches : e.Reaches env 0)
    (heval : e.eval env = located e.loc (a.eval env >>= fun v => raise (rule v)))
    (hf : ∀ v f, a.eval env = .ok v → rule v = .error f → e.Refuses env f) :
    Step env e (e.eval env) := by
  rw [heval]
  cases ha : a.eval env with
  | error x => exact .operand (i := 0) (by rw [h]; rfl) hreaches (by rw [hneeds]; exact ha)
  | ok v =>
      have hsettled : e.Settled env := settled_of_single h (by rw [hneeds]; exact ⟨v, ha⟩)
      exact .of_rule hsettled fun f hv => hf v f ha hv

/-- Operands are evaluated up to the first that fails. -/
lemma evalAll_cases (env : Env) (es : List Expr) :
    (∃ i c x, es[i]? = some c ∧ (∀ d ∈ es.take i, d.Succeeds env) ∧ c.eval env = .error x ∧
      evalAll env es = .error x) ∨
    ∃ vs, evalAll env es = .ok vs ∧ ∀ c ∈ es, c.Succeeds env := by
  induction es with
  | nil => exact .inr ⟨[], rfl, by simp⟩
  | cons e es ih =>
      cases he : e.eval env with
      | error x => exact .inl ⟨0, e, x, rfl, by simp, he, by rw [evalAll, he]; rfl⟩
      | ok v =>
          rcases ih with ⟨i, c, x, hc, hbefore, hx, hes⟩ | ⟨vs, hes, hall⟩
          · refine .inl ⟨i + 1, c, x, hc, ?_, hx, by rw [evalAll, he, hes]; rfl⟩
            rw [List.take_succ_cons, List.forall_mem_cons]
            exact ⟨⟨v, he⟩, hbefore⟩
          · refine .inr ⟨v :: vs, by rw [evalAll, he, hes]; rfl, ?_⟩
            rw [List.forall_mem_cons]
            exact ⟨⟨v, he⟩, hall⟩

/-- A node that evaluates all its operands and applies a rule to the values. -/
lemma step_list {e : Expr} {rule : List Value → Except Fault Value}
    (hneeds : ∀ i, e.needsBool i = false)
    (hreaches : ∀ i, (∀ c ∈ e.children.take i, c.Succeeds env) → e.Reaches env i)
    (heval : e.eval env =
      located e.loc (evalAll env e.children >>= fun vs => raise (rule vs)))
    (hf : ∀ vs f, evalAll env e.children = .ok vs → rule vs = .error f → e.Refuses env f) :
    Step env e (e.eval env) := by
  rw [heval]
  rcases evalAll_cases env e.children with ⟨i, c, x, hc, hbefore, hx, hes⟩ | ⟨vs, hes, hall⟩
  · rw [hes]
    exact .operand hc (hreaches i hbefore) (by rw [hneeds]; exact hx)
  · rw [hes]
    exact .of_rule (settled_of_succeeds hneeds hall) fun f hv => hf vs f hes hv

/-- A connective evaluates its second operand unless the first one gives the Boolean at
which it stops. -/
lemma step_connective {e l r : Expr} {stop : Bool} (h : e.children = [l, r])
    (hneeds : ∀ i, e.needsBool i = true) (hfirst : e.Reaches env 0)
    (hsecond : e.Reaches env 1 ↔ l.eval env = .ok (.bool !stop))
    (heval : e.eval env = located e.loc (l.evalBool env >>= fun a =>
      if a = stop then pure (.bool stop) else r.evalBool env >>= fun b => pure (.bool b))) :
    Step env e (e.eval env) := by
  rw [heval]
  cases hl : l.evalBool env with
  | error x => exact .operand (i := 0) (by rw [h]; rfl) hfirst (by rw [hneeds]; exact hl)
  | ok a =>
      have hdelivers : l.Delivers env (e.needsBool 0) := by
        rw [hneeds]
        exact ⟨a, hl⟩
      show Step env e (located e.loc (if a = stop then _ else _))
      by_cases ha : a = stop
      · rw [if_pos ha]
        refine .value _ (settled_of_pair h hdelivers fun hr => ?_)
        have hgoes : l.evalBool env = .ok !stop := evalBool_eq_ok_iff.2 (hsecond.1 hr)
        obtain rfl : a = !stop := Except.ok.inj (hl.symm.trans hgoes)
        cases stop <;> cases ha
      · rw [if_neg ha]
        obtain rfl : a = !stop := Bool.eq_not.2 ha
        have hreaches : e.Reaches env 1 := hsecond.2 (evalBool_eq_ok_iff.1 hl)
        cases hr : r.evalBool env with
        | error x => exact .operand (i := 1) (by rw [h]; rfl) hreaches (by rw [hneeds]; exact hr)
        | ok b =>
            exact .value _ (settled_of_pair h hdelivers fun _ => by rw [hneeds]; exact ⟨b, hr⟩)

/-- A conditional evaluates the branch that its condition selects. -/
lemma step_ite (env : Env) (c t e : Expr) (loc : Option Loc) :
    Step env (ite c t e loc) ((ite c t e loc).eval env) := by
  rw [eval_ite]
  cases hc : c.evalBool env with
  | error x => exact .operand (i := 0) rfl trivial hc
  | ok b =>
      cases b with
      | false =>
          show Step env _ (located loc (e.eval env))
          cases he : e.eval env with
          | error x => exact .operand (i := 2) rfl (evalBool_eq_ok_iff.1 hc) he
          | ok v => exact .value v (settled_ite hc he)
      | true =>
          show Step env _ (located loc (t.eval env))
          cases ht : t.eval env with
          | error x => exact .operand (i := 1) rfl (evalBool_eq_ok_iff.1 hc) ht
          | ok v => exact .value v (settled_ite hc ht)

/-- A test of the type and the container evaluates the container if the type is right. -/
lemma step_isTypeIn (env : Env) (e : Expr) (type : EntityType) (other : Expr)
    (loc : Option Loc) :
    Step env (isTypeIn e type other loc) ((isTypeIn e type other loc).eval env) := by
  have heval : (isTypeIn e type other loc).eval env = located loc (e.eval env >>= fun v =>
      raise v.asEntity >>= fun uid => if uid.type = type
        then other.eval env >>= fun b => raise (isInTarget env.store uid b)
        else pure (.bool false)) := rfl
  rw [heval]
  cases he : e.eval env with
  | error x => exact .operand (i := 0) rfl trivial he
  | ok v =>
      show Step env _ (located loc (raise v.asEntity >>= _))
      cases huid : v.asEntity with
      | error f =>
          have hsettled : (isTypeIn e type other loc).Settled env := by
            refine settled_of_pair rfl ⟨v, he⟩ ?_
            rintro ⟨uid, hv, -⟩
            obtain rfl : v = .entity uid := Except.ok.inj (he.symm.trans hv)
            cases huid
          exact .rule hsettled (.isTypeIn he huid)
      | ok uid =>
          obtain rfl := asEntity_eq_ok_iff.1 huid
          show Step env _ (located loc (if uid.type = type then _ else _))
          by_cases htype : uid.type = type
          · rw [if_pos htype]
            cases ho : other.eval env with
            | error x => exact .operand (i := 1) rfl ⟨uid, he, htype⟩ ho
            | ok b =>
                exact .of_rule (settled_of_pair rfl ⟨_, he⟩ fun _ => ⟨b, ho⟩)
                  fun f h => .target he htype ho h
          · rw [if_neg htype]
            refine .value _ (settled_of_pair rfl ⟨_, he⟩ ?_)
            rintro ⟨uid', huid', htype'⟩
            obtain rfl : uid = uid' := by simpa [he] using huid'
            exact absurd htype' htype

/-- **The three cases of a node.** -/
theorem step_eval (env : Env) (e : Expr) : Step env e (e.eval env) := by
  cases e with
  | lit v loc => exact .value v (settled_of_nil rfl)
  | var x loc => exact .value (env.var x) (settled_of_nil rfl)
  | not e loc =>
      rw [eval_not]
      cases he : e.evalBool env with
      | error x => exact .operand (i := 0) rfl trivial he
      | ok a => exact .value _ (settled_of_single rfl ⟨a, he⟩)
  | and l r loc =>
      have heval : (and l r loc).eval env = located loc (l.evalBool env >>= fun a =>
          if a = false then pure (.bool false)
          else r.evalBool env >>= fun b => pure (.bool b)) :=
        congrArg (located loc) (bind_congr_of_ok fun a _ => by cases a <;> rfl)
      exact step_connective rfl (fun _ => rfl) trivial .rfl heval
  | or l r loc =>
      have heval : (or l r loc).eval env = located loc (l.evalBool env >>= fun a =>
          if a = true then pure (.bool true)
          else r.evalBool env >>= fun b => pure (.bool b)) := rfl
      exact step_connective rfl (fun _ => rfl) trivial .rfl heval
  | ite c t e loc => exact step_ite env c t e loc
  | neg e loc =>
      exact step_single rfl rfl trivial rfl fun v f hv h => .neg hv h
  | getAttr e attr loc =>
      exact step_single rfl rfl trivial rfl fun v f hv h => .getAttr hv h
  | hasAttr e attr loc =>
      exact step_single rfl rfl trivial rfl fun v f hv h => .hasAttr hv h
  | like e pattern loc =>
      exact step_single rfl rfl trivial rfl fun v f hv h => .like hv h
  | isType e type loc =>
      have heval : (isType e type loc).eval env = located loc (e.eval env >>= fun v =>
          raise (v.asEntity >>= fun uid => .ok (.bool (uid.type == type)))) := by
        simp only [raise_bind]
        rfl
      refine step_single rfl rfl trivial heval fun v f hv h => .isType hv ?_
      cases huid : v.asEntity with
      | ok uid => rw [huid] at h; cases h
      | error g =>
          rw [huid] at h
          obtain rfl : g = f := Except.error.inj h
          rfl
  | binary op l r loc =>
      have heval : (binary op l r loc).eval env = located loc (l.eval env >>= fun a =>
          r.eval env >>= fun b => raise (op.apply env.store a b)) := rfl
      rw [heval]
      cases hl : l.eval env with
      | error x => exact .operand (i := 0) rfl (by simp [Reaches]) hl
      | ok a =>
          have hreaches : (binary op l r loc).Reaches env 1 := by
            simp [Reaches, children, Succeeds, hl]
          cases hr : r.eval env with
          | error x => exact .operand (i := 1) rfl hreaches hr
          | ok b =>
              exact .of_rule (settled_of_pair rfl ⟨a, hl⟩ fun _ => ⟨b, hr⟩)
                fun f h => .binary hl hr h
  | isTypeIn e type other loc => exact step_isTypeIn env e type other loc
  | set es loc =>
      have heval : (set es loc).eval env =
          located loc (evalAll env es >>= fun vs => raise (.ok (Value.setOf vs))) := rfl
      exact step_list (fun _ => rfl) (fun _ h => h) heval fun vs f _ h => by cases h
  | record fs loc =>
      have heval : (record fs loc).eval env = located loc (evalAll env (fs.map (·.2)) >>=
          fun vs => raise (.ok (Value.recordOf ((fs.map (·.1)).zip vs)))) := by
        rw [eval, evalFields_eq_map]
        cases evalAll env (fs.map (·.2)) <;> rfl
      exact step_list (fun _ => rfl) (fun _ h => h) heval fun vs f _ h => by cases h
  | call name args loc =>
      cases hg : ExtensionFn.ofName? name with
      | none =>
          have hsettled : (call name args loc).Settled env := by
            rintro i c - ⟨hsome, -⟩
            rw [hg] at hsome
            cases hsome
          rw [eval, hg]
          exact .rule hsettled (.unknown hg)
      | some g =>
          have heval : (call name args loc).eval env =
              located loc (evalAll env args >>= fun vs => raise (g.apply vs)) := by
            rw [eval, hg]
          have hreaches : ∀ i, (∀ c ∈ args.take i, c.Succeeds env) →
              (call name args loc).Reaches env i := fun i h => ⟨by rw [hg]; rfl, h⟩
          exact step_list (fun _ => rfl) hreaches heval fun vs f hvs h => .call hg hvs h

/-! ### The order of operands -/

/-- An operand delivers if a later one is reached. -/
theorem delivers_of_reaches {e c d : Expr} {i j : Nat} (hij : i < j)
    (hc : e.children[i]? = some c) (hd : e.children[j]? = some d) (hi : e.Reaches env i)
    (hj : e.Reaches env j) : c.Delivers env (e.needsBool i) := by
  have hj' : j < e.children.length := (List.getElem?_eq_some_iff.1 hd).1
  have htake : c ∈ e.children.take j := by
    refine List.mem_of_getElem? (i := i) ?_
    rw [List.getElem?_take_of_lt hij, hc]
  cases e with
  | lit | var => cases hd
  | not e loc | neg e loc | getAttr e attr loc | hasAttr e attr loc | like e pattern loc
  | isType e type loc =>
      simp only [children, List.length_singleton] at hj'
      omega
  | binary op l r loc | set es loc | record fs loc => exact hj c htake
  | call name args loc => exact hj.2 c htake
  | and l r loc | or l r loc =>
      simp only [children, List.length_cons, List.length_nil] at hj'
      obtain ⟨rfl, rfl⟩ : i = 0 ∧ j = 1 := by omega
      obtain rfl := Option.some.inj hc
      exact ⟨_, evalBool_eq_ok_iff.2 hj⟩
  | isTypeIn e type other loc =>
      simp only [children, List.length_cons, List.length_nil] at hj'
      obtain ⟨rfl, rfl⟩ : i = 0 ∧ j = 1 := by omega
      obtain rfl := Option.some.inj hc
      obtain ⟨uid, huid, -⟩ := hj
      exact ⟨_, huid⟩
  | ite b t e loc =>
      simp only [children, List.length_cons, List.length_nil] at hj'
      obtain ⟨rfl, rfl⟩ | ⟨rfl, rfl⟩ | ⟨rfl, rfl⟩ :
          (i = 0 ∧ j = 1) ∨ (i = 0 ∧ j = 2) ∨ (i = 1 ∧ j = 2) := by omega
      · obtain rfl := Option.some.inj hc
        exact ⟨_, evalBool_eq_ok_iff.2 hj⟩
      · obtain rfl := Option.some.inj hc
        exact ⟨_, evalBool_eq_ok_iff.2 hj⟩
      · have htrue : b.eval env = .ok (.bool true) := hi
        have hfalse : b.eval env = .ok (.bool false) := hj
        rw [htrue] at hfalse
        cases hfalse

end Expr

end AccessPolicy
