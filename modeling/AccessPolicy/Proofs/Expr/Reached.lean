/-
The sub-expressions that an evaluation reaches.

* `Reaches`: the operands that a node evaluates, once it is evaluated itself;
* `Reached`: the sub-expression at an address is evaluated. An address lists the
  places of operands, from the root down;
* `Patch`, `patch`: other expressions for some addresses, and the expression in
  which they have been put there;
* `eval_patch_of_unreached`: what is put at addresses that are not reached never
  influences a result.
-/
import AccessPolicy.Proofs.Expr.Invariant
import AccessPolicy.Proofs.Expr.Truth

namespace AccessPolicy

/-- Two steps agree if they agree on the value before, if there is one. -/
lemma bind_congr_of_ok {ε α β : Type} {r : Except ε α} {f g : α → Except ε β}
    (h : ∀ a, r = .ok a → f a = g a) : (r >>= f) = (r >>= g) :=
  Yields.bind_congr (P := fun a => r = .ok a) (fun _ ha => ha) h

namespace Expr

/-! ### Reached operands -/

/-- The expression evaluates to a value. -/
def Succeeds (env : Env) (e : Expr) : Prop :=
  ∃ v, e.eval env = .ok v

/-- An evaluated node evaluates its operand at a place, too. -/
def Reaches (env : Env) (e : Expr) (i : Nat) : Prop :=
  match e, i with
  | .and l _ _, 1 => l.eval env = .ok (.bool true)
  | .or l _ _, 1 => l.eval env = .ok (.bool false)
  | .ite c _ _ _, 1 => c.eval env = .ok (.bool true)
  | .ite c _ _ _, 2 => c.eval env = .ok (.bool false)
  | .isTypeIn a type _ _, 1 => ∃ uid, a.eval env = .ok (.entity uid) ∧ uid.type = type
  | .binary .., i | .set .., i | .record .., i => ∀ c ∈ e.children.take i, c.Succeeds env
  | .call name _ _, i =>
      (ExtensionFn.ofName? name).isSome ∧ ∀ c ∈ e.children.take i, c.Succeeds env
  | _, _ => True

/-- The sub-expression at an address of an evaluated expression is evaluated, too. -/
inductive Reached (env : Env) : Expr → List Nat → Expr → Prop
  | here (e : Expr) : Reached env e [] e
  | down {e c r : Expr} {i : Nat} {p : List Nat} (hc : e.children[i]? = some c)
      (hi : e.Reaches env i) (h : Reached env c p r) : Reached env e (i :: p) r

/-! ### Patches -/

/-- Other expressions for some addresses. -/
abbrev Patch := List Nat → Option Expr

/-- The part of a patch that is about the operand at a place. -/
def Patch.under (f : Patch) (i : Nat) : Patch := fun p => f (i :: p)

/-- The part of a patch that is about the operands after the first. -/
def Patch.next (f : Patch) : Patch
  | [] => none
  | i :: p => f ((i + 1) :: p)

mutual

/-- The expression with those of a patch put at their addresses. -/
def patch (f : Patch) : Expr → Expr
  | .lit v loc => (f []).getD (.lit v loc)
  | .var x loc => (f []).getD (.var x loc)
  | .and l r loc => (f []).getD (.and (patch (f.under 0) l) (patch (f.under 1) r) loc)
  | .or l r loc => (f []).getD (.or (patch (f.under 0) l) (patch (f.under 1) r) loc)
  | .not e loc => (f []).getD (.not (patch (f.under 0) e) loc)
  | .neg e loc => (f []).getD (.neg (patch (f.under 0) e) loc)
  | .binary op l r loc =>
      (f []).getD (.binary op (patch (f.under 0) l) (patch (f.under 1) r) loc)
  | .ite c t e loc =>
      (f []).getD
        (.ite (patch (f.under 0) c) (patch (f.under 1) t) (patch (f.under 2) e) loc)
  | .getAttr e attr loc => (f []).getD (.getAttr (patch (f.under 0) e) attr loc)
  | .hasAttr e attr loc => (f []).getD (.hasAttr (patch (f.under 0) e) attr loc)
  | .like e pattern loc => (f []).getD (.like (patch (f.under 0) e) pattern loc)
  | .isType e type loc => (f []).getD (.isType (patch (f.under 0) e) type loc)
  | .isTypeIn e type other loc =>
      (f []).getD (.isTypeIn (patch (f.under 0) e) type (patch (f.under 1) other) loc)
  | .set es loc => (f []).getD (.set (patchAll f es) loc)
  | .record fs loc => (f []).getD (.record (patchFields f fs) loc)
  | .call name args loc => (f []).getD (.call name (patchAll f args) loc)

/-- The operands with those of a patch put at their addresses. -/
def patchAll (f : Patch) : List Expr → List Expr
  | [] => []
  | e :: es => patch (f.under 0) e :: patchAll f.next es

/-- The named operands with those of a patch put at their addresses. -/
def patchFields (f : Patch) : List (String × Expr) → List (String × Expr)
  | [] => []
  | (k, e) :: fs => (k, patch (f.under 0) e) :: patchFields f.next fs

end

variable {env : Env}

/-- A patch that leaves the root leaves its position. -/
lemma loc_patch {f : Patch} (h : f [] = none) (e : Expr) : (e.patch f).loc = e.loc := by
  cases e <;> (rw [patch, h]; rfl)

/-! ### Results -/

/-- Named expressions evaluate as the list of expressions does. -/
lemma evalFields_eq_map (fs : List (String × Expr)) :
    evalFields env fs = (evalAll env (fs.map (·.2))).map ((fs.map (·.1)).zip ·) := by
  induction fs with
  | nil => rfl
  | cons f fs ih =>
      rw [evalFields, ih, List.map_cons, List.map_cons, evalAll]
      cases f.2.eval env with
      | error x => rfl
      | ok v => cases evalAll env (fs.map (·.2)) <;> rfl

/-- A patch puts the same among the operands, whether they are named or not. -/
lemma map_snd_patchFields (f : Patch) (fs : List (String × Expr)) :
    (patchFields f fs).map (·.2) = patchAll f (fs.map (·.2)) := by
  induction fs generalizing f with
  | nil => rfl
  | cons p fs ih => rw [patchFields, List.map_cons, ih, List.map_cons, patchAll]

/-- A patch keeps the names of operands. -/
lemma map_fst_patchFields (f : Patch) (fs : List (String × Expr)) :
    (patchFields f fs).map (·.1) = fs.map (·.1) := by
  induction fs generalizing f with
  | nil => rfl
  | cons p fs ih => rw [patchFields, List.map_cons, ih, List.map_cons]

/-- Operands that are patched only after one that fails have the same list of values. -/
lemma evalAll_patchAll {f : Patch} {es : List Expr}
    (h : ∀ i c, es[i]? = some c → (∀ d ∈ es.take i, d.Succeeds env) →
      (c.patch (f.under i)).eval env = c.eval env) :
    evalAll env (patchAll f es) = evalAll env es := by
  induction es generalizing f with
  | nil => rfl
  | cons e es ih =>
      have hhead : (e.patch (f.under 0)).eval env = e.eval env := h 0 e rfl (by simp)
      rw [patchAll, evalAll, evalAll, hhead]
      refine bind_congr_of_ok fun v hv => ?_
      have htail : evalAll env (patchAll f.next es) = evalAll env es := by
        refine ih fun i c hc hbefore => h (i + 1) c hc ?_
        rw [List.take_succ_cons, List.forall_mem_cons]
        exact ⟨⟨v, hv⟩, hbefore⟩
      rw [htail]

/-- **What is not reached never influences a result**: if a patch leaves every address
that an evaluation reaches, then the patched expression gives the same value, or the same
failure at the same position. -/
theorem eval_patch_of_unreached {e : Expr} {f : Patch}
    (hf : ∀ p r, e.Reached env p r → f p = none) : (e.patch f).eval env = e.eval env := by
  induction e using Expr.ind generalizing f with
  | h e ih =>
  have hroot : f [] = none := hf [] e (.here e)
  have hop : ∀ i c, e.children[i]? = some c → e.Reaches env i →
      (c.patch (f.under i)).eval env = c.eval env := fun i c hc hi =>
    ih c (List.mem_of_getElem? hc) fun p r hr => hf (i :: p) r (.down hc hi hr)
  have hbool : ∀ i c, e.children[i]? = some c → e.Reaches env i →
      (c.patch (f.under i)).evalBool env = c.evalBool env := by
    intro i c hc hi
    have hloc := loc_patch (f := f.under i) (hf [i] c (.down hc hi (.here c))) c
    rw [evalBool, evalBool, hop i c hc hi, hloc]
  cases e with
  | lit | var => rw [patch, hroot, Option.getD_none]
  | and l r loc =>
      rw [patch, hroot, Option.getD_none, eval_and, eval_and, hbool 0 l rfl trivial]
      refine congrArg (located loc) (bind_congr_of_ok fun a ha => ?_)
      cases a with
      | false => rfl
      | true => rw [hbool 1 r rfl (evalBool_eq_ok_iff.1 ha)]
  | or l r loc =>
      rw [patch, hroot, Option.getD_none, eval_or, eval_or, hbool 0 l rfl trivial]
      refine congrArg (located loc) (bind_congr_of_ok fun a ha => ?_)
      cases a with
      | false => rw [hbool 1 r rfl (evalBool_eq_ok_iff.1 ha)]
      | true => rfl
  | not e loc => rw [patch, hroot, Option.getD_none, eval_not, eval_not, hbool 0 e rfl trivial]
  | ite c t e loc =>
      rw [patch, hroot, Option.getD_none, eval_ite, eval_ite, hbool 0 c rfl trivial]
      refine congrArg (located loc) (bind_congr_of_ok fun a ha => ?_)
      cases a with
      | false => exact hop 2 e rfl (evalBool_eq_ok_iff.1 ha)
      | true => exact hop 1 t rfl (evalBool_eq_ok_iff.1 ha)
  | neg e loc | getAttr e attr loc | hasAttr e attr loc | like e pattern loc
  | isType e type loc =>
      rw [patch, hroot, Option.getD_none, eval, eval, hop 0 e rfl trivial]
  | binary op l r loc =>
      rw [patch, hroot, Option.getD_none, eval, eval, hop 0 l rfl (by simp [Reaches])]
      refine congrArg (located loc) (bind_congr_of_ok fun a ha => ?_)
      rw [hop 1 r rfl (by simp [Reaches, children, Succeeds, ha])]
  | isTypeIn e type other loc =>
      rw [patch, hroot, Option.getD_none, eval, eval, hop 0 e rfl trivial]
      refine congrArg (located loc) (bind_congr_of_ok fun v hv => ?_)
      refine bind_congr_of_ok fun uid huid => ?_
      by_cases htype : uid.type = type
      · have hv' : v = .entity uid := asEntity_eq_ok_iff.1 (raise_eq_ok_iff.1 huid)
        rw [if_pos htype, if_pos htype, hop 1 other rfl ⟨uid, hv' ▸ hv, htype⟩]
      · rw [if_neg htype, if_neg htype]
  | set es loc =>
      have hes : evalAll env (patchAll f es) = evalAll env es := evalAll_patchAll hop
      rw [patch, hroot, Option.getD_none, eval, eval, hes]
  | record fs loc =>
      have hes : evalAll env (patchAll f (fs.map (·.2))) = evalAll env (fs.map (·.2)) :=
        evalAll_patchAll hop
      have hfs : evalFields env (patchFields f fs) = evalFields env fs := by
        rw [evalFields_eq_map, map_snd_patchFields, map_fst_patchFields, hes, evalFields_eq_map]
      rw [patch, hroot, Option.getD_none, eval, eval, hfs]
  | call name args loc =>
      rw [patch, hroot, Option.getD_none, eval, eval]
      cases hname : ExtensionFn.ofName? name with
      | none => rfl
      | some g =>
          have hes : evalAll env (patchAll f args) = evalAll env args :=
            evalAll_patchAll fun i c hc hbefore =>
              hop i c hc ⟨by rw [hname]; rfl, hbefore⟩
          rw [hes]

/-! ### A patch -/

/-- An environment without a context and without entities. -/
def bareEnv : Env :=
  ⟨⟨⟨⟨"User"⟩, "ann"⟩, ⟨⟨"Action"⟩, "open"⟩, ⟨⟨"Doc"⟩, "plan"⟩, []⟩, Entities.toStore ⟨[]⟩⟩

/-- A set whose first element fails in the branch that its condition selects, by the other
branch and the second element. -/
def failingSet (unselected second : Expr) : Expr :=
  .set [.ite (.lit (.bool false) none) unselected
      (.binary (.arith .add) (.lit (.long 1) none) (.lit (.string "a") none) (some ⟨2, 9⟩))
      none,
    second] none

/-- A call of an unknown function. -/
def strayCall : Expr := .call "nope" [] none

/-- Such calls for the branch that is not selected and for the second element. -/
def strayCalls : Patch := fun p =>
  if p = [0, 1] ∨ p = [1] then some strayCall else none

/-- A set of this form without calls. -/
def plainSet : Expr := failingSet (.lit (.long 1) none) (.var .principal none)

/-- The calls are put in and not reached: the branch is not selected, and the first element
fails. -/
theorem eval_patch_of_unreached_calls :
    (∀ p r, plainSet.Reached bareEnv p r → strayCalls p = none) ∧
      plainSet.patch strayCalls = failingSet strayCall strayCall ∧
      (plainSet.patch strayCalls).eval bareEnv = plainSet.eval bareEnv ∧
      plainSet.eval bareEnv = .error ⟨.typeMismatch .long .string, some ⟨2, 9⟩⟩ := by
  have hf : ∀ p r, plainSet.Reached bareEnv p r → strayCalls p = none := by
    intro p r h
    refine if_neg ?_
    rintro (rfl | rfl)
    · cases h with
      | down hc hi h =>
          cases h with
          | down hc' hi' h' =>
              obtain rfl := Option.some.inj hc
              cases hi'
    · cases h with
      | down hc hi h =>
          obtain ⟨v, hv⟩ := hi _ (.head _)
          cases hv
  exact ⟨hf, rfl, eval_patch_of_unreached hf, rfl⟩

end Expr

end AccessPolicy
