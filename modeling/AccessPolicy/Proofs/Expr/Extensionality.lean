/-
Set expressions with the same elements, and what stands around them.

* `subexpr?`: the sub-expression at an address;
* `Alike`: two expressions with one result at one position, from which no operator can tell them
  apart: `alike_patch` says that an expression stays as it is, failures included, if a patch puts
  at each address something like what stands there;
* `SameElements`, `eval_set_eq`: set expressions whose elements all evaluate, to the same values
  in whatever order and however often, have one value;
* `collections_extensional`: sets and records are canonical, and they are what they hold.
-/
import AccessPolicy.Proofs.Expr.Reached
import AccessPolicy.Proofs.Value.Extensionality

namespace AccessPolicy.Expr

open Ascending (IsAscending KeysAscending IsLastPair)

variable {env : Env} {e e' : Expr} {es es' : List Expr}

/-! ### Replacing expressions -/

/-- The sub-expression at an address. -/
def subexpr? (e : Expr) : List Nat → Option Expr
  | [] => some e
  | i :: p => e.children[i]?.bind (·.subexpr? p)

/-- Two expressions with one result and one position. -/
structure Alike (env : Env) (e e' : Expr) : Prop where
  eval_eq : e.eval env = e'.eval env
  /-- The position is blamed where the value is of another kind than is needed. -/
  loc_eq : e.loc = e'.loc

/-- Such expressions are alike where a Boolean is needed, too. -/
lemma Alike.evalBool_eq (h : Alike env e e') : e.evalBool env = e'.evalBool env := by
  rw [evalBool, evalBool, h.eval_eq, h.loc_eq]

/-- What a patch puts at the root takes the place of the whole. -/
lemma patch_of_root {f : Patch} {r : Expr} (h : f [] = some r) (e : Expr) : e.patch f = r := by
  cases e <;> (rw [patch, h]; rfl)

/-- **What is put in the place of something like it never influences a result**, the failures of
all that stands around it included. -/
theorem alike_patch {f : Patch}
    (h : ∀ p r r', e.subexpr? p = some r → f p = some r' → Alike env r' r) :
    Alike env (e.patch f) e := by
  induction e using Expr.ind generalizing f with
  | h e ih =>
  cases hroot : f [] with
  | some r =>
      rw [patch_of_root hroot]
      exact h [] e r rfl hroot
  | none =>
      have hop : ∀ i c, e.children[i]? = some c → Alike env (c.patch (f.under i)) c := by
        intro i c hc
        refine ih c (List.mem_of_getElem? hc) fun p r r' hr hr' => h (i :: p) r r' ?_ hr'
        rw [subexpr?, hc, Option.bind_some, hr]
      refine ⟨?_, loc_patch hroot e⟩
      cases e with
      | lit | var => rw [patch, hroot, Option.getD_none]
      | and l r loc =>
          rw [patch, hroot, Option.getD_none, eval_and, eval_and, (hop 0 l rfl).evalBool_eq,
            (hop 1 r rfl).evalBool_eq]
      | or l r loc =>
          rw [patch, hroot, Option.getD_none, eval_or, eval_or, (hop 0 l rfl).evalBool_eq,
            (hop 1 r rfl).evalBool_eq]
      | not e loc =>
          rw [patch, hroot, Option.getD_none, eval_not, eval_not, (hop 0 e rfl).evalBool_eq]
      | ite c t e loc =>
          rw [patch, hroot, Option.getD_none, eval_ite, eval_ite, (hop 0 c rfl).evalBool_eq,
            (hop 1 t rfl).eval_eq, (hop 2 e rfl).eval_eq]
      | neg e loc | getAttr e attr loc | hasAttr e attr loc | like e pattern loc
      | isType e type loc =>
          rw [patch, hroot, Option.getD_none, eval, eval, (hop 0 e rfl).eval_eq]
      | binary op l r loc | isTypeIn l type r loc =>
          rw [patch, hroot, Option.getD_none, eval, eval, (hop 0 l rfl).eval_eq,
            (hop 1 r rfl).eval_eq]
      | set es loc | call name es loc =>
          have hes : evalAll env (patchAll f es) = evalAll env es :=
            evalAll_patchAll fun i c hc _ => (hop i c hc).eval_eq
          rw [patch, hroot, Option.getD_none, eval, eval, hes]
      | record fs loc =>
          have hes : evalAll env (patchAll f (fs.map (·.2))) = evalAll env (fs.map (·.2)) :=
            evalAll_patchAll fun i c hc _ => (hop i c hc).eval_eq
          have hfs : evalFields env (patchFields f fs) = evalFields env fs := by
            rw [evalFields_eq_map, map_snd_patchFields, map_fst_patchFields, hes,
              evalFields_eq_map]
          rw [patch, hroot, Option.getD_none, eval, eval, hfs]

/-! ### Set expressions -/

/-- The elements of two set expressions all evaluate, and each has the value of one of the other:
they may stand in another order, more often, and at other positions. -/
structure SameElements (env : Env) (es es' : List Expr) : Prop where
  succeeds : ∀ c ∈ es, c.Succeeds env
  left : ∀ c ∈ es, ∃ c' ∈ es', c'.eval env = c.eval env
  right : ∀ c' ∈ es', ∃ c ∈ es, c.eval env = c'.eval env

/-- Expressions that all evaluate give the list of their values. -/
lemma exists_values (h : ∀ c ∈ es, c.Succeeds env) :
    ∃ vs, evalAll env es = .ok vs ∧ ∀ v, v ∈ vs ↔ ∃ c ∈ es, c.eval env = .ok v := by
  induction es with
  | nil => exact ⟨[], rfl, by simp⟩
  | cons c es ih =>
      obtain ⟨⟨w, hw⟩, hes⟩ := List.forall_mem_cons.1 h
      obtain ⟨vs, hvs, hmem⟩ := ih hes
      refine ⟨w :: vs, by rw [evalAll, hw, hvs]; rfl, fun v => ?_⟩
      rw [List.mem_cons, hmem, List.exists_mem_cons_iff, hw, Except.ok.injEq, eq_comm]

/-- **Set expressions with the same elements have one value.** -/
theorem eval_set_eq (h : SameElements env es es') :
    ∃ v, ∀ loc, (set es loc).eval env = .ok v ∧ (set es' loc).eval env = .ok v := by
  have hsucceeds' : ∀ c' ∈ es', c'.Succeeds env := fun c' hc' => by
    obtain ⟨c, hc, heq⟩ := h.right c' hc'
    obtain ⟨v, hv⟩ := h.succeeds c hc
    exact ⟨v, heq.symm.trans hv⟩
  obtain ⟨vs, hvs, hmem⟩ := exists_values h.succeeds
  obtain ⟨vs', hvs', hmem'⟩ := exists_values hsucceeds'
  have hset : Value.setOf vs' = Value.setOf vs := by
    refine Value.setOf_eq_iff.2 fun v => ?_
    rw [hmem, hmem']
    constructor
    · rintro ⟨c', hc', hv⟩
      obtain ⟨c, hc, heq⟩ := h.right c' hc'
      exact ⟨c, hc, heq.trans hv⟩
    · rintro ⟨c, hc, hv⟩
      obtain ⟨c', hc', heq⟩ := h.left c hc
      exact ⟨c', hc', heq.trans hv⟩
  refine ⟨Value.setOf vs, fun loc => ⟨by rw [eval, hvs]; rfl, ?_⟩⟩
  rw [eval, hvs', ← hset]
  rfl

/-- Elements in another order, or some of them more often, are the same elements. -/
lemma sameElements_of_mem_iff (hsucceeds : ∀ c ∈ es, c.Succeeds env)
    (h : ∀ c, c ∈ es ↔ c ∈ es') : SameElements env es es' where
  succeeds := hsucceeds
  left c hc := ⟨c, (h c).1 hc, rfl⟩
  right c hc := ⟨c, (h c).2 hc, rfl⟩

/-- A patch that puts only set expressions in the place of set expressions with the same
elements. -/
def Rearranges (env : Env) (f : Patch) (e : Expr) : Prop :=
  ∀ p r r', e.subexpr? p = some r → f p = some r' →
    ∃ es es' loc, r = set es loc ∧ r' = set es' loc ∧ SameElements env es es'

/-- A rearranged expression has the result that it had. -/
lemma Rearranges.alike {f : Patch} (h : Rearranges env f e) : Alike env (e.patch f) e :=
  alike_patch fun p r r' hr hr' => by
    obtain ⟨es, es', loc, rfl, rfl, hsame⟩ := h p r r' hr hr'
    obtain ⟨v, hv⟩ := eval_set_eq hsame
    exact ⟨(hv loc).2.trans (hv loc).1.symm, rfl⟩

/-! ### The laws -/

/-- **Sets and records are canonical, and they are what they hold**: the set of a list holds its
values in ascending order and each once; the relations of two sets are those of their members;
set expressions with the same elements have one value, and nothing that stands around them can
tell them apart; a record holds the value of the last pair with a key, and two records are equal
if they answer every key alike. -/
theorem collections_extensional :
    (∀ xs, ∃ ys, Value.setOf xs = .set ys ∧ Value.Collects xs ys) ∧
    (∀ xs ys, IsAscending xs → IsAscending ys → Value.SetLaws xs ys) ∧
    (∀ env es es', SameElements env es es' →
      ∃ v, ∀ loc, (set es loc).eval env = .ok v ∧ (set es' loc).eval env = .ok v) ∧
    (∀ env f e, Rearranges env f e →
      (e.patch f).eval env = e.eval env ∧ (e.patch f).evalBool env = e.evalBool env) ∧
    (∀ ps, ∃ fs, Value.recordOf ps = .record fs ∧ KeysAscending fs ∧
      ∀ k v, fs.lookup k = some v ↔ IsLastPair ps k v) ∧
    ∀ fs gs : Record, KeysAscending fs → KeysAscending gs →
      BinaryOp.eq.Answers (.record fs) (.record gs) (∀ k, fs.lookup k = gs.lookup k) := by
  refine ⟨Value.exists_collects, fun xs ys => Value.setLaws, fun env es es' => eval_set_eq,
    fun env f e h => ⟨h.alike.eval_eq, h.alike.evalBool_eq⟩, Value.exists_lookup,
    fun fs gs hf hg => BinaryOp.answers_eq (Value.record_eq_iff hf hg)⟩

/-- Elements of three kinds, one of them a set. -/
def mixedElements : List Expr :=
  [.lit (.long 1) none, .set [.lit (.bool true) none] none, .lit (.string "a") (some ⟨1, 9⟩)]

/-- The elements again, one of them twice. -/
def mixedElementsAgain : List Expr :=
  [.lit (.string "a") (some ⟨1, 9⟩), .lit (.long 1) none, .set [.lit (.bool true) none] none,
    .lit (.long 1) none]

/-- The negation of a set expression, which no set has. -/
def negatedSet (es : List Expr) : Expr :=
  .neg (.set es none) (some ⟨1, 1⟩)

/-- The elements in another order make the same set, and the negation fails as before; the empty
set contains nothing of it; and two records differ by a key. -/
theorem collections_extensional_mixed :
    (∃ v, ∀ loc, (set mixedElements loc).eval bareEnv = .ok v ∧
      (set mixedElementsAgain loc).eval bareEnv = .ok v) ∧
    (negatedSet mixedElementsAgain).eval bareEnv = (negatedSet mixedElements).eval bareEnv ∧
    (negatedSet mixedElements).eval bareEnv = .error ⟨.typeMismatch .long .set, some ⟨1, 1⟩⟩ ∧
    Value.SetLaws [] [.long 1, .string "a", .set []] ∧
    BinaryOp.eq.Answers (.record [("a", .long 1)]) (.record [("a", .long 1), ("b", .long 1)])
      False := by
  obtain ⟨-, hsets, hvalue, hpatch, -, hrecords⟩ := collections_extensional
  have hsame : SameElements bareEnv mixedElements mixedElementsAgain := by
    refine sameElements_of_mem_iff ?_ fun c => ?_
    · simp only [mixedElements, List.forall_mem_cons]
      exact ⟨⟨_, rfl⟩, ⟨_, rfl⟩, ⟨_, rfl⟩, nofun⟩
    · simp only [mixedElements, mixedElementsAgain, List.mem_cons, List.not_mem_nil]
      tauto
  have hrearranges : Rearranges bareEnv
      (fun p => if p = [0] then some (.set mixedElementsAgain none) else none)
      (negatedSet mixedElements) := by
    intro p r r' hr hr'
    obtain ⟨rfl, hset⟩ := Option.ite_none_right_eq_some.1 hr'
    exact ⟨_, _, _, (Option.some.inj hr).symm, (Option.some.inj hset).symm, hsame⟩
  have hascending : IsAscending [Value.long 1, .string "a", .set []] := by
    unfold IsAscending
    decide
  have hone : KeysAscending [("a", Value.long 1)] := List.pairwise_singleton _ _
  have htwo : KeysAscending [("a", Value.long 1), ("b", .long 1)] := by
    unfold KeysAscending
    decide
  refine ⟨hvalue _ _ _ hsame, (hpatch _ _ _ hrearranges).1, rfl,
    hsets _ _ List.Pairwise.nil hascending, fun store => ?_⟩
  obtain ⟨c, hc, hiff⟩ := hrecords _ _ hone htwo store
  exact ⟨c, hc, hiff.trans (iff_false_intro fun h => by cases h "b")⟩

end AccessPolicy.Expr
