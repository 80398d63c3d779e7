/-
Which errors the rules of nodes raise.

* `FailsWith`: what holds of the fault of a result, and how it passes through the
  steps of a rule;
* `Value.mismatches`: reading a value as something that it is not is a mismatch;
* `failsWith_apply` and its like: the faults of each rule;
* `CanRaise`: the kinds of errors that a node can raise. An overflow comes only from
  arithmetic, a missing attribute or entity only from access to an attribute, an unknown
  function only from a call of one, a malformed literal only from the two functions that
  read one, and a malformed pattern only from `like`;
* `Refuses.canRaise`: the rules of nodes raise no other.
-/
import AccessPolicy.Proofs.Expr.Step

namespace AccessPolicy

/-! ### What faults are like -/

/-- A property of the fault of a result, if it fails. -/
def FailsWith {ε α : Type} (P : ε → Prop) (r : Except ε α) : Prop :=
  ∀ f, r = .error f → P f

section FailsWith

variable {ε α β : Type} {P : ε → Prop}

lemma failsWith_ok (a : α) : FailsWith P (.ok a : Except ε α) := by
  rintro f ⟨⟩

lemma failsWith_error {f : ε} (h : P f) : FailsWith P (.error f : Except ε α) := by
  rintro g ⟨⟩
  exact h

/-- The fault of a step is that of the result before, or that of what follows. -/
lemma FailsWith.bind {r : Except ε α} {g : α → Except ε β} (hr : FailsWith P r)
    (hg : ∀ a, FailsWith P (g a)) : FailsWith P (r >>= g) := by
  cases r with
  | ok a => exact hg a
  | error f => exact failsWith_error (hr f rfl)

lemma FailsWith.mapM {g : α → Except ε β} (hg : ∀ a, FailsWith P (g a)) (xs : List α) :
    FailsWith P (xs.mapM g) := by
  induction xs with
  | nil => exact failsWith_ok []
  | cons x xs ih =>
      rw [List.mapM_cons]
      exact (hg x).bind fun b => ih.bind fun bs => failsWith_ok (b :: bs)

lemma FailsWith.mono {Q : ε → Prop} {r : Except ε α} (hr : FailsWith P r)
    (h : ∀ f, P f → Q f) : FailsWith Q r := fun f hf => h f (hr f hf)

end FailsWith

/-- Something is of the wrong kind, or of the wrong number. -/
def Fault.IsMismatch (f : Fault) : Prop := f.kind = .typeMismatch

/-- Reading a value as something that it is not is a mismatch. -/
structure Value.Mismatches (v : Value) : Prop where
  long : FailsWith Fault.IsMismatch v.asLong
  string : FailsWith Fault.IsMismatch v.asString
  entity : FailsWith Fault.IsMismatch v.asEntity
  set : FailsWith Fault.IsMismatch v.asSet
  decimal : FailsWith Fault.IsMismatch v.asDecimal
  ip : FailsWith Fault.IsMismatch v.asIp
  member : FailsWith Fault.IsMismatch v.asMember

lemma Value.mismatches (v : Value) : v.Mismatches := by
  cases v <;> constructor <;> rintro f ⟨⟩ <;> rfl

/-! ### Rules -/

lemma mismatch_argument (g : ExtensionFn) (vs : List Value) :
    FailsWith Fault.IsMismatch (g.argument vs) := by
  rw [ExtensionFn.argument.eq_def]
  split
  · exact failsWith_ok _
  · exact failsWith_error rfl

lemma mismatch_arguments (g : ExtensionFn) (vs : List Value) :
    FailsWith Fault.IsMismatch (g.arguments vs) := by
  rw [ExtensionFn.arguments.eq_def]
  split
  · exact failsWith_ok _
  · exact failsWith_error rfl

lemma mismatch_isInTarget (store : Store) (uid : EntityUid) (v : Value) :
    FailsWith Fault.IsMismatch (isInTarget store uid v) := by
  cases v with
  | entity other => exact failsWith_ok _
  | set xs => exact (FailsWith.mapM (fun v => v.mismatches.member) xs).bind fun _ => failsWith_ok _
  | _ => exact failsWith_error rfl

/-- An operator mismatches, or it is an operation on longs that overflows. -/
lemma failsWith_apply (store : Store) (op : BinaryOp) (a b : Value) :
    FailsWith (fun f => f.IsMismatch ∨ (f.kind = .overflow ∧ ∃ o, op = .arith o))
      (op.apply store a b) := by
  cases op with
  | eq | notEq => exact failsWith_ok _
  | compare c =>
      refine FailsWith.mono ?_ fun f => .inl
      exact a.mismatches.long.bind fun m => b.mismatches.long.bind fun n => failsWith_ok _
  | arith o =>
      refine (a.mismatches.long.mono fun f => .inl).bind fun m => ?_
      refine (b.mismatches.long.mono fun f => .inl).bind fun n => ?_
      cases o.result? m n with
      | some r => exact failsWith_ok _
      | none => exact failsWith_error (.inr ⟨rfl, o, rfl⟩)
  | isIn =>
      refine FailsWith.mono ?_ fun f => .inl
      exact a.mismatches.entity.bind fun uid => mismatch_isInTarget store uid b
  | contains =>
      refine FailsWith.mono ?_ fun f => .inl
      exact a.mismatches.set.bind fun xs => failsWith_ok _
  | containsAll | containsAny =>
      refine FailsWith.mono ?_ fun f => .inl
      exact a.mismatches.set.bind fun xs => b.mismatches.set.bind fun ys => failsWith_ok _

/-- A negation mismatches or overflows. -/
lemma failsWith_negate (v : Value) :
    FailsWith (fun f => f.IsMismatch ∨ f.kind = .overflow) (negate v) := by
  refine (v.mismatches.long.mono fun f => .inl).bind fun n => ?_
  cases n.neg? with
  | some m => exact failsWith_ok _
  | none => exact failsWith_error (.inr rfl)

/-- An attribute is missing, or the entity that it is asked of. -/
lemma failsWith_getAttribute (store : Store) (attr : String) (v : Value) :
    FailsWith (fun f => f.IsMismatch ∨ f.kind = .missingAttribute ∨ f.kind = .missingEntity)
      (getAttribute store attr v) := by
  cases v with
  | record fs =>
      rw [getAttribute]
      cases fs.lookup attr with
      | some w => exact failsWith_ok _
      | none => exact failsWith_error (.inr (.inl rfl))
  | entity uid =>
      rw [getAttribute]
      split
      · cases store.attribute? uid attr with
        | some w => exact failsWith_ok _
        | none => exact failsWith_error (.inr (.inl rfl))
      · exact failsWith_error (.inr (.inr rfl))
  | _ => exact failsWith_error (.inl rfl)

lemma mismatch_hasAttribute (store : Store) (attr : String) (v : Value) :
    FailsWith Fault.IsMismatch (hasAttribute store attr v) := by
  cases v with
  | record fs => exact failsWith_ok _
  | entity uid => exact failsWith_ok _
  | _ => exact failsWith_error rfl

/-- A match mismatches, or its pattern is malformed. -/
lemma failsWith_likePattern (source : String) (v : Value) :
    FailsWith (fun f => f.IsMismatch ∨ f.kind = .malformedPattern) (likePattern source v) := by
  refine (v.mismatches.string.mono fun f => .inl).bind fun text => ?_
  cases Pattern.ofText? source with
  | ok p => exact failsWith_ok _
  | error e => exact failsWith_error (.inr rfl)

/-- A function mismatches, or it reads a literal that is malformed. -/
lemma failsWith_call (g : ExtensionFn) (vs : List Value) :
    FailsWith (fun f => f.IsMismatch ∨
      (f.kind = .malformedExtensionLiteral ∧ (g = .decimal ∨ g = .ip))) (g.apply vs) := by
  cases g with
  | decimal =>
      refine ((mismatch_argument _ vs).mono fun f => .inl).bind fun a => ?_
      refine (a.mismatches.string.mono fun f => .inl).bind fun text => ?_
      cases Decimal.ofText? text with
      | ok d => exact failsWith_ok _
      | error e => exact failsWith_error (.inr ⟨rfl, .inl rfl⟩)
  | ip =>
      refine ((mismatch_argument _ vs).mono fun f => .inl).bind fun a => ?_
      refine (a.mismatches.string.mono fun f => .inl).bind fun text => ?_
      cases Ip.Range.ofText? text with
      | ok r => exact failsWith_ok _
      | error e => exact failsWith_error (.inr ⟨rfl, .inr rfl⟩)
  | compare c =>
      refine FailsWith.mono ?_ fun f => .inl
      exact (mismatch_arguments _ vs).bind fun p => p.1.mismatches.decimal.bind fun x =>
        p.2.mismatches.decimal.bind fun y => failsWith_ok _
  | isIpv4 | isIpv6 | isLoopback | isMulticast =>
      refine FailsWith.mono ?_ fun f => .inl
      exact (mismatch_argument _ vs).bind fun a => a.mismatches.ip.bind fun r => failsWith_ok _
  | isInRange =>
      refine FailsWith.mono ?_ fun f => .inl
      exact (mismatch_arguments _ vs).bind fun p => p.1.mismatches.ip.bind fun r =>
        p.2.mismatches.ip.bind fun s => failsWith_ok _

namespace Expr

variable {env : Env}

/-! ### Kinds of errors -/

/-- The kinds of errors that a node can raise. -/
def CanRaise (e : Expr) : ErrorKind → Prop
  | .typeMismatch => True
  | .overflow => (∃ a loc, e = .neg a loc) ∨ ∃ op l r loc, e = .binary (.arith op) l r loc
  | .missingAttribute | .missingEntity => ∃ a attr loc, e = .getAttr a attr loc
  | .unknownExtension =>
      ∃ name args loc, e = .call name args loc ∧ ∀ g : ExtensionFn, g.name ≠ name
  | .malformedExtensionLiteral =>
      ∃ g args loc, e = .call (ExtensionFn.name g) args loc ∧ (g = .decimal ∨ g = .ip)
  | .malformedPattern => ∃ a pattern loc, e = .like a pattern loc

/-- A name without a function is the name of no function. -/
lemma name_ne_of_ofName?_eq_none {name : String} (h : ExtensionFn.ofName? name = none)
    (g : ExtensionFn) : g.name ≠ name := by
  have hmem : g ∈ ExtensionFn.all := by
    cases g with
    | compare c => cases c <;> decide
    | _ => decide
  simpa using List.find?_eq_none.1 h g hmem

/-- **Rules raise only errors of the kinds that fit their nodes.** -/
theorem Refuses.canRaise {e : Expr} {f : Fault} (h : e.Refuses env f) : e.CanRaise f.kind := by
  have hmismatch : ∀ {e : Expr} {f : Fault}, f.IsMismatch → e.CanRaise f.kind := by
    intro e f hf
    rw [Fault.IsMismatch] at hf
    rw [hf]
    trivial
  cases h with
  | neg ha h =>
      rcases failsWith_negate _ _ h with hk | hk
      · exact hmismatch hk
      · rw [hk]
        exact .inl ⟨_, _, rfl⟩
  | binary ha hb h =>
      rcases failsWith_apply _ _ _ _ _ h with hk | ⟨hk, o, rfl⟩
      · exact hmismatch hk
      · rw [hk]
        exact .inr ⟨o, _, _, _, rfl⟩
  | getAttr ha h =>
      rcases failsWith_getAttribute _ _ _ _ h with hk | hk | hk
      · exact hmismatch hk
      · rw [hk]
        exact ⟨_, _, _, rfl⟩
      · rw [hk]
        exact ⟨_, _, _, rfl⟩
  | hasAttr ha h => exact hmismatch (mismatch_hasAttribute _ _ _ _ h)
  | like ha h =>
      rcases failsWith_likePattern _ _ _ h with hk | hk
      · exact hmismatch hk
      · rw [hk]
        exact ⟨_, _, _, rfl⟩
  | isType ha h => exact hmismatch (Value.mismatches _ |>.entity _ h)
  | isTypeIn ha h => exact hmismatch (Value.mismatches _ |>.entity _ h)
  | target ha htype hb h => exact hmismatch (mismatch_isInTarget _ _ _ _ h)
  | unknown h => exact ⟨_, _, _, rfl, name_ne_of_ofName?_eq_none h⟩
  | call hg hvs h =>
      rcases failsWith_call _ _ _ h with hk | ⟨hk, hliteral⟩
      · exact hmismatch hk
      · rw [hk]
        exact ⟨_, _, _, by rw [Text.name_of_named? hg], hliteral⟩

end Expr

end AccessPolicy
