/-
Testing for an attribute, and asking for it.

* `Store.IsCoherent`: a regular store that gives attributes of present entities only;
  `Entities.IsBuild.isCoherent` says that building ends with such a store;
* `Lacks`: a value that may have attributes lacks one, and with which fault it is missed;
* `Outcomes`, `outcomes_eval`: what becomes of the two nodes on one expression. Both have a
  value, or the test says that there is none, or both fail in the same way;
* `Mirrors`: all that this says of the test, and of an access behind it;
* `hasAttr_mirrors_getAttr`: in every store that building ends with, the test mirrors the
  access.
-/
import AccessPolicy.Proofs.Entity.Building
import AccessPolicy.Proofs.Expr.Blame

namespace AccessPolicy

/-! ### Stores -/

/-- The store is regular, and it gives attributes of present entities only. -/
structure Store.IsCoherent (store : Store) : Prop extends store.IsRegular where
  isPresent : ∀ uid attr v, store.attribute? uid attr = some v → store.isPresent uid = true

/-- A store that building ends with is coherent: an attribute is one of a declaration. -/
lemma Entities.IsBuild.isCoherent {ds : List Declaration} {es : Entities}
    (h : es.IsBuild ds) : es.toStore.IsCoherent where
  toIsRegular := es.isRegular_toStore
  isPresent uid attr v hv := by
    obtain ⟨d, hd, -⟩ := (h.answersFor.attribute?_iff uid attr v).1 hv
    exact (h.answersFor.isPresent_iff uid).2 ⟨d, hd.mem, hd.uid_eq⟩

/-! ### Values -/

/-- The value is a record or an entity without the attribute, and the fault says so. -/
inductive Lacks (store : Store) (attr : String) : Value → Fault → Prop
  | record {fs : Record} (h : fs.lookup attr = none) :
      Lacks store attr (.record fs) (.missingAttribute .record attr)
  | stranger {uid : EntityUid} (h : store.isPresent uid = false) :
      Lacks store attr (.entity uid) (.missingEntity uid)
  | present {uid : EntityUid} (h : store.isPresent uid = true)
      (hattr : store.attribute? uid attr = none) :
      Lacks store attr (.entity uid) (.missingAttribute (.entity uid) attr)

section Values

variable {store : Store} {attr : String} {v : Value} {f : Fault}

/-- Asking for what is lacking raises the fault. -/
lemma Lacks.getAttribute_eq (h : Lacks store attr v f) :
    getAttribute store attr v = .error f := by
  cases h with
  | record h => rw [getAttribute, h]
  | stranger h => rw [getAttribute, h]; rfl
  | present h hattr => rw [getAttribute, if_pos h, hattr]

/-- Testing for what is lacking says so. -/
lemma Lacks.hasAttribute_eq (hs : store.IsCoherent) (h : Lacks store attr v f) :
    hasAttribute store attr v = .ok (.bool false) := by
  cases h with
  | record h => rw [hasAttribute, h]; rfl
  | @stranger uid h =>
      have hnone : store.attribute? uid attr = none := by
        cases hattr : store.attribute? uid attr with
        | none => rfl
        | some w => cases h.symm.trans (hs.isPresent uid attr w hattr)
      rw [hasAttribute, hs.hasAttribute_eq, hnone]
      rfl
  | present h hattr => rw [hasAttribute, hs.hasAttribute_eq, hattr]; rfl

/-- A value of another kind has no attributes at all. -/
lemma hasAttribute_of_kind_ne (hrecord : v.kind ≠ .record) (hentity : v.kind ≠ .entity) :
    hasAttribute store attr v = .error (.typeMismatch .recordOrEntity v.kind) := by
  cases v with
  | record fs => exact absurd rfl hrecord
  | entity uid => exact absurd rfl hentity
  | _ => rfl

end Values

namespace Expr

/-! ### Nodes -/

section Nodes

variable {env : Env} {e : Expr} {attr : String} {loc : Option Loc} {v : Value}

/-- The test on an expression with a value is the test on the value. -/
lemma eval_hasAttr_of_ok (he : e.eval env = .ok v) (attr : String) (loc : Option Loc) :
    (hasAttr e attr loc).eval env = located loc (raise (hasAttribute env.store attr v)) := by
  rw [eval, he]
  rfl

/-- The access on an expression with a value is the access on the value. -/
lemma eval_getAttr_of_ok (he : e.eval env = .ok v) (attr : String) (loc : Option Loc) :
    (getAttr e attr loc).eval env = located loc (raise (getAttribute env.store attr v)) := by
  rw [eval, he]
  rfl

/-- The expression has nothing that could have attributes: it fails, or it gives neither a
record nor an entity. -/
def IsBare (env : Env) (e : Expr) : Prop :=
  (∃ x, e.eval env = .error x) ∨
    ∃ v, e.eval env = .ok v ∧ v.kind ≠ .record ∧ v.kind ≠ .entity

/-- What becomes of the test for an attribute of an expression, and of the access to it. -/
inductive Outcomes (env : Env) (e : Expr) (attr : String) (loc : Option Loc) : Prop
  | present (w : Value) (htest : (hasAttr e attr loc).eval env = .ok (.bool true))
      (hget : (getAttr e attr loc).eval env = .ok w)
  | absent (v : Value) (f : Fault) (he : e.eval env = .ok v) (h : Lacks env.store attr v f)
      (htest : (hasAttr e attr loc).eval env = .ok (.bool false))
      (hget : (getAttr e attr loc).eval env = .error ⟨f, loc⟩)
  | fails (x : Failure) (h : e.IsBare env) (htest : (hasAttr e attr loc).eval env = .error x)
      (hget : (getAttr e attr loc).eval env = .error x)

/-- **The two nodes have one of these outcomes.** -/
lemma outcomes_eval (hs : env.store.IsCoherent) (e : Expr) (attr : String)
    (loc : Option Loc) : Outcomes env e attr loc := by
  cases he : e.eval env with
  | error x =>
      exact .fails (x.blame loc) (.inl ⟨x, he⟩) (by rw [eval, he]; rfl) (by rw [eval, he]; rfl)
  | ok v =>
      have htest := eval_hasAttr_of_ok he attr loc
      have hget := eval_getAttr_of_ok he attr loc
      have habsent : ∀ f, Lacks env.store attr v f → Outcomes env e attr loc := by
        intro f hf
        rw [hf.hasAttribute_eq hs] at htest
        rw [hf.getAttribute_eq] at hget
        exact .absent v f he hf htest hget
      cases v with
      | record fs =>
          rw [hasAttribute] at htest
          rw [getAttribute] at hget
          cases hw : fs.lookup attr with
          | none => exact habsent _ (.record hw)
          | some w =>
              rw [hw] at htest hget
              exact .present w htest hget
      | entity uid =>
          rw [hasAttribute, hs.hasAttribute_eq] at htest
          rw [getAttribute] at hget
          cases hw : env.store.attribute? uid attr with
          | some w =>
              rw [hw] at htest hget
              rw [if_pos (hs.isPresent uid attr w hw)] at hget
              exact .present w htest hget
          | none =>
              cases hp : env.store.isPresent uid with
              | false => exact habsent _ (.stranger hp)
              | true => exact habsent _ (.present hp hw)
      | _ => exact .fails _ (.inr ⟨_, he, by simp [Value.kind], by simp [Value.kind]⟩) htest hget

/-- **The test says that the attribute is there exactly if the access gives a value.** -/
lemma eval_hasAttr_eq_true_iff (hs : env.store.IsCoherent) :
    (hasAttr e attr loc).eval env = .ok (.bool true) ↔
      ∃ w, (getAttr e attr loc).eval env = .ok w := by
  cases outcomes_eval hs e attr loc with
  | present w htest hget => simp [htest, hget]
  | absent v f he h htest hget => simp [htest, hget]
  | fails x h htest hget => simp [htest, hget]

/-- The position of an access does not matter for its value. -/
lemma eval_getAttr_eq_ok_iff (l : Option Loc) {w : Value} :
    (getAttr e attr l).eval env = .ok w ↔ (getAttr e attr loc).eval env = .ok w := by
  rw [eval, eval, located_eq_ok_iff, located_eq_ok_iff]

/-! ### An access behind the test -/

/-- An access is not blamed for a failure of the test for its attribute: the expression would
have to fail, and yet to have a value for the access. -/
lemma not_blames_in_test {bool : Bool} {p : List Nat} {l : Option Loc} {f : Fault} :
    ¬ (hasAttr e attr loc).Blames env bool p (getAttr e attr l) f := by
  intro h
  have hdelivers : e.Delivers env false := h.settled 0 e rfl trivial
  cases p with
  | nil => cases h.reached
  | cons i p =>
      obtain ⟨c, hc, -, hb⟩ := h.down
      match i, hc with
      | 0, rfl =>
          obtain ⟨x, hx⟩ := hb.exists_fails
          exact hdelivers.not_fails x hx

/-- **Behind the test an access has a value**: it can be blamed only because that is no
Boolean. -/
lemma Blames.kind_of_guarded (hs : env.store.IsCoherent) {body : Expr} {outer l : Option Loc}
    {bool : Bool} {p : List Nat} {f : Fault}
    (h : (and (hasAttr e attr loc) body outer).Blames env bool p (getAttr e attr l) f) :
    f.kind = .typeMismatch := by
  cases p with
  | nil => cases h.reached
  | cons i p =>
      obtain ⟨c, hc, hi, hb⟩ := h.down
      match i, hc with
      | 0, rfl => exact absurd hb not_blames_in_test
      | 1, rfl =>
          obtain ⟨w, hw⟩ := (eval_hasAttr_eq_true_iff hs).1 hi
          have hl := (eval_getAttr_eq_ok_iff l).2 hw
          rcases h.cause with hf | ⟨-, v, -, -, rfl⟩
          · cases hf.eval_eq.symm.trans hl
          · rfl

end Nodes

/-! ### The mirror -/

/-- The test for an attribute of an expression mirrors the access to it. -/
structure Mirrors (env : Env) (e : Expr) (attr : String) (loc : Option Loc) : Prop where
  /-- The test says that the attribute is there exactly if the access gives a value. -/
  present_iff : (hasAttr e attr loc).eval env = .ok (.bool true) ↔
    ∃ w, (getAttr e attr loc).eval env = .ok w
  /-- It says that it is not there exactly if the expression gives a record without it, an
  entity that is not present, or a present entity without it. -/
  absent_iff : (hasAttr e attr loc).eval env = .ok (.bool false) ↔
    ∃ v f, e.eval env = .ok v ∧ Lacks env.store attr v f
  /-- For that reason the access then fails. -/
  absent : ∀ v f, e.eval env = .ok v → Lacks env.store attr v f →
    (getAttr e attr loc).eval env = .error ⟨f, loc⟩
  /-- The test fails exactly if the expression fails, or gives neither a record nor an
  entity. -/
  fails_iff : (∃ x, (hasAttr e attr loc).eval env = .error x) ↔ e.IsBare env
  /-- The access then fails in the same way. -/
  fails : ∀ x, (hasAttr e attr loc).eval env = .error x →
    (getAttr e attr loc).eval env = .error x
  /-- Behind the test an access, at whatever position, is never blamed because the attribute
  or the entity is missing. -/
  guarded : ∀ body outer bool p l f,
    (and (hasAttr e attr loc) body outer).Blames env bool p (getAttr e attr l) f →
      f.kind ≠ .missingAttribute ∧ f.kind ≠ .missingEntity

/-- **In every store that building ends with, the test for an attribute mirrors the access
to it.** -/
theorem hasAttr_mirrors_getAttr {ds : List Declaration} {es : Entities} (h : es.IsBuild ds)
    (request : Request) (e : Expr) (attr : String) (loc : Option Loc) :
    Mirrors ⟨request, es.toStore⟩ e attr loc := by
  have hs : (Env.mk request es.toStore).store.IsCoherent := h.isCoherent
  have hout := outcomes_eval hs e attr loc
  constructor
  case present_iff => exact eval_hasAttr_eq_true_iff hs
  case absent_iff =>
    constructor
    · intro hfalse
      cases hout with
      | present w htest => cases htest.symm.trans hfalse
      | absent v f he hlacks => exact ⟨v, f, he, hlacks⟩
      | fails x hbare htest => cases htest.symm.trans hfalse
    · rintro ⟨v, f, he, hlacks⟩
      rw [eval_hasAttr_of_ok he, hlacks.hasAttribute_eq hs]
      rfl
  case absent =>
    intro v f he hlacks
    rw [eval_getAttr_of_ok he, hlacks.getAttribute_eq]
    rfl
  case fails_iff =>
    constructor
    · rintro ⟨x, hx⟩
      cases hout with
      | present w htest => cases htest.symm.trans hx
      | absent v f he hlacks htest => cases htest.symm.trans hx
      | fails y hbare => exact hbare
    · rintro (⟨x, hx⟩ | ⟨v, he, hrecord, hentity⟩)
      · exact ⟨x.blame loc, by rw [eval, hx]; rfl⟩
      · rw [eval_hasAttr_of_ok he, hasAttribute_of_kind_ne hrecord hentity]
        exact ⟨_, rfl⟩
  case fails =>
    intro x hx
    cases hout with
    | present w htest => cases htest.symm.trans hx
    | absent v f he hlacks htest => cases htest.symm.trans hx
    | fails y hbare htest hget => rw [hget, ← htest, hx]
  case guarded =>
    intro body outer bool p l f hb
    rw [hb.kind_of_guarded hs]
    exact ⟨by decide, by decide⟩

/-! ### A manager -/

/-- The manager of the principal. -/
def manager : Expr := .getAttr (.var .principal none) "manager" none

/-- The principal is declared, and its manager is not. -/
def staff : List Declaration :=
  [⟨bareEnv.request.principal, [("manager", .entity ⟨⟨"User"⟩, "bob"⟩)], []⟩]

/-- The manager is an entity that is not present: so it has no age, and asking for the age
fails where it is asked for. -/
theorem hasAttr_mirrors_getAttr_manager :
    (Entities.ofDeclarations staff).IsBuild staff ∧
      (hasAttr manager "age" (some ⟨1, 5⟩)).eval
          ⟨bareEnv.request, (Entities.ofDeclarations staff).toStore⟩ = .ok (.bool false) ∧
      (getAttr manager "age" (some ⟨1, 5⟩)).eval
          ⟨bareEnv.request, (Entities.ofDeclarations staff).toStore⟩ =
        .error ⟨.missingEntity ⟨⟨"User"⟩, "bob"⟩, some ⟨1, 5⟩⟩ := by
  have hbuild : (Entities.ofDeclarations staff).IsBuild staff :=
    Entities.isBuild_ofDeclarations staff
  have hmirror := hasAttr_mirrors_getAttr hbuild bareEnv.request manager "age" (some ⟨1, 5⟩)
  have hbob : manager.eval ⟨bareEnv.request, (Entities.ofDeclarations staff).toStore⟩ =
      .ok (.entity ⟨⟨"User"⟩, "bob"⟩) := rfl
  have hlacks : Lacks (Entities.ofDeclarations staff).toStore "age"
      (.entity ⟨⟨"User"⟩, "bob"⟩) (.missingEntity ⟨⟨"User"⟩, "bob"⟩) := .stranger rfl
  exact ⟨hbuild, hmirror.absent_iff.2 ⟨_, _, hbob, hlacks⟩, hmirror.absent _ _ hbob hlacks⟩

end Expr

end AccessPolicy
