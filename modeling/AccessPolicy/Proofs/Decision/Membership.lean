/-
Membership: the operator that asks whether an entity lies in another.

* `Expr.isIn`, `Expr.IsTrue`: a test of membership, and an expression that gives true;
* `Targets`: the identities in which a value lets one look, which are the one of an
  entity or those of a set of entities. `Targets.isInTarget` says what looking there
  gives, and `isInTarget_of_stranger` that a set with another element is refused as a
  whole, wherever in the set the element is;
* `isTrue_isIn_iff`: when a test of membership gives true;
* `Membership`: the laws of membership in an environment;
* `membership_of_isTransitive`, `membership_ofDeclarations`: they hold over a regular store
  where lying in is transitive, and so over every built store.
-/
import AccessPolicy.Proofs.Decision.Folding
import AccessPolicy.Proofs.Entity.Ancestors
import AccessPolicy.Proofs.Expr.Reached

namespace AccessPolicy

/-! ### Where a value lets one look -/

lemma kind_eq_entity_iff {v : Value} : v.kind = .entity ↔ ∃ uid, v = .entity uid := by
  cases v <;> simp [Value.kind]

/-- The identities in which a value lets one look. -/
inductive Targets : Value → List EntityUid → Prop
  | entity (v : EntityUid) : Targets (.entity v) [v]
  | set (vs : List EntityUid) : Targets (.set (vs.map .entity)) vs

/-- Looking in a value is looking in its identities. -/
lemma Targets.isInTarget {t : Value} {vs : List EntityUid} (h : Targets t vs) (store : Store)
    (u : EntityUid) : isInTarget store u t = .ok (.bool (vs.any (store.isIn u))) := by
  cases h with
  | entity v => rw [AccessPolicy.isInTarget, List.any_cons, List.any_nil, Bool.or_false]
  | set vs =>
      rw [AccessPolicy.isInTarget, mapM_asMember]
      rfl

/-- The elements of a set are all entities, or the first one that is not is refused. -/
lemma mapM_asMember_cases (ts : List Value) : (∃ vs, ts = List.map Value.entity vs) ∨
    ∃ t ∈ ts, t.kind ≠ .entity ∧
      ts.mapM Value.asMember = .error (.typeMismatch .entitySet t.kind) := by
  induction ts with
  | nil => exact .inl ⟨[], rfl⟩
  | cons t ts ih =>
      by_cases ht : t.kind = .entity
      · obtain ⟨v, rfl⟩ := kind_eq_entity_iff.1 ht
        rcases ih with ⟨vs, rfl⟩ | ⟨s, hs, hkind, herror⟩
        · exact .inl ⟨v :: vs, rfl⟩
        · refine .inr ⟨s, List.mem_cons_of_mem _ hs, hkind, ?_⟩
          rw [List.mapM_cons, herror]
          rfl
      · refine .inr ⟨t, List.mem_cons_self, ht, ?_⟩
        have hrefused : t.asMember = .error (.typeMismatch .entitySet t.kind) := by
          cases t with
          | entity v => exact absurd rfl ht
          | _ => rfl
        rw [List.mapM_cons, hrefused]
        rfl

/-- **A value lets one look in its identities, or nowhere.** -/
lemma isInTarget_eq_ok_iff {store : Store} {u : EntityUid} {t v : Value} :
    isInTarget store u t = .ok v ↔
      ∃ vs, Targets t vs ∧ v = .bool (vs.any (store.isIn u)) := by
  constructor
  · intro h
    have htargets : ∃ vs, Targets t vs := by
      cases t with
      | entity w => exact ⟨[w], .entity w⟩
      | set ts =>
          rcases mapM_asMember_cases ts with ⟨vs, rfl⟩ | ⟨s, -, -, herror⟩
          · exact ⟨vs, .set vs⟩
          · rw [isInTarget, herror] at h
            cases h
      | _ => cases h
    obtain ⟨vs, hvs⟩ := htargets
    rw [hvs.isInTarget store u] at h
    exact ⟨vs, hvs, (Except.ok.inj h).symm⟩
  · rintro ⟨vs, hvs, rfl⟩
    exact hvs.isInTarget store u

/-- A set with an element that is no entity is refused, wherever the element is. -/
lemma isInTarget_of_stranger {ts : List Value} (h : ∃ t ∈ ts, t.kind ≠ .entity)
    (store : Store) (u : EntityUid) : ∃ t ∈ ts, t.kind ≠ .entity ∧
      isInTarget store u (.set ts) = .error (.typeMismatch .entitySet t.kind) := by
  rcases mapM_asMember_cases ts with ⟨vs, rfl⟩ | ⟨t, ht, hkind, herror⟩
  · obtain ⟨t, ht, hkind⟩ := h
    obtain ⟨v, -, rfl⟩ := List.mem_map.1 ht
    exact absurd rfl hkind
  · refine ⟨t, ht, hkind, ?_⟩
    rw [isInTarget, herror]
    rfl

/-! ### Tests of membership -/

namespace Expr

/-- The test whether one expression lies in another. -/
def isIn (x y : Expr) (loc : Option Loc) : Expr := .binary .isIn x y loc

/-- The expression gives true. -/
def IsTrue (env : Env) (e : Expr) : Prop := e.eval env = .ok (.bool true)

end Expr

variable {env : Env} {x y z : Expr} {u v : EntityUid} {t : Value} {loc : Option Loc}

/-- A test of membership looks for the left operand in the right one. -/
lemma eval_isIn (hx : x.eval env = .ok (.entity u)) (hy : y.eval env = .ok t)
    (loc : Option Loc) :
    (x.isIn y loc).eval env = located loc (raise (isInTarget env.store u t)) := by
  rw [Expr.isIn, Expr.eval, hx, hy]
  rfl

/-- **A test of membership gives true exactly if an entity lies in one of those that the
right operand lets one look in.** -/
theorem isTrue_isIn_iff : (x.isIn y loc).IsTrue env ↔
    ∃ u t vs, x.eval env = .ok (.entity u) ∧ y.eval env = .ok t ∧ Targets t vs ∧
      ∃ v ∈ vs, env.store.isIn u v = true := by
  constructor
  · intro h
    rw [Expr.IsTrue, Expr.isIn, Expr.eval, located_eq_ok_iff, bind_eq_ok_iff] at h
    obtain ⟨a, hx, h⟩ := h
    obtain ⟨t, hy, h⟩ := bind_eq_ok_iff.1 h
    obtain ⟨u, ha, h⟩ := bind_eq_ok_iff.1 (raise_eq_ok_iff.1 h)
    obtain ⟨vs, htargets, hany⟩ := isInTarget_eq_ok_iff.1 h
    obtain rfl := asEntity_eq_ok_iff.1 ha
    have hany : vs.any (env.store.isIn u) = true := (Value.bool.inj hany).symm
    exact ⟨u, t, vs, hx, hy, htargets, List.any_eq_true.1 hany⟩
  · rintro ⟨u, t, vs, hx, hy, htargets, v, hv, huv⟩
    rw [Expr.IsTrue, eval_isIn hx hy, htargets.isInTarget, List.any_eq_true.2 ⟨v, hv, huv⟩]
    rfl

/-- A test in an entity gives true exactly if the one entity lies in the other. -/
lemma isTrue_isIn_entity_iff (hx : x.eval env = .ok (.entity u))
    (hy : y.eval env = .ok (.entity v)) :
    (x.isIn y loc).IsTrue env ↔ env.store.isIn u v = true := by
  rw [Expr.IsTrue, eval_isIn hx hy, located_eq_ok_iff, raise_eq_ok_iff, isInTarget]
  simp

/-! ### The laws -/

/-- The laws of membership in an environment. Positions do not matter anywhere. -/
structure Membership (env : Env) : Prop where
  /-- An entity lies in itself, whether or not it is present. -/
  self {x : Expr} {u : EntityUid} (hx : x.eval env = .ok (.entity u)) (loc : Option Loc) :
    (x.isIn x loc).IsTrue env
  /-- What lies in an entity lies in everything, entity or set, in which the entity lies. -/
  trans {x y z : Expr} {l m : Option Loc} (hxy : (x.isIn y l).IsTrue env)
    (hyz : (y.isIn z m).IsTrue env) (loc : Option Loc) : (x.isIn z loc).IsTrue env
  /-- A set with an element that is no entity is refused, whatever its other elements
  are. -/
  refused {x s : Expr} {u : EntityUid} {ts : List Value} (hx : x.eval env = .ok (.entity u))
    (hs : s.eval env = .ok (.set ts)) (h : ∃ t ∈ ts, t.kind ≠ .entity) (loc : Option Loc) :
    ∃ f, (x.isIn s loc).eval env = .error f ∧ f.report.kind = .typeMismatch
  /-- A test in a set of entities gives a Boolean, and true exactly if the entity lies in
  an element. -/
  search {x s : Expr} {u : EntityUid} {ts : List Value} (hx : x.eval env = .ok (.entity u))
    (hs : s.eval env = .ok (.set ts)) (h : ∀ t ∈ ts, t.kind = .entity)
    (loc l m : Option Loc) :
    ∃ b, (x.isIn s loc).eval env = .ok (.bool b) ∧
      (b = true ↔ ∃ t ∈ ts, (x.isIn (.lit t l) m).IsTrue env)
  /-- The scope of what lies in an entity. -/
  scope_isIn {x y : Expr} {u v : EntityUid} (hx : x.eval env = .ok (.entity u))
    (hy : y.eval env = .ok (.entity v)) (loc : Option Loc) :
    (Scope.isIn v).admits env.store u = true ↔ (x.isIn y loc).IsTrue env
  /-- The scope of what lies in one of several entities. -/
  scope_inSet {x s : Expr} {u : EntityUid} {vs : List EntityUid}
    (hx : x.eval env = .ok (.entity u))
    (hs : s.eval env = .ok (Value.setOf (vs.map .entity))) (loc : Option Loc) :
    (Scope.inSet vs).admits env.store u = true ↔ (x.isIn s loc).IsTrue env
  /-- The scope of what has a type and lies in an entity. -/
  scope_isTypeIn {x y : Expr} {u v : EntityUid} (hx : x.eval env = .ok (.entity u))
    (hy : y.eval env = .ok (.entity v)) (type : EntityType) (loc : Option Loc) :
    (Scope.isTypeIn type v).admits env.store u = true ↔
      u.type = type ∧ (x.isIn y loc).IsTrue env

/-- What lies in an entity lies in everything in which the entity lies. -/
lemma Store.IsTransitive.isTrue_isIn (h : env.store.IsTransitive) {l m : Option Loc}
    (hxy : (x.isIn y l).IsTrue env) (hyz : (y.isIn z m).IsTrue env) :
    (x.isIn z loc).IsTrue env := by
  obtain ⟨u, t, vs, hx, hy, htargets, v, hv, huv⟩ := isTrue_isIn_iff.1 hxy
  obtain ⟨v', t', ws, hy', hz, htargets', w, hw, hvw⟩ := isTrue_isIn_iff.1 hyz
  -- The middle is an entity, and so the only identity to look in on the way.
  obtain rfl : t = .entity v' := Except.ok.inj (hy.symm.trans hy')
  cases htargets
  obtain rfl := List.mem_singleton.1 hv
  exact isTrue_isIn_iff.2 ⟨u, t', ws, hx, hz, htargets', w, hw, h _ _ _ huv hvw⟩

/-- A test in a set of entities looks in each element. -/
lemma exists_eval_isIn_set {s : Expr} {ts : List Value} (hx : x.eval env = .ok (.entity u))
    (hs : s.eval env = .ok (.set ts)) (h : ∀ t ∈ ts, t.kind = .entity)
    (loc l m : Option Loc) :
    ∃ b, (x.isIn s loc).eval env = .ok (.bool b) ∧
      (b = true ↔ ∃ t ∈ ts, (x.isIn (.lit t l) m).IsTrue env) := by
  obtain ⟨vs, rfl⟩ : ∃ vs, ts = List.map Value.entity vs := by
    refine (mapM_asMember_cases ts).resolve_right ?_
    rintro ⟨t, ht, hkind, -⟩
    exact hkind (h t ht)
  refine ⟨vs.any (env.store.isIn u), ?_, ?_⟩
  · rw [eval_isIn hx hs, (Targets.set vs).isInTarget]
    rfl
  · have hlit : ∀ v, (x.isIn (.lit (.entity v) l) m).IsTrue env ↔
        env.store.isIn u v = true := fun v => isTrue_isIn_entity_iff hx rfl
    rw [List.any_eq_true]
    constructor
    · rintro ⟨v, hv, huv⟩
      exact ⟨.entity v, List.mem_map_of_mem hv, (hlit v).2 huv⟩
    · rintro ⟨t, ht, htest⟩
      obtain ⟨v, hv, rfl⟩ := List.mem_map.1 ht
      exact ⟨v, hv, (hlit v).1 htest⟩

/-- **Where lying in is transitive, the laws of membership hold.** -/
theorem membership_of_isTransitive (hs : env.store.IsRegular) (h : env.store.IsTransitive) :
    Membership env where
  self hx loc := (isTrue_isIn_entity_iff hx hx).2 (hs.isIn_self _)
  trans hxy hyz loc := h.isTrue_isIn hxy hyz
  refused {x s u ts} hx hs hstranger loc := by
    obtain ⟨t, -, -, ht⟩ := isInTarget_of_stranger hstranger env.store u
    refine ⟨⟨.typeMismatch .entitySet t.kind, loc⟩, ?_, rfl⟩
    rw [eval_isIn hx hs, ht]
    rfl
  search hx hs hentities loc l m := exists_eval_isIn_set hx hs hentities loc l m
  scope_isIn hx hy loc := (isTrue_isIn_entity_iff hx hy).symm
  scope_inSet {x s u vs} hx hs loc := by
    rw [Expr.IsTrue, eval_isIn hx hs, isInTarget_setOf, located_eq_ok_iff, raise_eq_ok_iff]
    simp [Scope.admits]
  scope_isTypeIn hx hy type loc := by
    rw [isTrue_isIn_entity_iff hx hy, Scope.admits, Bool.and_eq_true, beq_iff_eq]

/-- **Over a built store membership is a preorder that extends to sets and agrees with
scopes**, whatever is declared and whatever the request is. -/
theorem membership_ofDeclarations (ds : List Declaration) (request : Request) :
    Membership ⟨request, (Entities.ofDeclarations ds).toStore⟩ :=
  membership_of_isTransitive (Entities.isRegular_toStore _) (isTransitive_ofDeclarations ds)

/-! ### Groups on a cycle -/

/-- A group by its name. -/
def group (name : String) : EntityUid := ⟨⟨"Group"⟩, name⟩

/-- Two groups that lie in each other, the second also in a group without a declaration. -/
def groups : List Declaration :=
  [⟨group "a", [], [group "b"]⟩, ⟨group "b", [], [group "a", group "c"]⟩]

/-- A request about these groups. -/
def groupsEnv : Env := ⟨Expr.bareEnv.request, (Entities.ofDeclarations groups).toStore⟩

/-- The third group and a decimal, which is no entity, in the order of values. -/
def mixedTargets : List Value := [.entity (group "c"), .decimal ⟨5⟩]

/-- The first group lies in the third, and yet a set that holds the third one is refused
for its other element. -/
theorem membership_ofDeclarations_groups :
    ((group "a").toExpr.isIn (group "c").toExpr none).IsTrue groupsEnv ∧
      Value.setOf mixedTargets = .set mixedTargets ∧
      ∃ f, ((group "a").toExpr.isIn (.lit (.set mixedTargets) none) none).eval groupsEnv =
        .error f ∧ f.report.kind = .typeMismatch := by
  have hlaws : Membership groupsEnv := membership_ofDeclarations groups Expr.bareEnv.request
  have hparent : ∀ u v, IsParent groups u v → (u.toExpr.isIn v.toExpr none).IsTrue groupsEnv :=
    fun u v h => (isTrue_isIn_entity_iff rfl rfl).2 (isIn_ofDeclarations.2 (.single h))
  have hab := hparent (group "a") (group "b") ⟨_, List.mem_cons_self, rfl, by decide⟩
  have hbc := hparent (group "b") (group "c")
    ⟨_, List.mem_cons_of_mem _ List.mem_cons_self, rfl, by decide⟩
  have hstranger : ∃ t ∈ mixedTargets, t.kind ≠ .entity :=
    ⟨.decimal ⟨5⟩, by simp [mixedTargets], by decide⟩
  exact ⟨hlaws.trans hab hbc none, rfl, hlaws.refused rfl rfl hstranger none⟩

end AccessPolicy
