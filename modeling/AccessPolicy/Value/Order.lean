/-
The order of values is a linear order.

* `compare_swap`: exchanging two values reverses their order;
* `compare_lt_trans`: being below is transitive;
* with `compare_eq_iff` these give the class `Std.TransOrd`, from which the
  theory of ascending lists draws.
-/
import AccessPolicy.Value.Basic

namespace AccessPolicy.Value

/-! ### Exchange -/

mutual

/-- Exchanging two values reverses their order. -/
theorem compare_swap : ∀ a b : Value, a.compare b = (b.compare a).swap
  | .set xs, y => by
    cases y with
    | set ys => simp only [compare, compareElems_swap xs ys]
    | _ => simp only [compare]; exact Std.OrientedCmp.eq_swap
  | .record fs, y => by
    cases y with
    | record gs => simp only [compare, compareFields_swap fs gs]
    | _ => simp only [compare]; exact Std.OrientedCmp.eq_swap
  | .bool _, y => by cases y <;> simp only [compare] <;> exact Std.OrientedCmp.eq_swap
  | .long _, y => by cases y <;> simp only [compare] <;> exact Std.OrientedCmp.eq_swap
  | .string _, y => by cases y <;> simp only [compare] <;> exact Std.OrientedCmp.eq_swap
  | .entity _, y => by cases y <;> simp only [compare] <;> exact Std.OrientedCmp.eq_swap
  | .decimal _, y => by cases y <;> simp only [compare] <;> exact Std.OrientedCmp.eq_swap
  | .ip _, y => by cases y <;> simp only [compare] <;> exact Std.OrientedCmp.eq_swap

/-- Exchanging two element lists reverses their order. -/
theorem compareElems_swap : ∀ xs ys : List Value,
    compareElems xs ys = (compareElems ys xs).swap
  | [], [] => rfl
  | [], _ :: _ => rfl
  | _ :: _, [] => rfl
  | x :: xs, y :: ys => by
    simp only [compareElems]
    rw [compare_swap x y, compareElems_swap xs ys, Ordering.swap_then]

/-- Exchanging two field lists reverses their order. -/
theorem compareFields_swap : ∀ fs gs : List (String × Value),
    compareFields fs gs = (compareFields gs fs).swap
  | [], [] => rfl
  | [], _ :: _ => rfl
  | _ :: _, [] => rfl
  | (k, x) :: fs, (l, y) :: gs => by
    simp only [compareFields]
    rw [compare_swap x y, compareFields_swap fs gs, Ordering.swap_then, Ordering.swap_then,
      @Std.OrientedCmp.eq_swap _ Ord.compare _ k l]

end

/-! ### Transitivity -/

/-- A value below another has no greater rank. -/
theorem rank_le_of_compare_lt {a b : Value} (h : a.compare b = .lt) :
    a.kind.rank ≤ b.kind.rank := by
  cases a <;> cases b <;> first
    | exact Nat.le_refl _
    | (simp only [compare] at h; exact Nat.le_of_lt (Nat.compare_eq_lt.1 h))

/-- A value of lower rank is below. -/
theorem compare_lt_of_rank_lt {a b : Value} (h : a.kind.rank < b.kind.rank) :
    a.compare b = .lt := by
  cases a <;> cases b <;> first
    | exact absurd h (Nat.lt_irrefl _)
    | (simp only [compare]; exact Nat.compare_eq_lt.2 h)

/-- Three values in a row have one kind, unless the last one has a greater rank
than the first. -/
theorem kinds_eq_of_lt {a b c : Value} (h : a.compare b = .lt) (h' : b.compare c = .lt)
    (hr : ¬ a.kind.rank < c.kind.rank) : b.kind = a.kind ∧ c.kind = a.kind := by
  have h1 := rank_le_of_compare_lt h
  have h2 := rank_le_of_compare_lt h'
  exact ⟨ValueKind.eq_of_rank_eq (by omega), ValueKind.eq_of_rank_eq (by omega)⟩

mutual

/-- Being below is transitive. -/
theorem compare_lt_trans : ∀ a b c : Value,
    a.compare b = .lt → b.compare c = .lt → a.compare c = .lt
  | .bool a, b, c, h, h' => by
    by_cases hr : (Value.bool a).kind.rank < c.kind.rank
    · exact compare_lt_of_rank_lt hr
    · obtain ⟨hb, hc⟩ := kinds_eq_of_lt h h' hr
      cases b with
      | bool b =>
        cases c with
        | bool c =>
          simp only [compare] at h h' ⊢
          exact Std.TransCmp.lt_trans h h'
        | _ => simp [kind] at hc
      | _ => simp [kind] at hb
  | .long a, b, c, h, h' => by
    by_cases hr : (Value.long a).kind.rank < c.kind.rank
    · exact compare_lt_of_rank_lt hr
    · obtain ⟨hb, hc⟩ := kinds_eq_of_lt h h' hr
      cases b with
      | long b =>
        cases c with
        | long c =>
          simp only [compare] at h h' ⊢
          exact Std.TransCmp.lt_trans h h'
        | _ => simp [kind] at hc
      | _ => simp [kind] at hb
  | .string a, b, c, h, h' => by
    by_cases hr : (Value.string a).kind.rank < c.kind.rank
    · exact compare_lt_of_rank_lt hr
    · obtain ⟨hb, hc⟩ := kinds_eq_of_lt h h' hr
      cases b with
      | string b =>
        cases c with
        | string c =>
          simp only [compare] at h h' ⊢
          exact Std.TransCmp.lt_trans h h'
        | _ => simp [kind] at hc
      | _ => simp [kind] at hb
  | .set a, b, c, h, h' => by
    by_cases hr : (Value.set a).kind.rank < c.kind.rank
    · exact compare_lt_of_rank_lt hr
    · obtain ⟨hb, hc⟩ := kinds_eq_of_lt h h' hr
      cases b with
      | set b =>
        cases c with
        | set c =>
          simp only [compare] at h h' ⊢
          exact compareElems_lt_trans a b c h h'
        | _ => simp [kind] at hc
      | _ => simp [kind] at hb
  | .record a, b, c, h, h' => by
    by_cases hr : (Value.record a).kind.rank < c.kind.rank
    · exact compare_lt_of_rank_lt hr
    · obtain ⟨hb, hc⟩ := kinds_eq_of_lt h h' hr
      cases b with
      | record b =>
        cases c with
        | record c =>
          simp only [compare] at h h' ⊢
          exact compareFields_lt_trans a b c h h'
        | _ => simp [kind] at hc
      | _ => simp [kind] at hb
  | .entity a, b, c, h, h' => by
    by_cases hr : (Value.entity a).kind.rank < c.kind.rank
    · exact compare_lt_of_rank_lt hr
    · obtain ⟨hb, hc⟩ := kinds_eq_of_lt h h' hr
      cases b with
      | entity b =>
        cases c with
        | entity c =>
          simp only [compare] at h h' ⊢
          exact Std.TransCmp.lt_trans h h'
        | _ => simp [kind] at hc
      | _ => simp [kind] at hb
  | .decimal a, b, c, h, h' => by
    by_cases hr : (Value.decimal a).kind.rank < c.kind.rank
    · exact compare_lt_of_rank_lt hr
    · obtain ⟨hb, hc⟩ := kinds_eq_of_lt h h' hr
      cases b with
      | decimal b =>
        cases c with
        | decimal c =>
          simp only [compare] at h h' ⊢
          exact Std.TransCmp.lt_trans h h'
        | _ => simp [kind] at hc
      | _ => simp [kind] at hb
  | .ip a, b, c, h, h' => by
    by_cases hr : (Value.ip a).kind.rank < c.kind.rank
    · exact compare_lt_of_rank_lt hr
    · obtain ⟨hb, hc⟩ := kinds_eq_of_lt h h' hr
      cases b with
      | ip b =>
        cases c with
        | ip c =>
          simp only [compare] at h h' ⊢
          exact Std.TransCmp.lt_trans h h'
        | _ => simp [kind] at hc
      | _ => simp [kind] at hb

/-- Being below is transitive for element lists. -/
theorem compareElems_lt_trans : ∀ xs ys zs : List Value,
    compareElems xs ys = .lt → compareElems ys zs = .lt → compareElems xs zs = .lt
  | [], ys, [], h, h' => by cases ys <;> simp [compareElems] at h h'
  | [], _, _ :: _, _, _ => rfl
  | _ :: _, [], _, h, _ => by simp [compareElems] at h
  | _ :: _, _ :: _, [], _, h' => by simp [compareElems] at h'
  | x :: xs, y :: ys, z :: zs, h, h' => by
    simp only [compareElems, Ordering.then_eq_lt] at h h' ⊢
    rcases h with h | ⟨h, ht⟩
    · rcases h' with h' | ⟨h', -⟩
      · exact .inl (compare_lt_trans x y z h h')
      · exact .inl ((compare_eq_iff y z).1 h' ▸ h)
    · obtain rfl := (compare_eq_iff x y).1 h
      rcases h' with h' | ⟨h', ht'⟩
      · exact .inl h'
      · exact .inr ⟨h', compareElems_lt_trans xs ys zs ht ht'⟩

/-- Being below is transitive for field lists. -/
theorem compareFields_lt_trans : ∀ fs gs hs : List (String × Value),
    compareFields fs gs = .lt → compareFields gs hs = .lt → compareFields fs hs = .lt
  | [], gs, [], h, h' => by cases gs <;> simp [compareFields] at h h'
  | [], _, _ :: _, _, _ => rfl
  | _ :: _, [], _, h, _ => by simp [compareFields] at h
  | _ :: _, _ :: _, [], _, h' => by simp [compareFields] at h'
  | (k, x) :: fs, (l, y) :: gs, (m, z) :: hs, h, h' => by
    simp only [compareFields, Ordering.then_eq_lt, Ordering.then_eq_eq] at h h' ⊢
    rcases h with (h | ⟨hk, h⟩) | ⟨⟨hk, h⟩, ht⟩
    · rcases h' with (h' | ⟨hl, h'⟩) | ⟨⟨hl, h'⟩, -⟩
      · exact .inl (.inl (Std.TransCmp.lt_trans h h'))
      · exact .inl (.inl (Std.LawfulEqCmp.eq_of_compare hl ▸ h))
      · exact .inl (.inl (Std.LawfulEqCmp.eq_of_compare hl ▸ h))
    · obtain rfl := Std.LawfulEqCmp.eq_of_compare hk
      rcases h' with (h' | ⟨hl, h'⟩) | ⟨⟨hl, h'⟩, -⟩
      · exact .inl (.inl h')
      · exact .inl (.inr ⟨hl, compare_lt_trans x y z h h'⟩)
      · exact .inl (.inr ⟨hl, (compare_eq_iff y z).1 h' ▸ h⟩)
    · obtain rfl := Std.LawfulEqCmp.eq_of_compare hk
      obtain rfl := (compare_eq_iff x y).1 h
      rcases h' with (h' | ⟨hl, h'⟩) | ⟨⟨hl, h'⟩, ht'⟩
      · exact .inl (.inl h')
      · exact .inl (.inr ⟨hl, h'⟩)
      · exact .inr ⟨⟨hl, h'⟩, compareFields_lt_trans fs gs hs ht ht'⟩

end

/-- Values are linearly ordered. -/
instance : Std.TransOrd Value where
  eq_swap {a b} := compare_swap a b
  isLE_trans {a b c} h h' := by
    rw [Ordering.isLE_iff_eq_lt_or_eq_eq] at h h' ⊢
    rcases h with h | h
    · rcases h' with h' | h'
      · exact .inl (compare_lt_trans a b c h h')
      · exact .inl ((compare_eq_iff b c).1 h' ▸ h)
    · obtain rfl := (compare_eq_iff a b).1 h
      exact h'

end AccessPolicy.Value
