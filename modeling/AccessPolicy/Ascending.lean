/-
Strictly ascending lists: finite sets and finite maps in a canonical form.

* `IsAscending`: each element is below all later ones, so none occurs twice;
* `insert`, `ofList`: a finite set as an ascending list; `mem_insert` and
  `mem_ofList` say what it holds, `isAscending_ofList` that it is canonical;
* `isSubset`, `isDisjoint`: two ascending lists compared in one pass through both;
* `put`, `ofPairs`: a finite map as a list of pairs with ascending keys, where
  the last value given for a key counts; `lookup_put_self`, `lookup_put_of_ne`
  and `keysAscending_ofPairs` are its laws.
-/

namespace AccessPolicy.Ascending

variable {α β : Type} [Ord α]

/-! ### Sets -/

/-- Each element is below all later ones. -/
def IsAscending (xs : List α) : Prop :=
  xs.Pairwise fun a b => compare a b = .lt

/-- Adds an element at its place; an equal element that is there already stays. -/
def insert (x : α) : List α → List α
  | [] => [x]
  | y :: ys =>
    match compare x y with
    | .lt => x :: y :: ys
    | .eq => y :: ys
    | .gt => y :: insert x ys

/-- The set of the elements of a list. -/
def ofList (xs : List α) : List α :=
  xs.foldl (fun acc x => insert x acc) []

/-- The elements from `x` on: those below it are skipped. -/
def skipBelow (x : α) (ys : List α) : List α :=
  ys.dropWhile fun y => compare y x == .lt

/-- Each element of the first list is found in the second, in one pass through both. -/
def isSubset : List α → List α → Bool
  | [], _ => true
  | x :: xs, ys =>
    match skipBelow x ys with
    | [] => false
    | y :: zs => compare x y == .eq && isSubset xs zs

/-- No element of the first list is found in the second, in one pass through both. -/
def isDisjoint : List α → List α → Bool
  | [], _ => true
  | x :: xs, ys =>
    match skipBelow x ys with
    | [] => true
    | y :: zs => compare x y != .eq && isDisjoint xs (y :: zs)

section

variable [Std.TransOrd α] [Std.LawfulEqOrd α]

omit [Std.TransOrd α] in
/-- Insertion adds the element and nothing else. -/
theorem mem_insert {x a : α} {xs : List α} : a ∈ insert x xs ↔ a = x ∨ a ∈ xs := by
  induction xs with
  | nil => simp [insert]
  | cons y ys ih =>
    unfold insert
    split
    · simp
    · rename_i h
      have hxy : x = y := Std.LawfulEqCmp.eq_of_compare h
      subst hxy
      simp
    · rw [List.mem_cons, ih, List.mem_cons]
      constructor
      · rintro (h | h | h)
        · exact .inr (.inl h)
        · exact .inl h
        · exact .inr (.inr h)
      · rintro (h | h | h)
        · exact .inr (.inl h)
        · exact .inl h
        · exact .inr (.inr h)

/-- Insertion keeps a list ascending. -/
theorem isAscending_insert (x : α) {xs : List α} (h : IsAscending xs) :
    IsAscending (insert x xs) := by
  induction xs with
  | nil => simp [insert, IsAscending]
  | cons y ys ih =>
    have hy := List.pairwise_cons.1 h
    unfold insert
    split
    · rename_i hlt
      refine List.pairwise_cons.2 ⟨fun a ha => ?_, h⟩
      rcases List.mem_cons.1 ha with rfl | ha
      · exact hlt
      · exact Std.TransCmp.lt_trans hlt (hy.1 a ha)
    · exact h
    · rename_i hgt
      refine List.pairwise_cons.2 ⟨fun a ha => ?_, ih hy.2⟩
      rcases mem_insert.1 ha with rfl | ha
      · exact Std.OrientedCmp.lt_of_gt hgt
      · exact hy.1 a ha

omit [Std.TransOrd α] in
/-- The members of a fold of insertions. -/
theorem mem_foldl_insert {a : α} (xs acc : List α) :
    a ∈ xs.foldl (fun acc x => insert x acc) acc ↔ a ∈ acc ∨ a ∈ xs := by
  induction xs generalizing acc with
  | nil => simp
  | cons x xs ih =>
    rw [List.foldl_cons, ih, mem_insert, List.mem_cons]
    constructor
    · rintro ((h | h) | h)
      · exact .inr (.inl h)
      · exact .inl h
      · exact .inr (.inr h)
    · rintro (h | h | h)
      · exact .inl (.inr h)
      · exact .inl (.inl h)
      · exact .inr h

omit [Std.TransOrd α] in
/-- The set of a list has the members of the list. -/
theorem mem_ofList {a : α} {xs : List α} : a ∈ ofList xs ↔ a ∈ xs := by
  rw [ofList, mem_foldl_insert]
  simp

/-- The set of a list is in canonical form. -/
theorem isAscending_ofList (xs : List α) : IsAscending (ofList xs) := by
  have h : ∀ acc : List α, IsAscending acc →
      IsAscending (xs.foldl (fun acc x => insert x acc) acc) := by
    induction xs with
    | nil => exact fun _ h => h
    | cons x xs ih => exact fun acc h => ih _ (isAscending_insert x h)
  exact h [] List.Pairwise.nil

end

/-! ### Maps -/

/-- The keys ascend. -/
def KeysAscending (ps : List (α × β)) : Prop :=
  ps.Pairwise fun p q => compare p.1 q.1 = .lt

/-- Sets the value of a key, at the place of the key. -/
def put (k : α) (v : β) : List (α × β) → List (α × β)
  | [] => [(k, v)]
  | (l, w) :: ps =>
    match compare k l with
    | .lt => (k, v) :: (l, w) :: ps
    | .eq => (k, v) :: ps
    | .gt => (l, w) :: put k v ps

/-- The map of a list of pairs; of two pairs with one key the later counts. -/
def ofPairs (ps : List (α × β)) : List (α × β) :=
  ps.foldl (fun acc p => put p.1 p.2 acc) []

section

variable [Std.TransOrd α] [Std.LawfulEqOrd α]

omit [Std.TransOrd α] [Std.LawfulEqOrd α] in
/-- A pair of the changed map is the one that was set or an old one. -/
theorem mem_of_mem_put {k : α} {v : β} {p : α × β} {ps : List (α × β)}
    (h : p ∈ put k v ps) : p = (k, v) ∨ p ∈ ps := by
  induction ps with
  | nil => exact .inl (List.mem_singleton.1 h)
  | cons q ps ih =>
    obtain ⟨l, w⟩ := q
    rw [put] at h
    split at h
    · exact List.mem_cons.1 h
    · rcases List.mem_cons.1 h with h | h
      · exact .inl h
      · exact .inr (List.mem_cons_of_mem _ h)
    · rcases List.mem_cons.1 h with rfl | h
      · exact .inr List.mem_cons_self
      · exact (ih h).imp_right (List.mem_cons_of_mem _)

omit [Std.TransOrd α] [Std.LawfulEqOrd α] in
/-- A pair of the map of a list of pairs is one of the list. -/
theorem mem_of_mem_ofPairs {p : α × β} {ps : List (α × β)} (h : p ∈ ofPairs ps) :
    p ∈ ps := by
  have key : ∀ acc : List (α × β),
      p ∈ ps.foldl (fun acc p => put p.1 p.2 acc) acc → p ∈ acc ∨ p ∈ ps := by
    clear h
    induction ps with
    | nil => exact fun _ h => .inl h
    | cons q ps ih =>
      intro acc h
      rcases ih _ h with h | h
      · rcases mem_of_mem_put h with rfl | h
        · exact .inr List.mem_cons_self
        · exact .inl h
      · exact .inr (List.mem_cons_of_mem _ h)
  rcases key [] h with h | h
  · exact absurd h (List.not_mem_nil)
  · exact h

/-- Setting a value keeps the keys ascending. -/
theorem keysAscending_put (k : α) (v : β) {ps : List (α × β)} (h : KeysAscending ps) :
    KeysAscending (put k v ps) := by
  induction ps with
  | nil => simp [put, KeysAscending]
  | cons q ps ih =>
    obtain ⟨l, w⟩ := q
    have hq := List.pairwise_cons.1 h
    rw [put]
    split
    · rename_i hlt
      refine List.pairwise_cons.2 ⟨fun p hp => ?_, h⟩
      rcases List.mem_cons.1 hp with rfl | hp
      · exact hlt
      · exact Std.TransCmp.lt_trans hlt (hq.1 p hp)
    · rename_i heq
      have hkl : k = l := Std.LawfulEqCmp.eq_of_compare heq
      subst hkl
      exact List.pairwise_cons.2 ⟨fun p hp => hq.1 p hp, hq.2⟩
    · rename_i hgt
      refine List.pairwise_cons.2 ⟨fun p hp => ?_, ih hq.2⟩
      rcases mem_of_mem_put hp with rfl | hp
      · exact Std.OrientedCmp.lt_of_gt hgt
      · exact hq.1 p hp

/-- The map of a list of pairs has ascending keys. -/
theorem keysAscending_ofPairs (ps : List (α × β)) : KeysAscending (ofPairs ps) := by
  have h : ∀ acc : List (α × β), KeysAscending acc →
      KeysAscending (ps.foldl (fun acc p => put p.1 p.2 acc) acc) := by
    induction ps with
    | nil => exact fun _ h => h
    | cons p ps ih => exact fun acc h => ih _ (keysAscending_put p.1 p.2 h)
  exact h [] List.Pairwise.nil

variable [BEq α] [LawfulBEq α]

omit [Std.TransOrd α] in
/-- The value that was set is the one that is found. -/
theorem lookup_put_self (k : α) (v : β) (ps : List (α × β)) :
    (put k v ps).lookup k = some v := by
  induction ps with
  | nil => simp [put]
  | cons q ps ih =>
    obtain ⟨l, w⟩ := q
    rw [put]
    split
    · simp
    · simp
    · rename_i hgt
      have hne : (k == l) = false := by
        rw [beq_eq_false_iff_ne]
        rintro rfl
        simp at hgt
      simp [List.lookup_cons, hne, ih]

omit [Std.TransOrd α] in
/-- Setting a value leaves the other keys alone. -/
theorem lookup_put_of_ne {k l : α} (h : l ≠ k) (v : β) (ps : List (α × β)) :
    (put k v ps).lookup l = ps.lookup l := by
  have hlk : (l == k) = false := beq_eq_false_iff_ne.2 h
  induction ps with
  | nil => simp [put, List.lookup_cons, hlk]
  | cons q ps ih =>
    obtain ⟨m, w⟩ := q
    rw [put]
    split
    · simp [List.lookup_cons, hlk]
    · rename_i heq
      have hkm : k = m := Std.LawfulEqCmp.eq_of_compare heq
      subst hkm
      simp [List.lookup_cons, hlk]
    · by_cases hlm : l = m
      · subst hlm
        simp
      · have hlm' : (l == m) = false := beq_eq_false_iff_ne.2 hlm
        simp [List.lookup_cons, hlm', ih]

end

end AccessPolicy.Ascending
