/-
JSON values.

* `Json`: the tree of a JSON text. A number that is written as an integer is
  told apart from every other number, because the formats built on this tree
  hold integers only;
* `Json.field?`: the value of a key of an object;
* `Json.member?`: a component of a structure, which is either an object, where
  the component has a name, or an array, where it has a position;
  `Json.memberOr` reads one that may be left out;
* `Json.variant?`: an alternative with a content, an object with one key, and
  `Json.unit?`: an alternative without content, its name alone or an object
  that gives the name the value null;
* each of these returns a smaller tree, as its type records, so that a reader
  that descends through them ends.
-/

namespace AccessPolicy

/-- The tree of a JSON text. -/
inductive Json where
  | null
  | bool (b : Bool)
  /-- A number written as an integer. -/
  | int (n : Int)
  /-- A number with a fraction or an exponent, or a negative zero, as written. -/
  | real (text : String)
  | str (s : String)
  | arr (items : List Json)
  | obj (fields : List (String × Json))
  deriving Repr, Inhabited

namespace Json

/-! ### Scalars -/

/-- The text of a string. -/
def str? : Json → Option String
  | .str s => some s
  | _ => none

/-- The integer between two bounds, ends included. -/
def intIn? (lo hi : Int) : Json → Option Int
  | .int n => if lo ≤ n ∧ n ≤ hi then some n else none
  | _ => none

/-- The items of an array. -/
def arr? : Json → Option (List Json)
  | .arr items => some items
  | _ => none

/-- The fields of an object. -/
def obj? : Json → Option (List (String × Json))
  | .obj fields => some fields
  | _ => none

/-- The name of an alternative without content. -/
def unit? : Json → Option String
  | .str s => some s
  | .obj [(s, .null)] => some s
  | _ => none

/-! ### Components, with their sizes -/

/-- A tree below another one. -/
abbrev Below (j : Json) : Type := { i : Json // sizeOf i < sizeOf j }

/-- A value found by its key is smaller than the object. -/
theorem sizeOf_lookup_lt {k : String} {v : Json} {fields : List (String × Json)}
    (h : fields.lookup k = some v) : sizeOf v < sizeOf (Json.obj fields) := by
  induction fields with
  | nil => simp at h
  | cons p ps ih =>
    obtain ⟨l, w⟩ := p
    rw [List.lookup_cons] at h
    split at h
    · obtain rfl := Option.some.inj h
      simp only [obj.sizeOf_spec, List.cons.sizeOf_spec, Prod.mk.sizeOf_spec]
      omega
    · have := ih h
      simp only [obj.sizeOf_spec, List.cons.sizeOf_spec] at this ⊢
      omega

/-- An item found by its position is smaller than the array. -/
theorem sizeOf_getElem?_lt {n : Nat} {v : Json} {items : List Json}
    (h : items[n]? = some v) : sizeOf v < sizeOf (Json.arr items) := by
  have := List.sizeOf_lt_of_mem (List.mem_of_getElem? h)
  simp only [arr.sizeOf_spec]
  omega

/-- A field found by its key, known to be smaller than the object. -/
def fieldBelow? (fields : List (String × Json)) (k : String) : Option (Below (.obj fields)) :=
  match h : fields.lookup k with
  | some v => some ⟨v, sizeOf_lookup_lt h⟩
  | none => none

/-- An item found by its position, known to be smaller than the array. -/
def itemBelow? (items : List Json) (n : Nat) : Option (Below (.arr items)) :=
  match h : items[n]? with
  | some v => some ⟨v, sizeOf_getElem?_lt h⟩
  | none => none

/-- The value of a key of an object. -/
def field? : (j : Json) → String → Option (Below j)
  | .obj fields, k => fieldBelow? fields k
  | _, _ => none

/-- The component of a structure with a position and a name; an array stands for a
structure if it has no more items than the structure has components. -/
def member? (arity position : Nat) (name : String) : (j : Json) → Option (Below j)
  | .obj fields => fieldBelow? fields name
  | .arr items => if items.length ≤ arity then itemBelow? items position else none
  | _ => none

/-- A component that may be left out, with the value that it has then. -/
def memberOr {α : Type} (j : Json) (arity position : Nat) (name : String)
    (default : α) (read : Json → Option α) : Option α :=
  match j.member? arity position name with
  | some ⟨v, _⟩ => read v
  | none => some default

/-- The name and the content of an alternative. -/
def variant? (j : Json) : Option (String × Below j) :=
  match j with
  | .obj [(name, v)] => some (name, ⟨v, by simp; omega⟩)
  | _ => none

/-- The items of an array, each known to be smaller than the array. -/
def items? (j : Json) : Option (List (Below j)) :=
  match j with
  | .arr items => some (items.attach.map fun ⟨v, h⟩ =>
      ⟨v, by have := List.sizeOf_lt_of_mem h; simp only [arr.sizeOf_spec]; omega⟩)
  | _ => none

/-- The fields of an object, each value known to be smaller than the object. -/
def fields? (j : Json) : Option (List (String × Below j)) :=
  match j with
  | .obj fields => some (fields.attach.map fun ⟨(k, v), h⟩ =>
      (k, ⟨v, by
        have := List.sizeOf_lt_of_mem h
        simp only [obj.sizeOf_spec, Prod.mk.sizeOf_spec] at this ⊢
        omega⟩))
  | _ => none

/-! ### What the components are -/

/-- The field with a key is the one that the fields give the key. -/
theorem map_fieldBelow? (fields : List (String × Json)) (k : String) :
    (fieldBelow? fields k).map (·.1) = fields.lookup k := by
  unfold fieldBelow?
  split
  · rename_i v h
    exact h.symm
  · rename_i h
    exact h.symm

/-- The items of an array are its items. -/
theorem map_items? (items : List Json) :
    ((Json.arr items).items?).map (·.map (·.1)) = some items := by
  simp only [items?, Option.map_some, List.map_map]
  exact congrArg some (List.attach_map_subtype_val items)

end Json

end AccessPolicy
