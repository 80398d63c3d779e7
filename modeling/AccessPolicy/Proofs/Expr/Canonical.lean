/-
Values in expressions are in canonical form.

* `Expr.headOf?`, `Expr.operandsOf`: the name and the content of the JSON of an expression,
  and where the JSON of its operands stands;
* `Expr.Decoded`: an expression and the JSON that it was decoded from, one node deep
  (`decoded_of_ofJson?`). A literal is decoded as a value, and every other node has the
  operands that are decoded where they stand;
* `wellFormed_of_ofJson?`: the literals of a decoded expression are well-formed;
* `Expr.Overlong`: the JSON of an expression with a literal in which a range of addresses has
  too many bits; `ofJson?_eq_none_of_overlong` says that it is refused;
* `wellFormed_of_eval`: an evaluation over well-formed values gives well-formed values, for
  its rules make sets and records in canonical form and otherwise take values apart.
-/
import AccessPolicy.Proofs.Expr.Json
import AccessPolicy.Proofs.Value.Canonical

namespace AccessPolicy

namespace Expr

/-! ### Nodes -/

/-- The name and the content of the JSON of an expression. -/
def headOf? (j : Json) : Option (String × Json) := do
  let (name, c) ← (← j.member? 2 0 "kind").1.variant?
  return (name, c.1)

/-- The values of these keys, as far as they are there. -/
def valuesOf (keys : List String) (c : Json) : List Json :=
  keys.filterMap fun k => (c.field? k).map (·.1)

/-- The JSON of the operands of a node, by the name of the node and its content. -/
def operandsOf (name : String) (c : Json) : List Json :=
  match name with
  | "not" | "neg" => [c]
  | "and" | "or" | "binary_app" => valuesOf ["left", "right"] c
  | "if" => valuesOf ["cond", "then_expr", "else_expr"] c
  | "get_attr" | "has_attr" | "like" | "is" => valuesOf ["expr"] c
  | "is_in" => valuesOf ["expr", "in_expr"] c
  | "set" => c.arr?.getD []
  | "record" => (c.arr?.getD []).filterMap fun i => (pair? i).map (·.2.1)
  | "extension_call" => ((c.field? "args").bind (·.1.arr?)).getD []
  | _ => []

/-- An expression that is decoded from JSON, one node deep. -/
inductive Decoded (j : Json) : Expr → Prop
  | lit {c : Json} {v : Value} {loc : Option Loc} (hhead : headOf? j = some ("lit", c))
      (hread : Value.ofJson? c = some v) : Decoded j (.lit v loc)
  | node {name : String} {c : Json} {e : Expr} (hhead : headOf? j = some (name, c))
      (hname : name ≠ "lit") (hlit : ∀ v loc, e ≠ .lit v loc)
      (hread : (operandsOf name c).mapM ofJson? = some e.children) : Decoded j e

/-- Named expressions are read as their expressions are. -/
lemma mapM_pairs {is : List Json} {fs : List (String × Expr)}
    (h : is.mapM (fun i => (pair? i).bind fun p => (ofJson? p.2.1).bind fun e => some (p.1, e)) =
      some fs) :
    (is.filterMap fun i => (pair? i).map (·.2.1)).mapM ofJson? = some (fs.map (·.2)) := by
  have hread := Text.mapM_eq_some_iff.1 h
  clear h
  induction hread with
  | nil => rfl
  | cons hf _ ih =>
      obtain ⟨p, hp, hf⟩ := Option.bind_eq_some_iff.1 hf
      obtain ⟨e, he, hf⟩ := Option.bind_eq_some_iff.1 hf
      obtain rfl := Option.some.inj hf
      simp [hp, he, ih]

/-- **Whatever is decoded is decoded node by node.** -/
lemma decoded_of_ofJson? {j : Json} {e : Expr} (h : ofJson? j = some e) : Decoded j e := by
  rw [ofJson?] at h
  obtain ⟨⟨kind, below⟩, hkind, h⟩ := Option.bind_eq_some_iff.1 h
  obtain ⟨⟨name, c, below'⟩, hname, h⟩ := Option.bind_eq_some_iff.1 h
  obtain ⟨loc, -, h⟩ := Option.bind_eq_some_iff.1 h
  have hhead : headOf? j = some (name, c) := by simp [headOf?, hkind, hname]
  dsimp only at h
  -- One case for each name, in the order of `ofJson?`; those whose content has the same
  -- operands go together. The last one is an unknown name.
  split at h
  case h_17 => cases h
  all_goals
    simp only [Option.bind_eq_bind, Option.bind_eq_some_iff, Option.pure_def,
      Option.some.injEq] at h
  case h_1 => -- a literal
    obtain ⟨v, hv, rfl⟩ := h
    exact .lit hhead hv
  case h_2 => -- a variable
    obtain ⟨s, hs, x, hx, rfl⟩ := h
    exact .node hhead (by decide) (by simp) (by simp [operandsOf, children])
  case h_3 | h_4 => -- the connectives with two sides
    obtain ⟨⟨l, _⟩, hl, ⟨r, _⟩, hr, a, ha, b, hb, rfl⟩ := h
    exact .node hhead (by decide) (by simp)
      (by simp [operandsOf, valuesOf, hl, hr, ha, hb, children])
  case h_5 | h_6 => -- `not` and `neg`
    obtain ⟨a, ha, rfl⟩ := h
    exact .node hhead (by decide) (by simp) (by simp [operandsOf, ha, children])
  case h_7 => -- a binary operation
    obtain ⟨o, ho, s, hs, op, hop, ⟨l, _⟩, hl, ⟨r, _⟩, hr, a, ha, b, hb, rfl⟩ := h
    exact .node hhead (by decide) (by simp)
      (by simp [operandsOf, valuesOf, hl, hr, ha, hb, children])
  case h_8 => -- a conditional
    obtain ⟨⟨i, _⟩, hi, ⟨t, _⟩, ht, ⟨f, _⟩, hf, a, ha, b, hb, d, hd, rfl⟩ := h
    exact .node hhead (by decide) (by simp)
      (by simp [operandsOf, valuesOf, hi, ht, hf, ha, hb, hd, children])
  case h_9 | h_10 | h_11 | h_12 => -- `get_attr`, `has_attr`, `like` and `is`
    obtain ⟨⟨i, _⟩, hi, a, ha, ⟨t, _⟩, ht, s, hs, rfl⟩ := h
    exact .node hhead (by decide) (by simp) (by simp [operandsOf, valuesOf, hi, ha, children])
  case h_13 => -- `is_in`
    obtain ⟨⟨i, _⟩, hi, t, ht, s, hs, ⟨o, _⟩, ho, a, ha, b, hb, rfl⟩ := h
    exact .node hhead (by decide) (by simp)
      (by simp [operandsOf, valuesOf, hi, ho, ha, hb, children])
  case h_14 => -- a set
    obtain ⟨ms, hms, es, hes, rfl⟩ := h
    obtain ⟨is, rfl, hread⟩ := Json.exists_arr_of_items? ofJson? hms
    exact .node hhead (by decide) (by simp) (hread.symm.trans hes)
  case h_15 => -- a record
    obtain ⟨ms, hms, fs, hfs, rfl⟩ := h
    obtain ⟨is, rfl, hread⟩ := Json.exists_arr_of_items?
      (fun i => (pair? i).bind fun p => (ofJson? p.2.1).bind fun e => some (p.1, e)) hms
    exact .node hhead (by decide) (by simp) (mapM_pairs (hread.symm.trans hfs))
  case h_16 => -- a call
    obtain ⟨o, ho, fn, hfn, ⟨as, _⟩, has, ms, hms, es, hes, rfl⟩ := h
    obtain ⟨is, rfl, hread⟩ := Json.exists_arr_of_items? ofJson? hms
    refine .node hhead (by decide) (by simp) ?_
    rw [operandsOf, has]
    exact hread.symm.trans hes

/-! ### Decoding -/

/-- **Whatever JSON an expression is decoded from, its literals are well-formed.** -/
theorem wellFormed_of_ofJson? {j : Json} {e : Expr} (h : ofJson? j = some e) : e.WellFormed := by
  induction e using ind generalizing j with
  | h e ih =>
  intro v hv
  cases decoded_of_ofJson? h with
  | lit _ hread =>
      cases hv with
      | here => exact Value.wellFormed_of_ofJson? hread
      | inside hc => exact absurd hc List.not_mem_nil
  | node _ _ hlit hread =>
      cases hv with
      | here loc => exact absurd rfl (hlit v loc)
      | inside hc hv =>
          obtain ⟨i, -, hi⟩ := Text.exists_of_mem_mapM hread hc
          exact ih _ hc hi v hv

/-- The JSON of an expression with a literal that has, at some depth, a range with more bits
than its family. -/
inductive Overlong : Json → Prop
  | lit {j c : Json} (hhead : headOf? j = some ("lit", c)) (h : Value.Overlong c) : Overlong j
  | operand {j c i : Json} {name : String} (hhead : headOf? j = some (name, c))
      (hi : i ∈ operandsOf name c) (h : Overlong i) : Overlong j

/-- **An expression with such a literal is refused**, wherever the literal stands. -/
theorem ofJson?_eq_none_of_overlong {j : Json} (h : Overlong j) : ofJson? j = none := by
  induction h with
  | lit hhead h =>
      refine Option.eq_none_iff_forall_ne_some.2 fun e he => ?_
      cases decoded_of_ofJson? he with
      | lit hhead' hread =>
          obtain ⟨-, rfl⟩ := Prod.mk.inj (Option.some.inj (hhead.symm.trans hhead'))
          simp [Value.ofJson?_eq_none_of_overlong h] at hread
      | node hhead' hname =>
          obtain ⟨rfl, -⟩ := Prod.mk.inj (Option.some.inj (hhead.symm.trans hhead'))
          exact hname rfl
  | operand hhead hi _ ih =>
      refine Option.eq_none_iff_forall_ne_some.2 fun e he => ?_
      cases decoded_of_ofJson? he with
      | lit hhead' =>
          obtain ⟨rfl, rfl⟩ := Prod.mk.inj (Option.some.inj (hhead.symm.trans hhead'))
          exact absurd hi List.not_mem_nil
      | node hhead' _ _ hread =>
          obtain ⟨rfl, rfl⟩ := Prod.mk.inj (Option.some.inj (hhead.symm.trans hhead'))
          simp [Text.mapM_eq_none_of_mem hi ih] at hread

end Expr

/-! ### Evaluation -/

/-- The values that a request and a store bring into an evaluation are well-formed. -/
structure Env.WellFormed (env : Env) : Prop where
  context : (Value.record env.request.context).WellFormed
  attrs : ∀ uid key v, env.store.attribute? uid key = some v → v.WellFormed

/-- A value that a well-formed record holds is well-formed. -/
lemma Value.WellFormed.of_lookup {fs : Record} {key : String} {v : Value}
    (h : (Value.record fs).WellFormed) (hv : fs.lookup key = some v) : v.WellFormed := by
  rw [Value.WellFormed, Value.wellFormedFields_iff] at h
  exact h.2 (key, v) ((Ascending.mem_iff_lookup h.1.nodup_keys).2 hv)

/-- **No rule of a node spoils the canonical form.** -/
lemma Env.WellFormed.kept {env : Env} (h : env.WellFormed) : Kept Value.WellFormed env where
  var x := by
    cases x with
    | context => exact h.context
    | _ => simp [Env.var, Value.WellFormed]
  bool _ := by simp [Value.WellFormed]
  long _ := by simp [Value.WellFormed]
  decimal _ := by simp [Value.WellFormed]
  ip _ := by simp [Value.WellFormed]
  setOf hvs := Value.wellFormed_setOf hvs
  recordOf hps := Value.wellFormed_recordOf hps
  getAttribute key v hv := by
    refine yields_getAttribute ?_ ?_
    · rintro fs w rfl hk
      exact hv.of_lookup hk
    · rintro uid w - hk
      exact h.attrs uid key w hk

/-- **An evaluation over well-formed values gives a well-formed value.** -/
theorem Expr.wellFormed_of_eval {env : Env} {e : Expr} {v : Value} (henv : env.WellFormed)
    (he : e.WellFormed) (hv : e.eval env = .ok v) : v.WellFormed :=
  henv.kept.eval e he v hv

end AccessPolicy
