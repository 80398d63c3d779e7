/-
Expressions as JSON.

* a position is a structure of `line` and `column`;
* an expression is a structure of `kind` and, if it has a position, `loc`;
* the kind is an alternative: its name and its content, which holds the operands
  by name, or in a list where their number is free;
* the fields of a record expression are a list of pairs, for their order counts.
-/
import AccessPolicy.Expr.Basic
import AccessPolicy.Value.Json

namespace AccessPolicy

/-! ### Positions -/

/-- A position as JSON. -/
def Loc.toJson (l : Loc) : Json :=
  .obj [("line", .int l.line.toNat), ("column", .int l.column.toNat)]

/-- The position that a JSON value stands for. -/
def Loc.ofJson? (j : Json) : Option Loc := do
  let line ← (← j.member? 2 0 "line").1.intIn? 0 4294967295
  let column ← (← j.member? 2 1 "column").1.intIn? 0 4294967295
  return ⟨.ofNat line.toNat, .ofNat column.toNat⟩

/-- A position that may be left out: the component is absent without one. -/
def Loc.fields : Option Loc → List (String × Json)
  | none => []
  | some l => [("loc", l.toJson)]

/-- A position that may be left out or null. -/
def Loc.optional? : Option Json → Option (Option Loc)
  | none => some none
  | some .null => some none
  | some j => (Loc.ofJson? j).map some

/-! ### Writing -/

namespace Expr

/-- An expression with a name, a content and a position. -/
def node (name : String) (content : Json) (loc : Option Loc) : Json :=
  .obj (("kind", .obj [(name, content)]) :: Loc.fields loc)

mutual

/-- An expression as JSON. -/
def toJson : Expr → Json
  | .lit v loc => node "lit" v.toJson loc
  | .var x loc => node "var" (.str x.name) loc
  | .and l r loc => node "and" (.obj [("left", l.toJson), ("right", r.toJson)]) loc
  | .or l r loc => node "or" (.obj [("left", l.toJson), ("right", r.toJson)]) loc
  | .not e loc => node "not" e.toJson loc
  | .neg e loc => node "neg" e.toJson loc
  | .binary op l r loc =>
    node "binary_app"
      (.obj [("op", .str op.name), ("left", l.toJson), ("right", r.toJson)]) loc
  | .ite c t e loc =>
    node "if"
      (.obj [("cond", c.toJson), ("then_expr", t.toJson), ("else_expr", e.toJson)]) loc
  | .getAttr e attr loc => node "get_attr" (.obj [("expr", e.toJson), ("attr", .str attr)]) loc
  | .hasAttr e attr loc => node "has_attr" (.obj [("expr", e.toJson), ("attr", .str attr)]) loc
  | .like e pattern loc =>
    node "like" (.obj [("expr", e.toJson), ("pattern", .str pattern)]) loc
  | .isType e type loc =>
    node "is" (.obj [("expr", e.toJson), ("entity_type", .str type.path)]) loc
  | .isTypeIn e type other loc =>
    node "is_in"
      (.obj [("expr", e.toJson), ("entity_type", .str type.path),
        ("in_expr", other.toJson)]) loc
  | .set es loc => node "set" (.arr (listToJson es)) loc
  | .record fs loc => node "record" (.arr (pairsToJson fs)) loc
  | .call name args loc =>
    node "extension_call" (.obj [("name", .str name), ("args", .arr (listToJson args))]) loc

/-- Expressions in a list as JSON. -/
def listToJson : List Expr → List Json
  | [] => []
  | e :: es => e.toJson :: listToJson es

/-- Named expressions in a list as JSON. -/
def pairsToJson : List (String × Expr) → List Json
  | [] => []
  | (k, e) :: fs => .arr [.str k, e.toJson] :: pairsToJson fs

end

/-! ### Reading -/

/-- A name with something else, as an array of two. -/
def pair? (j : Json) : Option (String × Json.Below j) :=
  match j with
  | .arr [.str k, v] => some (k, ⟨v, by simp; omega⟩)
  | _ => none

/-- The expression that a JSON value stands for. -/
def ofJson? (j : Json) : Option Expr := do
  let ⟨kind, _⟩ ← j.member? 2 0 "kind"
  let (name, ⟨c, _⟩) ← kind.variant?
  let loc ← Loc.optional? ((j.member? 2 1 "loc").map (·.1))
  match name with
  | "lit" => return .lit (← Value.ofJson? c) loc
  | "var" => return .var (← Var.ofName? (← c.unit?)) loc
  | "and" => do
    let ⟨l, _⟩ ← c.field? "left"
    let ⟨r, _⟩ ← c.field? "right"
    return .and (← ofJson? l) (← ofJson? r) loc
  | "or" => do
    let ⟨l, _⟩ ← c.field? "left"
    let ⟨r, _⟩ ← c.field? "right"
    return .or (← ofJson? l) (← ofJson? r) loc
  | "not" => return .not (← ofJson? c) loc
  | "neg" => return .neg (← ofJson? c) loc
  | "binary_app" => do
    let op ← BinaryOp.ofName? (← (← c.field? "op").1.unit?)
    let ⟨l, _⟩ ← c.field? "left"
    let ⟨r, _⟩ ← c.field? "right"
    return .binary op (← ofJson? l) (← ofJson? r) loc
  | "if" => do
    let ⟨i, _⟩ ← c.field? "cond"
    let ⟨t, _⟩ ← c.field? "then_expr"
    let ⟨e, _⟩ ← c.field? "else_expr"
    return .ite (← ofJson? i) (← ofJson? t) (← ofJson? e) loc
  | "get_attr" => do
    let ⟨e, _⟩ ← c.field? "expr"
    return .getAttr (← ofJson? e) (← (← c.field? "attr").1.str?) loc
  | "has_attr" => do
    let ⟨e, _⟩ ← c.field? "expr"
    return .hasAttr (← ofJson? e) (← (← c.field? "attr").1.str?) loc
  | "like" => do
    let ⟨e, _⟩ ← c.field? "expr"
    return .like (← ofJson? e) (← (← c.field? "pattern").1.str?) loc
  | "is" => do
    let ⟨e, _⟩ ← c.field? "expr"
    return .isType (← ofJson? e) ⟨← (← c.field? "entity_type").1.str?⟩ loc
  | "is_in" => do
    let ⟨e, _⟩ ← c.field? "expr"
    let type ← (← c.field? "entity_type").1.str?
    let ⟨o, _⟩ ← c.field? "in_expr"
    return .isTypeIn (← ofJson? e) ⟨type⟩ (← ofJson? o) loc
  | "set" => do
    let es ← (← c.items?).mapM fun ⟨i, _⟩ => ofJson? i
    return .set es loc
  | "record" => do
    let fs ← (← c.items?).mapM fun ⟨i, _⟩ => do
      let (k, ⟨e, _⟩) ← pair? i
      return (k, ← ofJson? e)
    return .record fs loc
  | "extension_call" => do
    let fn ← (← c.field? "name").1.str?
    let ⟨as, _⟩ ← c.field? "args"
    let args ← (← as.items?).mapM fun ⟨i, _⟩ => ofJson? i
    return .call fn args loc
  | _ => none
termination_by sizeOf j
decreasing_by all_goals omega

/-- Each expression in a list is written by itself. -/
theorem listToJson_eq_map (es : List Expr) : listToJson es = es.map toJson := by
  induction es with
  | nil => rfl
  | cons e es ih => rw [listToJson, ih, List.map_cons]

end Expr

end AccessPolicy
