/-
The expressions in the conditions of policies.

* `Loc`: a position in a source text;
* `Var`, `Comparison`, `Arith`, `BinaryOp`, `ExtensionFn`: the vocabularies;
* `Expr`: an expression, in which every node may carry its position. The two
  connectives and the conditional are nodes of their own, for they do not always
  evaluate all their operands.

The right operand of `like` is kept as source text, and a call keeps the name of
its function, so that both may be wrong; evaluation finds out.
-/
import AccessPolicy.Text.Name
import AccessPolicy.Value.Basic

namespace AccessPolicy

/-- A position in a source text. -/
structure Loc where
  line : UInt32
  column : UInt32
  deriving DecidableEq, Repr

/-- A position as text. -/
def Loc.toText (l : Loc) : String :=
  toString l.line.toNat ++ ":" ++ toString l.column.toNat

/-! ### Vocabularies -/

/-- A variable of a request. -/
inductive Var where
  | principal
  | action
  | resource
  | context
  deriving DecidableEq, Repr

namespace Var

/-- The variables. -/
def all : List Var := [principal, action, resource, context]

/-- The name of a variable. -/
def name : Var → String
  | principal => "principal"
  | action => "action"
  | resource => "resource"
  | context => "context"

/-- The variable with a name. -/
def ofName? : String → Option Var := Text.named? all name

end Var

/-- A comparison of two members of a linear order. -/
inductive Comparison where
  | less
  | lessEq
  | greater
  | greaterEq
  deriving DecidableEq, Repr

/-- The comparison holds of two members in a given order. -/
def Comparison.holds : Comparison → Ordering → Bool
  | less, o => o == .lt
  | lessEq, o => o != .gt
  | greater, o => o == .gt
  | greaterEq, o => o != .lt

/-- An operation on two longs. -/
inductive Arith where
  | add
  | sub
  | mul
  deriving DecidableEq, Repr

namespace Arith

/-- The verb for an operation. -/
def verb : Arith → String
  | add => "add"
  | sub => "subtract"
  | mul => "multiply"

/-- The exact result of an operation, if it is a long. -/
def result? : Arith → Long → Long → Option Long
  | add => Long.add?
  | sub => Long.sub?
  | mul => Long.mul?

end Arith

/-- An operator that evaluates both its operands. -/
inductive BinaryOp where
  | eq
  | notEq
  | compare (c : Comparison)
  | arith (a : Arith)
  | isIn
  | contains
  | containsAll
  | containsAny
  deriving DecidableEq, Repr

namespace BinaryOp

/-- The operators. -/
def all : List BinaryOp :=
  [eq, notEq, compare .less, compare .lessEq, compare .greater, compare .greaterEq,
    arith .add, arith .sub, arith .mul, isIn, contains, containsAll, containsAny]

/-- The name of an operator. -/
def name : BinaryOp → String
  | eq => "Eq"
  | notEq => "NotEq"
  | compare .less => "Less"
  | compare .lessEq => "LessEq"
  | compare .greater => "Greater"
  | compare .greaterEq => "GreaterEq"
  | arith .add => "Add"
  | arith .sub => "Sub"
  | arith .mul => "Mul"
  | isIn => "In"
  | contains => "Contains"
  | containsAll => "ContainsAll"
  | containsAny => "ContainsAny"

/-- The operator with a name. -/
def ofName? : String → Option BinaryOp := Text.named? all name

end BinaryOp

/-- A function of the extension types. -/
inductive ExtensionFn where
  /-- Reads a decimal. -/
  | decimal
  /-- Reads a range of addresses. -/
  | ip
  /-- Compares two decimals. -/
  | compare (c : Comparison)
  | isIpv4
  | isIpv6
  | isLoopback
  | isMulticast
  | isInRange
  deriving DecidableEq, Repr

namespace ExtensionFn

/-- The functions. -/
def all : List ExtensionFn :=
  [decimal, ip, compare .less, compare .lessEq, compare .greater, compare .greaterEq,
    isIpv4, isIpv6, isLoopback, isMulticast, isInRange]

/-- The name of a function. -/
def name : ExtensionFn → String
  | decimal => "decimal"
  | ip => "ip"
  | compare .less => "lessThan"
  | compare .lessEq => "lessThanOrEqual"
  | compare .greater => "greaterThan"
  | compare .greaterEq => "greaterThanOrEqual"
  | isIpv4 => "isIpv4"
  | isIpv6 => "isIpv6"
  | isLoopback => "isLoopback"
  | isMulticast => "isMulticast"
  | isInRange => "isInRange"

/-- The function with a name. -/
def ofName? : String → Option ExtensionFn := Text.named? all name

end ExtensionFn

/-! ### Expressions -/

/-- An expression; the last component of each node is its position, if known. -/
inductive Expr where
  | lit (v : Value) (loc : Option Loc)
  | var (x : Var) (loc : Option Loc)
  | and (left right : Expr) (loc : Option Loc)
  | or (left right : Expr) (loc : Option Loc)
  | not (e : Expr) (loc : Option Loc)
  | neg (e : Expr) (loc : Option Loc)
  | binary (op : BinaryOp) (left right : Expr) (loc : Option Loc)
  | ite (cond thenExpr elseExpr : Expr) (loc : Option Loc)
  | getAttr (e : Expr) (attr : String) (loc : Option Loc)
  | hasAttr (e : Expr) (attr : String) (loc : Option Loc)
  | like (e : Expr) (pattern : String) (loc : Option Loc)
  | isType (e : Expr) (type : EntityType) (loc : Option Loc)
  | isTypeIn (e : Expr) (type : EntityType) (other : Expr) (loc : Option Loc)
  | set (elems : List Expr) (loc : Option Loc)
  | record (fields : List (String × Expr)) (loc : Option Loc)
  | call (name : String) (args : List Expr) (loc : Option Loc)

/-- The position of an expression. -/
def Expr.loc : Expr → Option Loc
  | .lit _ l | .var _ l | .and _ _ l | .or _ _ l | .not _ l | .neg _ l | .binary _ _ _ l
  | .ite _ _ _ l | .getAttr _ _ l | .hasAttr _ _ l | .like _ _ l | .isType _ _ l
  | .isTypeIn _ _ _ l | .set _ l | .record _ l | .call _ _ l => l

/-- The expression at another position. -/
def Expr.withLoc (e : Expr) (loc : Option Loc) : Expr :=
  match e with
  | .lit v _ => .lit v loc
  | .var x _ => .var x loc
  | .and l r _ => .and l r loc
  | .or l r _ => .or l r loc
  | .not a _ => .not a loc
  | .neg a _ => .neg a loc
  | .binary op l r _ => .binary op l r loc
  | .ite c t f _ => .ite c t f loc
  | .getAttr a attr _ => .getAttr a attr loc
  | .hasAttr a attr _ => .hasAttr a attr loc
  | .like a pattern _ => .like a pattern loc
  | .isType a type _ => .isType a type loc
  | .isTypeIn a type other _ => .isTypeIn a type other loc
  | .set elems _ => .set elems loc
  | .record fields _ => .record fields loc
  | .call name args _ => .call name args loc

end AccessPolicy
