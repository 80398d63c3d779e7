/-
The evaluation of expressions.

* `Value.asBool` and its like: a value as the thing that a node needs;
* `BinaryOp.apply`, `ExtensionFn.apply`, `getAttribute`, `hasAttribute`,
  `likePattern`, `isInValue`: the rules of the nodes, on the values of their
  operands;
* `Expr.eval`: evaluation. Operands are evaluated from left to right and the
  first failure is the result; the connectives, the conditional and a type test
  with a container evaluate an operand only when its value counts;
* `located`: a failure without a position is blamed on the node it leaves, so
  that it carries the position of the innermost node that has one;
* `Expr.evalBool`: evaluation where a Boolean is needed.
-/
import AccessPolicy.Entity.Store
import AccessPolicy.Expr.Fault
import AccessPolicy.Request.Basic

namespace AccessPolicy

/-! ### What a value is needed as -/

namespace Value

/-- A value as a Boolean. -/
def asBool : Value → Except Fault Bool
  | .bool b => .ok b
  | v => .error (.typeMismatch .bool v.kind)

/-- A value as a long. -/
def asLong : Value → Except Fault Long
  | .long n => .ok n
  | v => .error (.typeMismatch .long v.kind)

/-- A value as a string. -/
def asString : Value → Except Fault String
  | .string s => .ok s
  | v => .error (.typeMismatch .string v.kind)

/-- A value as an identity. -/
def asEntity : Value → Except Fault EntityUid
  | .entity uid => .ok uid
  | v => .error (.typeMismatch .entity v.kind)

/-- A value as the elements of a set. -/
def asSet : Value → Except Fault (List Value)
  | .set xs => .ok xs
  | v => .error (.typeMismatch .set v.kind)

/-- A value as a decimal. -/
def asDecimal : Value → Except Fault Decimal
  | .decimal d => .ok d
  | v => .error (.typeMismatch .decimal v.kind)

/-- A value as a range of addresses. -/
def asIp : Value → Except Fault Ip.Range
  | .ip r => .ok r
  | v => .error (.typeMismatch .ip v.kind)

/-- An element of a set that may hold identities only. -/
def asMember : Value → Except Fault EntityUid
  | .entity uid => .ok uid
  | v => .error (.typeMismatch .entitySet v.kind)

end Value

/-! ### Rules of nodes -/

/-- Whether an identity lies in an entity, or in one of a set of entities. -/
def isInTarget (store : Store) (uid : EntityUid) : Value → Except Fault Value
  | .entity other => .ok (.bool (store.isIn uid other))
  | .set xs => do
    let others ← xs.mapM Value.asMember
    return .bool (others.any (store.isIn uid))
  | v => .error (.typeMismatch .entityOrSet v.kind)

/-- Whether a value lies in another. -/
def isInValue (store : Store) (a b : Value) : Except Fault Value := do
  let uid ← a.asEntity
  isInTarget store uid b

/-- An operator on the values of its operands. -/
def BinaryOp.apply (store : Store) : BinaryOp → Value → Value → Except Fault Value
  | .eq, a, b => .ok (.bool (a == b))
  | .notEq, a, b => .ok (.bool (a != b))
  | .compare c, a, b => do
    let m ← a.asLong
    let n ← b.asLong
    return .bool (c.holds (Ord.compare m.toInt n.toInt))
  | .arith op, a, b => do
    let m ← a.asLong
    let n ← b.asLong
    match op.result? m n with
    | some r => return .long r
    | none => .error (.overflow op m n)
  | .isIn, a, b => isInValue store a b
  | .contains, a, b => do
    let xs ← a.asSet
    return .bool (xs.contains b)
  | .containsAll, a, b => do
    let xs ← a.asSet
    let ys ← b.asSet
    return .bool (Value.containsAll xs ys)
  | .containsAny, a, b => do
    let xs ← a.asSet
    let ys ← b.asSet
    return .bool (Value.containsAny xs ys)

/-- The negation of a value. -/
def negate (v : Value) : Except Fault Value := do
  let n ← v.asLong
  match n.neg? with
  | some m => return .long m
  | none => .error (.negOverflow n)

/-- An attribute of a value. -/
def getAttribute (store : Store) (attr : String) : Value → Except Fault Value
  | .record fs =>
    match fs.lookup attr with
    | some v => .ok v
    | none => .error (.missingAttribute .record attr)
  | .entity uid =>
    if store.isPresent uid then
      match store.attribute? uid attr with
      | some v => .ok v
      | none => .error (.missingAttribute (.entity uid) attr)
    else .error (.missingEntity uid)
  | v => .error (.typeMismatch .recordOrEntity v.kind)

/-- Whether a value has an attribute. -/
def hasAttribute (store : Store) (attr : String) : Value → Except Fault Value
  | .record fs => .ok (.bool (fs.lookup attr).isSome)
  | .entity uid => .ok (.bool (store.hasAttribute uid attr))
  | v => .error (.typeMismatch .recordOrEntity v.kind)

/-- Whether a value matches the pattern that a source text writes. -/
def likePattern (source : String) (v : Value) : Except Fault Value := do
  let text ← v.asString
  match Pattern.ofText? source with
  | .ok p => return .bool (p.isMatch text)
  | .error e => .error (.malformedPattern e)

/-! ### Extension functions -/

/-- The argument of a function that takes one. -/
def ExtensionFn.argument (f : ExtensionFn) : List Value → Except Fault Value
  | [a] => .ok a
  | vs => .error (.arity f 1 vs.length)

/-- The arguments of a function that takes two. -/
def ExtensionFn.arguments (f : ExtensionFn) : List Value → Except Fault (Value × Value)
  | [a, b] => .ok (a, b)
  | vs => .error (.arity f 2 vs.length)

/-- A test of a range of addresses. -/
def ExtensionFn.ipTest (f : ExtensionFn) (test : Ip.Range → Bool) (vs : List Value) :
    Except Fault Value := do
  let a ← f.argument vs
  let r ← a.asIp
  return .bool (test r)

/-- A function on the values of its arguments. -/
def ExtensionFn.apply (f : ExtensionFn) (vs : List Value) : Except Fault Value :=
  match f with
  | .decimal => do
    let a ← f.argument vs
    let text ← a.asString
    match Decimal.ofText? text with
    | .ok d => return .decimal d
    | .error e => .error (.malformedDecimal e)
  | .ip => do
    let a ← f.argument vs
    let text ← a.asString
    match Ip.Range.ofText? text with
    | .ok r => return .ip r
    | .error e => .error (.malformedIp e)
  | .compare c => do
    let (a, b) ← f.arguments vs
    let x ← a.asDecimal
    let y ← b.asDecimal
    return .bool (c.holds (Ord.compare x y))
  | .isIpv4 => f.ipTest (fun r => r.address.isV4) vs
  | .isIpv6 => f.ipTest (fun r => !r.address.isV4) vs
  | .isLoopback => f.ipTest Ip.Range.isLoopback vs
  | .isMulticast => f.ipTest Ip.Range.isMulticast vs
  | .isInRange => do
    let (a, b) ← f.arguments vs
    let r ← a.asIp
    let s ← b.asIp
    return .bool (r.isIn s)

/-! ### Evaluation -/

/-- What an expression is evaluated against. -/
structure Env where
  request : Request
  store : Store

/-- The value of a variable. -/
def Env.var (env : Env) : Var → Value
  | .principal => .entity env.request.principal
  | .action => .entity env.request.action
  | .resource => .entity env.request.resource
  | .context => .record env.request.context

/-- The result of an evaluation. -/
abbrev Outcome := Except Failure

/-- A fault that the present node raises. -/
def raise {α : Type} (r : Except Fault α) : Outcome α :=
  r.mapError (⟨·, none⟩)

/-- The result of a node with a position. -/
def located {α : Type} (loc : Option Loc) (r : Outcome α) : Outcome α :=
  r.mapError (·.blame loc)

/-- The result of an operand with a position where a Boolean is needed. -/
def truth (loc : Option Loc) (r : Outcome Value) : Outcome Bool :=
  located loc (r >>= fun v => raise v.asBool)

namespace Expr

mutual

/-- The value of an expression. -/
def eval (env : Env) : Expr → Outcome Value
  | .lit v _ => .ok v
  | .var x _ => .ok (env.var x)
  | .and l r loc => located loc do
    let a ← truth l.loc (eval env l)
    if a then
      let b ← truth r.loc (eval env r)
      return .bool b
    else return .bool false
  | .or l r loc => located loc do
    let a ← truth l.loc (eval env l)
    if a then return .bool true
    else
      let b ← truth r.loc (eval env r)
      return .bool b
  | .not e loc => located loc do
    let a ← truth e.loc (eval env e)
    return .bool (!a)
  | .neg e loc => located loc do
    let a ← eval env e
    raise (negate a)
  | .binary op l r loc => located loc do
    let a ← eval env l
    let b ← eval env r
    raise (op.apply env.store a b)
  | .ite c t e loc => located loc do
    let a ← truth c.loc (eval env c)
    if a then eval env t else eval env e
  | .getAttr e attr loc => located loc do
    let a ← eval env e
    raise (getAttribute env.store attr a)
  | .hasAttr e attr loc => located loc do
    let a ← eval env e
    raise (hasAttribute env.store attr a)
  | .like e pattern loc => located loc do
    let a ← eval env e
    raise (likePattern pattern a)
  | .isType e type loc => located loc do
    let a ← eval env e
    let uid ← raise a.asEntity
    return .bool (uid.type == type)
  | .isTypeIn e type other loc => located loc do
    let a ← eval env e
    let uid ← raise a.asEntity
    if uid.type = type then
      let b ← eval env other
      raise (isInTarget env.store uid b)
    else return .bool false
  | .set es loc => located loc do
    let vs ← evalAll env es
    return Value.setOf vs
  | .record fs loc => located loc do
    let ps ← evalFields env fs
    return Value.recordOf ps
  | .call name args loc => located loc do
    match ExtensionFn.ofName? name with
    | none => raise (.error (.unknownExtension name))
    | some f =>
      let vs ← evalAll env args
      raise (f.apply vs)

/-- The values of expressions, from left to right. -/
def evalAll (env : Env) : List Expr → Outcome (List Value)
  | [] => .ok []
  | e :: es => do
    let v ← eval env e
    let vs ← evalAll env es
    return v :: vs

/-- The values of named expressions, from left to right. -/
def evalFields (env : Env) : List (String × Expr) → Outcome (List (String × Value))
  | [] => .ok []
  | (k, e) :: fs => do
    let v ← eval env e
    let ps ← evalFields env fs
    return (k, v) :: ps

end

/-- The value of an expression where a Boolean is needed. -/
def evalBool (env : Env) (e : Expr) : Outcome Bool :=
  truth e.loc (e.eval env)

end Expr

end AccessPolicy
