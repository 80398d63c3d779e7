/-
What goes wrong in an evaluation.

* `ErrorKind`, `EvalError`: the reported form of an error, a kind, a wording and
  the position it is blamed on;
* `Fault`: the cause that a node raises; `Fault.kind` and `Fault.detail` give
  its kind and its wording;
* `Failure`: a fault with the position of the innermost node around it that has
  one; `Failure.report` gives the reported form.
-/
import AccessPolicy.Expr.Basic
import AccessPolicy.Pattern

namespace AccessPolicy

/-! ### Reported errors -/

/-- The kind of an evaluation error. -/
inductive ErrorKind where
  | typeMismatch
  | overflow
  | missingAttribute
  | missingEntity
  | unknownExtension
  | malformedExtensionLiteral
  | malformedPattern
  deriving DecidableEq, Repr

namespace ErrorKind

/-- The kinds. -/
def all : List ErrorKind :=
  [typeMismatch, overflow, missingAttribute, missingEntity, unknownExtension,
    malformedExtensionLiteral, malformedPattern]

/-- The name of a kind. -/
def name : ErrorKind → String
  | typeMismatch => "type_mismatch"
  | overflow => "overflow"
  | missingAttribute => "missing_attribute"
  | missingEntity => "missing_entity"
  | unknownExtension => "unknown_extension"
  | malformedExtensionLiteral => "malformed_extension_literal"
  | malformedPattern => "malformed_pattern"

/-- The kind with a name. -/
def ofName? : String → Option ErrorKind := Text.named? all name

end ErrorKind

/-- An evaluation error as it is reported. -/
structure EvalError where
  kind : ErrorKind
  detail : String
  loc : Option Loc
  deriving DecidableEq, Repr

namespace EvalError

/-- The error at a position, unless it has one already. -/
def blame (e : EvalError) (loc : Option Loc) : EvalError :=
  { e with loc := e.loc.or loc }

/-- The text of an error, without its position. -/
def toText (e : EvalError) : String :=
  e.kind.name ++ ": " ++ e.detail

/-- A value is not of the kind that is needed. -/
def typeMismatch (expected actual : String) : EvalError :=
  ⟨.typeMismatch, "expected " ++ expected ++ ", got " ++ actual, none⟩

/-- The result of an operation on two longs is no long. -/
def overflow (verb : String) (a b : Long) : EvalError :=
  ⟨.overflow, "integer overflow while attempting to " ++ verb ++ " the values "
    ++ a.toText ++ " and " ++ b.toText, none⟩

/-- The owner has no such attribute. -/
def missingAttribute (owner attr : String) : EvalError :=
  ⟨.missingAttribute, owner ++ " does not have the attribute `" ++ attr ++ "`", none⟩

/-- The entity is not present. -/
def missingEntity (uid : String) : EvalError :=
  ⟨.missingEntity, "entity `" ++ uid ++ "` does not exist", none⟩

end EvalError

/-! ### Faults -/

/-- What a node needs an operand to be. -/
inductive Expected where
  | bool
  | long
  | string
  | entity
  | set
  | decimal
  | ip
  | entitySet
  | entityOrSet
  | recordOrEntity
  deriving DecidableEq, Repr

/-- The words for what is needed. -/
def Expected.words : Expected → String
  | bool => "bool"
  | long => "long"
  | string => "string"
  | entity => "entity"
  | set => "set"
  | decimal => "decimal"
  | ip => "ipaddr"
  | entitySet => "set of entities"
  | entityOrSet => "entity or set of entities"
  | recordOrEntity => "record or entity"

/-- What lacks an attribute. -/
inductive Owner where
  | record
  | entity (uid : EntityUid)
  deriving DecidableEq, Repr

/-- The words for what lacks an attribute. -/
def Owner.words : Owner → String
  | record => "record"
  | entity uid => uid.toText

/-- The cause of a failed evaluation. -/
inductive Fault where
  /-- An operand is of the wrong kind. -/
  | typeMismatch (expected : Expected) (actual : ValueKind)
  /-- A function is called with the wrong number of arguments. -/
  | arity (f : ExtensionFn) (takes got : Nat)
  /-- The negation of a long is no long. -/
  | negOverflow (n : Long)
  /-- The result of an operation on two longs is no long. -/
  | overflow (op : Arith) (a b : Long)
  /-- A record or a present entity lacks an attribute. -/
  | missingAttribute (owner : Owner) (attr : String)
  /-- An attribute is asked of an entity that is not present. -/
  | missingEntity (uid : EntityUid)
  /-- No function has this name. -/
  | unknownExtension (name : String)
  /-- The text of a decimal cannot be read. -/
  | malformedDecimal (error : Decimal.ParseError)
  /-- The text of a range of addresses cannot be read. -/
  | malformedIp (error : Ip.Range.ParseError)
  /-- The text of a pattern cannot be read. -/
  | malformedPattern (error : Pattern.ParseError)
  deriving DecidableEq

namespace Fault

/-- The kind of a fault. -/
def kind : Fault → ErrorKind
  | typeMismatch .. => .typeMismatch
  | arity .. => .typeMismatch
  | negOverflow .. => .overflow
  | overflow .. => .overflow
  | missingAttribute .. => .missingAttribute
  | missingEntity .. => .missingEntity
  | unknownExtension .. => .unknownExtension
  | malformedDecimal .. => .malformedExtensionLiteral
  | malformedIp .. => .malformedExtensionLiteral
  | malformedPattern .. => .malformedPattern

/-- The wording of a fault. -/
def detail : Fault → String
  | typeMismatch expected actual =>
    (EvalError.typeMismatch expected.words actual.name).detail
  | arity f takes got =>
    "`" ++ f.name ++ "` takes " ++ toString takes ++ " argument(s), got " ++ toString got
  | negOverflow n => "integer overflow while attempting to negate the value " ++ n.toText
  | overflow op a b => (EvalError.overflow op.verb a b).detail
  | missingAttribute owner attr => (EvalError.missingAttribute owner.words attr).detail
  | missingEntity uid => (EvalError.missingEntity uid.toText).detail
  | unknownExtension name => "no extension function named `" ++ name ++ "`"
  | malformedDecimal error => "`" ++ ExtensionFn.name .decimal ++ "`: " ++ error.message
  | malformedIp error => "`" ++ ExtensionFn.name .ip ++ "`: " ++ error.message
  | malformedPattern error => error.message

end Fault

/-! ### Failures -/

/-- A fault and the position it is blamed on. -/
structure Failure where
  fault : Fault
  loc : Option Loc
  deriving DecidableEq

namespace Failure

/-- The failure at a position, unless it has one already. -/
def blame (f : Failure) (loc : Option Loc) : Failure :=
  { f with loc := f.loc.or loc }

/-- The reported form of a failure. -/
def report (f : Failure) : EvalError :=
  ⟨f.fault.kind, f.fault.detail, f.loc⟩

end Failure

end AccessPolicy
