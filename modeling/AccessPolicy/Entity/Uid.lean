/-
Entity types and the identities of entities.

* `EntityType`: a path of names joined by double colons, such as `Infra::Host`;
  `isTypePath` is the grammar, which a type made elsewhere need not obey;
* `EntityUid`: a type and an id, ordered by type and then by id;
* `EntityUid.toText`: the type, a double colon and the quoted, escaped id;
* `EntityUid.ofText?`: reads that form between blanks. The quote that opens the
  id is the first one after a double colon, the one that closes it ends the
  text; the type is looked at before the id.
-/
import AccessPolicy.Text.Blank
import AccessPolicy.Text.Escape

namespace AccessPolicy

/-! ### Types -/

/-- A type of entities, given by its path. -/
structure EntityType where
  path : String
  deriving DecidableEq, Repr

/-- A character that a name in a path may begin with. -/
def isNameStart (c : Char) : Bool :=
  c.isAlpha || c == '_'

/-- A character that may stand in a name in a path. -/
def isNameChar (c : Char) : Bool :=
  c.isAlphanum || c == '_'

/-- One or more names joined by double colons; `inName` tells whether a name has
begun. -/
def isPathFrom (inName : Bool) : List Char → Bool
  | [] => inName
  | ':' :: ':' :: cs => inName && isPathFrom false cs
  | c :: cs => (if inName then isNameChar c else isNameStart c) && isPathFrom true cs

/-- The grammar of a type path. -/
def isTypePath (path : String) : Bool :=
  isPathFrom false path.toList

/-! ### Identities -/

/-- The identity of an entity: its type and its id. -/
structure EntityUid where
  type : EntityType
  id : String
  deriving DecidableEq, Repr

namespace EntityUid

/-- Identities are ordered by the path of the type and then by the id. -/
instance : Ord EntityUid where
  compare a b := (compare a.type.path b.type.path).then (compare a.id b.id)

/-- The text of an identity. -/
def toText (uid : EntityUid) : String :=
  uid.type.path ++ "::" ++ Text.quoted uid.id

/-- Why a text names no entity. -/
inductive ParseError where
  /-- No quote follows a double colon in the text. -/
  | missingId (text : String)
  /-- The text does not end in a quote. -/
  | unterminated (text : String)
  /-- The part before the id is no type path. -/
  | badType (path : String)
  /-- The id is not escaped as it should be. -/
  | badEscape (error : Text.EscapeError) (text : String)
  deriving DecidableEq, Repr

/-- The wording of a parse error. -/
def ParseError.message : ParseError → String
  | .missingId text => "missing quoted id in `" ++ text ++ "`"
  | .unterminated text => "unterminated id in `" ++ text ++ "`"
  | .badType path => "invalid entity type `" ++ path ++ "`"
  | .badEscape error text => error.message ++ " in `" ++ text ++ "`"

/-- Cuts a text at the first double colon that a quote follows. -/
def splitAtId : List Char → Option (List Char × List Char)
  | [] => none
  | ':' :: ':' :: '"' :: rest => some ([], rest)
  | c :: rest => (splitAtId rest).map fun (path, r) => (c :: path, r)

/-- The type with a path, if the path obeys the grammar. -/
def typeOfText? (path : String) : Except ParseError EntityType :=
  if isTypePath path then .ok ⟨path⟩ else .error (.badType path)

/-- The identity that a text names. -/
def ofText? (text : String) : Except ParseError EntityUid :=
  let cs := Text.trim text.toList
  let shown := String.ofList cs
  match splitAtId cs with
  | none => .error (.missingId shown)
  | some (path, rest) =>
    if rest.getLast? = some '"' then do
      let type ← typeOfText? (String.ofList path)
      match Text.unescape rest.dropLast with
      | .ok id => .ok ⟨type, String.ofList id⟩
      | .error e => .error (.badEscape e shown)
    else .error (.unterminated shown)

/-! ### The order -/

instance : Std.TransOrd EntityUid :=
  inferInstanceAs (Std.TransCmp (compareLex (compareOn fun u : EntityUid => u.type.path)
    (compareOn EntityUid.id)))

/-- Two identities compare as equal only if they are equal. -/
instance : Std.LawfulEqOrd EntityUid where
  compare_self {a} := Std.ReflCmp.compare_self
  eq_of_compare {a b} h := by
    change (compare a.type.path b.type.path).then (compare a.id b.id) = .eq at h
    rw [Ordering.then_eq_eq] at h
    obtain ⟨⟨p⟩, i⟩ := a
    obtain ⟨⟨q⟩, j⟩ := b
    simp only [EntityUid.mk.injEq, EntityType.mk.injEq]
    exact ⟨Std.LawfulEqCmp.eq_of_compare h.1, Std.LawfulEqCmp.eq_of_compare h.2⟩

end EntityUid

end AccessPolicy
