/-
Values as JSON.

* an identity is a structure of `type` and `id`, a range of addresses one of
  `addr` and `prefix`;
* a value is a structure of `type`, which names its kind, and `value`, whose
  shape depends on the kind; `tagOfJson?` reads the name;
* `Value.ofJson?` brings sets and records into canonical form, and refuses an
  integer that is no long and a range with more bits than its family has;
* a record by itself is an object with the keys of the record.
-/
import AccessPolicy.Json.Basic
import AccessPolicy.Value.Collection

namespace AccessPolicy

/-! ### Identities and ranges -/

/-- An identity as JSON. -/
def EntityUid.toJson (uid : EntityUid) : Json :=
  .obj [("type", .str uid.type.path), ("id", .str uid.id)]

/-- The identity that a JSON value stands for. -/
def EntityUid.ofJson? (j : Json) : Option EntityUid := do
  let type ← (← j.member? 2 0 "type").1.str?
  let id ← (← j.member? 2 1 "id").1.str?
  return ⟨⟨type⟩, id⟩

/-- A range as JSON. -/
def Ip.Range.toJson (r : Ip.Range) : Json :=
  .obj [("addr", .str r.address.toText), ("prefix", .int r.bits)]

/-- The range that a JSON value stands for. -/
def Ip.Range.ofJson? (j : Json) : Option Ip.Range := do
  let address ← Ip.Address.ofText? (← (← j.member? 2 0 "addr").1.str?)
  let bits ← (← j.member? 2 1 "prefix").1.intIn? 0 255
  (Ip.Range.make? address bits.toNat).toOption

/-! ### Values -/

namespace Value

/-- The two components of a value. -/
def tagged (kind : ValueKind) (content : Json) : Json :=
  .obj [("type", .str kind.name), ("value", content)]

mutual

/-- A value as JSON. -/
def toJson : Value → Json
  | .bool b => tagged .bool (.bool b)
  | .long n => tagged .long (.int n.toInt)
  | .string s => tagged .string (.str s)
  | .set xs => tagged .set (.arr (elemsToJson xs))
  | .record fs => tagged .record (.obj (fieldsToJson fs))
  | .entity uid => tagged .entity uid.toJson
  | .decimal d => tagged .decimal (.int d.scaled.toInt)
  | .ip r => tagged .ip r.toJson

/-- The elements of a set as JSON. -/
def elemsToJson : List Value → List Json
  | [] => []
  | x :: xs => x.toJson :: elemsToJson xs

/-- The fields of a record as JSON. -/
def fieldsToJson : List (String × Value) → List (String × Json)
  | [] => []
  | (k, x) :: fs => (k, x.toJson) :: fieldsToJson fs

end

/-- The long that a JSON value stands for. -/
def longOfJson? : Json → Option Long
  | .int n => Long.ofInt? n
  | _ => none

/-- The name of the kind of a value. As the first item of an array it stands alone;
in an object it may also be written as an alternative without content. -/
def tagOfJson? : Json → Option String
  | .arr items => do (← items.head?).str?
  | j => do (← j.field? "type").1.unit?

/-- The value that a JSON value stands for. -/
def ofJson? (j : Json) : Option Value := do
  let tag ← tagOfJson? j
  let ⟨content, below⟩ ← j.member? 2 1 "value"
  match tag with
  | "Bool" =>
    match content with
    | .bool b => some (.bool b)
    | _ => none
  | "Long" => (longOfJson? content).map .long
  | "String" => content.str?.map .string
  | "Set" => do
    let elems ← (← content.items?).mapM fun ⟨i, within⟩ =>
      have : sizeOf i < sizeOf j := Nat.lt_trans within below
      ofJson? i
    return setOf elems
  | "Record" => do
    let fields ← (← content.fields?).mapM fun (k, ⟨i, within⟩) => do
      have : sizeOf i < sizeOf j := Nat.lt_trans within below
      return (k, ← ofJson? i)
    return recordOf fields
  | "EntityUid" => (EntityUid.ofJson? content).map .entity
  | "Decimal" => (longOfJson? content).map fun n => .decimal ⟨n⟩
  | "IpAddr" => (Ip.Range.ofJson? content).map .ip
  | _ => none
termination_by sizeOf j

/-- Each element is written by itself. -/
theorem elemsToJson_eq_map (xs : List Value) : elemsToJson xs = xs.map toJson := by
  induction xs with
  | nil => rfl
  | cons x xs ih => rw [elemsToJson, ih, List.map_cons]

end Value

/-! ### Records -/

/-- A record as JSON, its keys as the keys of an object. -/
def Record.toJson (r : Record) : Json :=
  .obj (Value.fieldsToJson r)

/-- The record that a JSON object stands for. -/
def Record.ofJson? (j : Json) : Option Record := do
  let fields ← (← j.obj?).mapM fun (k, v) => return (k, ← Value.ofJson? v)
  return Ascending.ofPairs fields

end AccessPolicy
