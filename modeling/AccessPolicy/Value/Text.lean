/-
The text of a value, as it is shown to people.

* strings are quoted and escaped, and so are the keys of a record;
* a set stands in brackets and a record in braces, their members in ascending
  order with a comma and a blank between two;
* decimals and ranges of addresses are shown as calls of the functions that read
  them.
-/
import AccessPolicy.Value.Basic

namespace AccessPolicy.Value

mutual

/-- The text of a value. -/
def toText : Value → String
  | .bool b => if b then "true" else "false"
  | .long n => n.toText
  | .string s => Text.quoted s
  | .set xs => "[" ++ ", ".intercalate (elemTexts xs) ++ "]"
  | .record fs => "\x7b" ++ ", ".intercalate (fieldTexts fs) ++ "\x7d"
  | .entity uid => uid.toText
  | .decimal d => "decimal(\"" ++ d.toText ++ "\")"
  | .ip r => "ip(\"" ++ r.toText ++ "\")"

/-- The texts of the elements of a set. -/
def elemTexts : List Value → List String
  | [] => []
  | x :: xs => x.toText :: elemTexts xs

/-- The texts of the fields of a record. -/
def fieldTexts : List (String × Value) → List String
  | [] => []
  | (k, x) :: fs => (Text.quoted k ++ ": " ++ x.toText) :: fieldTexts fs

end

end AccessPolicy.Value
