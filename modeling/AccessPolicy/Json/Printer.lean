/-
The compact text of a JSON value: no blanks, fields in their order.

* `write j rest`: the text of `j` in front of `rest`;
* `render`: the text of a value;
* in a string only the double quote, the backslash and the characters below
  U+0020 are escaped, five of them by a letter and the others by four
  hexadecimal digits.
-/
import AccessPolicy.Json.Basic

namespace AccessPolicy.Json

/-! ### Strings -/

/-- The characters that are escaped by one letter or sign. -/
def shortEscapes : List (Char × Char) :=
  [('"', '"'), ('\\', '\\'), ('\x08', 'b'), ('\t', 't'), ('\n', 'n'), ('\x0c', 'f'),
    ('\r', 'r')]

/-- A control character by its code point, four hexadecimal digits long. -/
def unicodeEscape (c : Char) : List Char :=
  '\\' :: 'u' :: (Nat.toDigits 16 c.toNat).leftpad 4 '0'

/-- One character of a string. -/
def writeChar (c : Char) : List Char :=
  match shortEscapes.lookup c with
  | some e => ['\\', e]
  | none => if c.toNat < 0x20 then unicodeEscape c else [c]

/-- A string in double quotes, in front of `rest`. -/
def writeString (s : String) (rest : List Char) : List Char :=
  '"' :: (s.toList.flatMap writeChar ++ '"' :: rest)

/-! ### Values -/

mutual

/-- The text of a value, in front of `rest`. -/
def write : Json → List Char → List Char
  | .null, rest => "null".toList ++ rest
  | .bool true, rest => "true".toList ++ rest
  | .bool false, rest => "false".toList ++ rest
  | .int n, rest => (toString n).toList ++ rest
  | .real text, rest => text.toList ++ rest
  | .str s, rest => writeString s rest
  | .arr [], rest => '[' :: ']' :: rest
  | .arr (i :: is), rest => '[' :: write i (writeItems is rest)
  | .obj [], rest => '\x7b' :: '\x7d' :: rest
  | .obj ((k, v) :: fs), rest =>
    '\x7b' :: writeString k (':' :: write v (writeFields fs rest))

/-- The items after the first and the bracket that closes them. -/
def writeItems : List Json → List Char → List Char
  | [], rest => ']' :: rest
  | i :: is, rest => ',' :: write i (writeItems is rest)

/-- The fields after the first and the brace that closes them. -/
def writeFields : List (String × Json) → List Char → List Char
  | [], rest => '\x7d' :: rest
  | (k, v) :: fs, rest =>
    ',' :: writeString k (':' :: write v (writeFields fs rest))

end

/-- The compact text of a value. -/
def render (j : Json) : String :=
  String.ofList (write j [])

end AccessPolicy.Json
