/-
Reading JSON text.

A text is cut into tokens, and the tokens drive a machine whose stack holds the
arrays and objects that are still open, so that reading is one fold.

* `Token`, `tokens?`: the cut; strings are decoded and numbers are checked
  against their grammar on the way;
* `State`, `State.step`: the machine; each token is either taken or refused;
* `parse?`: the value of a text. Of two fields with one key the later counts,
  and the fields come out in the order of their keys;
* `decodeString?`: the text between two quotes; a code point escape may be half
  of a surrogate pair, and half a pair alone is refused.
-/
import AccessPolicy.Ascending
import AccessPolicy.Json.Printer
import AccessPolicy.Text.Digits

namespace AccessPolicy.Json

/-! ### Strings -/

/-- Cuts a text at the first double quote that no backslash announces. -/
def splitString : List Char → Option (List Char × List Char)
  | [] => none
  | '"' :: rest => some ([], rest)
  | '\\' :: c :: rest => (splitString rest).map fun (body, r) => ('\\' :: c :: body, r)
  | c :: rest => (splitString rest).map fun (body, r) => (c :: body, r)

/-- What follows a string is shorter than the text. -/
theorem length_of_splitString {cs body rest : List Char}
    (h : splitString cs = some (body, rest)) : rest.length < cs.length := by
  fun_induction splitString cs generalizing body with
  | case1 => simp at h
  | case2 r =>
    obtain ⟨-, rfl⟩ := Prod.mk.inj (Option.some.inj h)
    simp
  | case3 c r ih =>
    obtain ⟨⟨b, r'⟩, hb, he⟩ := Option.map_eq_some_iff.1 h
    obtain ⟨-, rfl⟩ := Prod.mk.inj he
    have := ih hb
    simp only [List.length_cons]
    omega
  | case4 c r _ _ ih =>
    obtain ⟨⟨b, r'⟩, hb, he⟩ := Option.map_eq_some_iff.1 h
    obtain ⟨-, rfl⟩ := Prod.mk.inj he
    have := ih hb
    simp only [List.length_cons]
    omega

/-- A piece of a string: a character, or a code unit given by an escape. -/
inductive Piece where
  | char (c : Char)
  | unit (n : Nat)

/-- The pieces between two quotes; a raw control character is refused. -/
def pieces? : List Char → Option (List Piece)
  | [] => some []
  | '\\' :: 'u' :: a :: b :: c :: d :: rest => do
    let n ← Text.hexNumber? [a, b, c, d]
    return .unit n :: (← pieces? rest)
  | '\\' :: e :: rest => do
    let c ← if e = '/' then some e else (shortEscapes.find? (·.2 == e)).map (·.1)
    return .char c :: (← pieces? rest)
  | c :: rest => if c.toNat < 0x20 ∨ c = '\\' then none else do
    return .char c :: (← pieces? rest)

/-- The characters of the pieces, two halves of a surrogate pair joined. -/
def joinPieces? : List Piece → Option (List Char)
  | [] => some []
  | .char c :: rest => do return c :: (← joinPieces? rest)
  | .unit h :: .unit l :: rest =>
    if 0xd800 ≤ h ∧ h < 0xdc00 then
      if 0xdc00 ≤ l ∧ l < 0xe000 then do
        return .ofNat (0x10000 + (h - 0xd800) * 0x400 + (l - 0xdc00)) ::
          (← joinPieces? rest)
      else none
    else if h.isValidChar then do
      return .ofNat h :: (← joinPieces? (.unit l :: rest))
    else none
  | .unit n :: rest =>
    if n.isValidChar then do return .ofNat n :: (← joinPieces? rest) else none

/-- The string written between two quotes. -/
def decodeString? (body : List Char) : Option String := do
  return String.ofList (← joinPieces? (← pieces? body))

/-! ### Words: literals and numbers -/

/-- A character of a literal or a number. -/
def isWordChar (c : Char) : Bool :=
  c.isAlphanum || c == '-' || c == '+' || c == '.'

/-- A fraction: a point and at least one digit, or nothing; returns the rest. -/
def dropFraction? : List Char → Option (List Char)
  | '.' :: rest =>
    if (rest.takeWhile Char.isDigit).isEmpty then none else some (rest.dropWhile Char.isDigit)
  | rest => some rest

/-- An exponent up to the end, or nothing. -/
def isExponent : List Char → Bool
  | [] => true
  | e :: rest =>
    let digits := match rest with
      | '+' :: ds => ds
      | '-' :: ds => ds
      | ds => ds
    (e == 'e' || e == 'E') && !digits.isEmpty && digits.all Char.isDigit

/-- The number that a word writes. -/
def number? (word : List Char) : Option Json :=
  let negative := word.head? == some '-'
  let body := if negative then word.tail else word
  let whole := body.takeWhile Char.isDigit
  let rest := body.dropWhile Char.isDigit
  if whole.isEmpty || (whole.head? == some '0' && whole.length != 1) then none
  else if rest.isEmpty then
    let n := Text.decimalValue whole
    if negative then
      if n = 0 then some (.real (String.ofList word)) else some (.int (-n))
    else some (.int n)
  else do
    if isExponent (← dropFraction? rest) then some (.real (String.ofList word)) else none

/-- The value that a word writes. -/
def word? (word : List Char) : Option Json :=
  if word = "null".toList then some .null
  else if word = "true".toList then some (.bool true)
  else if word = "false".toList then some (.bool false)
  else number? word

/-! ### Tokens -/

/-- A token of a JSON text. -/
inductive Token where
  | openArray
  | closeArray
  | openObject
  | closeObject
  | comma
  | colon
  | string (s : String)
  | word (j : Json)

/-- The token of one sign. -/
def Token.ofSign? : Char → Option Token
  | '[' => some .openArray
  | ']' => some .closeArray
  | '\x7b' => some .openObject
  | '\x7d' => some .closeObject
  | ',' => some .comma
  | ':' => some .colon
  | _ => none

/-- A blank between tokens. -/
def isSpace (c : Char) : Bool :=
  c == ' ' || c == '\t' || c == '\n' || c == '\r'

/-- The tokens of a text. -/
def tokens? (cs : List Char) : Option (List Token) :=
  match cs with
  | [] => some []
  | c :: rest =>
    if isSpace c then tokens? rest
    else if c = '"' then
      match h : splitString rest with
      | some (body, rest') => do
        have : rest'.length < rest.length := length_of_splitString h
        let s ← decodeString? body
        return .string s :: (← tokens? rest')
      | none => none
    else match Token.ofSign? c with
      | some t => do return t :: (← tokens? rest)
      | none => do
        let j ← word? (c :: rest.takeWhile isWordChar)
        have : (rest.dropWhile isWordChar).length ≤ rest.length :=
          (List.dropWhile_sublist _).length_le
        return .word j :: (← tokens? (rest.dropWhile isWordChar))
termination_by cs.length

/-! ### The machine -/

/-- An open array with the items before the present one, or an open object with
the fields before the present one and its key; the latest comes first. -/
inductive Frame where
  | array (done : List Json)
  | object (done : List (String × Json)) (key : String)

/-- What the machine waits for; every state but the last holds the open frames. -/
inductive State where
  /-- A value. -/
  | value (stack : List Frame)
  /-- The first item of an array, or its end. -/
  | firstItem (stack : List Frame)
  /-- A comma or the end of an array. -/
  | afterItem (done : List Json) (stack : List Frame)
  /-- The first key of an object, or its end. -/
  | firstKey (stack : List Frame)
  /-- A key. -/
  | nextKey (done : List (String × Json)) (stack : List Frame)
  /-- The colon after a key. -/
  | afterKey (done : List (String × Json)) (key : String) (stack : List Frame)
  /-- A comma or the end of an object. -/
  | afterField (done : List (String × Json)) (stack : List Frame)
  /-- Nothing more. -/
  | finished (j : Json)

/-- A value is complete: it goes to the innermost open frame. -/
def State.complete (j : Json) : List Frame → State
  | [] => .finished j
  | .array done :: stack => .afterItem (j :: done) stack
  | .object done k :: stack => .afterField ((k, j) :: done) stack

/-- A value begins. -/
def State.begin? (stack : List Frame) : Token → Option State
  | .openArray => some (.firstItem stack)
  | .openObject => some (.firstKey stack)
  | .string s => some (.complete (.str s) stack)
  | .word j => some (.complete j stack)
  | _ => none

/-- The object of the fields read so far. -/
def objectOf (done : List (String × Json)) : Json :=
  .obj (Ascending.ofPairs done.reverse)

/-- Takes one token. -/
def State.step : State → Token → Option State
  | .value stack, t => State.begin? stack t
  | .firstItem stack, .closeArray => some (.complete (.arr []) stack)
  | .firstItem stack, t => State.begin? (.array [] :: stack) t
  | .afterItem done stack, .comma => some (.value (.array done :: stack))
  | .afterItem done stack, .closeArray => some (.complete (.arr done.reverse) stack)
  | .firstKey stack, .closeObject => some (.complete (.obj []) stack)
  | .firstKey stack, .string s => some (.afterKey [] s stack)
  | .nextKey done stack, .string s => some (.afterKey done s stack)
  | .afterKey done k stack, .colon => some (.value (.object done k :: stack))
  | .afterField done stack, .comma => some (.nextKey done stack)
  | .afterField done stack, .closeObject => some (.complete (objectOf done) stack)
  | _, _ => none

/-- The value of a JSON text. -/
def parse? (text : String) : Option Json := do
  match ← (← tokens? text.toList).foldlM State.step (.value []) with
  | .finished j => some j
  | _ => none

end AccessPolicy.Json
