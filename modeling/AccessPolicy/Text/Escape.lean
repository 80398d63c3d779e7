/-
Escaped text: how the characters of a string stand between double quotes.

* `namedEscapes`: the seven characters that are written as a backslash and one
  other character;
* `escape`: each character is written by its named escape if it has one, by its
  code point in hexadecimal if it is not printable or if it leads the text and
  extends a grapheme, and as itself otherwise;
* `unescape`: reads named escapes only, so it refuses a code point escape; a
  double quote that no backslash announces is refused too;
* `unescape_named`: a named escape is read as the character it stands for.
-/
import AccessPolicy.Text.Printable

namespace AccessPolicy.Text

/-- The characters with an escape of their own, each with the character that
follows the backslash. -/
def namedEscapes : List (Char × Char) :=
  [('\x00', '0'), ('\t', 't'), ('\r', 'r'), ('\n', 'n'), ('\'', '\''), ('"', '"'),
    ('\\', '\\')]

/-! ### Writing -/

/-- The escape that gives the code point in hexadecimal, lower case and without
leading zeros. -/
def codePointEscape (c : Char) : List Char :=
  '\\' :: 'u' :: '\x7b' :: Nat.toDigits 16 c.toNat ++ ['\x7d']

/-- One character of an escaped text; `leading` tells whether the text begins
with it. -/
def escapeChar (leading : Bool) (c : Char) : List Char :=
  match namedEscapes.lookup c with
  | some e => ['\\', e]
  | none =>
    if (leading && extendsGrapheme c) || !isPrintable c then codePointEscape c else [c]

/-- The escaped form of a text. -/
def escape : List Char → List Char
  | [] => []
  | c :: cs => escapeChar true c ++ cs.flatMap (escapeChar false)

/-- A string in double quotes, escaped. -/
def quoted (s : String) : String :=
  String.ofList ('"' :: escape s.toList ++ ['"'])

/-! ### Reading -/

/-- Why an escaped text cannot be read. -/
inductive EscapeError where
  /-- A backslash before a character that no named escape uses. -/
  | unknown (c : Char)
  /-- A backslash at the end. -/
  | dangling
  /-- A double quote without a backslash. -/
  | bareQuote
  deriving DecidableEq, Repr

/-- The wording of an escape error. -/
def EscapeError.message : EscapeError → String
  | .unknown c => "unknown escape `\\" ++ c.toString ++ "`"
  | .dangling => "dangling escape"
  | .bareQuote => "unescaped quote"

/-- The character that a backslash and `e` stand for. -/
def namedBy? (e : Char) : Option Char :=
  (namedEscapes.find? (·.2 == e)).map (·.1)

/-- Reads a text that uses named escapes. -/
def unescape : List Char → Except EscapeError (List Char)
  | [] => .ok []
  | '\\' :: [] => .error .dangling
  | '\\' :: e :: cs =>
    match namedBy? e with
    | some c => (unescape cs).map (c :: ·)
    | none => .error (.unknown e)
  | c :: cs => if c = '"' then .error .bareQuote else (unescape cs).map (c :: ·)

/-- A named escape is read as the character it stands for. -/
theorem unescape_named {c e : Char} (h : (c, e) ∈ namedEscapes) (cs : List Char) :
    unescape ('\\' :: e :: cs) = (unescape cs).map (c :: ·) := by
  have hn : namedBy? e = some c := by
    simp only [namedEscapes, List.mem_cons, Prod.mk.injEq, List.not_mem_nil, or_false] at h
    rcases h with ⟨rfl, rfl⟩ | ⟨rfl, rfl⟩ | ⟨rfl, rfl⟩ | ⟨rfl, rfl⟩ | ⟨rfl, rfl⟩ |
      ⟨rfl, rfl⟩ | ⟨rfl, rfl⟩ <;> rfl
  simp [unescape, hn]

end AccessPolicy.Text
