/-
Reading escaped text back.

* `byCodePoint`, `usesCodePoint`: whether a character, or some character of a text,
  is written by its code point;
* `unescape_escapeChar`: one character of an escaped text is read as it was, unless
  it is written by its code point, which cannot be read;
* `unescape_escape`: so an escaped text is read back exactly if it uses no code
  point, and is refused for its first code point escape otherwise.
-/
import AccessPolicy.Text.Escape
import Mathlib.Tactic.Common

namespace AccessPolicy.Text

/-- A character of a text is written by its code point; `leading` tells whether the
text begins with it. -/
def byCodePoint (leading : Bool) (c : Char) : Bool :=
  (namedEscapes.lookup c).isNone && ((leading && extendsGrapheme c) || !isPrintable c)

/-- Some character of a text is written by its code point. -/
def usesCodePoint : List Char → Bool
  | [] => false
  | c :: cs => byCodePoint true c || cs.any (byCodePoint false)

/-! ### One character -/

/-- A character without a special meaning is read as itself. -/
lemma unescape_cons {c : Char} (hb : c ≠ '\\') (hq : c ≠ '"') (cs : List Char) :
    unescape (c :: cs) = (unescape cs).map (c :: ·) := by
  rw [unescape]
  · rw [if_neg hq]
  · rintro rfl
    exact absurd rfl hb
  · rintro e es rfl
    exact absurd rfl hb

/-- A code point escape is not read. -/
lemma unescape_codePointEscape (c : Char) (cs : List Char) :
    unescape (codePointEscape c ++ cs) = .error (.unknown 'u') := rfl

/-- A character that is looked up stands in the table. -/
lemma mem_of_lookup_namedEscapes {c e : Char} (h : namedEscapes.lookup c = some e) :
    (c, e) ∈ namedEscapes := by
  obtain ⟨l, r, hlr, -⟩ := List.lookup_eq_some_iff.1 h
  rw [hlr]
  exact List.mem_append_right _ (.head _)

/-- A character that has no named escape is no backslash and no quote. -/
lemma ne_of_lookup_namedEscapes {c : Char} (h : namedEscapes.lookup c = none) :
    c ≠ '\\' ∧ c ≠ '"' := by
  constructor
  · rintro rfl
    exact absurd h (by decide)
  · rintro rfl
    exact absurd h (by decide)

/-- **One character of an escaped text is read as it was**, unless it is written by its
code point. -/
lemma unescape_escapeChar (leading : Bool) (c : Char) (cs : List Char) :
    unescape (escapeChar leading c ++ cs) =
      if byCodePoint leading c then .error (.unknown 'u') else (unescape cs).map (c :: ·) := by
  rw [escapeChar, byCodePoint]
  cases hc : namedEscapes.lookup c with
  | some e => exact unescape_named (mem_of_lookup_namedEscapes hc) cs
  | none =>
      obtain ⟨hb, hq⟩ := ne_of_lookup_namedEscapes hc
      cases (leading && extendsGrapheme c) || !isPrintable c with
      | true => exact unescape_codePointEscape c cs
      | false => exact unescape_cons hb hq cs

/-! ### Texts -/

/-- After its first character, a text is read back unless it uses a code point. -/
lemma unescape_flatMap (cs : List Char) :
    unescape (cs.flatMap (escapeChar false)) =
      if cs.any (byCodePoint false) then .error (.unknown 'u') else .ok cs := by
  induction cs with
  | nil => rfl
  | cons c cs ih =>
      rw [List.flatMap_cons, unescape_escapeChar, ih, List.any_cons]
      cases byCodePoint false c with
      | true => rfl
      | false => cases cs.any (byCodePoint false) <;> rfl

/-- **An escaped text is read back exactly if it uses no code point**: otherwise it is
refused for the letter that begins a code point escape. -/
theorem unescape_escape (cs : List Char) :
    unescape (escape cs) = if usesCodePoint cs then .error (.unknown 'u') else .ok cs := by
  cases cs with
  | nil => rfl
  | cons c cs =>
      rw [escape, unescape_escapeChar, unescape_flatMap, usesCodePoint]
      cases byCodePoint true c with
      | true => rfl
      | false => cases cs.any (byCodePoint false) <;> rfl

end AccessPolicy.Text
