/-
Glob patterns, the right-hand sides of `like`.

* `Pattern`: a sequence of literal characters and wildcards;
* `Pattern.ofText?`, `Pattern.toText`: the source text, in which a star is the
  wildcard and a backslash announces a literal star or a literal backslash;
* `Pattern.isMatch`: whether a pattern matches a whole text. A `Scan` goes through
  both from left to right, in rounds; after a mismatch it goes back to the last
  wildcard, and never to an earlier one;
* `Scan.Step`: what a round can come to; its places stay in the pattern and in the
  text (`Scan.Valid.step`), and it leaves less to do (`Scan.Valid.left_lt`), so that
  every match ends.
-/

namespace AccessPolicy

/-- An element of a pattern. -/
inductive PatternElem where
  /-- Exactly this character. -/
  | literal (c : Char)
  /-- Any run of characters, the empty one too. -/
  | wildcard
  deriving DecidableEq, Repr

/-- A character that stands for itself only behind a backslash. -/
def PatternElem.isSpecial (c : Char) : Bool :=
  c == '*' || c == '\\'

/-- The source text of an element. -/
def PatternElem.source : PatternElem → List Char
  | .wildcard => ['*']
  | .literal c => if isSpecial c then ['\\', c] else [c]

/-- A glob pattern. -/
structure Pattern where
  elems : List PatternElem
  deriving DecidableEq, Repr

namespace Pattern

/-! ### Source text -/

/-- Why a text is no pattern. -/
inductive ParseError where
  /-- A backslash before a character that needs none. -/
  | unknownEscape (c : Char) (text : String)
  /-- A backslash at the end. -/
  | danglingEscape (text : String)
  deriving DecidableEq, Repr

/-- The wording of a parse error. -/
def ParseError.message : ParseError → String
  | .unknownEscape c text =>
    "invalid pattern: unknown escape `\\" ++ c.toString ++ "` in `" ++ text ++ "`"
  | .danglingEscape text =>
    "invalid pattern: dangling escape at end of `" ++ text ++ "`"

/-- The elements that characters write; `text` is the whole text, for the error. -/
def elems? (text : String) : List Char → Except ParseError (List PatternElem)
  | [] => .ok []
  | '*' :: cs => (elems? text cs).map (.wildcard :: ·)
  | '\\' :: [] => .error (.danglingEscape text)
  | '\\' :: c :: cs =>
    if PatternElem.isSpecial c then (elems? text cs).map (.literal c :: ·)
    else .error (.unknownEscape c text)
  | c :: cs => (elems? text cs).map (.literal c :: ·)

/-- The pattern that a source text writes. -/
def ofText? (text : String) : Except ParseError Pattern :=
  (elems? text text.toList).map Pattern.mk

/-- The source text of a pattern. -/
def toText (p : Pattern) : String :=
  String.ofList (p.elems.flatMap PatternElem.source)

/-! ### Matching -/

/-- How far a match has come. -/
structure Scan where
  /-- The next element. -/
  elem : Nat
  /-- The next character. -/
  char : Nat
  /-- The element behind the last wildcard, and the character from which the elements from
  there on were tried last. -/
  resume : Option (Nat × Nat)
  deriving DecidableEq, Repr

/-- What a round of a match comes to. -/
inductive Round where
  /-- The match goes on from here. -/
  | goesOn (s : Scan)
  /-- The match ends with this answer. -/
  | ends (b : Bool)
  deriving DecidableEq, Repr

namespace Scan

/-- Nothing has been looked at. -/
def start : Scan := ⟨0, 0, none⟩

/-- After a mismatch the last wildcard takes one character more. -/
def back (s : Scan) : Round :=
  match s.resume with
  | some (elem, char) => .goesOn ⟨elem, char + 1, some (elem, char + 1)⟩
  | none => .ends false

/-- One round: a wildcard takes no character at first, a literal takes one. Where the text
ends, wildcards may be left. -/
def round (es : Array PatternElem) (text : Array Char) (s : Scan) : Round :=
  if h : s.char < text.size then
    match es[s.elem]? with
    | some .wildcard => .goesOn ⟨s.elem + 1, s.char, some (s.elem + 1, s.char)⟩
    | some (.literal c) =>
      if c = text[s.char] then .goesOn ⟨s.elem + 1, s.char + 1, s.resume⟩ else s.back
    | none => s.back
  else .ends ((es.toList.drop s.elem).all (· = .wildcard))

/-- The places of a scan lie in the pattern and in the text, or at their ends, and it goes
back to places that it has passed. -/
structure Valid (es : Array PatternElem) (text : Array Char) (s : Scan) : Prop where
  elem_le : s.elem ≤ es.size
  char_le : s.char ≤ text.size
  resume_le : ∀ elem char, s.resume = some (elem, char) → elem ≤ s.elem ∧ char ≤ s.char

/-- The next element, if there is one, is a literal, and the next character is another. -/
def Mismatches (es : Array PatternElem) (text : Array Char) (s : Scan) : Prop :=
  ∀ e, es[s.elem]? = some e → ∃ c, e = .literal c ∧ text[s.char]? ≠ some c

/-- What a round can come to. -/
inductive Step (es : Array PatternElem) (text : Array Char) (s : Scan) : Round → Prop
  /-- A wildcard is passed, and becomes the last one. -/
  | pass (hc : s.char < text.size) (he : es[s.elem]? = some .wildcard) :
      Step es text s (.goesOn ⟨s.elem + 1, s.char, some (s.elem + 1, s.char)⟩)
  /-- A literal takes the character. -/
  | take {c : Char} (hc : text[s.char]? = some c) (he : es[s.elem]? = some (.literal c)) :
      Step es text s (.goesOn ⟨s.elem + 1, s.char + 1, s.resume⟩)
  /-- The last wildcard takes one character more. -/
  | retry {elem char : Nat} (hc : s.char < text.size) (hm : s.Mismatches es text)
      (hr : s.resume = some (elem, char)) :
      Step es text s (.goesOn ⟨elem, char + 1, some (elem, char + 1)⟩)
  /-- There is no wildcard to go back to. -/
  | fail (hc : s.char < text.size) (hm : s.Mismatches es text) (hr : s.resume = none) :
      Step es text s (.ends false)
  /-- The text ends. -/
  | finish (hc : text.size ≤ s.char) :
      Step es text s (.ends ((es.toList.drop s.elem).all (· = .wildcard)))

variable {es : Array PatternElem} {text : Array Char} {s s' : Scan}

/-- After a mismatch a match goes back, if it can. -/
theorem step_back (hc : s.char < text.size) (hm : s.Mismatches es text) :
    Step es text s s.back := by
  rw [back]
  split
  · rename_i elem char hr
    exact .retry hc hm hr
  · rename_i hr
    exact .fail hc hm hr

/-- Every round comes to one of these. -/
theorem step_round (es : Array PatternElem) (text : Array Char) (s : Scan) :
    Step es text s (s.round es text) := by
  rw [round]
  split
  · rename_i hc
    have hget : text[s.char]? = some text[s.char] := Array.getElem?_eq_getElem hc
    split
    · rename_i he
      exact .pass hc he
    · rename_i c he
      split
      · rename_i hcc
        exact .take (hcc ▸ hget) he
      · rename_i hcc
        refine step_back hc fun e he' => ⟨c, Option.some.inj (he'.symm.trans he), fun hc' => hcc ?_⟩
        exact Option.some.inj (hc'.symm.trans hget)
    · rename_i he
      exact step_back hc fun e he' => absurd (he'.symm.trans he) nofun
  · rename_i hc
    exact .finish (Nat.le_of_not_lt hc)

/-- The places stay in the pattern and in the text. -/
theorem Valid.step (h : s.Valid es text) (hs : Step es text s (.goesOn s')) :
    s'.Valid es text := by
  cases hs with
  | pass hc he =>
    have helem := (Array.getElem?_eq_some_iff.1 he).1
    refine ⟨helem, h.char_le, ?_⟩
    rintro elem char ⟨⟩
    exact ⟨Nat.le_refl _, Nat.le_refl _⟩
  | take hc he =>
    have hchar := (Array.getElem?_eq_some_iff.1 hc).1
    have helem := (Array.getElem?_eq_some_iff.1 he).1
    refine ⟨helem, hchar, fun elem char hr => ?_⟩
    have hle := h.resume_le elem char hr
    exact ⟨Nat.le_succ_of_le hle.1, Nat.le_succ_of_le hle.2⟩
  | retry hc _ hr =>
    have hle := h.resume_le _ _ hr
    refine ⟨Nat.le_trans hle.1 h.elem_le, Nat.lt_of_le_of_lt hle.2 hc, ?_⟩
    rintro elem char ⟨⟩
    exact ⟨Nat.le_refl _, Nat.le_refl _⟩

/-- The start is a valid place. -/
theorem valid_start (es : Array PatternElem) (text : Array Char) : start.Valid es text :=
  ⟨Nat.zero_le _, Nat.zero_le _, nofun⟩

/-- What is left to do: elements behind the last wildcard, characters from which they have
not been tried, and characters. A step leaves less, in this order, although it may go back
both in the pattern and in the text. -/
def left (es : Array PatternElem) (text : Array Char) (s : Scan) : Nat × Nat × Nat :=
  let (elem, char) := s.resume.getD (0, 0)
  (es.size - elem, text.size - char, text.size - s.char)

/-- A step leaves less to do. -/
theorem Valid.left_lt (h : s.Valid es text) (hs : Step es text s (.goesOn s')) :
    Prod.Lex (· < ·) (Prod.Lex (· < ·) (· < ·)) (s'.left es text) (s.left es text) := by
  cases hs with
  | pass hc he =>
    have helem := (Array.getElem?_eq_some_iff.1 he).1
    have hle : (s.resume.getD (0, 0)).1 ≤ s.elem := by
      cases hr : s.resume with
      | none => exact Nat.zero_le _
      | some r => exact (h.resume_le r.1 r.2 hr).1
    refine .left _ _ ?_
    show es.size - (s.elem + 1) < es.size - (s.resume.getD (0, 0)).1
    omega
  | take hc he =>
    have hchar := (Array.getElem?_eq_some_iff.1 hc).1
    refine .right _ (.right _ ?_)
    show text.size - (s.char + 1) < text.size - s.char
    omega
  | @retry elem char hc _ hr =>
    have hle := (h.resume_le elem char hr).2
    rw [left, left, hr]
    refine .right _ (.left _ _ ?_)
    show text.size - (char + 1) < text.size - char
    omega

/-- The answer of a match that has come to a valid place. -/
def run (es : Array PatternElem) (text : Array Char) (s : Scan) (h : s.Valid es text) : Bool :=
  match hs : s.round es text with
  | .goesOn s' => run es text s' (h.step (hs ▸ step_round es text s))
  | .ends b => b
termination_by s.left es text
decreasing_by exact h.left_lt (hs ▸ step_round es text s)

end Scan

/-- Whether a pattern matches a whole text. -/
def isMatch (p : Pattern) (text : String) : Bool :=
  let es := p.elems.toArray
  let cs := text.toList.toArray
  Scan.run es cs .start (Scan.valid_start es cs)

end Pattern

end AccessPolicy
