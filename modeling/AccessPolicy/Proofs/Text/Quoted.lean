/-
The pieces of escaped text, apart from how they are written and read.

* `Spells`: a text consists of pieces, each of which stands for one character;
* `IsPiece`: the pieces that are read, which are the characters that need no backslash and the
  backslash with one of seven characters;
* `IsWritten`: the pieces that are written, among which are also the escapes of code points;
* `Spoils`: the first place of a text where no piece begins;
* `unescape_eq_ok_iff`, `unescape_eq_error_iff`: a text is read as what it spells, or it is refused
  for such a place;
* `IsWritten.append_inj`: no piece begins another one, so that a text spells one text only
  (`Spells.unique`), whatever pieces were chosen;
* `Spells.backslash_of_quote`: a quote stands in a written text only behind a backslash.
-/
import AccessPolicy.Proofs.Text.Escape
import AccessPolicy.Proofs.Text.Pieces

namespace AccessPolicy.Text

/-! ### Pieces -/

/-- A piece of text that is read as a character. -/
inductive IsPiece : List Char → Char → Prop
  | plain {c : Char} (hquote : c ≠ '"') (hslash : c ≠ '\\') : IsPiece [c] c
  | quote : IsPiece ['\\', '"'] '"'
  | apostrophe : IsPiece ['\\', '\''] '\''
  | backslash : IsPiece ['\\', '\\'] '\\'
  | newline : IsPiece ['\\', 'n'] '\n'
  | carriageReturn : IsPiece ['\\', 'r'] '\r'
  | tab : IsPiece ['\\', 't'] '\t'
  | nul : IsPiece ['\\', '0'] '\x00'

/-- A piece of text that a character may be written as. -/
inductive IsWritten : List Char → Char → Prop
  | piece {p : List Char} {c : Char} (h : IsPiece p c) : IsWritten p c
  | codePoint (c : Char) : IsWritten (codePointEscape c) c

/-- The text consists of pieces that stand for the characters, one for each. -/
def Spells (R : List Char → Char → Prop) (text cs : List Char) : Prop :=
  ∃ pieces, List.Forall₂ R pieces cs ∧ pieces.flatten = text

variable {R : List Char → Char → Prop} {p q r s text cs ds : List Char} {c d e : Char}

lemma spells_nil : Spells R [] [] :=
  ⟨[], .nil, rfl⟩

/-- One more piece stands for one more character. -/
lemma Spells.cons (hp : R p c) (h : Spells R text cs) : Spells R (p ++ text) (c :: cs) := by
  obtain ⟨pieces, hpieces, rfl⟩ := h
  exact ⟨p :: pieces, .cons hp hpieces, List.flatten_cons⟩

/-- The escapes that are read are the named ones. -/
lemma namedBy?_eq_some_iff : namedBy? e = some c ↔ IsPiece ['\\', e] c := by
  constructor
  · intro h
    obtain ⟨⟨d, e'⟩, hfind, rfl⟩ := Option.map_eq_some_iff.1 h
    have hmem := List.mem_of_find?_eq_some hfind
    obtain rfl : e' = e := by simpa using List.find?_some hfind
    simp only [namedEscapes, List.mem_cons, Prod.mk.injEq, List.not_mem_nil, or_false] at hmem
    rcases hmem with ⟨rfl, rfl⟩ | ⟨rfl, rfl⟩ | ⟨rfl, rfl⟩ | ⟨rfl, rfl⟩ | ⟨rfl, rfl⟩ |
      ⟨rfl, rfl⟩ | ⟨rfl, rfl⟩ <;> constructor
  · intro h
    cases h <;> rfl

/-- A piece is a character that needs no backslash, or a named escape. -/
lemma isPiece_iff : IsPiece p c ↔ (p = [c] ∧ c ≠ '"' ∧ c ≠ '\\') ∨
    ∃ e, p = ['\\', e] ∧ namedBy? e = some c := by
  constructor
  · intro h
    cases h with
    | plain hquote hslash => exact .inl ⟨rfl, hquote, hslash⟩
    | _ => exact .inr ⟨_, rfl, rfl⟩
  · rintro (⟨rfl, hquote, hslash⟩ | ⟨e, rfl, he⟩)
    · exact .plain hquote hslash
    · exact namedBy?_eq_some_iff.1 he

/-! ### Reading -/

/-- The first place of a text where no piece begins, and what is wrong with it. -/
inductive Spoils : List Char → EscapeError → Prop
  | dangling {good cs : List Char} (h : Spells IsPiece good cs) : Spoils (good ++ ['\\']) .dangling
  | unknown {good cs rest : List Char} {e : Char} (h : Spells IsPiece good cs)
      (he : ∀ c, ¬IsPiece ['\\', e] c) : Spoils (good ++ '\\' :: e :: rest) (.unknown e)
  | bareQuote {good cs rest : List Char} (h : Spells IsPiece good cs) :
      Spoils (good ++ '"' :: rest) .bareQuote

/-- What spoils a text spoils it behind one more piece, too. -/
lemma Spoils.cons {err : EscapeError} (hp : IsPiece p c) (h : Spoils text err) :
    Spoils (p ++ text) err := by
  cases h with
  | dangling h =>
      rw [← List.append_assoc]
      exact .dangling (h.cons hp)
  | unknown h he =>
      rw [← List.append_assoc]
      exact .unknown (h.cons hp) he
  | bareQuote h =>
      rw [← List.append_assoc]
      exact .bareQuote (h.cons hp)

/-- A piece in front is read in front. -/
lemma unescape_piece_append (h : IsPiece p c) (rest : List Char) :
    unescape (p ++ rest) = (unescape rest).map (c :: ·) := by
  obtain ⟨rfl, hquote, hslash⟩ | ⟨e, rfl, he⟩ := isPiece_iff.1 h
  · exact unescape_cons hslash hquote rest
  · show unescape ('\\' :: e :: rest) = _
    rw [unescape, he]

/-- What becomes of a text: it is read as what it spells, or something spoils it. -/
inductive Reading (text : List Char) : Except EscapeError (List Char) → Prop
  | read {cs : List Char} (h : Spells IsPiece text cs) : Reading text (.ok cs)
  | refused {err : EscapeError} (h : Spoils text err) : Reading text (.error err)

/-- A piece in front changes nothing but what is read. -/
lemma Reading.cons {result : Except EscapeError (List Char)} (hp : IsPiece p c)
    (h : Reading text result) : Reading (p ++ text) (result.map (c :: ·)) := by
  cases h with
  | read h => exact .read (h.cons hp)
  | refused h => exact .refused (h.cons hp)

/-- **Every text is read or refused.** The induction goes along the reading, piece by piece. -/
theorem reading (text : List Char) : Reading text (unescape text) := by
  fun_induction unescape text with
  | case1 => exact .read spells_nil
  | case2 => exact .refused (.dangling spells_nil)
  | case3 e text c he ih => exact ih.cons (namedBy?_eq_some_iff.1 he)
  | case4 e text he =>
      refine .refused (.unknown spells_nil fun c hc => ?_)
      rw [namedBy?_eq_some_iff.2 hc] at he
      cases he
  | case5 text hdangling hescape => exact .refused (.bareQuote spells_nil)
  | case6 c text hdangling hescape hquote ih =>
      have hslash : c ≠ '\\' := by
        rintro rfl
        cases text with
        | nil => exact hdangling rfl rfl
        | cons d ds => exact hescape d ds rfl rfl
      exact ih.cons (.plain hquote hslash)

/-- What a text spells is read in front of what follows it. -/
lemma unescape_append (h : Spells IsPiece text cs) (rest : List Char) :
    unescape (text ++ rest) = (unescape rest).map (cs ++ ·) := by
  obtain ⟨pieces, hpieces, rfl⟩ := h
  induction hpieces with
  | nil => exact (congrFun Except.map_id (unescape rest)).symm
  | cons hp _ ih =>
      rw [List.flatten_cons, List.append_assoc, unescape_piece_append hp, ih]
      cases unescape rest with
      | ok => rfl
      | error => rfl

/-- A text that spells something is read as it. -/
lemma unescape_of_spells (h : Spells IsPiece text cs) : unescape text = .ok cs := by
  have hread := unescape_append h []
  rwa [List.append_nil, unescape, Except.map, List.append_nil] at hread

/-- A text is refused for the first place that spoils it. -/
lemma unescape_of_spoils {err : EscapeError} (h : Spoils text err) :
    unescape text = .error err := by
  cases h with
  | dangling h =>
      rw [unescape_append h]
      rfl
  | @unknown good cs rest e h he =>
      have hnone : namedBy? e = none :=
        Option.eq_none_iff_forall_ne_some.2 fun c hc => he c (namedBy?_eq_some_iff.1 hc)
      rw [unescape_append h, unescape, hnone]
      rfl
  | bareQuote h =>
      rw [unescape_append h]
      rfl

/-- **A text is read exactly as what it spells.** -/
theorem unescape_eq_ok_iff : unescape text = .ok cs ↔ Spells IsPiece text cs := by
  refine ⟨fun h => ?_, unescape_of_spells⟩
  have hread := reading text
  rw [h] at hread
  cases hread with
  | read hcs => exact hcs

/-- **A text is refused exactly for what spoils it.** -/
theorem unescape_eq_error_iff {err : EscapeError} :
    unescape text = .error err ↔ Spoils text err := by
  refine ⟨fun h => ?_, unescape_of_spoils⟩
  have hread := reading text
  rw [h] at hread
  cases hread with
  | refused herr => exact herr

/-! ### Writing -/

/-- Every character is written as one piece, wherever it stands. -/
lemma isWritten_escapeChar (leading : Bool) (c : Char) : IsWritten (escapeChar leading c) c := by
  rw [escapeChar]
  cases hc : namedEscapes.lookup c with
  | some e =>
      have hnamed : ∀ escape ∈ namedEscapes, namedBy? escape.2 = some escape.1 := by decide
      exact .piece (namedBy?_eq_some_iff.1 (hnamed _ (mem_of_lookup_namedEscapes hc)))
  | none =>
      obtain ⟨hslash, hquote⟩ := ne_of_lookup_namedEscapes hc
      dsimp only
      split
      · exact .codePoint c
      · exact .piece (.plain hquote hslash)

/-- The escaped form of a text spells the text. -/
lemma spells_escape (cs : List Char) : Spells IsWritten (escape cs) cs := by
  have hrest : ∀ ds : List Char, Spells IsWritten (ds.flatMap (escapeChar false)) ds := by
    intro ds
    induction ds with
    | nil => exact spells_nil
    | cons d ds ih => exact ih.cons (isWritten_escapeChar false d)
  cases cs with
  | nil => exact spells_nil
  | cons c cs => exact (hrest cs).cons (isWritten_escapeChar true c)

/-! ### One text for each spelling -/

/-- A code point is told by its digits, which end with the brace. -/
lemma codePointEscape_append_inj (h : codePointEscape c ++ r = codePointEscape d ++ s) :
    c = d ∧ r = s := by
  have hbrace : ∀ n, '\x7d' ∉ Nat.toDigits 16 n := fun _ =>
    not_mem_toDigits (by decide) fun _ => Nat.digitChar_ne '\x7d' rfl
  have hdigits : Nat.toDigits 16 c.toNat ++ '\x7d' :: r =
      Nat.toDigits 16 d.toNat ++ '\x7d' :: s := by
    simpa [codePointEscape] using h
  have hcut := cutAtFirst_eq_some_iff.2 ⟨hbrace c.toNat, hdigits.symm⟩
  rw [cutAtFirst_eq_some_iff.2 ⟨hbrace d.toNat, rfl⟩, Option.some.injEq, Prod.mk.injEq] at hcut
  have hnumber := congrArg hexNumber? hcut.1
  rw [hexNumber?_toDigits, hexNumber?_toDigits, Option.some.injEq] at hnumber
  exact ⟨Char.toNat_inj.1 hnumber.symm, hcut.2.symm⟩

/-- The three ways to write a character. -/
lemma IsWritten.cases (h : IsWritten p c) : (p = [c] ∧ c ≠ '"' ∧ c ≠ '\\') ∨
    (∃ e, p = ['\\', e] ∧ namedBy? e = some c) ∨ p = codePointEscape c := by
  cases h with
  | piece h => exact (isPiece_iff.1 h).imp_right .inl
  | codePoint => exact .inr (.inr rfl)

/-- **No piece begins another one.** -/
lemma IsWritten.append_inj (hp : IsWritten p c) (hq : IsWritten q d) (h : p ++ r = q ++ s) :
    c = d ∧ r = s := by
  have hu : ∀ x, namedBy? 'u' ≠ some x := fun x hx => by cases hx
  rcases hp.cases with ⟨rfl, -, hslash⟩ | ⟨e, rfl, he⟩ | rfl <;>
    rcases hq.cases with ⟨rfl, -, hslash'⟩ | ⟨e', rfl, he'⟩ | rfl
  · exact List.cons.inj h
  · exact absurd (List.cons.inj h).1 hslash
  · exact absurd (List.cons.inj h).1 hslash
  · exact absurd (List.cons.inj h).1.symm hslash'
  · obtain ⟨rfl, hrest⟩ := List.cons.inj (List.cons.inj h).2
    exact ⟨Option.some.inj (he.symm.trans he'), hrest⟩
  · obtain ⟨rfl, -⟩ := List.cons.inj (List.cons.inj h).2
    exact absurd he (hu c)
  · exact absurd (List.cons.inj h).1.symm hslash'
  · obtain ⟨rfl, -⟩ := List.cons.inj (List.cons.inj h).2
    exact absurd he' (hu d)
  · exact codePointEscape_append_inj h

/-- A piece is not empty. -/
lemma IsWritten.ne_nil (h : IsWritten p c) : p ≠ [] := by
  rcases h.cases with ⟨rfl, -⟩ | ⟨e, rfl, -⟩ | rfl
  · exact List.cons_ne_nil _ _
  · exact List.cons_ne_nil _ _
  · exact List.cons_ne_nil _ _

/-- **A text spells one text only**, whatever the pieces are that were chosen. -/
theorem Spells.unique (hc : Spells IsWritten text cs) (hd : Spells IsWritten text ds) :
    cs = ds := by
  obtain ⟨pieces, hpieces, rfl⟩ := hc
  obtain ⟨pieces', hpieces', heq⟩ := hd
  induction hpieces generalizing pieces' ds with
  | nil =>
      cases hpieces' with
      | nil => rfl
      | cons hp _ => exact absurd (List.append_eq_nil_iff.1 heq).1 hp.ne_nil
  | cons hp _ ih =>
      cases hpieces' with
      | nil => exact absurd (List.append_eq_nil_iff.1 heq.symm).1 hp.ne_nil
      | cons hp' hpieces' =>
          rw [List.flatten_cons, List.flatten_cons] at heq
          obtain ⟨rfl, hrest⟩ := hp'.append_inj hp heq
          rw [ih _ hpieces' hrest]

/-- A quote stands in a piece only behind the backslash that it begins with. -/
lemma IsWritten.backslash_of_quote (h : IsWritten p c) (hp : p = r ++ '"' :: s) : r = ['\\'] := by
  rcases h.cases with ⟨rfl, hquote, -⟩ | ⟨e, rfl, -⟩ | rfl
  · match r with
    | [] => exact absurd (List.cons.inj hp).1 hquote
    | _ :: _ => simp at hp
  · match r with
    | [] => cases (List.cons.inj hp).1
    | [_] => rw [(List.cons.inj hp).1]
    | _ :: _ :: _ => simp at hp
  · have hmem : '"' ∈ codePointEscape c := hp ▸ List.mem_append_right _ List.mem_cons_self
    have hdigits : '"' ∉ Nat.toDigits 16 c.toNat :=
      not_mem_toDigits (by decide) fun _ => Nat.digitChar_ne '"' rfl
    simp [codePointEscape, hdigits] at hmem

/-- **A quote stands in a written text only behind a backslash.** -/
lemma Spells.backslash_of_quote (h : Spells IsWritten (r ++ '"' :: s) cs) :
    ∃ before, r = before ++ ['\\'] := by
  obtain ⟨pieces, hpieces, heq⟩ := h
  induction hpieces generalizing r with
  | nil => simp at heq
  | @cons p c pieces cs hp _ ih =>
      rw [List.flatten_cons] at heq
      -- The quote stands behind the first piece, or in it.
      rcases List.append_eq_append_iff.1 heq with ⟨r', rfl, hrest⟩ | ⟨q, hpq, hq⟩
      · obtain ⟨before, rfl⟩ := ih hrest
        exact ⟨p ++ before, (List.append_assoc _ _ _).symm⟩
      · cases q with
        | nil =>
            obtain ⟨before, hbefore⟩ := @ih [] hq.symm
            simp at hbefore
        | cons d q =>
            obtain ⟨rfl, -⟩ := List.cons.inj hq
            exact ⟨[], hp.backslash_of_quote hpq⟩

end AccessPolicy.Text
