/-
The source texts of patterns.

* `IsPiece`, `IsSource`: a character other than a backslash, or a backslash with the star or the
  backslash that it announces, and the texts that consist of such pieces;
* `isSource_iff`: these are the texts in which patterns are written, for each piece is the source
  of an element;
* `Misplaces`: the first backslash that announces nothing, as a text is read from left to right;
* `reading`: every text is read as the elements that it is the source of, or it is refused for
  such a backslash; `elems?_source_append` is the converse of both, that elements which are
  written in front of a text are read in front of it, or it is refused as before;
* `source_correspondence`: patterns and their source texts correspond to each other.
-/
import AccessPolicy.Pattern
import Mathlib.Tactic.Common

namespace AccessPolicy.Pattern

/-! ### Pieces of source text -/

/-- The pieces that a source text may consist of. -/
inductive IsPiece : List Char → Prop
  /-- A character that announces nothing; a star is one. -/
  | plain {c : Char} (h : c ≠ '\\') : IsPiece [c]
  | star : IsPiece ['\\', '*']
  | backslash : IsPiece ['\\', '\\']

/-- From left to right, every backslash announces a star or a backslash. -/
def IsSource (cs : List Char) : Prop :=
  ∃ pieces : List (List Char), (∀ p ∈ pieces, IsPiece p) ∧ pieces.flatten = cs

/-- The first backslash that announces nothing: before it stands source text, and behind it
nothing or a character that needs no backslash. -/
inductive Misplaces (text : String) : List Char → ParseError → Prop
  | dangling {cs : List Char} (h : IsSource cs) :
      Misplaces text (cs ++ ['\\']) (.danglingEscape text)
  | unknown {cs rest : List Char} {c : Char} (h : IsSource cs) (hstar : c ≠ '*')
      (hslash : c ≠ '\\') : Misplaces text (cs ++ '\\' :: c :: rest) (.unknownEscape c text)

variable {text s : String} {cs rest : List Char} {c : Char} {p : Pattern}

lemma isSpecial_iff : PatternElem.isSpecial c = true ↔ c = '*' ∨ c = '\\' := by
  rw [PatternElem.isSpecial, Bool.or_eq_true, beq_iff_eq, beq_iff_eq]

lemma source_of_ne (hstar : c ≠ '*') (hslash : c ≠ '\\') :
    (PatternElem.literal c).source = [c] :=
  if_neg fun h => (isSpecial_iff.1 h).elim hstar hslash

/-- The pieces are the sources of elements. -/
lemma isPiece_iff {piece : List Char} : IsPiece piece ↔ ∃ e : PatternElem, e.source = piece := by
  constructor
  · intro h
    cases h with
    | star => exact ⟨.literal '*', rfl⟩
    | backslash => exact ⟨.literal '\\', rfl⟩
    | @plain c hslash =>
        by_cases hstar : c = '*'
        · exact ⟨.wildcard, by rw [hstar]; rfl⟩
        · exact ⟨.literal c, source_of_ne hstar hslash⟩
  · rintro ⟨e, rfl⟩
    cases e with
    | wildcard => exact .plain (by decide)
    | literal c =>
        by_cases hspecial : PatternElem.isSpecial c = true
        · rw [PatternElem.source, if_pos hspecial]
          obtain rfl | rfl := isSpecial_iff.1 hspecial
          · exact .star
          · exact .backslash
        · rw [PatternElem.source, if_neg hspecial]
          exact .plain fun hslash => hspecial (isSpecial_iff.2 (.inr hslash))

/-- Source texts are those in which elements are written. -/
lemma isSource_iff : IsSource cs ↔ ∃ es : List PatternElem, es.flatMap PatternElem.source = cs := by
  constructor
  · rintro ⟨pieces, hall, rfl⟩
    induction pieces with
    | nil => exact ⟨[], rfl⟩
    | cons piece pieces ih =>
        obtain ⟨hpiece, hpieces⟩ := List.forall_mem_cons.1 hall
        obtain ⟨e, rfl⟩ := isPiece_iff.1 hpiece
        obtain ⟨es, hes⟩ := ih hpieces
        exact ⟨e :: es, by rw [List.flatMap_cons, hes, List.flatten_cons]⟩
  · rintro ⟨es, rfl⟩
    refine ⟨es.map PatternElem.source, fun piece hpiece => ?_, List.flatMap_def.symm⟩
    obtain ⟨e, -, rfl⟩ := List.mem_map.1 hpiece
    exact isPiece_iff.2 ⟨e, rfl⟩

/-- Source text goes on with the source of one more element. -/
lemma IsSource.cons (e : PatternElem) (h : IsSource cs) : IsSource (e.source ++ cs) := by
  obtain ⟨es, rfl⟩ := isSource_iff.1 h
  exact isSource_iff.2 ⟨e :: es, List.flatMap_cons⟩

/-- What a backslash misplaces, it misplaces behind one more element, too. -/
lemma Misplaces.cons (e : PatternElem) {err : ParseError} (h : Misplaces text cs err) :
    Misplaces text (e.source ++ cs) err := by
  cases h with
  | dangling h =>
      rw [← List.append_assoc]
      exact .dangling (h.cons e)
  | unknown h hstar hslash =>
      rw [← List.append_assoc]
      exact .unknown (h.cons e) hstar hslash

/-! ### Reading -/

/-- An element that is written in front is read in front. -/
lemma elems?_source_cons (e : PatternElem) (rest : List Char) :
    elems? text (e.source ++ rest) = (elems? text rest).map (e :: ·) := by
  cases e with
  | wildcard => rfl
  | literal c =>
      by_cases hspecial : PatternElem.isSpecial c = true
      · rw [PatternElem.source, if_pos hspecial]
        show elems? text ('\\' :: c :: rest) = _
        rw [elems?, if_pos hspecial]
      · obtain ⟨hstar, hslash⟩ := not_or.1 (mt isSpecial_iff.2 hspecial)
        rw [source_of_ne hstar hslash]
        show elems? text (c :: rest) = _
        rw [elems?]
        · exact hstar
        · exact fun h _ => hslash h
        · exact fun _ _ h _ => hslash h

/-- **Elements that are written in front of a text are read in front of it.** -/
lemma elems?_source_append (es : List PatternElem) (rest : List Char) :
    elems? text (es.flatMap PatternElem.source ++ rest) = (elems? text rest).map (es ++ ·) := by
  induction es with
  | nil => cases h : elems? text rest <;> exact h
  | cons e es ih =>
      rw [List.flatMap_cons, List.append_assoc, elems?_source_cons, ih]
      cases elems? text rest <;> rfl

/-- What becomes of a text: it is read as the elements that it is the source of, or it is
refused for a backslash. -/
inductive Reading (text : String) (cs : List Char) : Except ParseError (List PatternElem) → Prop
  | read {es : List PatternElem} (h : es.flatMap PatternElem.source = cs) :
      Reading text cs (.ok es)
  | refused {err : ParseError} (h : Misplaces text cs err) : Reading text cs (.error err)

/-- An element in front changes nothing but the elements. -/
lemma Reading.cons {r : Except ParseError (List PatternElem)} (e : PatternElem)
    (h : Reading text rest r) : Reading text (e.source ++ rest) (r.map (e :: ·)) := by
  cases h with
  | read h => exact .read (by rw [List.flatMap_cons, h])
  | refused h => exact .refused (h.cons e)

/-- **Every text is read or refused.** The induction goes along the reading; only a backslash
that announces nothing stops it, with no source text before it. -/
theorem reading (text : String) (cs : List Char) : Reading text cs (elems? text cs) := by
  fun_induction elems? text cs with
  | case1 => exact .read rfl
  | case2 cs ih => exact ih.cons .wildcard
  | case3 => exact .refused (.dangling ⟨[], nofun, rfl⟩)
  | case4 c cs hspecial ih =>
      have h := ih.cons (.literal c)
      rw [PatternElem.source, if_pos hspecial] at h
      exact h
  | case5 c cs hspecial =>
      obtain ⟨hstar, hslash⟩ := not_or.1 (mt isSpecial_iff.2 hspecial)
      exact .refused (.unknown ⟨[], nofun, rfl⟩ hstar hslash)
  | case6 c cs hstar hdangling hescape ih =>
      have hslash : c ≠ '\\' := by
        rintro rfl
        cases cs with
        | nil => exact hdangling rfl rfl
        | cons d ds => exact hescape d ds rfl rfl
      have h := ih.cons (.literal c)
      rw [source_of_ne hstar hslash] at h
      exact h

/-- A text is read as the elements that it is the source of. -/
lemma elems?_eq_ok_iff {es : List PatternElem} :
    elems? text cs = .ok es ↔ es.flatMap PatternElem.source = cs := by
  constructor
  · intro h
    have hread := reading text cs
    rw [h] at hread
    cases hread with
    | read hes => exact hes
  · rintro rfl
    have happend := @elems?_source_append text es []
    rw [List.append_nil, elems?, Except.map, List.append_nil] at happend
    exact happend

/-- A text is refused for the first backslash that announces nothing. -/
lemma elems?_eq_error_iff {err : ParseError} :
    elems? text cs = .error err ↔ Misplaces text cs err := by
  constructor
  · intro h
    have hread := reading text cs
    rw [h] at hread
    cases hread with
    | refused herr => exact herr
  · intro h
    cases h with
    | dangling h =>
        obtain ⟨es, rfl⟩ := isSource_iff.1 h
        rw [elems?_source_append]
        rfl
    | unknown h hstar hslash =>
        obtain ⟨es, rfl⟩ := isSource_iff.1 h
        have hspecial := mt isSpecial_iff.1 (not_or.2 ⟨hstar, hslash⟩)
        rw [elems?_source_append, elems?, if_neg hspecial]
        rfl

/-- A text is read as the pattern that is written as the text. -/
lemma ofText?_eq_ok_iff : ofText? s = .ok p ↔ p.toText = s := by
  have htext : p.toText = s ↔ p.elems.flatMap PatternElem.source = s.toList := by
    rw [toText, ← String.toList_inj, String.toList_ofList]
  rw [htext, ← @elems?_eq_ok_iff s, ofText?]
  cases elems? s s.toList with
  | error err => exact iff_of_false nofun nofun
  | ok es =>
      obtain ⟨es'⟩ := p
      rw [Except.map, Except.ok.injEq, mk.injEq, Except.ok.injEq]

/-- A text is no pattern because of the first backslash that announces nothing. -/
lemma ofText?_eq_error_iff {err : ParseError} :
    ofText? s = .error err ↔ Misplaces s s.toList err := by
  rw [← elems?_eq_error_iff, ofText?]
  cases elems? s s.toList with
  | error err' => rw [Except.map, Except.error.injEq, Except.error.injEq]
  | ok es => exact iff_of_false nofun nofun

/-- Every failure says that the text is no pattern. -/
lemma ParseError.exists_message (err : ParseError) :
    ∃ detail, err.message = "invalid pattern: " ++ detail := by
  cases err with
  | unknownEscape c text =>
      have hhead : "invalid pattern: unknown escape `\\" =
          "invalid pattern: " ++ "unknown escape `\\" := by simp
      refine ⟨"unknown escape `\\" ++ c.toString ++ "` in `" ++ text ++ "`", ?_⟩
      calc (unknownEscape c text).message
          = "invalid pattern: unknown escape `\\" ++ c.toString ++ "` in `" ++ text ++ "`" := rfl
        _ = "invalid pattern: " ++
              ("unknown escape `\\" ++ c.toString ++ "` in `" ++ text ++ "`") := by
            rw [hhead]
            simp only [String.append_assoc]
  | danglingEscape text =>
      have hhead : "invalid pattern: dangling escape at end of `" =
          "invalid pattern: " ++ "dangling escape at end of `" := by simp
      refine ⟨"dangling escape at end of `" ++ text ++ "`", ?_⟩
      calc (danglingEscape text).message
          = "invalid pattern: dangling escape at end of `" ++ text ++ "`" := rfl
        _ = "invalid pattern: " ++ ("dangling escape at end of `" ++ text ++ "`") := by
            rw [hhead]
            simp only [String.append_assoc]

/-- **Patterns and their source texts correspond to each other**: what a pattern is written as is
read as the pattern; the texts that are read are those in which every backslash announces a star
or a backslash, and each is the text of what it is read as; every other text is refused, for the
first backslash that does not. -/
theorem source_correspondence :
    (∀ p : Pattern, ofText? p.toText = .ok p) ∧
    (∀ s : String, (∃ p, ofText? s = .ok p) ↔ IsSource s.toList) ∧
    (∀ (s : String) (p : Pattern), ofText? s = .ok p → p.toText = s) ∧
    ∀ s : String, ¬IsSource s.toList → ∃ err, ofText? s = .error err ∧ Misplaces s s.toList err ∧
      ∃ detail, err.message = "invalid pattern: " ++ detail := by
  have hsource : ∀ s : String, (∃ p, ofText? s = .ok p) ↔ IsSource s.toList := fun s => by
    constructor
    · rintro ⟨p, h⟩
      rw [← ofText?_eq_ok_iff.1 h, toText, String.toList_ofList]
      exact isSource_iff.2 ⟨p.elems, rfl⟩
    · intro h
      obtain ⟨es, hes⟩ := isSource_iff.1 h
      refine ⟨⟨es⟩, ofText?_eq_ok_iff.2 ?_⟩
      rw [toText, hes, String.ofList_toList]
  refine ⟨fun p => ofText?_eq_ok_iff.2 rfl, hsource, fun s p => ofText?_eq_ok_iff.1, fun s h => ?_⟩
  cases hs : ofText? s with
  | ok p => exact absurd ((hsource s).1 ⟨p, hs⟩) h
  | error err => exact ⟨err, rfl, ofText?_eq_error_iff.1 hs, err.exists_message⟩

/-- A wildcard, a star and a backslash are written in five characters. In a run of backslashes the
first announces the second; the third announces nothing, if a letter follows. -/
theorem source_correspondence_run :
    toText ⟨[.wildcard, .literal '*', .literal '\\']⟩ = "*\\*\\\\" ∧
      ¬IsSource "\\\\\\a".toList ∧ ∃ err, ofText? "\\\\\\a" = .error err ∧
        Misplaces "\\\\\\a" "\\\\\\a".toList err ∧
          ∃ detail, err.message = "invalid pattern: " ++ detail := by
  have hread : ofText? "*\\*\\\\" = .ok ⟨[.wildcard, .literal '*', .literal '\\']⟩ := by decide
  have hrefused : ofText? "\\\\\\a" = .error (.unknownEscape 'a' "\\\\\\a") := by decide
  have hsource : ¬IsSource "\\\\\\a".toList := fun h => by
    obtain ⟨p, hp⟩ := (source_correspondence.2.1 _).2 h
    rw [hrefused] at hp
    cases hp
  exact ⟨source_correspondence.2.2.1 _ _ hread, hsource, source_correspondence.2.2.2 _ hsource⟩

end AccessPolicy.Pattern
