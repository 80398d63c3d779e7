/-
Patterns match the texts that can be cut into pieces.

* `PatternElem.Fits`, `FitsAll`: what an element stands for, and the texts that are cut
  into consecutive pieces, one for each element. `fitsAll_wildcard_cons_iff` and its like
  say this of the first element;
* `exists_suffix_of_fitsAll`: a wildcard with literals behind it, on a text that has these
  literals in front, can only skip characters that what follows may skip too. This is why
  no wildcard before the last one is looked at again;
* `Scan.Asks`, `Scan.Tracks`: what a match has still to find out, and the invariant that
  literals alone were passed since the place to go back to. A step keeps the invariant
  (`Tracks.step`) and the question (`Tracks.asks_step_iff`), and the end answers it
  (`Tracks.ends_iff`);
* `Scan.Ends`: a match comes to an answer, on a way that stays inside;
* `isMatch_iff_fitsAll`: every match ends, and it finds out whether the whole text fits
  the pattern.
-/
import AccessPolicy.Pattern
import Mathlib.Data.List.Forall2
import Mathlib.Logic.Relation
import Mathlib.Tactic.Common

namespace AccessPolicy

/-! ### Pieces -/

/-- The pieces of text that an element stands for. -/
def PatternElem.Fits : PatternElem → List Char → Prop
  | .literal c, piece => piece = [c]
  | .wildcard, _ => True

namespace Pattern

/-- The text is cut into consecutive pieces, one for each element, which stands for it. -/
def FitsAll (es : List PatternElem) (text : List Char) : Prop :=
  ∃ pieces, List.Forall₂ PatternElem.Fits es pieces ∧ pieces.flatten = text

variable {es : List PatternElem} {text : List Char}

lemma fitsAll_nil_iff : FitsAll [] text ↔ text = [] := by
  simp [FitsAll, eq_comm]

/-- The piece of the first element stands in front of the others. -/
lemma fitsAll_cons_iff {e : PatternElem} :
    FitsAll (e :: es) text ↔
      ∃ piece rest, text = piece ++ rest ∧ e.Fits piece ∧ FitsAll es rest := by
  constructor
  · rintro ⟨pieces, hall, rfl⟩
    obtain ⟨piece, rest, he, hes, rfl⟩ := List.forall₂_cons_left_iff.1 hall
    exact ⟨piece, rest.flatten, rfl, he, rest, hes, rfl⟩
  · rintro ⟨piece, _, rfl, he, rest, hes, rfl⟩
    exact ⟨piece :: rest, .cons he hes, rfl⟩

/-- A wildcard skips to some place of the text. -/
lemma fitsAll_wildcard_cons_iff :
    FitsAll (.wildcard :: es) text ↔ ∃ rest, rest <:+ text ∧ FitsAll es rest := by
  rw [fitsAll_cons_iff]
  constructor
  · rintro ⟨piece, rest, rfl, -, hes⟩
    exact ⟨rest, List.suffix_append piece rest, hes⟩
  · rintro ⟨rest, ⟨piece, rfl⟩, hes⟩
    exact ⟨piece, rest, rfl, trivial, hes⟩

/-- A literal takes one character. -/
lemma fitsAll_literal_cons_iff {c : Char} :
    FitsAll (.literal c :: es) text ↔ ∃ rest, text = c :: rest ∧ FitsAll es rest := by
  rw [fitsAll_cons_iff]
  constructor
  · rintro ⟨_, rest, rfl, rfl, hes⟩
    exact ⟨rest, rfl, hes⟩
  · rintro ⟨rest, rfl, hes⟩
    exact ⟨[c], rest, rfl, rfl, hes⟩

/-- Literals take their characters. -/
lemma fitsAll_literals_append_iff {cs : List Char} :
    FitsAll (cs.map .literal ++ es) text ↔ ∃ rest, text = cs ++ rest ∧ FitsAll es rest := by
  induction cs generalizing text with
  | nil => simp
  | cons c cs ih =>
      rw [List.map_cons, List.cons_append, fitsAll_literal_cons_iff]
      constructor
      · rintro ⟨_, rfl, h⟩
        obtain ⟨rest, rfl, hes⟩ := ih.1 h
        exact ⟨rest, rfl, hes⟩
      · rintro ⟨rest, rfl, hes⟩
        exact ⟨cs ++ rest, rfl, ih.2 ⟨rest, rfl, hes⟩⟩

/-- Only wildcards stand for nothing. -/
lemma fitsAll_empty_iff : FitsAll es [] ↔ ∀ e ∈ es, e = .wildcard := by
  induction es with
  | nil => simp [fitsAll_nil_iff]
  | cons e es ih =>
      cases e with
      | literal c => simp [fitsAll_literal_cons_iff]
      | wildcard => simp [fitsAll_wildcard_cons_iff, ih]

/-- Behind a wildcard and literals that the text has in front, what follows fits a suffix of
the rest: the place that the wildcard skips to has the literals too, so it is no nearer to the
end than the literals are long. -/
lemma exists_suffix_of_fitsAll {cs : List Char}
    (h : FitsAll (.wildcard :: (cs.map .literal ++ es)) (cs ++ text)) :
    ∃ rest, rest <:+ text ∧ FitsAll es rest := by
  obtain ⟨_, hskip, hlits⟩ := fitsAll_wildcard_cons_iff.1 h
  obtain ⟨rest, rfl, hes⟩ := fitsAll_literals_append_iff.1 hlits
  have hrest : rest <:+ cs ++ text := (List.suffix_append cs rest).trans hskip
  have hlen : rest.length ≤ text.length := by
    have hle := hskip.length_le
    simp only [List.length_append] at hle
    omega
  exact ⟨rest, List.suffix_of_suffix_length_le hrest (List.suffix_append cs text) hlen, hes⟩

/-! ### What a match finds out -/

namespace Scan

variable {es : Array PatternElem} {text : Array Char} {s s' : Scan}

/-- What a match has still to find out: whether the last wildcard, with what stands behind it,
fits the text from where it was tried last; before the first wildcard, whether what is left of
the pattern fits what is left of the text. -/
def Asks (es : Array PatternElem) (text : Array Char) (s : Scan) : Prop :=
  match s.resume with
  | none => FitsAll (es.toList.drop s.elem) (text.toList.drop s.char)
  | some (elem, char) => FitsAll (.wildcard :: es.toList.drop elem) (text.toList.drop char)

lemma asks_of_none (hr : s.resume = none) :
    s.Asks es text ↔ FitsAll (es.toList.drop s.elem) (text.toList.drop s.char) := by
  rw [Asks, hr]

lemma asks_of_some {elem char : Nat} (hr : s.resume = some (elem, char)) : s.Asks es text ↔
    FitsAll (.wildcard :: es.toList.drop elem) (text.toList.drop char) := by
  rw [Asks, hr]

/-- Since the place to go back to, literals alone were passed, and the text has them there. -/
def Tracks (es : Array PatternElem) (text : Array Char) (s : Scan) : Prop :=
  ∀ elem char, s.resume = some (elem, char) → ∃ cs : List Char,
    es.toList.drop elem = cs.map .literal ++ es.toList.drop s.elem ∧
      text.toList.drop char = cs ++ text.toList.drop s.char

/-- The element at a place is the first of those from there on. -/
lemma drop_eq_cons {α : Type} {xs : Array α} {n : Nat} {x : α} (h : xs[n]? = some x) :
    xs.toList.drop n = x :: xs.toList.drop (n + 1) := by
  obtain ⟨hn, rfl⟩ := Array.getElem?_eq_some_iff.1 h
  exact List.drop_eq_getElem_cons (by simpa using hn)

/-- Where the next element does not take the next character, the rest does not fit. -/
lemma Mismatches.not_fitsAll (h : s.Mismatches es text) (hc : s.char < text.size) :
    ¬ FitsAll (es.toList.drop s.elem) (text.toList.drop s.char) := by
  have hget : text[s.char]? = some text[s.char] := Array.getElem?_eq_getElem hc
  rw [drop_eq_cons hget]
  intro hfits
  cases he : es[s.elem]? with
  | none =>
      have hend : es.toList.drop s.elem = [] :=
        List.drop_eq_nil_of_le (by simpa using Array.getElem?_eq_none_iff.1 he)
      rw [hend, fitsAll_nil_iff] at hfits
      cases hfits
  | some e =>
      obtain ⟨c, rfl, hne⟩ := h e he
      rw [drop_eq_cons he, fitsAll_literal_cons_iff] at hfits
      obtain ⟨rest, heq, -⟩ := hfits
      rw [hget, (List.cons.inj heq).1] at hne
      exact hne rfl

/-- A step keeps track of the literals. -/
lemma Tracks.step (h : s.Tracks es text) (hs : Step es text s (.goesOn s')) :
    s'.Tracks es text := by
  cases hs with
  | pass _ _ | retry _ _ _ =>
      rintro elem char ⟨⟩
      exact ⟨[], rfl, rfl⟩
  | @take c hc he =>
      intro elem char hr
      obtain ⟨cs, hes, htext⟩ := h elem char hr
      refine ⟨cs ++ [c], ?_, ?_⟩
      · rw [hes, drop_eq_cons he, List.map_append, List.append_assoc]
        rfl
      · rw [htext, drop_eq_cons hc, List.append_assoc]
        rfl

/-- **A step keeps the question.** -/
lemma Tracks.asks_step_iff (h : s.Tracks es text) (hs : Step es text s (.goesOn s')) :
    s'.Asks es text ↔ s.Asks es text := by
  cases hs with
  | pass hc he =>
      rw [asks_of_some rfl, ← drop_eq_cons he]
      cases hr : s.resume with
      | none => rw [asks_of_none hr]
      | some r =>
          -- The new wildcard may skip whatever the one before it may skip.
          obtain ⟨cs, hes, htext⟩ := h r.1 r.2 hr
          rw [asks_of_some hr, hes, htext]
          constructor
          · intro hfits
            exact fitsAll_wildcard_cons_iff.2
              ⟨_, List.suffix_rfl, fitsAll_literals_append_iff.2 ⟨_, rfl, hfits⟩⟩
          · intro hfits
            obtain ⟨place, hplace, hrest⟩ := exists_suffix_of_fitsAll hfits
            rw [drop_eq_cons he, fitsAll_wildcard_cons_iff] at hrest ⊢
            obtain ⟨place', hplace', hrest⟩ := hrest
            exact ⟨place', hplace'.trans hplace, hrest⟩
  | take hc he =>
      cases hr : s.resume with
      | none =>
          rw [asks_of_none rfl, asks_of_none hr, drop_eq_cons he, drop_eq_cons hc,
            fitsAll_literal_cons_iff]
          simp
      | some r => rw [asks_of_some rfl, asks_of_some hr]
  | @retry elem char hc hm hr =>
      -- The elements behind the wildcard do not fit from where they were tried last.
      obtain ⟨cs, hes, htext⟩ := h elem char hr
      have hnot : ¬ FitsAll (es.toList.drop elem) (text.toList.drop char) := by
        rw [hes, htext, fitsAll_literals_append_iff]
        rintro ⟨rest, heq, hfits⟩
        rw [← List.append_cancel_left heq] at hfits
        exact hm.not_fitsAll hc hfits
      rw [asks_of_some rfl, asks_of_some hr]
      cases hdrop : text.toList.drop char with
      | nil =>
          rw [htext, drop_eq_cons (Array.getElem?_eq_getElem hc)] at hdrop
          simp at hdrop
      | cons c rest =>
          rw [hdrop] at hnot
          have hrest : text.toList.drop (char + 1) = rest := by
            rw [← List.drop_drop, hdrop, List.drop_one, List.tail_cons]
          rw [hrest, fitsAll_wildcard_cons_iff, fitsAll_wildcard_cons_iff]
          constructor
          · rintro ⟨place, hplace, hfits⟩
            exact ⟨place, hplace.trans (List.suffix_cons c rest), hfits⟩
          · rintro ⟨place, hplace, hfits⟩
            rcases List.suffix_cons_iff.1 hplace with rfl | hplace
            · exact absurd hfits hnot
            · exact ⟨place, hplace, hfits⟩

/-- **The end of a match answers the question.** -/
lemma Tracks.ends_iff (h : s.Tracks es text) {b : Bool} (hs : Step es text s (.ends b)) :
    b = true ↔ s.Asks es text := by
  cases hs with
  | fail hc hm hr =>
      rw [asks_of_none hr]
      exact iff_of_false Bool.false_ne_true (hm.not_fitsAll hc)
  | finish hc =>
      have hend : text.toList.drop s.char = [] := List.drop_eq_nil_of_le (by simpa using hc)
      have hall : (es.toList.drop s.elem).all (· = .wildcard) = true ↔
          FitsAll (es.toList.drop s.elem) [] := by
        simp only [List.all_eq_true, decide_eq_true_eq, fitsAll_empty_iff]
      rw [hall]
      cases hr : s.resume with
      | none => rw [asks_of_none hr, hend]
      | some r =>
          -- Nothing is left for the wildcard to skip but what the literals took.
          obtain ⟨cs, hes, htext⟩ := h r.1 r.2 hr
          rw [asks_of_some hr, hes, htext, hend]
          constructor
          · intro hfits
            exact fitsAll_wildcard_cons_iff.2
              ⟨_, List.suffix_rfl, fitsAll_literals_append_iff.2 ⟨_, rfl, hfits⟩⟩
          · intro hfits
            obtain ⟨rest, hrest, hfits⟩ := exists_suffix_of_fitsAll hfits
            rwa [List.suffix_nil.1 hrest] at hfits

/-! ### The rounds of a match -/

/-- A round leads from one place to another. -/
def GoesOn (es : Array PatternElem) (text : Array Char) (s s' : Scan) : Prop :=
  s.round es text = .goesOn s'

lemma GoesOn.step (h : GoesOn es text s s') : Step es text s (.goesOn s') :=
  h ▸ step_round es text s

/-- The places that a match comes to. -/
def Reached (es : Array PatternElem) (text : Array Char) : Scan → Prop :=
  Relation.ReflTransGen (GoesOn es text) .start

/-- Whatever place a match comes to is valid. -/
lemma Reached.valid (h : Reached es text s) : s.Valid es text := by
  induction h with
  | refl => exact valid_start es text
  | tail _ hs ih => exact ih.step hs.step

/-- A match ends with an answer. -/
structure Ends (es : Array PatternElem) (text : Array Char) (b : Bool) : Prop where
  /-- No place on its way is outside the pattern or the text, nor is one to go back to. -/
  inside : ∀ s, Reached es text s → s.elem ≤ es.size ∧ s.char ≤ text.size ∧
    ∀ elem char, s.resume = some (elem, char) → elem ≤ es.size ∧ char ≤ text.size
  /-- Its way ends at a place with the answer. -/
  answers : ∃ s, Reached es text s ∧ s.round es text = .ends b

lemma run_of_goesOn (hv : s.Valid es text) (hv' : s'.Valid es text) (h : GoesOn es text s s') :
    s.run es text hv = s'.run es text hv' := by
  rw [run]
  split
  · rename_i t ht
    obtain rfl := Round.goesOn.inj (ht.symm.trans h)
    rfl
  · rename_i ht
    cases ht.symm.trans h

lemma run_of_ends (hv : s.Valid es text) {b : Bool} (h : s.round es text = .ends b) :
    s.run es text hv = b := by
  rw [run]
  split
  · rename_i ht
    cases ht.symm.trans h
  · rename_i ht
    exact Round.ends.inj (ht.symm.trans h)

/-- From every valid place a match comes to an end, and there to its answer. -/
lemma exists_ends (hv : s.Valid es text) : ∃ s', Relation.ReflTransGen (GoesOn es text) s s' ∧
    s'.round es text = .ends (s.run es text hv) := by
  induction s, hv using run.induct with
  | case1 s hv s' hs ih =>
      obtain ⟨t, hreach, hends⟩ := ih
      rw [run_of_goesOn hv (hv.step (GoesOn.step hs)) hs]
      exact ⟨t, .head hs hreach, hends⟩
  | case2 s hv b hs => exact ⟨s, .refl, by rw [run_of_ends hv hs, hs]⟩

/-- **A match finds out what it asks.** -/
lemma run_eq_true_iff (hv : s.Valid es text) (h : s.Tracks es text) :
    s.run es text hv = true ↔ s.Asks es text := by
  induction s, hv using run.induct with
  | case1 s hv s' hs ih =>
      have hstep := GoesOn.step hs
      rw [run_of_goesOn hv (hv.step hstep) hs, ih (h.step hstep), h.asks_step_iff hstep]
  | case2 s hv b hs =>
      rw [run_of_ends hv hs]
      exact h.ends_iff (hs ▸ step_round es text s)

end Scan

/-- **A pattern matches a text exactly if the whole text is cut into pieces for its elements**,
and every match comes to its answer, without having been outside the pattern or the text. -/
theorem isMatch_iff_fitsAll (p : Pattern) (text : String) :
    (p.isMatch text = true ↔ FitsAll p.elems text.toList) ∧
      Scan.Ends p.elems.toArray text.toList.toArray (p.isMatch text) := by
  have hv := Scan.valid_start p.elems.toArray text.toList.toArray
  refine ⟨?_, fun s hs => ?_, Scan.exists_ends hv⟩
  · rw [isMatch, Scan.run_eq_true_iff hv nofun, Scan.asks_of_none rfl]
    exact Iff.rfl
  · have hs := hs.valid
    refine ⟨hs.elem_le, hs.char_le, fun elem char hr => ?_⟩
    have hle := hs.resume_le elem char hr
    exact ⟨Nat.le_trans hle.1 hs.elem_le, Nat.le_trans hle.2 hs.char_le⟩

end Pattern

end AccessPolicy
