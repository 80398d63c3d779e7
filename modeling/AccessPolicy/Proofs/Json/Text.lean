/-
The compact text of a tree determines the tree.

* `writeChar_append_inj`: no character of a string is written as the beginning of
  another one, so that a string ends where it ends (`writeString_inj`);
* `Integral`: a tree whose numbers are integers, and `Closed`: a text that cannot
  continue a number. A number is the only text that has no end of its own;
* `framed_of_integral`: the text of a tree determines the tree and what follows it;
  `render_inj` says that no two trees have one text.

The induction is on the first of two trees with one text. The first character tells
which form the second one has (`mark_eq`), and the lists inside arrays and objects are
compared item by item, each item fixing where the next one begins.
-/
import AccessPolicy.Json.Printer
import AccessPolicy.Proofs.Ascending
import AccessPolicy.Proofs.Text.Pieces
import Std.Data.String.ToInt

namespace AccessPolicy.Json

variable {r s : List Char}

/-! ### Strings -/

/-- The three ways to write a character. -/
lemma writeChar_cases (c : Char) :
    (∃ e, (c, e) ∈ shortEscapes ∧ writeChar c = ['\\', e]) ∨
      (∃ ds, ds.length = 4 ∧ Text.hexNumber? ds = some c.toNat ∧
        writeChar c = '\\' :: 'u' :: ds) ∨
      (c ≠ '\\' ∧ c ≠ '"' ∧ writeChar c = [c]) := by
  rw [writeChar]
  cases hshort : shortEscapes.lookup c with
  | some e => exact .inl ⟨e, (Ascending.mem_iff_lookup (by decide)).2 hshort, rfl⟩
  | none =>
      refine .inr ?_
      dsimp only
      split
      · rename_i hcontrol
        have hlength : (Nat.toDigits 16 c.toNat).length ≤ 4 :=
          (Nat.length_toDigits_le_iff (by decide) (by decide)).2 (by omega)
        refine .inl ⟨_, ?_, Text.hexNumber?_leftpad 4 c.toNat, rfl⟩
        rw [List.length_leftpad]
        exact Nat.max_eq_left hlength
      · refine .inr ⟨?_, ?_, rfl⟩ <;>
          · rintro rfl
            exact absurd hshort (by decide)

/-- No character is written as the beginning of another one. -/
lemma writeChar_append_inj {c d : Char} (h : writeChar c ++ r = writeChar d ++ s) :
    c = d ∧ r = s := by
  have hdistinct : ∀ p ∈ shortEscapes, ∀ q ∈ shortEscapes, p.2 = q.2 → p.1 = q.1 := by decide
  have hnamed : ∀ p ∈ shortEscapes, p.2 ≠ 'u' := by decide
  rcases writeChar_cases c with ⟨e, he, hc⟩ | ⟨ds, hlength, hds, hc⟩ | ⟨hslash, -, hc⟩ <;>
    rcases writeChar_cases d with ⟨e', he', hd⟩ | ⟨ds', hlength', hds', hd⟩ | ⟨hslash', -, hd⟩ <;>
    rw [hc, hd] at h <;>
    simp only [List.cons_append, List.nil_append, List.cons.injEq, true_and] at h
  · exact ⟨hdistinct _ he _ he' h.1, h.2⟩
  · exact absurd h.1 (hnamed _ he)
  · exact absurd h.1.symm hslash'
  · exact absurd h.1.symm (hnamed _ he')
  · obtain ⟨rfl, hrs⟩ := List.append_inj h (hlength.trans hlength'.symm)
    rw [hds] at hds'
    exact ⟨Char.toNat_inj.1 (Option.some.inj hds'), hrs⟩
  · exact absurd h.1.symm hslash'
  · exact absurd h.1 hslash
  · exact absurd h.1 hslash
  · exact h

/-- No character is written with a quote at the front. -/
lemma head?_writeChar (c : Char) (r : List Char) : (writeChar c ++ r).head? ≠ some '"' := by
  rcases writeChar_cases c with ⟨e, -, h⟩ | ⟨ds, -, -, h⟩ | ⟨-, hc, h⟩ <;> rw [h] <;> simp [*]

/-- **A string determines its text and what follows it.** -/
lemma writeString_inj {a b : String} (h : writeString a r = writeString b s) :
    a = b ∧ r = s := by
  have key : ∀ as bs : List Char, as.flatMap writeChar ++ '"' :: r =
      bs.flatMap writeChar ++ '"' :: s → as = bs ∧ r = s := by
    intro as
    induction as with
    | nil =>
        intro bs hab
        cases bs with
        | nil => simpa using hab
        | cons d ds =>
            rw [List.flatMap_cons, List.append_assoc] at hab
            exact absurd (congrArg List.head? hab).symm (head?_writeChar d _)
    | cons c cs ih =>
        intro bs hab
        cases bs with
        | nil =>
            rw [List.flatMap_cons, List.append_assoc] at hab
            exact absurd (congrArg List.head? hab) (head?_writeChar c _)
        | cons d ds =>
            rw [List.flatMap_cons, List.append_assoc, List.flatMap_cons, List.append_assoc] at hab
            obtain ⟨rfl, hrest⟩ := writeChar_append_inj hab
            obtain ⟨rfl, hrs⟩ := ih ds hrest
            exact ⟨rfl, hrs⟩
  obtain ⟨hab, hrs⟩ := key a.toList b.toList (List.cons.inj h).2
  exact ⟨String.toList_inj.1 hab, hrs⟩

/-! ### Numbers -/

/-- A character of a written integer. -/
def isIntChar (c : Char) : Bool :=
  c.isDigit || c == '-'

/-- A text that cannot continue a number. -/
def Closed (rest : List Char) : Prop :=
  ∀ c ∈ rest.head?, isIntChar c = false

/-- An integer is written in digits, with a sign if it is negative. -/
lemma toList_toString (n : Int) : (toString n).toList =
    (if n < 0 then ['-'] else []) ++ Nat.toDigits 10 n.natAbs := by
  rw [Int.toString_eq_repr, Int.repr_eq_if]
  split
  · rename_i hn
    have habs : n.toNat = n.natAbs := by omega
    rw [if_neg (by omega), habs, Nat.repr_eq_ofList_toDigits, String.toList_ofList, List.nil_append]
  · have habs : (-n).toNat = n.natAbs := by omega
    rw [if_pos (by omega), habs, Nat.repr_eq_ofList_toDigits, String.toList_append]
    simp

/-- An integer is written in characters of integers. -/
lemma isIntChar_of_mem {n : Int} {c : Char} (hc : c ∈ (toString n).toList) :
    isIntChar c = true := by
  rw [toList_toString, List.mem_append] at hc
  rcases hc with hc | hc
  · split at hc
    · obtain rfl := List.mem_singleton.1 hc
      rfl
    · exact absurd hc List.not_mem_nil
  · have hdigit := Nat.isDigit_of_mem_toDigits (by decide) (by decide) hc
    rw [isIntChar, hdigit, Bool.true_or]

/-- The characters of an integer end where a closed text begins. -/
lemma takeWhile_int (n : Int) (hr : Closed r) :
    ((toString n).toList ++ r).takeWhile isIntChar = (toString n).toList := by
  rw [List.takeWhile_append_of_pos fun c hc => isIntChar_of_mem hc]
  cases r with
  | nil => simp
  | cons c r => simp [hr c rfl]

/-- **An integer is determined by its text in front of a closed text.** -/
lemma int_append_inj {n m : Int} (hr : Closed r) (hs : Closed s)
    (h : (toString n).toList ++ r = (toString m).toList ++ s) : n = m ∧ r = s := by
  have htext := congrArg (List.takeWhile isIntChar) h
  rw [takeWhile_int n hr, takeWhile_int m hs] at htext
  rw [htext] at h
  rw [Int.toString_eq_repr, Int.toString_eq_repr] at htext
  exact ⟨Int.repr_injective (String.toList_inj.1 htext), List.append_cancel_left h⟩

/-! ### Trees -/

/-- The numbers in a tree are integers. -/
inductive Integral : Json → Prop
  | null : Integral .null
  | bool (b : Bool) : Integral (.bool b)
  | int (n : Int) : Integral (.int n)
  | str (s : String) : Integral (.str s)
  | arr {is : List Json} (h : ∀ i ∈ is, Integral i) : Integral (.arr is)
  | obj {fs : List (String × Json)} (h : ∀ f ∈ fs, Integral f.2) : Integral (.obj fs)

@[simp] lemma integral_str {s : String} : Integral (.str s) := .str s

@[simp] lemma integral_int {n : Int} : Integral (.int n) := .int n

@[simp] lemma integral_bool {b : Bool} : Integral (.bool b) := .bool b

@[simp] lemma integral_arr {is : List Json} : Integral (.arr is) ↔ ∀ i ∈ is, Integral i :=
  ⟨fun h => by cases h with | arr h => exact h, .arr⟩

@[simp] lemma integral_obj {fs : List (String × Json)} :
    Integral (.obj fs) ↔ ∀ f ∈ fs, Integral f.2 :=
  ⟨fun h => by cases h with | obj h => exact h, .obj⟩

/-- The form of a tree, as the first character of its text tells it. -/
def mark : Json → Char
  | .null => 'n'
  | .bool _ => 't'
  | .int _ | .real _ => '0'
  | .str _ => '"'
  | .arr _ => '['
  | .obj _ => '\x7b'

/-- The form that a first character tells. -/
def markOf (c : Char) : Char :=
  if isIntChar c then '0' else if c = 'f' then 't' else c

/-- The text of a tree begins with its mark. -/
lemma exists_mark {j : Json} (hj : Integral j) (r : List Char) :
    ∃ c cs, write j r = c :: cs ∧ markOf c = j.mark := by
  cases hj with
  | null => exact ⟨_, _, rfl, rfl⟩
  | bool b => cases b <;> exact ⟨_, _, rfl, rfl⟩
  | int n =>
      cases hn : (toString n).toList with
      | nil =>
          rw [toList_toString] at hn
          exact absurd (List.append_eq_nil_iff.1 hn).2 Nat.toDigits_ne_nil
      | cons c cs =>
          have hc : isIntChar c = true := isIntChar_of_mem (n := n) (hn ▸ .head _)
          exact ⟨c, cs ++ r, by rw [write, hn, List.cons_append], if_pos hc⟩
  | str s => exact ⟨_, _, rfl, rfl⟩
  | @arr is _ => cases is <;> exact ⟨_, _, rfl, rfl⟩
  | @obj fs _ => cases fs <;> exact ⟨_, _, rfl, rfl⟩

/-- Trees with one text have one mark. -/
lemma mark_eq {i j : Json} (hi : Integral i) (hj : Integral j) (h : write i r = write j s) :
    i.mark = j.mark := by
  obtain ⟨c, cs, hc, hmark⟩ := exists_mark hi r
  obtain ⟨d, ds, hd, hmark'⟩ := exists_mark hj s
  rw [hc, hd, List.cons.injEq] at h
  rw [← hmark, ← hmark', h.1]

/-- No tree begins as an array ends. -/
lemma write_ne_close {j : Json} (hj : Integral j) : write j r ≠ ']' :: s := by
  intro h
  obtain ⟨c, cs, hc, hmark⟩ := exists_mark hj r
  rw [hc, List.cons.injEq] at h
  obtain ⟨rfl, -⟩ := h
  cases hj <;> simp [mark, markOf, isIntChar] at hmark

/-- The text of a tree determines the tree and what follows it. -/
def Framed (i : Json) : Prop :=
  ∀ j r s, Integral j → Closed r → Closed s → write i r = write j s → i = j ∧ r = s

lemma closed_writeItems (is : List Json) (r : List Char) : Closed (writeItems is r) := by
  cases is <;> rintro c ⟨⟩ <;> rfl

lemma closed_writeFields (fs : List (String × Json)) (r : List Char) :
    Closed (writeFields fs r) := by
  cases fs <;> rintro c ⟨⟩ <;> rfl

/-- The items of an array are determined by their text. -/
lemma writeItems_inj {is : List Json} (his : ∀ i ∈ is, Framed i) {js : List Json}
    (hjs : ∀ j ∈ js, Integral j) (h : writeItems is r = writeItems js s) :
    is = js ∧ r = s := by
  induction is generalizing js with
  | nil =>
      cases js with
      | nil => simpa [writeItems] using h
      | cons j js => simp [writeItems] at h
  | cons i is ih =>
      cases js with
      | nil => simp [writeItems] at h
      | cons j js =>
          obtain ⟨hi, his⟩ := List.forall_mem_cons.1 his
          obtain ⟨hj, hjs⟩ := List.forall_mem_cons.1 hjs
          obtain ⟨hij, hrest⟩ := hi j _ _ hj (closed_writeItems is r) (closed_writeItems js s)
            (List.cons.inj h).2
          obtain ⟨hitems, hrs⟩ := ih his hjs hrest
          exact ⟨by rw [hij, hitems], hrs⟩

/-- The fields of an object are determined by their text. -/
lemma writeFields_inj {fs : List (String × Json)} (hfs : ∀ f ∈ fs, Framed f.2)
    {gs : List (String × Json)} (hgs : ∀ g ∈ gs, Integral g.2)
    (h : writeFields fs r = writeFields gs s) : fs = gs ∧ r = s := by
  induction fs generalizing gs with
  | nil =>
      cases gs with
      | nil => simpa [writeFields] using h
      | cons g gs => simp [writeFields] at h
  | cons f fs ih =>
      cases gs with
      | nil => simp [writeFields] at h
      | cons g gs =>
          obtain ⟨hf, hfs⟩ := List.forall_mem_cons.1 hfs
          obtain ⟨hg, hgs⟩ := List.forall_mem_cons.1 hgs
          obtain ⟨hkey, hvalue⟩ := writeString_inj (List.cons.inj h).2
          obtain ⟨hval, hrest⟩ := hf g.2 _ _ hg (closed_writeFields fs r) (closed_writeFields gs s)
            (List.cons.inj hvalue).2
          obtain ⟨hfields, hrs⟩ := ih hfs hgs hrest
          exact ⟨by rw [Prod.ext hkey hval, hfields], hrs⟩

/-- An array is determined by its text. -/
lemma write_arr_inj {is js : List Json} (his : ∀ i ∈ is, Integral i) (hjs : ∀ j ∈ js, Integral j)
    (hframed : ∀ i ∈ is, Framed i) (h : write (.arr is) r = write (.arr js) s) :
    is = js ∧ r = s := by
  cases is with
  | nil =>
      cases js with
      | nil => simpa [write] using h
      | cons j js => exact absurd (List.cons.inj h).2.symm (write_ne_close (hjs j (.head _)))
  | cons i is =>
      cases js with
      | nil => exact absurd (List.cons.inj h).2 (write_ne_close (his i (.head _)))
      | cons j js =>
          -- But for the bracket in the place of the comma, these are items after a first one.
          have hitems : writeItems (i :: is) r = writeItems (j :: js) s :=
            congrArg (',' :: ·) (List.cons.inj h).2
          exact writeItems_inj hframed hjs hitems

/-- An object is determined by its text. -/
lemma write_obj_inj {fs gs : List (String × Json)} (hgs : ∀ g ∈ gs, Integral g.2)
    (hframed : ∀ f ∈ fs, Framed f.2) (h : write (.obj fs) r = write (.obj gs) s) :
    fs = gs ∧ r = s := by
  cases fs with
  | nil =>
      cases gs with
      | nil => simpa [write] using h
      | cons g gs => simp [write, writeString] at h
  | cons f fs =>
      cases gs with
      | nil => simp [write, writeString] at h
      | cons g gs =>
          have hfields : writeFields (f :: fs) r = writeFields (g :: gs) s :=
            congrArg (',' :: ·) (List.cons.inj h).2
          exact writeFields_inj hframed hgs hfields

/-- **A tree is determined by its text in front of a closed text.** -/
theorem framed_of_integral {i : Json} (hi : Integral i) : Framed i := by
  induction hi with
  | null =>
      intro j r s hj _ _ h
      have hmark := mark_eq .null hj h
      cases hj with
      | null => exact ⟨rfl, by simpa [write] using h⟩
      | _ => simp [mark] at hmark
  | bool b =>
      intro j r s hj _ _ h
      have hmark := mark_eq (.bool b) hj h
      cases hj with
      | bool b' => cases b <;> cases b' <;> simp_all [write]
      | _ => simp [mark] at hmark
  | int n =>
      intro j r s hj hr hs h
      have hmark := mark_eq (.int n) hj h
      cases hj with
      | int m =>
          obtain ⟨rfl, hrs⟩ := int_append_inj hr hs h
          exact ⟨rfl, hrs⟩
      | _ => simp [mark] at hmark
  | str a =>
      intro j r s hj _ _ h
      have hmark := mark_eq (.str a) hj h
      cases hj with
      | str b =>
          obtain ⟨rfl, hrs⟩ := writeString_inj h
          exact ⟨rfl, hrs⟩
      | _ => simp [mark] at hmark
  | @arr is his ih =>
      intro j r s hj _ _ h
      have hmark := mark_eq (.arr his) hj h
      cases hj with
      | arr hjs =>
          obtain ⟨rfl, hrs⟩ := write_arr_inj his hjs ih h
          exact ⟨rfl, hrs⟩
      | _ => simp [mark] at hmark
  | @obj fs hfs ih =>
      intro j r s hj _ _ h
      have hmark := mark_eq (.obj hfs) hj h
      cases hj with
      | obj hgs =>
          obtain ⟨rfl, hrs⟩ := write_obj_inj hgs ih h
          exact ⟨rfl, hrs⟩
      | _ => simp [mark] at hmark

/-- **No two trees have one text.** -/
theorem render_inj {i j : Json} (hi : Integral i) (hj : Integral j)
    (h : i.render = j.render) : i = j := by
  have hclosed : Closed [] := fun c hc => absurd hc (by simp)
  exact (framed_of_integral hi j [] [] hj hclosed hclosed (String.ofList_injective h)).1

end AccessPolicy.Json
