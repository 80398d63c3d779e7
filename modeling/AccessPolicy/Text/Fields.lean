/-
Cutting a text at a separator.

* `fields`: the pieces between the separators, one more than there are
  separators;
* `joined`: pieces with a separator between any two;
* `cutAtFirst`: the parts before and after the first separator;
* `joined_fields`: nothing but the separators is lost.
-/

namespace AccessPolicy.Text

/-- The pieces of a text between its separators. -/
def fields (sep : Char) : List Char → List (List Char)
  | [] => [[]]
  | c :: cs =>
    if c = sep then [] :: fields sep cs
    else match fields sep cs with
      | [] => [[c]]
      | f :: fs => (c :: f) :: fs

/-- Pieces with a separator between any two. -/
def joined (sep : Char) : List (List Char) → List Char
  | [] => []
  | [f] => f
  | f :: fs => f ++ sep :: joined sep fs

/-- The parts before and after the first separator, if there is one. -/
def cutAtFirst (sep : Char) : List Char → Option (List Char × List Char)
  | [] => none
  | c :: cs =>
    if c = sep then some ([], cs)
    else (cutAtFirst sep cs).map fun (a, b) => (c :: a, b)

/-- A text has at least one piece. -/
theorem fields_ne_nil (sep : Char) (cs : List Char) : fields sep cs ≠ [] := by
  cases cs with
  | nil => simp [fields]
  | cons c cs =>
    rw [fields]
    split
    · simp
    · split <;> simp

/-- The pieces of a text, joined, are the text. -/
theorem joined_fields (sep : Char) (cs : List Char) : joined sep (fields sep cs) = cs := by
  induction cs with
  | nil => rfl
  | cons c cs ih =>
    rw [fields]
    split
    · rename_i h
      subst h
      cases hf : fields c cs with
      | nil => exact absurd hf (fields_ne_nil c cs)
      | cons f fs =>
        rw [hf] at ih
        rw [joined, ih, List.nil_append]
        simp
    · cases hf : fields sep cs with
      | nil => exact absurd hf (fields_ne_nil sep cs)
      | cons f fs =>
        rw [hf] at ih
        cases fs with
        | nil =>
          rw [joined] at ih
          rw [joined, ih]
        | cons g gs =>
          rw [joined] at ih
          · rw [joined, List.cons_append, ih]
            simp
          · simp

end AccessPolicy.Text
