/-
Finite vocabularies: things that are written by name.

* `named?`: the first member of a list that has a name (`name_of_named?`).
-/

namespace AccessPolicy.Text

variable {α : Type}

/-- The member of a list with a name. -/
def named? (all : List α) (name : α → String) (s : String) : Option α :=
  all.find? fun a => name a == s

/-- What is found by a name has that name. -/
theorem name_of_named? {all : List α} {name : α → String} {s : String} {a : α}
    (h : named? all name s = some a) : name a = s := by
  simpa using List.find?_some h

end AccessPolicy.Text
