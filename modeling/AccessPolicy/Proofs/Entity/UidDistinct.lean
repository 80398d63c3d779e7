/-
Different identities have different texts.

The type stands in the text as it is, with all its quotes, backslashes and colons, so nothing marks
where it ends. The argument goes from the right. In an escaped id a quote stands only behind a
backslash, and the quote that opens the id stands behind a colon.

* `EntityUid.ShownAs`: a type that need not be a path, a double colon and in quotes pieces that
  spell the id, chosen in any way;
* `EntityUid.type_append_inj`: the text tells where the type ends;
* `EntityUid.texts_identify`: the text of an identity belongs to no other one, however the
  characters of the ids are written.
-/
import AccessPolicy.Proofs.Entity.UidText
import AccessPolicy.Proofs.Text.Quoted

namespace AccessPolicy.EntityUid

/-- The text shows the identity: the type is written as it is, and each character of the id
as one of the pieces that stand for it. -/
def ShownAs (cs : List Char) (uid : EntityUid) : Prop :=
  ∃ body, Text.Spells Text.IsWritten body uid.id.toList ∧
    cs = uid.type.path.toList ++ ':' :: ':' :: '"' :: (body ++ ['"'])

variable {type type' extra body body' cs ds : List Char} {a b : EntityUid}

/-- The text of an identity shows it. -/
lemma shownAs_toText (uid : EntityUid) : ShownAs uid.toText.toList uid :=
  ⟨Text.escape uid.id.toList, Text.spells_escape _, toList_toText uid⟩

/-- The opening quote cannot stand further to the right: there it would be a quote of the id,
which has a backslash in front of it and no colon. -/
lemma eq_nil_of_opening (hbody : Text.Spells Text.IsWritten body cs)
    (htype : type' ++ [':', ':'] = type ++ extra) (h : '"' :: body = extra ++ '"' :: body') :
    extra = [] := by
  cases extra with
  | nil => rfl
  | cons c extra =>
      obtain ⟨rfl, rfl⟩ := List.cons.inj h
      obtain ⟨before, rfl⟩ := hbody.backslash_of_quote
      have hlast := congrArg List.getLast? htype
      simp [List.getLast?_append, List.getLast?_cons] at hlast

/-- **The text tells where the type ends.** -/
lemma type_append_inj (hbody : Text.Spells Text.IsWritten body cs)
    (hbody' : Text.Spells Text.IsWritten body' ds)
    (h : type ++ ':' :: ':' :: '"' :: body = type' ++ ':' :: ':' :: '"' :: body') :
    type = type' ∧ body = body' := by
  have hcolons : (type ++ [':', ':']) ++ '"' :: body = (type' ++ [':', ':']) ++ '"' :: body' := by
    simpa using h
  rcases List.append_eq_append_iff.1 hcolons with ⟨extra, htype, hquote⟩ | ⟨extra, htype, hquote⟩
  · obtain rfl := eq_nil_of_opening hbody htype hquote
    rw [List.append_nil] at htype
    exact ⟨(List.append_cancel_right htype).symm, (List.cons.inj hquote).2⟩
  · obtain rfl := eq_nil_of_opening hbody' htype hquote
    rw [List.append_nil] at htype
    exact ⟨List.append_cancel_right htype, (List.cons.inj hquote).2.symm⟩

/-- A text shows one identity only. -/
lemma ShownAs.unique (ha : ShownAs cs a) (hb : ShownAs cs b) : a = b := by
  obtain ⟨body, hbody, rfl⟩ := ha
  obtain ⟨body', hbody', heq⟩ := hb
  simp only [← List.cons_append, ← List.append_assoc] at heq
  obtain ⟨htype, rfl⟩ := type_append_inj hbody hbody' (List.append_cancel_right heq)
  have hid := hbody.unique hbody'
  obtain ⟨⟨path⟩, id⟩ := a
  obtain ⟨⟨path'⟩, id'⟩ := b
  rw [EntityUid.mk.injEq, EntityType.mk.injEq]
  exact ⟨String.toList_inj.1 htype, String.toList_inj.1 hid⟩

/-- **Different identities never look the same**, whatever stands in the types and ids. For this
it is no matter which characters are written as escapes: a text shows one identity only. -/
theorem texts_identify :
    (∀ uid : EntityUid, ShownAs uid.toText.toList uid) ∧
    (∀ a b cs, ShownAs cs a → ShownAs cs b → a = b) ∧
    Function.Injective toText := by
  refine ⟨shownAs_toText, fun a b cs => ShownAs.unique, fun a b h => ?_⟩
  have hb := shownAs_toText b
  rw [← h] at hb
  exact (shownAs_toText a).unique hb

/-- A type with a quote is not taken for the beginning of an id, and an id that is written with a
code point shows the same identity as without. -/
theorem texts_identify_quotes :
    toText ⟨⟨"A::\"x"⟩, "y"⟩ ≠ toText ⟨⟨"A"⟩, "x::\"y"⟩ ∧
      ¬ShownAs (toText ⟨⟨"A::\"x"⟩, "y"⟩).toList ⟨⟨"A"⟩, "x::\"y"⟩ ∧
      ShownAs "A::\"\\u\x7b78\x7d\"".toList ⟨⟨"A"⟩, "x"⟩ ∧
      ¬ShownAs "A::\"\\u\x7b78\x7d\"".toList ⟨⟨"A"⟩, "\\u\x7b78\x7d"⟩ := by
  obtain ⟨hshown, hunique, hinj⟩ := texts_identify
  have hx : ShownAs "A::\"\\u\x7b78\x7d\"".toList ⟨⟨"A"⟩, "x"⟩ :=
    ⟨_, Text.spells_nil.cons (.codePoint 'x'), rfl⟩
  refine ⟨fun h => ?_, fun h => ?_, hx, fun h => ?_⟩
  · exact absurd (hinj h) (by decide)
  · exact absurd (hunique _ _ _ (hshown _) h) (by decide)
  · exact absurd (hunique _ _ _ hx h) (by decide)

end AccessPolicy.EntityUid
