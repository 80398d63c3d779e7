/-
The text of an identity, read back.

* `Text.trim_append`: blanks around a text that begins and ends with other
  characters are trimmed, and nothing else;
* `forall_of_isPathFrom`: a type path is made of colons and of the characters of
  names, so it has no blanks and no quotes;
* `EntityUid.HasOpening`, `EntityUid.splitAtId_of_not_hasOpening`: a text is cut
  where a quote stands behind a double colon for the first time, which is behind
  the type if the type has no quotes;
* `EntityUid.ofText?_toText`: the text of an identity whose type is a type path is
  read back, unless its id uses a code point; then it is refused.
-/
import AccessPolicy.Entity.Uid
import AccessPolicy.Proofs.Text.Escape
import Mathlib.Data.List.Infix

namespace AccessPolicy

/-! ### Blanks and names -/

/-- Blanks around a text that does not begin or end with one are trimmed, and nothing else. -/
lemma Text.trim_append {before cs after : List Char}
    (hbefore : ∀ c ∈ before, Text.isBlank c = true) (hafter : ∀ c ∈ after, Text.isBlank c = true)
    (hne : cs ≠ []) (hl : ∀ c ∈ cs.head?, Text.isBlank c = false)
    (hr : ∀ c ∈ cs.getLast?, Text.isBlank c = false) :
    Text.trim (before ++ cs ++ after) = cs := by
  have hdrop : ∀ blanks ds : List Char, (∀ c ∈ blanks, Text.isBlank c = true) → ds ≠ [] →
      (∀ c ∈ ds.head?, Text.isBlank c = false) → (blanks ++ ds).dropWhile Text.isBlank = ds := by
    intro blanks ds hblanks hds hhead
    obtain ⟨d, ds, rfl⟩ := List.exists_cons_of_ne_nil hds
    rw [List.dropWhile_append_of_pos hblanks, List.dropWhile_cons, if_neg (by simp [hhead d rfl])]
  have hhead : (cs ++ after).head? = cs.head? := List.head?_append_of_ne_nil _ hne
  have hlast : cs.reverse.head? = cs.getLast? := List.head?_reverse
  rw [Text.trim, List.append_assoc,
    hdrop before (cs ++ after) hbefore (List.append_ne_nil_of_left_ne_nil hne _) (hhead ▸ hl),
    List.reverse_append,
    hdrop after.reverse cs.reverse (fun c hc => hafter c (List.mem_reverse.1 hc))
      (mt List.reverse_eq_nil_iff.1 hne) (hlast ▸ hr),
    List.reverse_reverse]

/-- The characters of names lie between the digits and the small letters. -/
lemma bounds_of_isNameChar {c : Char} (h : isNameChar c = true) :
    0x30 ≤ c.toNat ∧ c.toNat ≤ 0x7a := by
  have hrange : ∀ a z : Char, a.val ≤ c.val → c.val ≤ z.val →
      a.toNat ≤ c.toNat ∧ c.toNat ≤ z.toNat :=
    fun a z ha hz => ⟨UInt32.le_iff_toNat_le.1 ha, UInt32.le_iff_toNat_le.1 hz⟩
  rcases Bool.or_eq_true_iff.1 h with halnum | hline
  · rcases Bool.or_eq_true_iff.1 halnum with halpha | hdigit
    · rcases Bool.or_eq_true_iff.1 halpha with hupper | hlower
      · obtain ⟨hlo, hhi⟩ := of_decide_eq_true hupper
        have hb := hrange 'A' 'Z' hlo hhi
        simp only [Char.reduceToNat] at hb
        omega
      · obtain ⟨hlo, hhi⟩ := Bool.and_eq_true_iff.1 hlower
        have hb := hrange 'a' 'z' (of_decide_eq_true hlo) (of_decide_eq_true hhi)
        simp only [Char.reduceToNat] at hb
        omega
    · obtain ⟨hlo, hhi⟩ := Bool.and_eq_true_iff.1 hdigit
      have hb := hrange '0' '9' (of_decide_eq_true hlo) (of_decide_eq_true hhi)
      simp only [Char.reduceToNat] at hb
      omega
  · rw [beq_iff_eq.1 hline]
    decide

lemma isBlank_of_isNameChar {c : Char} (h : isNameChar c = true) : Text.isBlank c = false := by
  obtain ⟨hlo, hhi⟩ := bounds_of_isNameChar h
  simp only [Text.isBlank, Bool.or_eq_false_iff, Bool.and_eq_false_iff, decide_eq_false_iff_not,
    beq_eq_false_iff_ne]
  omega

/-- A name may begin with a character that may stand in it. -/
lemma isNameChar_of_isNameStart {c : Char} (h : isNameStart c = true) : isNameChar c = true := by
  rw [isNameStart, Bool.or_eq_true] at h
  rw [isNameChar, Char.isAlphanum, Bool.or_eq_true, Bool.or_eq_true]
  exact h.imp_left .inl

/-- A path is made of colons and of characters of names. -/
lemma forall_of_isPathFrom {inName : Bool} {cs : List Char} (h : isPathFrom inName cs = true) :
    ∀ c ∈ cs, c = ':' ∨ isNameChar c = true := by
  induction inName, cs using isPathFrom.induct with
  | case1 inName => simp
  | case2 inName cs ih =>
      rw [isPathFrom, Bool.and_eq_true] at h
      simpa using ih h.2
  | case3 inName c cs hc ih =>
      rw [isPathFrom.eq_3 _ _ _ hc, Bool.and_eq_true] at h
      refine List.forall_mem_cons.2 ⟨.inr ?_, ih h.2⟩
      cases inName with
      | true => exact h.1
      | false => exact isNameChar_of_isNameStart h.1

/-- A path has no quotes. -/
lemma not_quote_mem_of_isPathFrom {inName : Bool} {cs : List Char}
    (h : isPathFrom inName cs = true) : '"' ∉ cs := by
  intro hm
  rcases forall_of_isPathFrom h _ hm with hc | hc
  · exact absurd hc (by decide)
  · exact absurd hc (by decide)

/-- A path begins with a character of a name. -/
lemma exists_cons_of_isPathFrom {cs : List Char} (h : isPathFrom false cs = true) :
    ∃ c ds, cs = c :: ds ∧ isNameChar c = true := by
  match cs with
  | [] => exact absurd h Bool.false_ne_true
  | c :: ds =>
      by_cases hc : ∃ es, c = ':' ∧ ds = ':' :: es
      · obtain ⟨es, rfl, rfl⟩ := hc
        rw [isPathFrom, Bool.false_and] at h
        exact absurd h Bool.false_ne_true
      · rw [isPathFrom.eq_3 _ _ _ fun es h1 h2 => hc ⟨es, h1, h2⟩, Bool.and_eq_true] at h
        exact ⟨c, ds, rfl, isNameChar_of_isNameStart h.1⟩

namespace EntityUid

/-! ### Where the id begins -/

/-- A quote stands behind a double colon somewhere in the text. -/
def HasOpening (cs : List Char) : Prop :=
  [':', ':', '"'] <:+: cs

/-- A text is not cut exactly if no id is opened in it. -/
lemma splitAtId_eq_none_iff {cs : List Char} : splitAtId cs = none ↔ ¬HasOpening cs := by
  rw [HasOpening]
  fun_induction splitAtId cs with
  | case1 => simp
  | case2 rest => simp [List.infix_cons_iff]
  | case3 c rest h ih =>
      rw [Option.map_eq_none_iff, ih, List.infix_cons_iff, not_or]
      refine (and_iff_right ?_).symm
      rintro ⟨t, ht⟩
      exact h t (List.cons.inj ht).1.symm (List.cons.inj ht).2.symm

/-- A text is cut where the first id is opened. -/
lemma eq_append_of_splitAtId {cs path rest : List Char} (h : splitAtId cs = some (path, rest)) :
    cs = path ++ ':' :: ':' :: '"' :: rest ∧ ¬HasOpening (path ++ [':', ':']) := by
  rw [HasOpening]
  fun_induction splitAtId cs generalizing path with
  | case1 => cases h
  | case2 rest' =>
      cases h
      exact ⟨rfl, by decide⟩
  | case3 c cs hc ih =>
      obtain ⟨⟨path', rest'⟩, hcut, heq⟩ := Option.map_eq_some_iff.1 h
      cases heq
      obtain ⟨rfl, hfirst⟩ := ih hcut
      refine ⟨rfl, ?_⟩
      rw [List.cons_append, List.infix_cons_iff, not_or]
      refine ⟨?_, hfirst⟩
      rintro ⟨t, ht⟩
      obtain ⟨rfl, ht⟩ := List.cons.inj ht
      refine hc (t ++ '"' :: rest) rfl ?_
      have happend := congrArg (· ++ '"' :: rest) ht
      simpa using happend.symm

/-- Where an id is opened for the first time, the text is cut. -/
lemma splitAtId_of_not_hasOpening {path : List Char} (h : ¬HasOpening (path ++ [':', ':']))
    (rest : List Char) : splitAtId (path ++ ':' :: ':' :: '"' :: rest) = some (path, rest) := by
  rw [HasOpening] at h
  induction path with
  | nil => rfl
  | cons c path ih =>
      rw [List.cons_append, List.infix_cons_iff, not_or] at h
      -- The quote of a double colon before the end of the path would be in the path.
      have hnext : ∀ ds, c = ':' → path ++ ':' :: ':' :: '"' :: rest ≠ ':' :: '"' :: ds := by
        rintro ds rfl hds
        match path with
        | [] => simp at hds
        | [d] => simp at hds
        | d :: e :: path =>
            simp only [List.cons_append, List.cons.injEq] at hds
            obtain ⟨rfl, rfl, -⟩ := hds
            exact h.1 ⟨_, rfl⟩
      rw [List.cons_append, splitAtId.eq_3 _ _ hnext, ih h.2]
      rfl

/-- No id is opened in a text without quotes, nor by the double colon behind it. -/
lemma not_hasOpening_of_not_mem {path : List Char} (h : '"' ∉ path) :
    ¬HasOpening (path ++ [':', ':']) := by
  intro hopen
  have hmem : '"' ∈ path ++ [':', ':'] := hopen.subset (by simp)
  exact h (by simpa using hmem)

/-- The quote behind the double colon that follows a text without quotes opens the id. -/
lemma splitAtId_append {path : List Char} (h : '"' ∉ path) (rest : List Char) :
    splitAtId (path ++ ':' :: ':' :: '"' :: rest) = some (path, rest) :=
  splitAtId_of_not_hasOpening (not_hasOpening_of_not_mem h) rest

/-! ### The text -/

/-- The characters of the text of an identity. -/
lemma toList_toText (uid : EntityUid) :
    uid.toText.toList =
      uid.type.path.toList ++ ':' :: ':' :: '"' :: (Text.escape uid.id.toList ++ ['"']) := by
  simp only [toText, Text.quoted, String.toList_append, String.toList_ofList, List.append_assoc]
  rfl

/-- Of a text that begins with a path and ends with a quote, only the blanks around it are
trimmed. -/
lemma trim_framed {before path body after : List Char}
    (hbefore : ∀ c ∈ before, Text.isBlank c = true) (hpath : isPathFrom false path = true)
    (hafter : ∀ c ∈ after, Text.isBlank c = true) :
    Text.trim (before ++ (path ++ ':' :: ':' :: '"' :: (body ++ ['"'])) ++ after) =
      path ++ ':' :: ':' :: '"' :: (body ++ ['"']) := by
  obtain ⟨c, ds, rfl, hc⟩ := exists_cons_of_isPathFrom hpath
  refine Text.trim_append hbefore hafter (List.cons_ne_nil _ _) ?_ ?_
  · rintro d ⟨⟩
    exact isBlank_of_isNameChar hc
  · have hlast : (c :: ds ++ ':' :: ':' :: '"' :: (body ++ ['"'])).getLast? = some '"' := by
      simp [List.getLast?_cons, List.getLast?_append]
    rw [hlast]
    rintro d ⟨⟩
    rfl

/-- The text of an identity whose type is a type path has no blanks at its ends. -/
lemma trim_toText {uid : EntityUid} (h : isTypePath uid.type.path = true) :
    Text.trim uid.toText.toList = uid.toText.toList := by
  have htrim := @trim_framed [] _ (Text.escape uid.id.toList) [] (List.forall_mem_nil _) h
    (List.forall_mem_nil _)
  rwa [List.nil_append, List.append_nil, ← toList_toText] at htrim

/-- **The text of an identity is read back exactly if its id uses no code point**:
otherwise it is refused for its first code point escape. -/
theorem ofText?_toText {uid : EntityUid} (h : isTypePath uid.type.path = true) :
    ofText? uid.toText =
      if Text.usesCodePoint uid.id.toList then .error (.badEscape (.unknown 'u') uid.toText)
      else .ok uid := by
  have hsplit := splitAtId_append (not_quote_mem_of_isPathFrom h)
    (Text.escape uid.id.toList ++ ['"'])
  rw [ofText?, trim_toText h, String.ofList_toList, toList_toText, hsplit]
  simp only [List.getLast?_concat, List.dropLast_concat, String.ofList_toList, if_true,
    typeOfText?, h, Text.unescape_escape]
  cases Text.usesCodePoint uid.id.toList with
  | true => rfl
  | false =>
      show Except.ok ⟨uid.type, String.ofList uid.id.toList⟩ = Except.ok uid
      rw [String.ofList_toList]

/-- An id with quotes, a backslash, a line break and a mark after its first character. -/
theorem ofText?_toText_quotes :
    ofText? (toText ⟨⟨"Infra::Host"⟩, "a\u0301 \"b\"::\\\n"⟩) =
      .ok ⟨⟨"Infra::Host"⟩, "a\u0301 \"b\"::\\\n"⟩ := by
  have hpath : isTypePath "Infra::Host" = true := by decide
  rw [ofText?_toText hpath, if_neg (by decide)]

/-- **Not every text of an identity can be read**: an id with a control character is
written by its code point. -/
theorem not_forall_ofText?_toText :
    ¬∀ uid : EntityUid, isTypePath uid.type.path = true → ofText? uid.toText = .ok uid := by
  intro h
  have hbell := h ⟨⟨"User"⟩, "\x07"⟩ (by decide)
  have hread : ofText? (toText ⟨⟨"User"⟩, "\x07"⟩) =
      .error (.badEscape (.unknown 'u') "User::\"\\u\x7b7\x7d\"") := by rfl
  rw [hread] at hbell
  cases hbell

end EntityUid

end AccessPolicy
