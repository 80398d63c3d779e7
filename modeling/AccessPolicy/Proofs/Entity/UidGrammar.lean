/-
The texts that name an identity, apart from how they are read.

* `IsName`, `IsPath`: a letter or a low line, followed by letters, low lines and digits; and one
  or more such names joined by double colons;
* `EntityUid.IsText`: a path, a double colon and the quoted id, between blanks;
* `EntityUid.Misnames`: the first of four things that can be wrong with a text between its blanks;
* `isPathFrom_iff`, `Text.exists_blanks`: what is found to be a path, and what is trimmed. No step
  of the reading looks at the whole of the text, but a path has no quotes, so that the first quote
  behind a double colon is the one that opens the id;
* `EntityUid.isText_or_misnames`: there is nothing between the two;
* `EntityUid.grammar_exact`: a text is read exactly as the identity that it names, and is refused
  exactly for what is wrong with it.
-/
import AccessPolicy.Proofs.Entity.UidText
import AccessPolicy.Proofs.Text.Quoted
import Mathlib.Data.List.TakeWhile

namespace AccessPolicy

/-! ### Names and paths -/

/-- A letter of the Latin alphabet or a low line. -/
def BeginsName (c : Char) : Prop :=
  ('A' ≤ c ∧ c ≤ 'Z') ∨ ('a' ≤ c ∧ c ≤ 'z') ∨ c = '_'

/-- A character that may begin a name, or a digit. -/
def ContinuesName (c : Char) : Prop :=
  BeginsName c ∨ ('0' ≤ c ∧ c ≤ '9')

/-- A name. -/
inductive IsName : List Char → Prop
  | intro {c : Char} {cs : List Char} (hc : BeginsName c) (hcs : ∀ d ∈ cs, ContinuesName d) :
      IsName (c :: cs)

/-- One or more names joined by double colons. -/
inductive IsPath : List Char → Prop
  | name {name : List Char} (h : IsName name) : IsPath name
  | join {name path : List Char} (h : IsName name) (hpath : IsPath path) :
      IsPath (name ++ ':' :: ':' :: path)

variable {c : Char} {cs name path : List Char}

lemma isNameStart_iff : isNameStart c = true ↔ BeginsName c := by
  have hupper : c.isUpper = true ↔ 'A' ≤ c ∧ c ≤ 'Z' := decide_eq_true_iff
  have hlower : c.isLower = true ↔ 'a' ≤ c ∧ c ≤ 'z' :=
    Bool.and_eq_true_iff.trans (and_congr decide_eq_true_iff decide_eq_true_iff)
  have halpha : c.isAlpha = true ↔ c.isUpper = true ∨ c.isLower = true := Bool.or_eq_true_iff
  rw [isNameStart, Bool.or_eq_true, halpha, hupper, hlower, beq_iff_eq, or_assoc, BeginsName]

lemma isNameChar_iff : isNameChar c = true ↔ ContinuesName c := by
  have hdigit : c.isDigit = true ↔ '0' ≤ c ∧ c ≤ '9' :=
    Bool.and_eq_true_iff.trans (and_congr decide_eq_true_iff decide_eq_true_iff)
  have halnum : c.isAlphanum = true ↔ c.isAlpha = true ∨ c.isDigit = true := Bool.or_eq_true_iff
  rw [isNameChar, Bool.or_eq_true, halnum, hdigit, or_right_comm, ContinuesName, ← isNameStart_iff,
    isNameStart, Bool.or_eq_true]

/-- A name goes on with a character that continues names. -/
lemma IsName.concat (h : IsName name) (hc : ContinuesName c) : IsName (name ++ [c]) := by
  cases h with
  | intro hd hds =>
      refine .intro hd fun e he => ?_
      rcases List.mem_append.1 he with he | he
      · exact hds e he
      · exact List.mem_singleton.1 he ▸ hc

/-- What is found to be a path is one; within a name, it is one behind what was found of the
name. -/
lemma isPath_of_isPathFrom {inName : Bool} (h : isPathFrom inName cs = true) :
    (inName = false → IsPath cs) ∧ (inName = true → ∀ name, IsName name → IsPath (name ++ cs)) := by
  induction inName, cs using isPathFrom.induct with
  | case1 inName =>
      obtain rfl : inName = true := h
      refine ⟨fun h => absurd h (by decide), fun _ name hname => ?_⟩
      rw [List.append_nil]
      exact .name hname
  | case2 inName cs ih =>
      rw [isPathFrom, Bool.and_eq_true] at h
      obtain ⟨rfl, hcs⟩ := h
      exact ⟨fun h => absurd h (by decide), fun _ name hname => .join hname ((ih hcs).1 rfl)⟩
  | case3 inName c cs hc ih =>
      rw [isPathFrom.eq_3 _ _ _ hc, Bool.and_eq_true] at h
      have hrest := (ih h.2).2 rfl
      constructor
      · rintro rfl
        exact hrest [c] (.intro (isNameStart_iff.1 h.1) (List.forall_mem_nil _))
      · rintro rfl name hname
        have hpath := hrest (name ++ [c]) (hname.concat (isNameChar_iff.1 h.1))
        rwa [List.append_assoc] at hpath

/-- A character of a name is passed over within a name. -/
lemma isPathFrom_cons (inName : Bool)
    (hc : (if inName then isNameChar c else isNameStart c) = true) :
    isPathFrom inName (c :: cs) = isPathFrom true cs := by
  have hcolon : c ≠ ':' := by
    rintro rfl
    cases inName <;> exact absurd hc (by decide)
  rw [isPathFrom.eq_3 _ _ _ fun _ h _ => hcolon h, hc, Bool.true_and]

/-- A name is passed over. -/
lemma IsName.isPathFrom_append (h : IsName name) (rest : List Char) :
    isPathFrom false (name ++ rest) = isPathFrom true rest := by
  cases h with
  | @intro c cs hc hcs =>
      rw [List.cons_append, isPathFrom_cons false (isNameStart_iff.2 hc)]
      induction cs with
      | nil => rfl
      | cons d ds ih =>
          rw [List.forall_mem_cons] at hcs
          rw [List.cons_append, isPathFrom_cons true (isNameChar_iff.2 hcs.1), ih hcs.2]

/-- **The paths are the texts that are found to be paths.** -/
theorem isPathFrom_iff : isPathFrom false cs = true ↔ IsPath cs := by
  constructor
  · exact fun h => (isPath_of_isPathFrom h).1 rfl
  · intro h
    induction h with
    | name h =>
        have hname := h.isPathFrom_append []
        rwa [List.append_nil] at hname
    | join h _ ih =>
        rw [h.isPathFrom_append, isPathFrom, ih]
        rfl

/-! ### Blanks -/

/-- What is trimmed are blanks at the ends. -/
lemma Text.exists_blanks (cs : List Char) : ∃ before after,
    (∀ c ∈ before, Text.isBlank c = true) ∧ (∀ c ∈ after, Text.isBlank c = true) ∧
      cs = before ++ Text.trim cs ++ after := by
  have hblank : ∀ ds : List Char, ∀ c ∈ ds.takeWhile Text.isBlank, Text.isBlank c = true :=
    fun _ _ hc => List.mem_takeWhile_imp hc
  refine ⟨cs.takeWhile Text.isBlank,
    ((cs.dropWhile Text.isBlank).reverse.takeWhile Text.isBlank).reverse, hblank cs,
    fun c hc => hblank _ c (List.mem_reverse.1 hc), ?_⟩
  rw [Text.trim, List.append_assoc, ← List.reverse_append, List.takeWhile_append_dropWhile,
    List.reverse_reverse, List.takeWhile_append_dropWhile]

namespace EntityUid

/-! ### Texts of identities -/

/-- The text names the identity: between blanks stand the path of the type, a double colon, and
in quotes pieces that spell the id. -/
def IsText (cs : List Char) (uid : EntityUid) : Prop :=
  ∃ before body after : List Char, (∀ c ∈ before, Text.isBlank c = true) ∧
    (∀ c ∈ after, Text.isBlank c = true) ∧ IsPath uid.type.path.toList ∧
    Text.Spells Text.IsPiece body uid.id.toList ∧
    cs = before ++ (uid.type.path.toList ++ ':' :: ':' :: '"' :: (body ++ ['"'])) ++ after

/-- The first thing that is wrong with a text: no quote opens an id, no quote closes it at the
end, the part before it is no path, or something spoils the id. -/
inductive Misnames (text : String) : List Char → ParseError → Prop
  | missingId {cs : List Char} (h : ¬HasOpening cs) : Misnames text cs (.missingId text)
  | unterminated {path rest : List Char} (hfirst : ¬HasOpening (path ++ [':', ':']))
      (hend : rest.getLast? ≠ some '"') :
      Misnames text (path ++ ':' :: ':' :: '"' :: rest) (.unterminated text)
  | badType {path body : List Char} (hfirst : ¬HasOpening (path ++ [':', ':']))
      (hpath : ¬IsPath path) :
      Misnames text (path ++ ':' :: ':' :: '"' :: (body ++ ['"']))
        (.badType (String.ofList path))
  | badEscape {path body : List Char} {err : Text.EscapeError} (hpath : IsPath path)
      (hbody : Text.Spoils body err) :
      Misnames text (path ++ ':' :: ':' :: '"' :: (body ++ ['"'])) (.badEscape err text)

/-! ### Reading -/

lemma isTypePath_ofList : isTypePath (String.ofList path) = true ↔ IsPath path := by
  rw [isTypePath, String.toList_ofList, isPathFrom_iff]

variable {s : String} {uid : EntityUid} {err : ParseError} {body : List Char}

/-- What becomes of a text in which an id is opened and that ends with a quote: the path is
looked at first, and then the id. -/
lemma ofText?_of_trim (hfirst : ¬HasOpening (path ++ [':', ':']))
    (htrim : Text.trim s.toList = path ++ ':' :: ':' :: '"' :: (body ++ ['"'])) :
    ofText? s =
      if isTypePath (String.ofList path) then
        match Text.unescape body with
        | .ok id => .ok ⟨⟨String.ofList path⟩, String.ofList id⟩
        | .error e => .error (.badEscape e (String.ofList (Text.trim s.toList)))
      else .error (.badType (String.ofList path)) := by
  rw [ofText?, htrim, splitAtId_of_not_hasOpening hfirst]
  simp only [List.getLast?_concat, List.dropLast_concat, if_true, typeOfText?]
  split
  · rfl
  · rfl

/-- No id is opened in a path. -/
lemma not_hasOpening_of_isPath (h : IsPath path) : ¬HasOpening (path ++ [':', ':']) :=
  not_hasOpening_of_not_mem (not_quote_mem_of_isPathFrom (isPathFrom_iff.2 h))

/-- A text that names an identity is read as it. -/
lemma ofText?_of_isText (h : IsText s.toList uid) : ofText? s = .ok uid := by
  obtain ⟨before, body, after, hbefore, hafter, hpath, hbody, hs⟩ := h
  have hread := isPathFrom_iff.2 hpath
  have htrim : Text.trim s.toList =
      uid.type.path.toList ++ ':' :: ':' :: '"' :: (body ++ ['"']) := by
    rw [hs]
    exact trim_framed hbefore hread hafter
  rw [ofText?_of_trim (not_hasOpening_of_isPath hpath) htrim, String.ofList_toList,
    isTypePath, if_pos hread, Text.unescape_of_spells hbody]
  simp only [String.ofList_toList]

/-- A text that is wrong is refused for the first thing that is wrong with it. -/
lemma ofText?_of_misnames
    (h : Misnames (String.ofList (Text.trim s.toList)) (Text.trim s.toList) err) :
    ofText? s = .error err := by
  generalize hcs : Text.trim s.toList = cs at h
  cases h with
  | missingId h => rw [ofText?, hcs, splitAtId_eq_none_iff.2 h]
  | @unterminated path rest hfirst hend =>
      rw [ofText?, hcs, splitAtId_of_not_hasOpening hfirst]
      exact if_neg hend
  | badType hfirst hpath => rw [ofText?_of_trim hfirst hcs, if_neg (mt isTypePath_ofList.1 hpath)]
  | badEscape hpath hbody =>
      rw [ofText?_of_trim (not_hasOpening_of_isPath hpath) hcs, if_pos (isTypePath_ofList.2 hpath),
        Text.unescape_of_spoils hbody, hcs]

/-- A text names an identity, or something is wrong with it. -/
lemma isText_or_misnames (s : String) : (∃ uid, IsText s.toList uid) ∨
    ∃ err, Misnames (String.ofList (Text.trim s.toList)) (Text.trim s.toList) err := by
  obtain ⟨before, after, hbefore, hafter, hs⟩ := Text.exists_blanks s.toList
  generalize String.ofList (Text.trim s.toList) = text
  generalize Text.trim s.toList = cs at hs
  cases hcut : splitAtId cs with
  | none => exact .inr ⟨_, .missingId (splitAtId_eq_none_iff.1 hcut)⟩
  | some parts =>
      obtain ⟨path, rest⟩ := parts
      obtain ⟨rfl, hfirst⟩ := eq_append_of_splitAtId hcut
      by_cases hend : rest.getLast? = some '"'
      · obtain ⟨body, rfl⟩ := List.getLast?_eq_some_iff.1 hend
        by_cases hpath : IsPath path
        · cases hread : Text.unescape body with
          | ok id =>
              refine .inl ⟨⟨⟨String.ofList path⟩, String.ofList id⟩, before, body, after, hbefore,
                hafter, ?_, ?_, ?_⟩
              · rwa [String.toList_ofList]
              · rw [String.toList_ofList]
                exact Text.unescape_eq_ok_iff.1 hread
              · rwa [String.toList_ofList]
          | error e => exact .inr ⟨_, .badEscape hpath (Text.unescape_eq_error_iff.1 hread)⟩
        · exact .inr ⟨_, .badType hfirst hpath⟩
      · exact .inr ⟨_, .unterminated hfirst hend⟩

/-- **A text is read exactly as the identity that it names.** A text that names none is refused,
for the first thing that is wrong with it. -/
theorem grammar_exact :
    (∀ s uid, ofText? s = .ok uid ↔ IsText s.toList uid) ∧
    (∀ s, (¬∃ uid, IsText s.toList uid) ↔ ∃ err, ofText? s = .error err) ∧
    ∀ s err, ofText? s = .error err ↔
      Misnames (String.ofList (Text.trim s.toList)) (Text.trim s.toList) err := by
  have hok : ∀ s uid, ofText? s = .ok uid ↔ IsText s.toList uid := by
    intro s uid
    refine ⟨fun h => ?_, ofText?_of_isText⟩
    rcases isText_or_misnames s with ⟨uid', htext⟩ | ⟨err, hwrong⟩
    · rw [ofText?_of_isText htext, Except.ok.injEq] at h
      exact h ▸ htext
    · rw [ofText?_of_misnames hwrong] at h
      cases h
  have herror : ∀ s err, ofText? s = .error err ↔
      Misnames (String.ofList (Text.trim s.toList)) (Text.trim s.toList) err := by
    intro s err
    refine ⟨fun h => ?_, ofText?_of_misnames⟩
    rcases isText_or_misnames s with ⟨uid, htext⟩ | ⟨err', hwrong⟩
    · rw [ofText?_of_isText htext] at h
      cases h
    · rw [ofText?_of_misnames hwrong, Except.error.injEq] at h
      exact h ▸ hwrong
  refine ⟨hok, fun s => ?_, herror⟩
  simp only [← hok s]
  cases ofText? s with
  | ok uid => simp
  | error err => simp

/-- An id that reads like the end of a type is read between blanks; with its quote unescaped,
it is refused. -/
theorem grammar_exact_colons :
    ofText? " Infra::Host::\"a::\\\"b\"\n" = .ok ⟨⟨"Infra::Host"⟩, "a::\"b"⟩ ∧
      ofText? "Infra::Host::\"a::\"b\"" =
        .error (.badEscape .bareQuote "Infra::Host::\"a::\"b\"") := by
  obtain ⟨hread, -, hrefused⟩ := grammar_exact
  have hpath : IsPath "Infra::Host".toList := isPathFrom_iff.1 (by decide)
  constructor
  · refine (hread _ _).2 ⟨[' '], "a::\\\"b".toList, ['\n'], List.forall_mem_singleton.2 rfl,
      List.forall_mem_singleton.2 rfl, hpath, ?_, rfl⟩
    exact Text.unescape_eq_ok_iff.1 rfl
  · refine (hrefused _ _).2 ?_
    exact @Misnames.badEscape _ _ "a::\"b".toList _ hpath (Text.unescape_eq_error_iff.1 rfl)

end EntityUid

end AccessPolicy
