/-
The texts that write internet addresses, apart from how they are read.

* `IsQuad`: four numbers below 256 in decimal, without superfluous zeros, joined by dots;
* `IsHexDigit`, `IsGroup`: one to four hexadecimal digits of either case;
* `IsGroups`, `IsSide`: groups joined by colons, where a dotted quad may stand for the last
  two;
* `IsEightGroups`: eight groups, or fewer with a double colon for the zeros that are missing;
* `IsText`: the texts of an address of either family;
* `quad?_eq_some_iff`, `groups?_eq_some_iff`, `eightGroups?_eq_some_iff`,
  `ofChars?_eq_some_iff`: these are the texts that are read, and they are read as this.
-/
import AccessPolicy.Ip.Address
import AccessPolicy.Proofs.Text.Pieces

namespace AccessPolicy.Ip.Address

/-! ### The grammar -/

/-- Four numbers below 256 in decimal, joined by dots. -/
structure IsQuad (cs : List Char) (os : List Nat) : Prop where
  four : os.length = 4
  lt : ∀ o ∈ os, o < 256
  joined : cs = Text.joined '.' (os.map (Nat.toDigits 10))

/-- A hexadecimal digit, in lower or in upper case. -/
def IsHexDigit (c : Char) (d : Nat) : Prop :=
  d < 16 ∧ (c = Nat.digitChar d ∨ c = (Nat.digitChar d).toUpper)

/-- One to four hexadecimal digits. -/
structure IsGroup (cs : List Char) (g : Nat) : Prop where
  ne_nil : cs ≠ []
  length_le : cs.length ≤ 4
  digits : ∃ ds, List.Forall₂ IsHexDigit cs ds ∧ ofDigits 16 ds = g

/-- Pieces that are groups; with `quad` the last may be a dotted quad, in place of the two
groups that have its bits. -/
inductive IsGroups (quad : Bool) : List (List Char) → List Nat → Prop
  | nil : IsGroups quad [] []
  | cons {p : List Char} {g : Nat} {ps : List (List Char)} {gs : List Nat} (hp : IsGroup p g)
      (hps : IsGroups quad ps gs) : IsGroups quad (p :: ps) (g :: gs)
  | quad {p : List Char} {a b c d : Nat} (hquad : quad = true) (hp : IsQuad p [a, b, c, d]) :
      IsGroups quad [p] [256 * a + b, 256 * c + d]

/-- Groups joined by colons, of which there may be none. -/
def IsSide (quad : Bool) (cs : List Char) (gs : List Nat) : Prop :=
  ∃ ps, cs = Text.joined ':' ps ∧ IsGroups quad ps gs

/-- Eight groups; a double colon stands for one or more groups of zeros. -/
inductive IsEightGroups : List Char → List Nat → Prop
  | full {cs : List Char} {gs : List Nat} (hcs : IsSide true cs gs) (hlength : gs.length = 8) :
      IsEightGroups cs gs
  | zeros {as bs : List Char} {hs ts : List Nat} {n : Nat} (has : IsSide false as hs)
      (hbs : IsSide true bs ts) (hn : 0 < n) (hlength : hs.length + n + ts.length = 8) :
      IsEightGroups (as ++ ':' :: ':' :: bs) (hs ++ List.replicate n 0 ++ ts)

/-- The texts of an address. -/
inductive IsText : List Char → Address → Prop
  | v4 {cs : List Char} {os : List Nat} (h : IsQuad cs os) :
      IsText cs (.v4 (.ofNat 32 (ofDigits 256 os)))
  | v6 {cs : List Char} {gs : List Nat} (h : IsEightGroups cs gs) :
      IsText cs (.v6 (.ofNat 128 (ofDigits 0x10000 gs)))

/-! ### Dotted quads -/

section Quads

variable {cs : List Char} {os : List Nat} {o : Nat}

/-- A number below 256 is read back. -/
lemma octet?_toDigits {d : Nat} (hd : d < 256) : octet? (Nat.toDigits 10 d) = some d := by
  have hlength : (Nat.toDigits 10 d).length ≤ 3 :=
    (Nat.length_toDigits_le_iff (by decide) (by decide)).2 (by omega)
  have hdigits : (Nat.toDigits 10 d).all Char.isDigit :=
    List.all_eq_true.2 fun c hc => Nat.isDigit_of_mem_toDigits (by decide) (by decide) hc
  have hzero : (Nat.toDigits 10 d).head? = some '0' → (Nat.toDigits 10 d).length = 1 := by
    intro h
    obtain rfl := (Text.head?_toDigits_eq_zero_iff (by decide)).1 h
    rfl
  rw [octet?, Text.decimalValue_toDigits,
    if_pos ⟨Nat.toDigits_ne_nil, hlength, hdigits, hzero, hd⟩]

/-- A number is read from its digits only. -/
lemma octet?_eq_some_iff : octet? cs = some o ↔ o < 256 ∧ cs = Nat.toDigits 10 o := by
  constructor
  · intro h
    rw [octet?, Option.ite_none_right_eq_some] at h
    obtain ⟨⟨hne, -, hdigits, hzero, hlt⟩, ho⟩ := h
    rw [Option.some.injEq] at ho
    rw [← ho]
    exact ⟨hlt, (Text.toDigits_decimalValue hne hdigits hzero).symm⟩
  · rintro ⟨ho, rfl⟩
    exact octet?_toDigits ho

/-- The pieces of a dotted quad are its numbers. -/
lemma IsQuad.fields (h : IsQuad cs os) : Text.fields '.' cs = os.map (Nat.toDigits 10) := by
  have hne : os.map (Nat.toDigits 10) ≠ [] := by
    refine List.ne_nil_of_length_pos ?_
    rw [List.length_map, h.four]
    decide
  rw [h.joined]
  refine Text.fields_joined hne fun p hp => ?_
  obtain ⟨o, -, rfl⟩ := List.mem_map.1 hp
  exact Text.not_mem_toDigits (by decide) fun _ => Nat.digitChar_ne '.' rfl

/-- **The dotted quads are the texts that are read as four numbers.** -/
lemma quad?_eq_some_iff : quad? cs = some os ↔ IsQuad cs os := by
  have hread : (Text.fields '.' cs).mapM octet? = some os ↔
      (∀ o ∈ os, o < 256) ∧ Text.fields '.' cs = os.map (Nat.toDigits 10) :=
    Text.mapM_eq_some_iff_map fun _ _ => octet?_eq_some_iff
  constructor
  · intro h
    obtain ⟨os', hos, hlength⟩ := Option.bind_eq_some_iff.1 h
    rw [Option.ite_none_right_eq_some, Option.some.injEq] at hlength
    obtain ⟨hfour, rfl⟩ := hlength
    obtain ⟨hlt, hfields⟩ := hread.1 hos
    exact ⟨hfour, hlt, by rw [← hfields, Text.joined_fields]⟩
  · intro h
    rw [quad?, hread.2 ⟨h.lt, h.fields⟩]
    exact if_pos h.four

/-- A dotted quad has its numbers and nothing else. -/
lemma IsQuad.exists_four (h : IsQuad cs os) : ∃ a b c d, os = [a, b, c, d] := by
  have hfour := h.four
  match os, hfour with
  | [a, b, c, d], _ => exact ⟨a, b, c, d, rfl⟩

/-- A character that is no digit and no dot stands in no dotted quad. -/
lemma IsQuad.not_mem (h : IsQuad cs os) {c : Char} (hc : Text.hexValue? c = none)
    (hdot : c ≠ '.') : c ∉ cs := by
  rw [h.joined]
  intro hmem
  obtain ⟨p, hp, hcp⟩ := (Text.mem_joined hmem).resolve_left hdot
  obtain ⟨o, -, rfl⟩ := List.mem_map.1 hp
  have hdigit : c.isDigit := Nat.isDigit_of_mem_toDigits (by decide) (by decide) hcp
  rw [Text.hexValue?, if_pos hdigit] at hc
  cases hc

/-- There is no colon in a dotted quad. -/
lemma IsQuad.colon_not_mem (h : IsQuad cs os) : ':' ∉ cs :=
  h.not_mem rfl (by decide)

/-- A dotted quad is not empty. -/
lemma IsQuad.ne_nil (h : IsQuad cs os) : cs ≠ [] := by
  rintro rfl
  rw [← quad?_eq_some_iff] at h
  cases h

end Quads

/-! ### Groups -/

section Groups

variable {quad : Bool} {cs p : List Char} {ps : List (List Char)} {g : Nat} {gs : List Nat}

/-- The six letters from a or from A on are hexadecimal digits. -/
lemma isHexDigit_of_letter {first c : Char} (hfirst : first = 'a' ∨ first = 'A')
    (hle : first ≤ c) (hlt : c.toNat < first.toNat + 6) :
    IsHexDigit c (c.toNat - first.toNat + 10) := by
  have hcode : first.toNat ≤ c.toNat := hle
  obtain ⟨k, hk, hvalue⟩ : ∃ k < 6, c.toNat = first.toNat + k :=
    ⟨c.toNat - first.toNat, by omega, by omega⟩
  have hc : c = Char.ofNat (first.toNat + k) := by rw [← hvalue, Char.ofNat_toNat]
  rw [hvalue, Nat.add_sub_cancel_left, hc, IsHexDigit]
  clear hle hlt hcode hvalue hc
  rcases hfirst with rfl | rfl <;> decide +revert

/-- The hexadecimal digits are the characters that are read as one. -/
lemma hexValue?_eq_some_iff {c : Char} {d : Nat} :
    Text.hexValue? c = some d ↔ IsHexDigit c d := by
  constructor
  · intro h
    rw [Text.hexValue?] at h
    split_ifs at h with hdigit hlower hupper
    · obtain ⟨hlt, hchar⟩ := Text.digitChar_of_isDigit hdigit
      rw [Option.some.inj h] at hlt hchar
      exact ⟨by omega, .inl hchar.symm⟩
    · have hlast : c.toNat ≤ 'f'.toNat := hlower.2
      rw [← Option.some.inj h]
      exact isHexDigit_of_letter (.inl rfl) hlower.1 (Nat.lt_succ_of_le hlast)
    · have hlast : c.toNat ≤ 'F'.toNat := hupper.2
      rw [← Option.some.inj h]
      exact isHexDigit_of_letter (.inr rfl) hupper.1 (Nat.lt_succ_of_le hlast)
  · rintro ⟨hd, rfl | rfl⟩
    · exact Text.hexValue?_digitChar hd
    · revert d
      decide

/-- A number is read from hexadecimal digits only. -/
lemma hexNumber?_eq_some_iff :
    Text.hexNumber? cs = some g ↔ ∃ ds, List.Forall₂ IsHexDigit cs ds ∧ ofDigits 16 ds = g := by
  -- The digits that were read before are a number of their own.
  have key : ∀ n, cs.foldlM (fun n c => (Text.hexValue? c).map (16 * n + ·)) n = some g ↔
      ∃ ds, List.Forall₂ IsHexDigit cs ds ∧ ds.foldl (fun n d => 16 * n + d) n = g := by
    induction cs with
    | nil => simp [List.forall₂_nil_left_iff]
    | cons c cs ih =>
        intro n
        rw [List.foldlM_cons, Option.bind_eq_bind, Option.bind_map, Option.bind_eq_some_iff]
        constructor
        · rintro ⟨d, hd, hrest⟩
          obtain ⟨ds, hds, hvalue⟩ := (ih _).1 hrest
          exact ⟨d :: ds, .cons (hexValue?_eq_some_iff.1 hd) hds, hvalue⟩
        · rintro ⟨_, hds, hvalue⟩
          cases hds with
          | @cons _ d _ ds hd hds =>
              exact ⟨d, hexValue?_eq_some_iff.2 hd, (ih _).2 ⟨ds, hds, hvalue⟩⟩
  exact key 0

/-- The groups are the pieces that are read as one number. -/
lemma group?_eq_some_iff : group? p = some g ↔ IsGroup p g := by
  rw [group?, Option.ite_none_right_eq_some, hexNumber?_eq_some_iff]
  exact ⟨fun ⟨⟨hne, hle⟩, hds⟩ => ⟨hne, hle, hds⟩, fun h => ⟨⟨h.ne_nil, h.length_le⟩, h.digits⟩⟩

/-- A character that is no digit stands in no group. -/
lemma IsGroup.not_mem (h : IsGroup p g) {c : Char} (hc : Text.hexValue? c = none) : c ∉ p := by
  obtain ⟨ds, hds, -⟩ := h.digits
  clear h
  induction hds with
  | nil => exact List.not_mem_nil
  | @cons c' d _ _ hd _ ih =>
      refine fun hmem => (List.mem_cons.1 hmem).elim (fun heq => ?_) ih
      rw [heq, hexValue?_eq_some_iff.2 hd] at hc
      cases hc

/-- A dotted quad is no group. -/
lemma IsQuad.group?_eq_none {os : List Nat} (h : IsQuad p os) : group? p = none := by
  refine Option.eq_none_iff_forall_ne_some.2 fun g hg => ?_
  have hdot : '.' ∉ p := (group?_eq_some_iff.1 hg).not_mem rfl
  have hone := congrArg List.length h.fields
  rw [Text.fields_of_not_mem hdot, List.length_map, h.four] at hone
  cases hone

/-- The two groups that have the bits of a dotted quad. -/
lemma IsQuad.two_groups {a b c d : Nat} (h : IsQuad p [a, b, c, d]) :
    [ofDigits 256 [a, b, c, d] / 0x10000, ofDigits 256 [a, b, c, d] % 0x10000] =
      [256 * a + b, 256 * c + d] := by
  have hc : c < 256 := h.lt c (by simp)
  have hd : d < 256 := h.lt d (by simp)
  have hbits : ofDigits 256 [a, b, c, d] = 0x10000 * (256 * a + b) + (256 * c + d) := by
    simp only [ofDigits, List.foldl_cons, List.foldl_nil]
    omega
  rw [hbits, Nat.mul_add_div (by decide), Nat.div_eq_of_lt (by omega), Nat.add_zero,
    Nat.mul_add_mod, Nat.mod_eq_of_lt (by omega)]

/-- The last piece is a group or a dotted quad. -/
lemma groups?_singleton_eq_some_iff : groups? quad [p] = some gs ↔ IsGroups quad [p] gs := by
  rw [groups?]
  cases hp : group? p with
  | some g =>
      have hgroup := group?_eq_some_iff.1 hp
      rw [Option.some.injEq]
      constructor
      · rintro rfl
        exact .cons hgroup .nil
      · intro h
        cases h with
        | cons hp' hps =>
            cases hps
            rw [Option.some.inj (hp.symm.trans (group?_eq_some_iff.2 hp'))]
        | quad _ hquad => exact absurd hquad.group?_eq_none (by rw [hp]; nofun)
  | none =>
      rw [Option.ite_none_right_eq_some, Option.bind_eq_bind, Option.bind_eq_some_iff]
      constructor
      · rintro ⟨hquad, os, hos, hgs⟩
        have hp' := quad?_eq_some_iff.1 hos
        obtain ⟨a, b, c, d, rfl⟩ := hp'.exists_four
        rw [← Option.some.inj hgs, hp'.two_groups]
        exact .quad hquad hp'
      · intro h
        cases h with
        | cons hp' _ => exact absurd (group?_eq_some_iff.2 hp') (by rw [hp]; nofun)
        | quad hquad hp' =>
            exact ⟨hquad, _, quad?_eq_some_iff.2 hp', congrArg some hp'.two_groups⟩

/-- **Groups joined by colons are the pieces that are read as groups.** -/
lemma groups?_eq_some_iff : groups? quad ps = some gs ↔ IsGroups quad ps gs := by
  induction ps generalizing gs with
  | nil =>
      rw [groups?, Option.some.injEq]
      constructor
      · rintro rfl
        exact .nil
      · intro h
        cases h
        rfl
  | cons p ps ih =>
      cases ps with
      | nil => exact groups?_singleton_eq_some_iff
      | cons q qs =>
          have hread : groups? quad (p :: q :: qs) =
              (group? p).bind fun g => (groups? quad (q :: qs)).map (g :: ·) := by
            rw [groups?]
            · cases groups? quad (q :: qs) <;> rfl
            · exact List.cons_ne_nil q qs
          rw [hread, Option.bind_eq_some_iff]
          simp only [Option.map_eq_some_iff, ih, group?_eq_some_iff]
          constructor
          · rintro ⟨g, hg, hs, hhs, rfl⟩
            exact .cons hg hhs
          · intro h
            cases h with
            | cons hp hps => exact ⟨_, hp, _, hps, rfl⟩

/-- A character that is no digit and no dot stands in no piece. -/
lemma IsGroups.not_mem (h : IsGroups quad ps gs) {c : Char} (hc : Text.hexValue? c = none)
    (hdot : c ≠ '.') : ∀ p ∈ ps, c ∉ p := by
  induction h with
  | nil => exact List.forall_mem_nil _
  | cons hp _ ih => exact List.forall_mem_cons.2 ⟨hp.not_mem hc, ih⟩
  | quad _ hp => exact List.forall_mem_cons.2 ⟨hp.not_mem hc hdot, List.forall_mem_nil _⟩

/-- The pieces of groups hold no colon, and none is empty. -/
lemma IsGroups.piece (h : IsGroups quad ps gs) : ∀ p ∈ ps, ':' ∉ p ∧ p ≠ [] := by
  refine fun p hp => ⟨h.not_mem rfl (by decide) p hp, ?_⟩
  revert p
  induction h with
  | nil => exact List.forall_mem_nil _
  | cons hp _ ih => exact List.forall_mem_cons.2 ⟨hp.ne_nil, ih⟩
  | quad _ hp => exact List.forall_mem_cons.2 ⟨hp.ne_nil, List.forall_mem_nil _⟩

/-- The groups between colons are read back, if there are any. -/
lemma groups?_fields_eq_some_iff (hne : gs ≠ []) :
    groups? quad (Text.fields ':' cs) = some gs ↔ IsSide quad cs gs := by
  rw [groups?_eq_some_iff]
  constructor
  · exact fun h => ⟨_, (Text.joined_fields ':' cs).symm, h⟩
  · rintro ⟨ps, rfl, h⟩
    have hps : ps ≠ [] := by
      rintro rfl
      cases h
      exact hne rfl
    rwa [Text.fields_joined hps fun p hp => (h.piece p hp).1]

/-- A character that is no digit, no dot and no colon stands in no groups. -/
lemma IsSide.not_mem (h : IsSide quad cs gs) {c : Char} (hc : Text.hexValue? c = none)
    (hdot : c ≠ '.') (hcolon : c ≠ ':') : c ∉ cs := by
  obtain ⟨ps, rfl, hps⟩ := h
  intro hmem
  obtain ⟨p, hp, hcp⟩ := (Text.mem_joined hmem).resolve_left hcolon
  exact hps.not_mem hc hdot p hp hcp

/-- **The sides of a double colon are the texts that are read as groups.** -/
lemma side?_eq_some_iff : side? quad cs = some gs ↔ IsSide quad cs gs := by
  rw [side?]
  by_cases hgs : gs = []
  · subst hgs
    have hnil : IsSide quad cs [] ↔ cs = [] := by
      constructor
      · rintro ⟨ps, rfl, hps⟩
        cases hps
        rfl
      · rintro rfl
        exact ⟨[], rfl, .nil⟩
    rw [hnil]
    split
    · rename_i hcs
      exact iff_of_true rfl hcs
    · rename_i hcs
      refine iff_of_false (fun h => ?_) hcs
      generalize hps : Text.fields ':' cs = ps at h
      cases groups?_eq_some_iff.1 h
      exact Text.fields_ne_nil ':' cs hps
  · rw [← groups?_fields_eq_some_iff hgs]
    split
    · rename_i hcs
      subst hcs
      refine iff_of_false (by simpa using Ne.symm hgs) ?_
      cases quad <;> nofun
    · rfl

end Groups

/-! ### The double colon -/

section Zeros

variable {quad : Bool} {cs as bs : List Char} {gs : List Nat}

/-- A piece without a colon is not cut. -/
lemma splitAtZeros_piece {p : List Char} (hp : ':' ∉ p) (rest : List Char) :
    splitAtZeros (p ++ rest) = (splitAtZeros rest).map fun (a, b) => (p ++ a, b) := by
  induction p with
  | nil => simp
  | cons c p ih =>
      obtain ⟨hc, hp⟩ := not_or.1 (mt List.mem_cons.2 hp)
      have hcut : splitAtZeros (c :: (p ++ rest)) =
          (splitAtZeros (p ++ rest)).map fun (a, b) => (c :: a, b) := by
        rw [splitAtZeros]
        rintro r rfl
        exact absurd rfl hc
      rw [List.cons_append, hcut, ih hp, Option.map_map]
      rfl

/-- A single colon does not cut a text. -/
lemma splitAtZeros_colon {rest : List Char} (h : rest.head? ≠ some ':') :
    splitAtZeros (':' :: rest) = (splitAtZeros rest).map fun (a, b) => (':' :: a, b) := by
  rw [splitAtZeros]
  rintro r - rfl
  exact absurd rfl h

/-- Pieces joined by colons are not cut, if there is no colon in them and none is
empty. -/
lemma splitAtZeros_joined {ps : List (List Char)} (h : ∀ p ∈ ps, ':' ∉ p ∧ p ≠ [])
    (rest : List Char) : splitAtZeros (Text.joined ':' ps ++ rest) =
      (splitAtZeros rest).map fun (a, b) => (Text.joined ':' ps ++ a, b) := by
  induction ps with
  | nil => simp [Text.joined]
  | cons p ps ih =>
      obtain ⟨hp, hps⟩ := List.forall_mem_cons.1 h
      cases ps with
      | nil => exact splitAtZeros_piece hp.1 rest
      | cons q qs =>
          have hhead : (Text.joined ':' (q :: qs) ++ rest).head? ≠ some ':' := by
            obtain ⟨c, q, rfl⟩ := List.exists_cons_of_ne_nil (hps q (.head _)).2
            have hc : c ≠ ':' := fun hc => (hps (c :: q) (.head _)).1 (hc ▸ .head _)
            cases qs <;> simpa [Text.joined] using hc
          have hjoined : Text.joined ':' (p :: q :: qs) =
              p ++ ':' :: Text.joined ':' (q :: qs) := by
            rw [Text.joined]
            simp
          rw [hjoined, List.append_assoc, List.cons_append, splitAtZeros_piece hp.1,
            splitAtZeros_colon hhead, ih hps, Option.map_map, Option.map_map]
          simp [Function.comp_def]

/-- A text that is cut has a double colon there. -/
lemma eq_append_of_splitAtZeros (h : splitAtZeros cs = some (as, bs)) :
    cs = as ++ ':' :: ':' :: bs := by
  induction cs using splitAtZeros.induct generalizing as with
  | case1 => cases h
  | case2 rest =>
      cases h
      rfl
  | case3 c rest hc ih =>
      rw [splitAtZeros] at h
      · obtain ⟨⟨as', bs'⟩, hcut, heq⟩ := Option.map_eq_some_iff.1 h
        cases heq
        rw [ih hcut, List.cons_append]
      · exact hc

/-- Groups hold no double colon. -/
lemma IsSide.splitAtZeros_append (h : IsSide quad cs gs) (rest : List Char) :
    splitAtZeros (cs ++ rest) = (splitAtZeros rest).map fun (as, bs) => (cs ++ as, bs) := by
  obtain ⟨ps, rfl, hps⟩ := h
  exact splitAtZeros_joined hps.piece rest

/-- Groups alone are not cut. -/
lemma IsSide.splitAtZeros_eq_none (h : IsSide quad cs gs) : splitAtZeros cs = none := by
  rw [← List.append_nil cs, h.splitAtZeros_append []]
  rfl

/-- Groups are cut off by the double colon after them. -/
lemma IsSide.splitAtZeros_eq_some (h : IsSide quad as gs) :
    splitAtZeros (as ++ ':' :: ':' :: bs) = some (as, bs) := by
  rw [h.splitAtZeros_append, splitAtZeros, Option.map_some]
  dsimp only
  rw [List.append_nil]

end Zeros

/-! ### Addresses -/

section Addresses

variable {cs : List Char} {gs : List Nat} {a : Address}

/-- **The texts of eight groups are those that are read as eight groups.** -/
lemma eightGroups?_eq_some_iff : eightGroups? cs = some gs ↔ IsEightGroups cs gs := by
  constructor
  · intro h
    rw [eightGroups?] at h
    cases hcut : splitAtZeros cs with
    | none =>
        rw [hcut] at h
        obtain ⟨gs', hgs', hlength⟩ := Option.bind_eq_some_iff.1 h
        rw [Option.ite_none_right_eq_some, Option.some.injEq] at hlength
        obtain ⟨hlength, rfl⟩ := hlength
        have hne : gs' ≠ [] := List.ne_nil_of_length_pos (by omega)
        exact .full ((groups?_fields_eq_some_iff hne).1 hgs') hlength
    | some halves =>
        obtain ⟨as, bs⟩ := halves
        rw [hcut] at h
        obtain ⟨hs, hhs, hrest⟩ := Option.bind_eq_some_iff.1 h
        obtain ⟨ts, hts, hlength⟩ := Option.bind_eq_some_iff.1 hrest
        rw [Option.ite_none_right_eq_some, Option.some.injEq] at hlength
        obtain ⟨hlength, rfl⟩ := hlength
        rw [eq_append_of_splitAtZeros hcut]
        exact .zeros (side?_eq_some_iff.1 hhs) (side?_eq_some_iff.1 hts) (by omega) (by omega)
  · intro h
    cases h with
    | full hcs hlength =>
        have hne : gs ≠ [] := List.ne_nil_of_length_pos (by omega)
        rw [eightGroups?, hcs.splitAtZeros_eq_none]
        dsimp only
        rw [(groups?_fields_eq_some_iff hne).2 hcs]
        exact if_pos hlength
    | @zeros as bs hs ts n has hbs hn hlength =>
        have hmissing : 8 - hs.length - ts.length = n := by omega
        rw [eightGroups?, has.splitAtZeros_eq_some]
        dsimp only
        rw [side?_eq_some_iff.2 has, side?_eq_some_iff.2 hbs]
        simp only [Option.bind_eq_bind, Option.bind_some, hmissing]
        exact if_pos (by omega)

/-- There is a colon between eight groups. -/
lemma IsEightGroups.colon_mem (h : IsEightGroups cs gs) : ':' ∈ cs := by
  cases h with
  | full hcs hlength =>
      by_contra hcolon
      have hne : gs ≠ [] := List.ne_nil_of_length_pos (by omega)
      have hread := (groups?_fields_eq_some_iff hne).2 hcs
      rw [Text.fields_of_not_mem hcolon, groups?_singleton_eq_some_iff] at hread
      cases hread with
      | cons _ hps =>
          cases hps
          cases hlength
      | quad => cases hlength
  | zeros => simp

/-- **The texts of addresses are those that are read as addresses.** -/
theorem ofChars?_eq_some_iff : ofChars? cs = some a ↔ IsText cs a := by
  rw [ofChars?]
  constructor
  · intro h
    cases hquad : quad? cs with
    | some os =>
        rw [hquad] at h
        cases h
        exact .v4 (quad?_eq_some_iff.1 hquad)
    | none =>
        rw [hquad] at h
        obtain ⟨gs, hgs, rfl⟩ := Option.map_eq_some_iff.1 h
        exact .v6 (eightGroups?_eq_some_iff.1 hgs)
  · intro h
    cases h with
    | v4 h => rw [quad?_eq_some_iff.2 h]
    | v6 h =>
        have hquad : quad? cs = none := Option.eq_none_iff_forall_ne_some.2 fun os hos =>
          (quad?_eq_some_iff.1 hos).colon_not_mem h.colon_mem
        rw [hquad, eightGroups?_eq_some_iff.2 h, Option.map_some]

/-- Addresses are written in hexadecimal digits, dots and colons. -/
lemma IsText.not_mem (h : IsText cs a) {c : Char} (hc : Text.hexValue? c = none)
    (hdot : c ≠ '.') (hcolon : c ≠ ':') : c ∉ cs := by
  cases h with
  | v4 h => exact h.not_mem hc hdot
  | v6 h =>
      cases h with
      | full hcs => exact hcs.not_mem hc hdot hcolon
      | zeros has hbs =>
          simp only [List.mem_append, List.mem_cons, not_or]
          exact ⟨has.not_mem hc hdot hcolon, hcolon, hcolon, hbs.not_mem hc hdot hcolon⟩

end Addresses

end AccessPolicy.Ip.Address
