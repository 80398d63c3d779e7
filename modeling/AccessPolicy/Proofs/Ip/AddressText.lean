/-
The text of an internet address: there is one form for each address, and it is read as the
address.

* `ofDigits_digits`, `digits_ofDigits`: the digits of a number give the number again, and
  numbers below the base are the digits of the number that they write;
* `HasZeros`, `IsLongestRun`: runs of zero groups, and the first among the longest ones;
  `isLongestRun_longestZeros` says that it is found, and `IsLongestRun.unique` that there is
  only one;
* `IsShortest`: groups without superfluous zeros, of which the first longest run of two or
  more zeros is left out for a double colon;
* `IsCanonical`: the dotted quad, or the shortest text of the eight groups, or the dotted quad
  of the address of the first family that one of the second holds;
* `isCanonical_iff`: an address is written in this form, and in no other;
* `IsCanonical.isText`, `ofText?_toText_eq_some`: the form is a text of the address, so that
  it is read as the address.
-/
import AccessPolicy.Proofs.Ip.Grammar
import Mathlib.Algebra.Group.Nat.Defs

namespace AccessPolicy.Ip.Address

/-! ### Digits of an address -/

section Digits

variable {base n x : Nat}

/-- The last of some digits. -/
lemma ofDigits_append_singleton (ds : List Nat) (d : Nat) :
    ofDigits base (ds ++ [d]) = base * ofDigits base ds + d := by
  rw [ofDigits, List.foldl_append]
  rfl

/-- The last digits of a number give the number, as far as they go. -/
lemma ofDigits_digits : ofDigits base (digits base n x) = x % base ^ n := by
  induction n generalizing x with
  | zero => simp [digits, ofDigits, Nat.mod_one]
  | succ n ih =>
      calc ofDigits base (digits base (n + 1) x)
          = base * (x / base % base ^ n) + x % base := by
            rw [digits, ofDigits_append_singleton, ih]
        _ = x % (base * base ^ n) := by rw [Nat.mod_mul, Nat.add_comm]
        _ = x % base ^ (n + 1) := by rw [Nat.pow_succ, Nat.mul_comm]

/-- There are as many digits as were asked for. -/
lemma length_digits : (digits base n x).length = n := by
  induction n generalizing x with
  | zero => rfl
  | succ n ih => rw [digits, List.length_append, ih, List.length_singleton]

/-- A digit is below the base. -/
lemma lt_of_mem_digits (hb : 0 < base) {d : Nat} (hd : d ∈ digits base n x) : d < base := by
  induction n generalizing x with
  | zero => exact absurd hd List.not_mem_nil
  | succ n ih =>
      rw [digits, List.mem_append, List.mem_singleton] at hd
      rcases hd with hd | rfl
      · exact ih hd
      · exact Nat.mod_lt x hb

/-- Digits below the base are those of the number that they write. -/
lemma digits_ofDigits {base : Nat} {ds : List Nat} (h : ∀ d ∈ ds, d < base) :
    digits base ds.length (ofDigits base ds) = ds := by
  -- From the end, where the remainder is.
  induction ds using List.reverseRecOn with
  | nil => rfl
  | append_singleton ds d ih =>
      have hd : d < base := h d (by simp)
      have hpos : 0 < base := Nat.pos_of_ne_zero (by omega)
      rw [List.length_append, List.length_singleton, ofDigits_append_singleton, digits,
        Nat.mul_add_div hpos, Nat.div_eq_of_lt hd, Nat.add_zero, Nat.mul_add_mod,
        Nat.mod_eq_of_lt hd, ih fun d hd => h d (List.mem_append_left _ hd)]

end Digits

/-! ### Dotted quads -/

section Quads

variable {cs : List Char} {os : List Nat}

/-- The text of 32 bits is a dotted quad. -/
lemma isQuad_dottedQuad (x : Nat) : IsQuad (dottedQuad x) (digits 256 4 x) :=
  ⟨length_digits, fun _ => lt_of_mem_digits (by decide), rfl⟩

/-- A dotted quad is the text of its bits. -/
lemma IsQuad.eq_dottedQuad (h : IsQuad cs os) : cs = dottedQuad (ofDigits 256 os) := by
  have hdigits := digits_ofDigits h.lt
  rw [h.four] at hdigits
  rw [dottedQuad, hdigits]
  exact h.joined

/-- The bits of a dotted quad are 32. -/
lemma IsQuad.ofDigits_lt (h : IsQuad cs os) : ofDigits 256 os < 0x100000000 := by
  have hdigits := digits_ofDigits h.lt
  rw [h.four] at hdigits
  calc ofDigits 256 os
      = ofDigits 256 (digits 256 4 (ofDigits 256 os)) := by rw [hdigits]
    _ = ofDigits 256 os % 256 ^ 4 := ofDigits_digits
    _ < 0x100000000 := Nat.mod_lt _ (by decide)

end Quads

/-! ### Groups -/

section Groups

variable {gs : List Nat}

/-- A group is read back. -/
lemma group?_toDigits {g : Nat} (hg : g < 0x10000) : group? (Nat.toDigits 16 g) = some g := by
  have hlength : (Nat.toDigits 16 g).length ≤ 4 :=
    (Nat.length_toDigits_le_iff (by decide) (by decide)).2 (by omega)
  rw [group?, if_pos ⟨Nat.toDigits_ne_nil, hlength⟩, Text.hexNumber?_toDigits]

/-- Groups below the bound are read back from their text. -/
lemma isSide_groupText (quad : Bool) (h : ∀ g ∈ gs, g < 0x10000) :
    IsSide quad (groupText gs) gs := by
  refine ⟨gs.map (Nat.toDigits 16), rfl, ?_⟩
  induction gs with
  | nil => exact .nil
  | cons g gs ih =>
      obtain ⟨hg, hgs⟩ := List.forall_mem_cons.1 h
      exact .cons (group?_eq_some_iff.1 (group?_toDigits hg)) (ih hgs)

end Groups

/-! ### Runs of zeros -/

section Zeros

variable {gs : List Nat} {i j m n : Nat}

/-- The `n` groups from a place on are zero. -/
def HasZeros (gs : List Nat) (i n : Nat) : Prop :=
  ∀ j < n, gs[i + j]? = some 0

/-- The first among the longest runs of zeros. -/
structure IsLongestRun (gs : List Nat) (i n : Nat) : Prop where
  zeros : HasZeros gs i n
  longest : ∀ j m, HasZeros gs j m → m ≤ n
  first : ∀ j < i, ¬HasZeros gs j n

/-- The groups of a run of zeros are zero. -/
lemma take_drop_of_le_zerosAt {gs : List Nat} {start length : Nat}
    (h : length ≤ zerosAt gs start) : (gs.drop start).take length = List.replicate length 0 := by
  have hfirst : (gs.drop start).take length =
      ((gs.drop start).takeWhile (· == 0)).take length := by
    conv_lhs => rw [← List.takeWhile_append_dropWhile (p := (· == 0)) (l := gs.drop start)]
    exact List.take_append_of_le_length h
  refine List.eq_replicate_iff.2 ⟨?_, fun g hg => ?_⟩
  · rw [hfirst, List.length_take]
    exact Nat.min_eq_left h
  · rw [hfirst] at hg
    have hzero := List.all_eq_true.1 List.all_takeWhile g (List.mem_of_mem_take hg)
    exact eq_of_beq hzero

/-- A run of zeros, as a part of the list. -/
lemma hasZeros_iff_take : HasZeros gs i n ↔ (gs.drop i).take n = List.replicate n 0 := by
  constructor
  · intro h
    refine List.ext_getElem? fun j => ?_
    rw [List.getElem?_take, List.getElem?_replicate, List.getElem?_drop]
    split
    · exact h j ‹_›
    · rfl
  · intro h j hj
    have hzero := congrArg (fun l => l[j]?) h
    rwa [List.getElem?_take_of_lt hj, List.getElem?_drop, List.getElem?_replicate, if_pos hj]
      at hzero

/-- A run of zeros between the groups before it and after it. -/
lemma HasZeros.eq_append (h : HasZeros gs i n) :
    gs = gs.take i ++ List.replicate n 0 ++ gs.drop (i + n) := by
  rw [← hasZeros_iff_take.1 h, List.append_assoc, ← List.drop_drop, List.take_append_drop,
    List.take_append_drop]

/-- The zeros from a place on are counted. -/
lemma hasZeros_iff : HasZeros gs i n ↔ n ≤ zerosAt gs i := by
  constructor
  · intro h
    have hwhole : gs.drop i = List.replicate n 0 ++ (gs.drop i).drop n := by
      rw [← hasZeros_iff_take.1 h, List.take_append_drop]
    rw [zerosAt, hwhole, List.takeWhile_append_of_pos (by simp), List.length_append,
      List.length_replicate]
    exact Nat.le_add_right _ _
  · exact fun h => hasZeros_iff_take.2 (take_drop_of_le_zerosAt h)

/-- There is only one first longest run. -/
lemma IsLongestRun.unique (h : IsLongestRun gs i n) (h' : IsLongestRun gs j m) :
    i = j ∧ n = m := by
  obtain rfl : n = m := Nat.le_antisymm (h'.longest i n h.zeros) (h.longest j m h'.zeros)
  refine ⟨?_, rfl⟩
  rcases Nat.lt_trichotomy i j with hlt | heq | hlt
  · exact absurd h.zeros (h'.first i hlt)
  · exact heq
  · exact absurd h'.zeros (h.first j hlt)

/-- The search for the longest run: after each place it has the first longest one of those
that begin no later. -/
lemma exists_foldl_zerosAt (gs : List Nat) (k : Nat) :
    ∃ i n, (List.range k).foldl (fun best i =>
        if best.2 < zerosAt gs i then (i, zerosAt gs i) else best) (0, 0) = (i, n) ∧
      n ≤ zerosAt gs i ∧ (∀ j < k, zerosAt gs j ≤ n) ∧ ∀ j < i, zerosAt gs j < n := by
  induction k with
  | zero => exact ⟨0, 0, rfl, Nat.zero_le _, nofun, nofun⟩
  | succ k ih =>
      obtain ⟨i, n, hbest, hzeros, hlongest, hfirst⟩ := ih
      rw [List.range_succ, List.foldl_append, hbest, List.foldl_cons, List.foldl_nil]
      split
      · rename_i hlt
        have hbefore : ∀ j < k, zerosAt gs j < zerosAt gs k := fun j hj =>
          Nat.lt_of_le_of_lt (hlongest j hj) hlt
        refine ⟨k, _, rfl, Nat.le_refl _, fun j hj => ?_, hbefore⟩
        rcases Nat.lt_succ_iff_lt_or_eq.1 hj with hj | rfl
        · exact Nat.le_of_lt (hbefore j hj)
        · exact Nat.le_refl _
      · rename_i hle
        refine ⟨i, n, rfl, hzeros, fun j hj => ?_, hfirst⟩
        rcases Nat.lt_succ_iff_lt_or_eq.1 hj with hj | rfl
        · exact hlongest j hj
        · exact Nat.not_lt.1 hle

/-- **The run that is left out is the first longest one.** -/
lemma isLongestRun_longestZeros (gs : List Nat) :
    IsLongestRun gs (longestZeros gs).1 (longestZeros gs).2 := by
  obtain ⟨i, n, hbest, hzeros, hlongest, hfirst⟩ := exists_foldl_zerosAt gs gs.length
  rw [longestZeros, hbest]
  refine ⟨hasZeros_iff.2 hzeros, fun j m hm => ?_, fun j hj hm => ?_⟩
  · refine Nat.le_trans (hasZeros_iff.1 hm) ?_
    rcases Nat.lt_or_ge j gs.length with hj | hj
    · exact hlongest j hj
    · rw [zerosAt, List.drop_eq_nil_of_le hj]
      exact Nat.zero_le n
  · exact absurd (hasZeros_iff.1 hm) (Nat.not_le.2 (hfirst j hj))

end Zeros

/-! ### The form of an address -/

section

variable {gs : List Nat} {cs : List Char} {a : Address}

/-- Groups without superfluous zeros in lower case, of which the first longest run of two or
more zeros is left out for a double colon. -/
inductive IsShortest (gs : List Nat) : List Char → Prop
  | whole {i n : Nat} (h : IsLongestRun gs i n) (hn : n < 2) : IsShortest gs (groupText gs)
  | run {i n : Nat} (h : IsLongestRun gs i n) (hn : 2 ≤ n) :
      IsShortest gs (groupText (gs.take i) ++ ':' :: ':' :: groupText (gs.drop (i + n)))

/-- The text in which an address is written: the dotted quad, or the shortest text of the
eight groups, but the dotted quad of the address of the first family that one of the second
holds. -/
inductive IsCanonical : List Char → Address → Prop
  | v4 {b : BitVec 32} {cs : List Char} {os : List Nat} (h : IsQuad cs os)
      (hb : b.toNat = ofDigits 256 os) : IsCanonical cs (.v4 b)
  | mapped {b : BitVec 128} {cs : List Char} {os : List Nat} (h : IsQuad cs os)
      (hb : b.toNat = 0xffff * 0x100000000 + ofDigits 256 os) :
      IsCanonical ("::ffff:".toList ++ cs) (.v6 b)
  | v6 {b : BitVec 128} {cs : List Char} {gs : List Nat} (hlength : gs.length = 8)
      (hlt : ∀ g ∈ gs, g < 0x10000) (hb : b.toNat = ofDigits 0x10000 gs)
      (hmapped : b.toNat / 0x100000000 ≠ 0xffff) (h : IsShortest gs cs) : IsCanonical cs (.v6 b)

/-- There is one shortest text. -/
lemma isShortest_iff : IsShortest gs cs ↔
    cs = if (longestZeros gs).2 < 2 then groupText gs
      else groupText (gs.take (longestZeros gs).1) ++ ':' :: ':' ::
        groupText (gs.drop ((longestZeros gs).1 + (longestZeros gs).2)) := by
  have hrun := isLongestRun_longestZeros gs
  constructor
  · intro h
    cases h with
    | whole h hn =>
        obtain ⟨rfl, rfl⟩ := h.unique hrun
        rw [if_pos hn]
    | run h hn =>
        obtain ⟨rfl, rfl⟩ := h.unique hrun
        rw [if_neg (Nat.not_lt.2 hn)]
  · rintro rfl
    split
    · exact .whole hrun ‹_›
    · exact .run hrun (Nat.not_lt.1 ‹_›)

/-- The text of 128 bits, if they hold no address of the first family. -/
lemma isShortest_digits_iff {x : Nat} (h : x / 0x100000000 ≠ 0xffff) :
    IsShortest (digits 0x10000 8 x) cs ↔ cs = colonText x := by
  rw [isShortest_iff, colonText, if_neg h]

/-- **An address is written in its canonical text, and in no other.** -/
theorem isCanonical_iff : IsCanonical cs a ↔ cs = a.chars := by
  constructor
  · intro h
    cases h with
    | v4 h hb =>
        rw [chars, hb]
        exact h.eq_dottedQuad
    | @mapped b cs os h hb =>
        have hlt := h.ofDigits_lt
        have hhigh : b.toNat / 0x100000000 = 0xffff := by omega
        have hlow : b.toNat % 0x100000000 = ofDigits 256 os := by omega
        rw [chars, colonText, if_pos hhigh, hlow, ← h.eq_dottedQuad]
    | @v6 b cs gs hlength hlt hb hmapped h =>
        have hdigits := digits_ofDigits hlt
        rw [hlength, ← hb] at hdigits
        rw [← hdigits] at h
        exact (isShortest_digits_iff hmapped).1 h
  · rintro rfl
    cases a with
    | v4 b =>
        refine .v4 (isQuad_dottedQuad b.toNat) ?_
        rw [ofDigits_digits]
        exact (Nat.mod_eq_of_lt b.isLt).symm
    | v6 b =>
        by_cases hmapped : b.toNat / 0x100000000 = 0xffff
        · rw [chars, colonText, if_pos hmapped]
          refine .mapped (isQuad_dottedQuad _) ?_
          rw [ofDigits_digits]
          omega
        · refine .v6 length_digits (fun g hg => lt_of_mem_digits (by decide) hg) ?_ hmapped
            ((isShortest_digits_iff hmapped).2 rfl)
          rw [ofDigits_digits]
          exact (Nat.mod_eq_of_lt b.isLt).symm

/-! ### Reading what is written -/

/-- The shortest text of eight groups is one of their texts. -/
lemma IsShortest.isEightGroups (h : IsShortest gs cs) (hlength : gs.length = 8)
    (hlt : ∀ g ∈ gs, g < 0x10000) : IsEightGroups cs gs := by
  cases h with
  | whole => exact .full (isSide_groupText true hlt) hlength
  | @run i n h hn =>
      have hwhole := h.zeros.eq_append
      have hcount := congrArg List.length hwhole
      rw [List.length_append, List.length_append, List.length_replicate, hlength] at hcount
      have htext := IsEightGroups.zeros (n := n)
        (isSide_groupText false fun g hg => hlt g (List.mem_of_mem_take hg))
        (isSide_groupText true fun g hg => hlt g (List.mem_of_mem_drop hg)) (by omega)
        hcount.symm
      rwa [← hwhole] at htext

/-- The groups of an address that holds one of the first family. -/
lemma IsQuad.isEightGroups_mapped {o₁ o₂ o₃ o₄ : Nat} (h : IsQuad cs [o₁, o₂, o₃, o₄]) :
    IsEightGroups ("::ffff:".toList ++ cs)
      [0, 0, 0, 0, 0, 0xffff, 256 * o₁ + o₂, 256 * o₃ + o₄] := by
  have hgroup : IsGroup "ffff".toList 0xffff := group?_eq_some_iff.1 (by decide)
  have hside : IsSide true ("ffff".toList ++ ':' :: cs)
      [0xffff, 256 * o₁ + o₂, 256 * o₃ + o₄] :=
    ⟨["ffff".toList, cs], rfl, .cons hgroup (.quad rfl h)⟩
  exact .zeros (n := 5) ⟨[], rfl, .nil⟩ hside (by decide) rfl

/-- **The form of an address is a text of the address.** -/
theorem IsCanonical.isText (h : IsCanonical cs a) : IsText cs a := by
  cases h with
  | @v4 b cs os h hb =>
      have htext := IsText.v4 h
      rwa [← hb, BitVec.ofNat_toNat, BitVec.setWidth_eq] at htext
  | @mapped b cs os h hb =>
      obtain ⟨o₁, o₂, o₃, o₄, rfl⟩ := h.exists_four
      have htext := IsText.v6 h.isEightGroups_mapped
      have hbits : ofDigits 0x10000 [0, 0, 0, 0, 0, 0xffff, 256 * o₁ + o₂, 256 * o₃ + o₄] =
          b.toNat := by
        rw [hb]
        simp only [ofDigits, List.foldl_cons, List.foldl_nil]
        omega
      rwa [hbits, BitVec.ofNat_toNat, BitVec.setWidth_eq] at htext
  | @v6 b cs gs hlength hlt hb _ h =>
      have htext := IsText.v6 (h.isEightGroups hlength hlt)
      rwa [← hb, BitVec.ofNat_toNat, BitVec.setWidth_eq] at htext

/-- **The text of an address is read as the address.** -/
theorem ofText?_toText_eq_some (a : Address) : ofText? a.toText = some a := by
  rw [ofText?, toText, String.toList_ofList]
  exact ofChars?_eq_some_iff.2 (isCanonical_iff.2 rfl).isText

end

end AccessPolicy.Ip.Address
