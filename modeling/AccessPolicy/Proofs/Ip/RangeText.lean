/-
The texts that write ranges of addresses.

* `Range.IsText`: the text of an address, with a slash and a number of bits after it or with
  all the bits of the family;
* `bits?_eq_some_iff`, `make?_eq_ok_iff`: which numbers of bits are read, and which are allowed
  for an address;
* `ofText?_eq_ok_iff`: these texts are read, each as what it writes, and no others;
* `isText_toText`: a range is written in one of its own texts;
* `text_laws`: what is written, what is read, and what is refused.
-/
import AccessPolicy.Ip.Range
import AccessPolicy.Proofs.Ip.AddressText

namespace AccessPolicy.Ip.Range

/-- The texts of a range: before the first slash, the address; after it, the number of leading
bits in any number of digits; without a slash, all bits count. -/
inductive IsText : List Char → Address → Nat → Prop
  | bare {cs : List Char} {x : Address} (hslash : '/' ∉ cs) (h : Address.IsText cs x) :
      IsText cs x x.width
  | withBits {front back : List Char} {x : Address} (hslash : '/' ∉ front)
      (h : Address.IsText front x) (hne : back ≠ []) (hdigits : ∀ c ∈ back, c.isDigit)
      (hle : Text.decimalValue back ≤ x.width) :
      IsText (front ++ '/' :: back) x (Text.decimalValue back)

variable {cs : List Char} {x : Address} {r : Range} {s : String} {n p : Nat}

/-! ### Reading -/

/-- No family has as many bits as the numbers that are not read. -/
lemma width_lt_256 (x : Address) : x.width < 256 := by
  cases x <;> simp [Address.width]

/-- A number of bits is read from decimal digits only. -/
lemma bits?_eq_some_iff :
    bits? cs = some n ↔
      cs ≠ [] ∧ (∀ c ∈ cs, c.isDigit) ∧ Text.decimalValue cs = n ∧ n < 256 := by
  rw [bits?, Option.ite_none_right_eq_some, Option.some.injEq, List.all_eq_true]
  constructor
  · rintro ⟨⟨hne, hdigits, hlt⟩, rfl⟩
    exact ⟨hne, hdigits, rfl, hlt⟩
  · rintro ⟨hne, hdigits, rfl, hlt⟩
    exact ⟨⟨hne, hdigits, hlt⟩, rfl⟩

/-- A range is made exactly if the family has the bits. -/
lemma make?_eq_ok_iff : make? x n = .ok r ↔ r.address = x ∧ r.bits = n := by
  rw [make?]
  constructor
  · intro h
    split at h
    · cases h
      exact ⟨rfl, rfl⟩
    · cases h
  · rintro ⟨rfl, rfl⟩
    exact dif_pos r.bits_le

/-- **The texts of ranges are those that are read, each as its range.** -/
lemma ofText?_eq_ok_iff : ofText? s = .ok r ↔ IsText s.toList r.address r.bits := by
  rw [ofText?]
  constructor
  · intro h
    cases hcut : Text.cutAtFirst '/' s.toList with
    | none =>
        rw [hcut] at h
        dsimp only at h
        cases hread : Address.ofChars? s.toList with
        | none =>
            rw [hread] at h
            cases h
        | some x =>
            rw [hread] at h
            cases h
            exact .bare (Text.cutAtFirst_eq_none_iff.1 hcut) (Address.ofChars?_eq_some_iff.1 hread)
    | some halves =>
        obtain ⟨front, back⟩ := halves
        rw [hcut] at h
        dsimp only at h
        split at h
        · rename_i x n hread hbits
          obtain ⟨rfl, rfl⟩ := make?_eq_ok_iff.1 h
          obtain ⟨hslash, hwhole⟩ := Text.cutAtFirst_eq_some_iff.1 hcut
          obtain ⟨hne, hdigits, hvalue, -⟩ := bits?_eq_some_iff.1 hbits
          rw [hwhole, ← hvalue]
          exact .withBits hslash (Address.ofChars?_eq_some_iff.1 hread) hne hdigits
            (hvalue ▸ r.bits_le)
        · cases h
  · intro h
    obtain ⟨x, p, hp⟩ := r
    dsimp only at h
    generalize s.toList = cs at h
    cases h with
    | bare hslash h =>
        rw [Text.cutAtFirst_eq_none_iff.2 hslash]
        dsimp only
        rw [Address.ofChars?_eq_some_iff.2 h]
    | @withBits front back _ hslash h hne hdigits _ =>
        have hbits := bits?_eq_some_iff.2
          ⟨hne, hdigits, rfl, Nat.lt_of_le_of_lt hp (width_lt_256 x)⟩
        rw [Text.cutAtFirst_eq_some_iff.2 ⟨hslash, rfl⟩]
        dsimp only
        rw [Address.ofChars?_eq_some_iff.2 h, hbits]
        exact make?_eq_ok_iff.2 ⟨rfl, rfl⟩

/-- A text has no more bits than the family. -/
lemma IsText.le_width (h : IsText cs x n) : n ≤ x.width := by
  cases h with
  | bare => exact Nat.le_refl _
  | withBits _ _ _ _ hle => exact hle

/-- Every failure says that the text is no address. -/
lemma ParseError.exists_message (e : ParseError) :
    ∃ detail, e.message = "invalid ip address literal: " ++ detail := by
  cases e with
  | malformed text => exact ⟨text, rfl⟩
  | tooLong bits address =>
      have hhead : "invalid ip address literal: prefix /" =
          "invalid ip address literal: " ++ "prefix /" := by simp
      refine ⟨"prefix /" ++ toString bits ++ " is too long for " ++ address.toText, ?_⟩
      calc (tooLong bits address).message
          = "invalid ip address literal: prefix /" ++ toString bits ++ " is too long for " ++
              address.toText := rfl
        _ = "invalid ip address literal: " ++ ("prefix /" ++ toString bits ++
              " is too long for " ++ address.toText) := by
            rw [hhead]
            simp only [String.append_assoc]

/-! ### Writing -/

/-- What is written: the canonical text of the address, then a slash and the number of bits
unless these are all. -/
inductive IsCanonical (r : Range) : List Char → Prop
  | bare {cs : List Char} (h : Address.IsCanonical cs r.address)
      (hbits : r.bits = r.address.width) : IsCanonical r cs
  | withBits {cs : List Char} (h : Address.IsCanonical cs r.address)
      (hbits : r.bits < r.address.width) :
      IsCanonical r (cs ++ '/' :: Nat.toDigits 10 r.bits)

/-- A range is written in its canonical text. -/
lemma isCanonical_toText (r : Range) : IsCanonical r r.toText.toList := by
  have haddress := Address.isCanonical_iff.2 (show r.address.chars = r.address.chars from rfl)
  rw [toText]
  split
  · rw [Address.toText, String.toList_ofList]
    exact .bare haddress ‹_›
  · have hlt : r.bits < r.address.width := Nat.lt_of_le_of_ne r.bits_le ‹_›
    have hwhole : (r.address.toText ++ "/" ++ toString r.bits).toList =
        r.address.chars ++ '/' :: Nat.toDigits 10 r.bits := by
      simp [Address.toText, Nat.repr]
    rw [hwhole]
    exact .withBits haddress hlt

/-- A canonical text of a range is a text of the range. -/
lemma IsCanonical.isText (h : IsCanonical r cs) : IsText cs r.address r.bits := by
  cases h with
  | bare h hbits =>
      rw [hbits]
      exact .bare (h.isText.not_mem rfl (by decide) (by decide)) h.isText
  | withBits h hbits =>
      have hvalue := Text.decimalValue_toDigits r.bits
      have hdigits : ∀ c ∈ Nat.toDigits 10 r.bits, c.isDigit := fun c hc =>
        Nat.isDigit_of_mem_toDigits (by decide) (by decide) hc
      have htext := IsText.withBits (h.isText.not_mem rfl (by decide) (by decide)) h.isText
        Nat.toDigits_ne_nil hdigits (Nat.le_trans (Nat.le_of_eq hvalue) r.bits_le)
      rwa [hvalue] at htext

/-! ### The laws -/

/-- **Ranges are read as they are written; the texts that are read are those of the grammar,
each as the address and the bits that it writes, and all others are refused.** -/
theorem text_laws :
    (∀ r : Range, IsCanonical r r.toText.toList ∧ ofText? r.toText = .ok r) ∧
    (∀ (s : String) (x : Address) (p : Nat),
      (∃ r, ofText? s = .ok r ∧ r.address = x ∧ r.bits = p) ↔ IsText s.toList x p) ∧
    ∀ s : String, (¬∃ x p, IsText s.toList x p) ↔
      ∃ e detail, ofText? s = .error e ∧ e.message = "invalid ip address literal: " ++ detail := by
  refine ⟨fun r => ?_, fun s x p => ?_, fun s => ?_⟩
  · exact ⟨isCanonical_toText r, ofText?_eq_ok_iff.2 (isCanonical_toText r).isText⟩
  · constructor
    · rintro ⟨r, hr, rfl, rfl⟩
      exact ofText?_eq_ok_iff.1 hr
    · intro h
      exact ⟨⟨x, p, h.le_width⟩, ofText?_eq_ok_iff.2 h, rfl, rfl⟩
  · constructor
    · intro h
      cases hread : ofText? s with
      | ok r => exact absurd ⟨_, _, ofText?_eq_ok_iff.1 hread⟩ h
      | error e =>
          obtain ⟨detail, hdetail⟩ := e.exists_message
          exact ⟨e, detail, rfl, hdetail⟩
    · rintro ⟨e, -, he, -⟩ ⟨x, p, h⟩
      have hread := ofText?_eq_ok_iff (r := ⟨x, p, h.le_width⟩).2 h
      rw [he] at hread
      cases hread

-- A dotted quad in place of two groups, a zero in front of the bits; a tie between two runs of
-- zeros, and bits that are left out.
example : ["0:0::FFFF:10.0.0.1/0104", "2001:DB8:0:0:1:0:0:1/128"].map
      (fun s => (ofText? s).toOption.map toText) =
    [some "::ffff:10.0.0.1/104", some "2001:db8::1:0:0:1"] := by cbv

end AccessPolicy.Ip.Range
