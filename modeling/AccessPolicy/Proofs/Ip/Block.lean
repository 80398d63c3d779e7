/-
Ranges of addresses as blocks, which are sets of addresses.

* `Address.bit`: the bits of an address, counted from the front;
* `Range.block`: the addresses of the family that agree with a range on its leading bits;
  `contains_iff` says that the numbers which are compared stand for these bits;
* `Address.exists_flip`: one bit of an address may be changed alone, so that a block with
  fewer leading bits never lies in one with more (`bits_le_of_block_subset`), and a block of
  one address has them all (`block_eq_singleton_iff`);
* `isIn_iff`: one range lies in another exactly if the families are equal and the blocks are
  included;
* `tellsBlocks`: the tests of ranges, as statements about blocks.
-/
import AccessPolicy.Ip.Range
import Mathlib.Data.Set.Insert
import Mathlib.Tactic.Common

namespace AccessPolicy.Ip

/-! ### Bits -/

section Bits

variable {w n : Nat} {x y : BitVec w}

/-- The leading bits of two words are equal as numbers exactly if they are equal one by
one. -/
lemma toNat_shiftRight_eq_iff (hn : n ≤ w) :
    x.toNat >>> (w - n) = y.toNat >>> (w - n) ↔ ∀ i < n, x.getMsbD i = y.getMsbD i := by
  have hbit : ∀ (z : BitVec w) (i : Nat), i < n →
      z.getMsbD i = (z.toNat >>> (w - n)).testBit (n - 1 - i) := by
    intro z i hi
    rw [BitVec.getMsbD_eq_getLsbD, BitVec.getLsbD, Nat.testBit_shiftRight,
      decide_eq_true (by omega), Bool.true_and]
    congr 1
    omega
  constructor
  · intro h i hi
    rw [hbit x i hi, hbit y i hi, h]
  · intro h
    refine Nat.eq_of_testBit_eq fun j => ?_
    rcases Nat.lt_or_ge j n with hj | hj
    · have hi := h (n - 1 - j) (by omega)
      rw [hbit x _ (by omega), hbit y _ (by omega)] at hi
      rwa [show n - 1 - (n - 1 - j) = j by omega] at hi
    · have hzero : ∀ z : BitVec w, (z.toNat >>> (w - n)).testBit j = false := by
        intro z
        rw [Nat.testBit_shiftRight]
        exact BitVec.getLsbD_of_ge z _ (by omega)
      rw [hzero x, hzero y]

/-- One bit of a word may be changed alone. -/
lemma exists_getMsbD_ne (x : BitVec w) (hn : n < w) :
    ∃ y : BitVec w, y.getMsbD n ≠ x.getMsbD n ∧ ∀ i ≠ n, y.getMsbD i = x.getMsbD i := by
  refine ⟨x ^^^ BitVec.twoPow w (w - 1 - n), ?_, fun i hi => ?_⟩
  · have hset : (BitVec.twoPow w (w - 1 - n)).getMsbD n = true := by
      simp only [BitVec.getMsbD_eq_getLsbD, BitVec.getLsbD_twoPow, Bool.and_eq_true,
        decide_eq_true_eq, and_true]
      omega
    rw [BitVec.getMsbD_xor, hset, Bool.xor_true]
    exact Bool.not_ne_self _
  · have hclear : (BitVec.twoPow w (w - 1 - n)).getMsbD i = false := by
      simp only [BitVec.getMsbD_eq_getLsbD, BitVec.getLsbD_twoPow, Bool.and_eq_false_iff,
        decide_eq_false_iff_not]
      omega
    rw [BitVec.getMsbD_xor, hclear, Bool.xor_false]

end Bits

namespace Address

/-- The bit of an address at a place, counted from the front. -/
def bit : Address → Nat → Bool
  | .v4 b, i => b.getMsbD i
  | .v6 b, i => b.getMsbD i

variable {a b : Address} {n : Nat}

/-- Addresses of one family have the same width. -/
lemma width_eq_of_isV4_eq (h : a.isV4 = b.isV4) : a.width = b.width := by
  cases a <;> cases b <;> first | rfl | cases h

/-- The leading bits of two addresses of one family are equal as numbers exactly if they are
equal one by one. -/
lemma top_eq_top_iff (h : a.isV4 = b.isV4) (hn : n ≤ a.width) :
    a.top n = b.top n ↔ ∀ i < n, a.bit i = b.bit i := by
  cases a with
  | v4 x =>
      cases b with
      | v4 y => exact toNat_shiftRight_eq_iff hn
      | v6 y => cases h
  | v6 x =>
      cases b with
      | v4 y => cases h
      | v6 y => exact toNat_shiftRight_eq_iff hn

/-- Addresses of one family with the same bits are equal. -/
lemma eq_of_bits (h : a.isV4 = b.isV4) (hbits : ∀ i < a.width, a.bit i = b.bit i) : a = b := by
  cases a with
  | v4 x =>
      cases b with
      | v4 y => exact congrArg v4 (BitVec.eq_of_getMsbD_eq hbits)
      | v6 y => cases h
  | v6 x =>
      cases b with
      | v4 y => cases h
      | v6 y => exact congrArg v6 (BitVec.eq_of_getMsbD_eq hbits)

/-- One bit of an address may be changed alone. -/
lemma exists_flip (a : Address) (hn : n < a.width) :
    ∃ b : Address, b.isV4 = a.isV4 ∧ b.bit n ≠ a.bit n ∧ ∀ i ≠ n, b.bit i = a.bit i := by
  cases a with
  | v4 x =>
      obtain ⟨y, hne, heq⟩ := exists_getMsbD_ne x hn
      exact ⟨.v4 y, rfl, hne, heq⟩
  | v6 x =>
      obtain ⟨y, hne, heq⟩ := exists_getMsbD_ne x hn
      exact ⟨.v6 y, rfl, hne, heq⟩

end Address

namespace Range

variable {r s t : Range} {a : Address}

/-! ### Blocks -/

/-- The block of a range: the addresses of its family that agree with its address on the
leading bits. -/
def block (r : Range) : Set Address :=
  {a | a.isV4 = r.address.isV4 ∧ ∀ i < r.bits, a.bit i = r.address.bit i}

/-- The address of a range lies in its block. -/
lemma address_mem_block (r : Range) : r.address ∈ r.block :=
  ⟨rfl, fun _ _ => rfl⟩

/-- An address is contained in a range exactly if it lies in the block. -/
lemma contains_iff : r.contains a = true ↔ a ∈ r.block := by
  rw [contains, Bool.and_eq_true, beq_iff_eq, beq_iff_eq]
  constructor
  · rintro ⟨hv, htop⟩
    exact ⟨hv.symm, fun i hi => ((Address.top_eq_top_iff hv r.bits_le).1 htop i hi).symm⟩
  · rintro ⟨hv, hbits⟩
    exact ⟨hv.symm, (Address.top_eq_top_iff hv.symm r.bits_le).2 fun i hi => (hbits i hi).symm⟩

/-- A block that lies in another has at least as many leading bits. -/
lemma bits_le_of_block_subset (h : r.block ⊆ s.block) : s.bits ≤ r.bits := by
  by_contra hlt
  rw [not_le] at hlt
  obtain ⟨hv, hbits⟩ := h r.address_mem_block
  have hwidth := Address.width_eq_of_isV4_eq hv
  have hfree : r.bits < r.address.width := by
    have hs := s.bits_le
    omega
  -- the first bit that `r` leaves free is fixed in `s`
  obtain ⟨b, hb, hne, heq⟩ := r.address.exists_flip hfree
  have hmem : b ∈ r.block := ⟨hb, fun i hi => heq i (Nat.ne_of_lt hi)⟩
  exact hne (((h hmem).2 r.bits hlt).trans (hbits r.bits hlt).symm)

/-- **One range lies in another exactly if they are of one family and the blocks are
included.** -/
theorem isIn_iff : r.isIn s = true ↔
    r.address.isV4 = s.address.isV4 ∧ r.block ⊆ s.block := by
  rw [isIn, Bool.and_eq_true, decide_eq_true_eq, contains_iff]
  constructor
  · rintro ⟨hle, hv, hbits⟩
    refine ⟨hv, fun a ha => ⟨ha.1.trans hv, fun i hi => ?_⟩⟩
    exact (ha.2 i (by omega)).trans (hbits i hi)
  · rintro ⟨-, hsub⟩
    exact ⟨bits_le_of_block_subset hsub, hsub r.address_mem_block⟩

/-- A block that lies in another is of the same family. -/
lemma isIn_iff_block_subset : r.isIn s = true ↔ r.block ⊆ s.block :=
  isIn_iff.trans ⟨And.right, fun h => ⟨(h r.address_mem_block).1, h⟩⟩

/-- A block is one address exactly if this is the address of the range and all its bits are
leading bits. -/
lemma block_eq_singleton_iff :
    r.block = {a} ↔ r.bits = r.address.width ∧ r.address = a := by
  constructor
  · intro h
    have hmem := r.address_mem_block
    rw [h, Set.mem_singleton_iff] at hmem
    refine ⟨Nat.le_antisymm r.bits_le (Nat.le_of_not_lt fun hfree => ?_), hmem⟩
    obtain ⟨b, hb, hne, heq⟩ := r.address.exists_flip hfree
    have hb' : b ∈ r.block := ⟨hb, fun i hi => heq i (Nat.ne_of_lt hi)⟩
    rw [h, Set.mem_singleton_iff] at hb'
    exact hne (by rw [hb', hmem])
  · rintro ⟨hbits, rfl⟩
    refine Set.eq_singleton_iff_unique_mem.2 ⟨r.address_mem_block, fun b hb => ?_⟩
    refine Address.eq_of_bits hb.1 fun i hi => hb.2 i ?_
    rw [hbits, ← Address.width_eq_of_isV4_eq hb.1]
    exact hi

/-! ### Blocks set aside -/

/-- The block 127.0.0.0/8. -/
def loopbackV4 : Range := ⟨.v4 0x7f000000, 8, by decide⟩

/-- The block 224.0.0.0/4. -/
def multicastV4 : Range := ⟨.v4 0xe0000000, 4, by decide⟩

/-- The block ff00::/8. -/
def multicastV6 : Range := ⟨.v6 0xff000000000000000000000000000000, 8, by decide⟩

example : [loopbackV4, multicastV4, multicastV6].map toText =
    ["127.0.0.0/8", "224.0.0.0/4", "ff00::/8"] := by cbv

/-- A range of one family lies in another exactly if it has its leading bits. -/
lemma isIn_eq_of_isV4_eq (h : r.address.isV4 = s.address.isV4) :
    r.isIn s = (decide (s.bits ≤ r.bits) && r.address.top s.bits == s.address.top s.bits) := by
  rw [isIn, contains, h, beq_self_eq_true, Bool.true_and, Bool.beq_comm]

/-- **A range is one of loopback addresses exactly if its block lies in 127.0.0.0/8 or is the
address ::1.** -/
theorem isLoopback_iff :
    r.isLoopback = true ↔ r.block ⊆ loopbackV4.block ∨ r.block = {.v6 1} := by
  rw [← isIn_iff_block_subset, block_eq_singleton_iff]
  obtain ⟨a, n, hn⟩ := r
  cases a with
  | v4 b =>
      have hin : (mk (.v4 b) n hn).isIn loopbackV4 = (mk (.v4 b) n hn).isLoopback :=
        isIn_eq_of_isV4_eq rfl
      rw [hin]
      exact (or_iff_left fun h => by cases h.2).symm
  | v6 b =>
      have hout : ¬ (mk (.v6 b) n hn).isIn loopbackV4 = true := fun h => by
        cases (isIn_iff.1 h).1
      rw [or_iff_right hout, isLoopback, Bool.and_eq_true, beq_iff_eq, beq_iff_eq]
      exact and_congr_right' (iff_of_eq (Address.v6.injEq b 1).symm)

/-- **A range is one of multicast addresses exactly if its block lies in 224.0.0.0/4 or in
ff00::/8.** -/
theorem isMulticast_iff :
    r.isMulticast = true ↔ r.block ⊆ multicastV4.block ∨ r.block ⊆ multicastV6.block := by
  rw [← isIn_iff_block_subset, ← isIn_iff_block_subset]
  obtain ⟨a, n, hn⟩ := r
  cases a with
  | v4 b =>
      have hin : (mk (.v4 b) n hn).isIn multicastV4 = (mk (.v4 b) n hn).isMulticast :=
        isIn_eq_of_isV4_eq rfl
      rw [hin]
      exact (or_iff_left fun h => by cases (isIn_iff.1 h).1).symm
  | v6 b =>
      have hin : (mk (.v6 b) n hn).isIn multicastV6 = (mk (.v6 b) n hn).isMulticast :=
        isIn_eq_of_isV4_eq rfl
      rw [hin]
      exact (or_iff_right fun h => by cases (isIn_iff.1 h).1).symm

/-! ### The tests -/

/-- The tests of a range tell how its block lies. -/
structure TellsBlocks (r : Range) : Prop where
  /-- One range lies in another exactly if they are of one family and the blocks are
  included. -/
  isIn_iff : ∀ s, r.isIn s = true ↔ r.address.isV4 = s.address.isV4 ∧ r.block ⊆ s.block
  isIn_self : r.isIn r = true
  isIn_trans : ∀ s t, r.isIn s = true → s.isIn t = true → r.isIn t = true
  /-- Everything of the family lies in a range without leading bits. -/
  isIn_of_bits_eq_zero : ∀ s : Range, s.bits = 0 → r.address.isV4 = s.address.isV4 →
    r.isIn s = true
  isLoopback_iff : r.isLoopback = true ↔ r.block ⊆ loopbackV4.block ∨ r.block = {.v6 1}
  isMulticast_iff : r.isMulticast = true ↔
    r.block ⊆ multicastV4.block ∨ r.block ⊆ multicastV6.block

/-- **The tests of ranges are statements about blocks.** -/
theorem tellsBlocks (r : Range) : r.TellsBlocks where
  isIn_iff _ := isIn_iff
  isIn_self := isIn_iff.2 ⟨rfl, subset_rfl⟩
  isIn_trans s t hrs hst := by
    rw [isIn_iff_block_subset] at hrs hst ⊢
    exact hrs.trans hst
  isIn_of_bits_eq_zero s hs hv := by
    refine isIn_iff.2 ⟨hv, fun a ha => ⟨ha.1.trans hv, fun i hi => ?_⟩⟩
    rw [hs] at hi
    exact absurd hi (Nat.not_lt_zero i)
  isLoopback_iff := isLoopback_iff
  isMulticast_iff := isMulticast_iff

end Range

end AccessPolicy.Ip
