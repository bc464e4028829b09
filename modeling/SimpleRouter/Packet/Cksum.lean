import SimpleRouter.Framework.OnesComplement
import SimpleRouter.Model.Checksum

/-! # What `cksum` computes

    The sum of 65537 words is at most `2 ^ 32 - 1`, so the accumulator is large
    enough for messages of up to 131074 bytes. Folding the carries keeps the sum
    modulo 65535, and the complement is what is missing from all ones. Since
    `cksum` returns all ones instead of zero, it is never zero itself.

    * `NeverWraps.sum`: what the summing loop adds up.
    * `cksum_fold_folds`: what the folding loop comes to.
    * `cksum_fills_in`: what `cksum` is for.
    * `cksum_correct`: all of it, for messages that are not too long.
-/

namespace SimpleRouter

open Framework Framework.Bytes Framework.OnesComplement

/-! ### The summing loop -/

/-- No addition of the summing loop wraps, from `sum` on. -/
def NeverWraps : uint32_t → List uint8_t → Prop
  | sum, a :: b :: rest =>
    ¬ sum.uaddOverflow (a.setWidth 32 <<< 8 ||| b.setWidth 32) ∧
      NeverWraps (sum + (a.setWidth 32 <<< 8 ||| b.setWidth 32)) rest
  | sum, [a] => ¬ sum.uaddOverflow (a.setWidth 32 <<< 8)
  | _, [] => True

theorem toNat_high_byte (a : uint8_t) :
    (a.setWidth 32 <<< 8 : uint32_t).toNat = a.toNat * 256 := by
  have ha := a.isLt
  have hbyte : (a.setWidth 32).toNat = a.toNat :=
    BitVec.toNat_setWidth_of_le (by decide)
  rw [BitVec.toNat_shiftLeft, hbyte, Nat.shiftLeft_eq, Nat.mod_eq_of_lt (by omega)]

theorem toNat_word (a b : uint8_t) :
    (a.setWidth 32 <<< 8 ||| b.setWidth 32 : uint32_t).toNat = a.toNat * 256 + b.toNat := by
  have hb : b.toNat < 2 ^ 8 := b.isLt
  have hbyte : (b.setWidth 32).toNat = b.toNat :=
    BitVec.toNat_setWidth_of_le (by decide)
  have hhigh : a.toNat * 256 = a.toNat <<< 8 := (Nat.shiftLeft_eq a.toNat 8).symm
  rw [BitVec.toNat_or, toNat_high_byte, hbyte, hhigh, Nat.shiftLeft_add_eq_or_of_lt hb]

theorem not_overflow_iff {x y : uint32_t} : ¬ x.uaddOverflow y ↔ x.toNat + y.toNat < 2 ^ 32 := by
  rw [BitVec.uaddOverflow, decide_eq_true_eq, ge_iff_le, Nat.not_le]

/-- A loop that never wraps adds up the words. -/
theorem NeverWraps.sum {sum : uint32_t} {data : List uint8_t} (h : NeverWraps sum data) :
    (cksum_sum sum data).toNat = sum.toNat + total data := by
  unfold total
  fun_induction cksum_sum sum data with
  | case1 sum a b rest ih =>
    obtain ⟨hword, hrest⟩ := h
    have hsum := BitVec.toNat_add_of_not_uaddOverflow hword
    rw [ih hrest, hsum, toNat_word, words, List.sum_cons, Nat.add_assoc]
  | case2 sum a =>
    rw [BitVec.toNat_add_of_not_uaddOverflow h, toNat_high_byte, words, List.sum_singleton]
  | case3 sum => rfl

/-- It does not if 32 bits are enough for all of it. -/
theorem neverWraps_of_total {sum : uint32_t} {data : List uint8_t}
    (h : sum.toNat + total data < 2 ^ 32) : NeverWraps sum data := by
  unfold total at h
  fun_induction cksum_sum sum data with
  | case1 sum a b rest ih =>
    rw [words, List.sum_cons, ← Nat.add_assoc] at h
    have hword : ¬ sum.uaddOverflow (a.setWidth 32 <<< 8 ||| b.setWidth 32) := by
      rw [not_overflow_iff, toNat_word]
      exact Nat.lt_of_le_of_lt (Nat.le_add_right _ _) h
    refine ⟨hword, ih ?_⟩
    rw [BitVec.toNat_add_of_not_uaddOverflow hword, toNat_word]
    exact h
  | case2 sum a =>
    rw [words, List.sum_singleton] at h
    unfold NeverWraps
    rwa [not_overflow_iff, toNat_high_byte]
  | case3 sum => trivial

/-- As many bytes as can be summed in 32 bits, whatever they are: 65537 words. -/
def cksum_capacity : Nat := 131074

theorem neverWraps {data : List uint8_t} (h : data.length ≤ cksum_capacity) :
    NeverWraps 0 data := by
  have hle := total_le data
  have hlen : data.length ≤ 131074 := h
  have hzero : (0 : uint32_t).toNat = 0 := rfl
  apply neverWraps_of_total
  omega

/-! ### The folding loop -/

/-- A round of the folding loop does not wrap either. -/
theorem carry_not_overflow (sum : uint32_t) : ¬ (sum >>> 16).uaddOverflow (sum &&& 0xffff) := by
  have hlow : (sum &&& 0xffff).toNat ≤ 0xffff := by
    rw [BitVec.toNat_and]
    exact Nat.and_le_right
  have hlt := sum.isLt
  rw [not_overflow_iff, BitVec.toNat_ushiftRight, Nat.shiftRight_eq_div_pow]
  omega

/-- The folding loop folds: a round makes a sum that stands for the one before it. -/
theorem cksum_fold_folds {n : Nat} {sum : uint32_t} (h : sum.toNat ≤ n) :
    Folds sum.toNat (cksum_fold n sum).toNat := by
  have hend : Folds (cksum_fold n sum).toNat (cksum_fold n sum).toNat :=
    ⟨cksum_fold_le h, rfl, Iff.rfl⟩
  refine (cksum_fold_loop h).keeps (I := fun x => ∀ f, Folds x.toNat f → Folds sum.toNat f)
    (fun x _ hx f hf => ?_) (fun f hf => hf) _ hend
  rw [cksum_carry_toNat] at hf
  exact hx f hf.carry

/-! ### The result -/

/-- The checksum, in the byte order of the words it is added to. -/
theorem swap16_cksum {data : List uint8_t} (h : data.length ≤ cksum_capacity) :
    ∃ f, Folds (total data) f ∧
      (swap16 (cksum data)).toNat = if 0xffff - f ≠ 0 then 0xffff - f else 0xffff := by
  have hsum : (cksum_sum 0 data).toNat = total data := by
    have hzero : (0 : uint32_t).toNat = 0 := rfl
    rw [(neverWraps h).sum, hzero, Nat.zero_add]
  have hfolds := cksum_fold_folds (Nat.le_refl (cksum_sum 0 data).toNat)
  rw [hsum] at hfolds
  refine ⟨_, hfolds, ?_⟩
  have hle := hfolds.le
  rw [cksum, hsum]
  generalize cksum_fold (total data) (cksum_sum 0 data) = sum at hle ⊢
  -- the complement of a folded sum is what is missing from all ones
  have hnot : ((~~~ sum).setWidth 16).toNat = 0xffff - sum.toNat := by
    rw [BitVec.toNat_setWidth, BitVec.toNat_not]
    omega
  have hback : ∀ x : uint16_t, htons x = 0 ↔ x.toNat = 0 := by
    intro x
    rw [← swap16_toNat_eq_zero, htons, swap16_swap16]
  by_cases hx : 0xffff - sum.toNat = 0
  · -- `cksum` never returns zero
    have hones : (swap16 0xffff).toNat = 0xffff := by decide
    rw [if_neg (not_not.mpr ((hback _).mpr (hnot.trans hx))), if_neg (not_not.mpr hx), hones]
  · rw [if_pos hx, if_pos (fun h => hx (hnot ▸ (hback _).mp h)), htons, swap16_swap16, hnot]

/-- **What `cksum` is for**: computed over bytes in which it is zero and written there, it
    makes them sum up to all ones. -/
theorem cksum_fills_in {data pre post : List uint8_t} (hdata : data = pre ++ (le16 0 ++ post))
    (hpre : pre.length % 2 = 0) (hlen : data.length ≤ cksum_capacity) :
    sum (words (pre ++ (le16 (cksum data) ++ post))) = 0xffff := by
  obtain ⟨f, hfolds, hsum⟩ := swap16_cksum hlen
  have hfilled := hfolds.complement hsum
  rw [hdata] at hfilled ⊢
  exact sum_fill_in hpre _ hfilled

/-! ### For every message -/

/-- The big-endian value of a word that is stored. -/
def stored_value (x : uint16_t) : Nat := (u8 (le16 x) 0).toNat * 256 + (u8 (le16 x) 1).toNat

theorem stored_value_eq (x : uint16_t) : stored_value x = (swap16 x).toNat :=
  (toNat_append_bytes (byteAt x 0) (byteAt x 1)).symm

/-- A message after `x` was stored at an offset. -/
def store16 (message : List uint8_t) (offset : Nat) (x : uint16_t) : List uint8_t :=
  message.take offset ++ (le16 x ++ message.drop (offset + 2))

theorem store16_length {message : List uint8_t} {offset : Nat} (h : offset + 2 ≤ message.length)
    (x : uint16_t) : (store16 message offset x).length = message.length := by
  simp only [store16, List.length_append, List.length_take, le16_length, List.length_drop]
  omega

/-- What `cksum` does with some bytes. -/
structure Summed (data : List uint8_t) : Prop where
  /-- The summing loop never wraps, and no round of the folding loop does. -/
  never_wraps : NeverWraps 0 data
  carry_not_overflow : ∀ sum : uint32_t, ¬ (sum >>> 16).uaddOverflow (sum &&& 0xffff)
  /-- The folding loop comes to its own end, with the sum that is complemented. -/
  terminates : Loop (· > 0xffff) cksum_carry (cksum_sum 0 data)
    (cksum_fold (cksum_sum 0 data).toNat (cksum_sum 0 data))
  not_zero : stored_value (cksum data) ≠ 0
  divisible : 0xffff ∣ stored_value (cksum data) + total data

theorem summed {data : List uint8_t} (h : data.length ≤ cksum_capacity) : Summed data := by
  obtain ⟨f, hfolds, hsum⟩ := swap16_cksum h
  obtain ⟨-, hmod⟩ := hfolds.complement hsum
  constructor
  · exact neverWraps h
  · exact carry_not_overflow
  · exact cksum_fold_loop (Nat.le_refl _)
  · rw [stored_value_eq, hsum]
    by_cases hx : 0xffff - f ≠ 0
    · rwa [if_pos hx]
    · rw [if_neg hx]
      decide
  · rw [stored_value_eq, Nat.add_comm]
    exact Nat.dvd_of_mod_eq_zero hmod

/-- **`cksum` computes the Internet checksum** of up to 131074 bytes, and storing it in an empty
    field makes a message sum up to all ones. -/
theorem cksum_correct {data : List uint8_t} (h : data.length ≤ cksum_capacity) :
    Summed data ∧ ∀ offset, offset % 2 = 0 → offset + 2 ≤ data.length →
      sum (words (store16 data offset (cksum (store16 data offset 0)))) = 0xffff := by
  refine ⟨summed h, fun offset heven hfits => ?_⟩
  have hpre : (data.take offset).length % 2 = 0 := by
    rw [List.length_take_of_le (Nat.le_of_add_right_le hfits)]
    exact heven
  have hlen : (store16 data offset 0).length ≤ cksum_capacity := by
    rw [store16_length hfits]
    exact h
  exact cksum_fills_in rfl hpre hlen

namespace Sample

/-- The header `45 00 00 73 00 00 40 00 40 11 b8 61 c0 a8 00 01 c0 a8 00 c7`, with its checksum
    still to come. -/
def unsummed_header : List uint8_t :=
  [0x45, 0x00, 0x00, 0x73, 0x00, 0x00, 0x40, 0x00, 0x40, 0x11, 0x00, 0x00, 0xc0, 0xa8, 0x00, 0x01,
    0xc0, 0xa8, 0x00, 0xc7]

theorem header_summed :
    Summed unsummed_header ∧ stored_value (cksum unsummed_header) = 0xb861 ∧
      sum (words (store16 unsummed_header 10 (cksum (store16 unsummed_header 10 0)))) = 0xffff := by
  have hlen : unsummed_header.length ≤ cksum_capacity := by decide
  obtain ⟨hsummed, hstored⟩ := cksum_correct hlen
  exact ⟨hsummed, by decide +kernel, hstored 10 (by decide) (by decide)⟩

end Sample

end SimpleRouter
