import SimpleRouter.Framework.Loop
import SimpleRouter.Model.Protocol

/-! # The Internet checksum (`cksum` of `sr_utils.c`) -/

namespace SimpleRouter

open Framework

/-- The summing loop: big-endian 16-bit words, an odd last byte counting as
    the high half of a word. -/
def cksum_sum : uint32_t → List uint8_t → uint32_t
  | sum, a :: b :: rest => cksum_sum (sum + (a.setWidth 32 <<< 8 ||| b.setWidth 32)) rest
  | sum, [a] => sum + a.setWidth 32 <<< 8
  | sum, [] => sum

/-- One round of the folding loop. -/
def cksum_carry (sum : uint32_t) : uint32_t := (sum >>> 16) + (sum &&& 0xffff)

/-- The folding loop, `while (sum > 0xffff)`. -/
def cksum_fold : Nat → uint32_t → uint32_t
  | 0, sum => sum
  | n + 1, sum => if sum > 0xffff then cksum_fold n (cksum_carry sum) else sum

def cksum (data : List uint8_t) : uint16_t :=
  let sum := cksum_sum 0 data
  let sum := cksum_fold sum.toNat sum
  let sum := htons ((~~~ sum).setWidth 16)
  if sum ≠ 0 then sum else 0xffff

/-! ### The folding loop ends -/

theorem cksum_carry_toNat (sum : uint32_t) :
    (cksum_carry sum).toNat = sum.toNat / 65536 + sum.toNat % 65536 := by
  have hmask : (sum &&& 0xffff).toNat = sum.toNat % 65536 := by
    rw [BitVec.toNat_and]
    exact Nat.and_two_pow_sub_one_eq_mod sum.toNat 16
  have hlt : sum.toNat < 2 ^ 32 := sum.isLt
  rw [cksum_carry, BitVec.toNat_add, hmask, BitVec.toNat_ushiftRight, Nat.shiftRight_eq_div_pow]
  omega

/-- A round of the folding loop makes the sum smaller. -/
theorem cksum_carry_lt {sum : uint32_t} (h : sum > 0xffff) :
    (cksum_carry sum).toNat < sum.toNat := by
  have h' : 65535 < sum.toNat := h
  rw [cksum_carry_toNat]
  omega

/-- **The folding loop** comes to its own end in the number of rounds that `cksum` allows. -/
theorem cksum_fold_loop {n : Nat} {sum : uint32_t} (h : sum.toNat ≤ n) :
    Loop (· > 0xffff) cksum_carry sum (cksum_fold n sum) := by
  induction n generalizing sum with
  | zero =>
    have hzero : sum = 0 := BitVec.eq_of_toNat_eq (Nat.le_zero.mp h)
    rw [hzero, cksum_fold]
    exact .done (by decide)
  | succ n ih =>
    rw [cksum_fold]
    by_cases hgt : sum > 0xffff
    · have hlt := cksum_carry_lt hgt
      rw [if_pos hgt]
      exact .round hgt (ih (by omega))
    · rw [if_neg hgt]
      exact .done hgt

/-- At its end, the sum has 16 bits. -/
theorem cksum_fold_le {n : Nat} {sum : uint32_t} (h : sum.toNat ≤ n) :
    cksum_fold n sum ≤ 0xffff :=
  BitVec.not_lt.mp (cksum_fold_loop h).exits

/-- The checksum of the IP header `45 00 00 73 00 00 40 00 40 11 00 00 c0 a8 00 01 c0 a8 00 c7`. -/
example : cksum [0x45, 0x00, 0x00, 0x73, 0x00, 0x00, 0x40, 0x00, 0x40, 0x11, 0x00, 0x00,
    0xc0, 0xa8, 0x00, 0x01, 0xc0, 0xa8, 0x00, 0xc7] = htons 0xb861 := by decide +kernel

end SimpleRouter
