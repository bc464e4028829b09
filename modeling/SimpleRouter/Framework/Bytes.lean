import Mathlib.Tactic.Common

/-! # Words in memory

    Bytes, little-endian words and byte swaps, as a little-endian machine
    reads and writes them. A buffer is a list of bytes; a field of a packed
    structure is read at its offset.
-/

namespace Framework

/-- A byte. -/
abbrev Byte := BitVec 8

namespace Bytes

/-- Byte `i` of a word, counted from the least significant one. -/
def byteAt {w : Nat} (x : BitVec w) (i : Nat) : Byte := x.extractLsb' (8 * i) 8

/-! ### Reading -/

def u8 (b : List Byte) (i : Nat) : Byte := b.getD i 0

def u16 (b : List Byte) (i : Nat) : BitVec 16 := u8 b (i + 1) ++ u8 b i

def u32 (b : List Byte) (i : Nat) : BitVec 32 := u8 b (i + 3) ++ u8 b (i + 2) ++ u8 b (i + 1) ++ u8 b i

/-- `n` bytes read at an offset, as an array field. -/
def array (n : Nat) (b : List Byte) (i : Nat) : Vector Byte n := Vector.ofFn fun k => u8 b (i + k)

/-! ### Writing -/

def le16 (x : BitVec 16) : List Byte := [byteAt x 0, byteAt x 1]

def le32 (x : BitVec 32) : List Byte := [byteAt x 0, byteAt x 1, byteAt x 2, byteAt x 3]

@[simp] theorem le16_length (x : BitVec 16) : (le16 x).length = 2 := rfl

@[simp] theorem le32_length (x : BitVec 32) : (le32 x).length = 4 := rfl

/-! ### Byte order -/

def swap16 (x : BitVec 16) : BitVec 16 := byteAt x 0 ++ byteAt x 1

def swap32 (x : BitVec 32) : BitVec 32 := byteAt x 0 ++ byteAt x 1 ++ byteAt x 2 ++ byteAt x 3

@[simp] theorem join16 (x : BitVec 16) : byteAt x 1 ++ byteAt x 0 = x := by
  have h : byteAt x 1 ++ byteAt x 0 = x.extractLsb' 0 (8 + 8) :=
    BitVec.extractLsb'_append_extractLsb'_eq_extractLsb' rfl
  rw [h]
  exact BitVec.extractLsb'_eq_self

@[simp] theorem join32 (x : BitVec 32) :
    byteAt x 3 ++ byteAt x 2 ++ byteAt x 1 ++ byteAt x 0 = x := by
  have h₂ : byteAt x 3 ++ byteAt x 2 = x.extractLsb' 16 (8 + 8) :=
    BitVec.extractLsb'_append_extractLsb'_eq_extractLsb' rfl
  have h₁ : x.extractLsb' 16 (8 + 8) ++ byteAt x 1 = x.extractLsb' 8 (8 + 8 + 8) :=
    BitVec.extractLsb'_append_extractLsb'_eq_extractLsb' rfl
  have h₀ : x.extractLsb' 8 (8 + 8 + 8) ++ byteAt x 0 = x.extractLsb' 0 (8 + 8 + 8 + 8) :=
    BitVec.extractLsb'_append_extractLsb'_eq_extractLsb' rfl
  rw [h₂, h₁, h₀]
  exact BitVec.extractLsb'_eq_self

/-! ### Reading what was written -/

@[simp] theorem u16_le16 (x : BitVec 16) (rest : List Byte) : u16 (le16 x ++ rest) 0 = x :=
  join16 x

@[simp] theorem u32_le32 (x : BitVec 32) (rest : List Byte) : u32 (le32 x ++ rest) 0 = x :=
  join32 x

theorem u8_drop (b : List Byte) (n i : Nat) : u8 (b.drop n) i = u8 b (n + i) := by
  simp [u8, List.getD_eq_getElem?_getD]

theorem u16_drop (b : List Byte) (n i : Nat) : u16 (b.drop n) i = u16 b (n + i) := by
  simp only [u16, u8_drop, Nat.add_assoc]

theorem u32_drop (b : List Byte) (n i : Nat) : u32 (b.drop n) i = u32 b (n + i) := by
  simp only [u32, u8_drop, Nat.add_assoc]

theorem array_drop (k : Nat) (b : List Byte) (n i : Nat) :
    array k (b.drop n) i = array k b (n + i) := by
  simp only [array, u8_drop, Nat.add_assoc]

/-- An array field is the bytes that were written for it. -/
theorem array_append_left {n : Nat} (v : Vector Byte n) (rest : List Byte) :
    array n (v.toList ++ rest) 0 = v := by
  ext i hi
  simp [array, u8, List.getD_eq_getElem?_getD, List.getElem?_append_left]

theorem array_append_right {n k : Nat} (v : Vector Byte n) (rest : List Byte) (i : Nat) :
    array k (v.toList ++ rest) (n + i) = array k rest i := by
  have hdrop : (v.toList ++ rest).drop n = rest := by simp
  rw [← array_drop, hdrop]

/-! ### Writing what was read -/

theorem byteAt_append_zero {w : Nat} (x : BitVec w) (b : Byte) : byteAt (x ++ b) 0 = b :=
  BitVec.extractLsb'_append_eq_right

/-- The bytes of a word that is put in front of another byte move up by one. -/
theorem byteAt_append_succ {w : Nat} (x : BitVec w) (b : Byte) (k : Nat) :
    byteAt (x ++ b) (k + 1) = byteAt x k := by
  apply BitVec.eq_of_getLsbD_eq
  intro i hi
  have hhigh : ¬ 8 * (k + 1) + i < 8 := by omega
  have hindex : 8 * (k + 1) + i - 8 = 8 * k + i := by omega
  simp only [byteAt, BitVec.getLsbD_extractLsb', BitVec.getLsbD_append, hhigh, hindex, hi]
  simp

theorem byteAt_byte (b : Byte) : byteAt b 0 = b := BitVec.extractLsb'_eq_self

theorem le16_u16 (b : List Byte) (i : Nat) : le16 (u16 b i) = [u8 b i, u8 b (i + 1)] := by
  rw [le16, u16, byteAt_append_zero, byteAt_append_succ, byteAt_byte]

theorem le32_u32 (b : List Byte) (i : Nat) :
    le32 (u32 b i) = [u8 b i, u8 b (i + 1), u8 b (i + 2), u8 b (i + 3)] := by
  simp only [le32, u32, byteAt_append_zero, byteAt_append_succ, byteAt_byte]

/-- The first bytes of a buffer, one by one. -/
theorem take_eq_map_u8 (b : List Byte) {n : Nat} (h : n ≤ b.length) :
    b.take n = (List.range n).map (u8 b) := by
  apply List.ext_getElem
  · simp [h]
  · intro i hi hi'
    have hlt : i < b.length := by
      rw [List.length_take] at hi
      omega
    simp [u8, hlt]

/-! ### Swapping twice -/

/-- Bit `i` of a swapped word is in the byte opposite to its own. -/
theorem getLsbD_swap32 (x : BitVec 32) {i : Nat} (hi : i < 32) :
    (swap32 x).getLsbD i = x.getLsbD (8 * (3 - i / 8) + i % 8) := by
  simp only [swap32, byteAt, BitVec.getLsbD_append, BitVec.getLsbD_extractLsb']
  grind

theorem swap32_and (x y : BitVec 32) : swap32 (x &&& y) = swap32 x &&& swap32 y := by
  apply BitVec.eq_of_getLsbD_eq
  intro i hi
  simp only [getLsbD_swap32 _ hi, BitVec.getLsbD_and]

@[simp] theorem swap32_swap32 (x : BitVec 32) : swap32 (swap32 x) = x := by
  apply BitVec.eq_of_getLsbD_eq
  intro i hi
  rw [getLsbD_swap32 _ hi, getLsbD_swap32 _ (by omega)]
  congr 1
  omega

theorem swap32_injective {x y : BitVec 32} (h : swap32 x = swap32 y) : x = y := by
  rw [← swap32_swap32 x, h, swap32_swap32]

@[simp] theorem swap32_zero : swap32 0 = 0 := by decide

@[simp] theorem swap16_swap16 (x : BitVec 16) : swap16 (swap16 x) = x := by
  rw [swap16, swap16, byteAt_append_zero, byteAt_append_succ, byteAt_byte]
  exact join16 x

theorem swap16_injective {x y : BitVec 16} (h : swap16 x = swap16 y) : x = y := by
  rw [← swap16_swap16 x, h, swap16_swap16]

theorem swap16_toNat_eq_zero {x : BitVec 16} : (swap16 x).toNat = 0 ↔ x = 0 := by
  have hzero : swap16 0 = 0 := by decide
  constructor
  · intro h
    exact swap16_injective ((BitVec.eq_of_toNat_eq h).trans hzero.symm)
  · intro h
    rw [h, hzero]
    rfl

end Bytes

end Framework
