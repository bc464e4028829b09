import Mathlib.Algebra.GroupWithZero.Nat
import SimpleRouter.Framework.Bytes

/-! # One's-complement sums

    The sum of big-endian 16-bit words with end-around carry, as Internet
    checksums use it. Up to the two zeros this is a sum modulo 65535, so it
    does not matter in which order words are added or when carries are folded.

    * `Folds`: a number of 16 bits that stands for a larger one.
    * `sum_folds`: the sum with end-around carry stands for the plain one.
    * `sum_eq_ones_iff`: when it is all ones.
-/

namespace Framework

namespace OnesComplement

open Bytes

/-! ### Words and sums -/

/-- Big-endian 16-bit words; an odd last byte is the high half of its word. -/
def words : List Byte → List Nat
  | a :: b :: rest => (a.toNat * 256 + b.toNat) :: words rest
  | [a] => [a.toNat * 256]
  | [] => []

/-- Addition with end-around carry. -/
def addCarry (x y : Nat) : Nat := if x + y > 0xffff then x + y - 0xffff else x + y

/-- The one's-complement sum. -/
def sum (ws : List Nat) : Nat := ws.foldl addCarry 0

/-- The sum of the words of some bytes, before any carry is folded in. -/
def total (bytes : List Byte) : Nat := (words bytes).sum

theorem words_le {bytes : List Byte} : ∀ w ∈ words bytes, w ≤ 0xffff := by
  fun_induction words bytes with
  | case1 a b rest ih =>
    have ha := a.isLt
    have hb := b.isLt
    exact List.forall_mem_cons.mpr ⟨by omega, ih⟩
  | case2 a =>
    have ha := a.isLt
    exact List.forall_mem_singleton.mpr (by omega)
  | case3 => simp

theorem total_le (bytes : List Byte) : total bytes ≤ 0xffff * ((bytes.length + 1) / 2) := by
  unfold total
  fun_induction words bytes with
  | case1 a b rest ih =>
    have ha := a.isLt
    have hb := b.isLt
    simp only [List.sum_cons, List.length_cons]
    omega
  | case2 a =>
    have ha := a.isLt
    simp only [List.sum_singleton, List.length_singleton]
    omega
  | case3 => simp

/-- Words can be counted on from any word boundary. -/
theorem total_append {pre : List Byte} (post : List Byte) (h : pre.length % 2 = 0) :
    total (pre ++ post) = total pre + total post := by
  unfold total
  fun_induction words pre with
  | case1 a b rest ih =>
    simp only [List.length_cons] at h
    simp only [List.cons_append, words, List.sum_cons, ih (by omega)]
    omega
  | case2 a => simp at h
  | case3 => simp

/-- What bytes add to a sum behind `n` other bytes: if `n` is odd, the first of them is the low
    half of a word. -/
def totalBehind (n : Nat) (bytes : List Byte) : Nat :=
  if n % 2 = 0 then total bytes else total (0 :: bytes)

/-- Words can be counted on from anywhere. -/
theorem total_append_behind (pre post : List Byte) :
    total (pre ++ post) = total pre + totalBehind pre.length post := by
  unfold totalBehind total
  fun_induction words pre with
  | case1 a b rest ih =>
    have hparity : (a :: b :: rest).length % 2 = rest.length % 2 := by
      simp only [List.length_cons]
      omega
    rw [hparity]
    simp only [List.cons_append, words, List.sum_cons, ih]
    omega
  | case2 a =>
    cases post with
    | nil => simp [words]
    | cons b bs =>
      simp [words]
      omega
  | case3 => simp

theorem toNat_append_bytes (a b : Byte) : (a ++ b).toNat = a.toNat * 256 + b.toNat := by
  have hb : b.toNat < 2 ^ 8 := b.isLt
  rw [BitVec.toNat_append, ← Nat.shiftLeft_add_eq_or_of_lt hb, Nat.shiftLeft_eq]

/-- A word as it lies in memory. -/
theorem total_le16 (x : BitVec 16) (rest : List Byte) :
    total (le16 x ++ rest) = (swap16 x).toNat + total rest := by
  simp only [total, le16, List.cons_append, List.nil_append, words, List.sum_cons, swap16,
    toNat_append_bytes]

/-! ### Folding carries -/

/-- `f` has 16 bits and stands for `n`: they agree modulo 65535, and only zero stands for
    zero. -/
structure Folds (n f : Nat) : Prop where
  le : f ≤ 0xffff
  mod : f % 0xffff = n % 0xffff
  zero : f = 0 ↔ n = 0

namespace Folds

variable {n m f g : Nat}

/-- A carry is folded in. -/
theorem carry (h : Folds (n / 65536 + n % 65536) f) : Folds n f where
  le := h.le
  mod := by
    have := h.mod
    omega
  zero := by
    have := h.zero
    omega

theorem addCarry (h : Folds n f) (hm : m ≤ 0xffff) : Folds (n + m) (addCarry f m) := by
  have hle := h.le
  have hmod := h.mod
  have hzero := h.zero
  unfold OnesComplement.addCarry
  split
  · exact ⟨by omega, by omega, by omega⟩
  · exact ⟨by omega, by omega, by omega⟩

/-- All ones stand for the multiples of 65535, but for zero. -/
theorem eq_ones_iff (h : Folds n f) : f = 0xffff ↔ 0 < n ∧ n % 0xffff = 0 := by
  have hle := h.le
  have hmod := h.mod
  have hzero := h.zero
  omega

/-- The complement of what stands for `n` fills `n` up, and so do all ones if the
    complement is zero. -/
theorem complement (h : Folds n f) (hg : g = if 0xffff - f ≠ 0 then 0xffff - f else 0xffff) :
    0 < n + g ∧ (n + g) % 0xffff = 0 := by
  have hle := h.le
  have hmod := h.mod
  split at hg
  · omega
  · omega

end Folds

/-- **The sum with end-around carry** stands for the plain sum. -/
theorem sum_folds {ws : List Nat} (h : ∀ w ∈ ws, w ≤ 0xffff) : Folds ws.sum (sum ws) := by
  suffices hfold : ∀ n f, Folds n f → Folds (n + ws.sum) (ws.foldl addCarry f) by
    have hall := hfold 0 0 ⟨Nat.zero_le _, rfl, Iff.rfl⟩
    rwa [Nat.zero_add] at hall
  induction ws with
  | nil => exact fun n f hf => hf
  | cons w ws ih =>
    intro n f hf
    obtain ⟨hw, hws⟩ := List.forall_mem_cons.mp h
    rw [List.sum_cons, ← Nat.add_assoc]
    exact ih hws _ _ (hf.addCarry hw)

theorem sum_eq_ones_iff (bytes : List Byte) :
    sum (words bytes) = 0xffff ↔ 0 < total bytes ∧ total bytes % 0xffff = 0 :=
  (sum_folds words_le).eq_ones_iff

/-- A word in which nothing was written yet is filled in. -/
theorem sum_fill_in {pre post : List Byte} (hpre : pre.length % 2 = 0) (x : BitVec 16)
    (hx : 0 < total (pre ++ (le16 0 ++ post)) + (swap16 x).toNat ∧
      (total (pre ++ (le16 0 ++ post)) + (swap16 x).toNat) % 0xffff = 0) :
    sum (words (pre ++ (le16 x ++ post))) = 0xffff := by
  have hzero : (swap16 0).toNat = 0 := by decide
  rw [sum_eq_ones_iff]
  rw [total_append _ hpre, total_le16, hzero] at hx
  rw [total_append _ hpre, total_le16]
  omega

end OnesComplement

end Framework
