import Mathlib.Data.List.Basic
import Mathlib.Tactic.Common

/-! # Streams in blocks

    A stream is worked off in blocks of a fixed size, and what does not fill a
    block is kept. It does not matter in which portions the stream comes: what
    has been worked off are the whole blocks of all of it so far.

    * `foldBlocks`, `leftover`: the state after the whole blocks, and the rest.
    * `foldBlocks_short`, `foldBlocks_full`: what another portion does.
-/

namespace Framework

variable {α σ : Type}

/-! ### Blocks -/

/-- The whole blocks of a stream. -/
def blocks (n : Nat) (stream : List α) : List (List α) :=
  (List.range (stream.length / n)).map fun i => (stream.drop (n * i)).take n

/-- What is behind the last whole block. -/
def leftover (n : Nat) (stream : List α) : List α := stream.drop (n * (stream.length / n))

/-- The state after the whole blocks. -/
def foldBlocks (n : Nat) (f : σ → List α → σ) (init : σ) (stream : List α) : σ :=
  (blocks n stream).foldl f init

variable {n : Nat} {f : σ → List α → σ} {init : σ} {stream more : List α}

theorem leftover_length : (leftover n stream).length = stream.length % n := by
  rw [leftover, List.length_drop, Nat.mod_def]

/-- Whole blocks stay as they are. -/
theorem block_append {i : Nat} (hi : i < stream.length / n) :
    ((stream ++ more).drop (n * i)).take n = (stream.drop (n * i)).take n := by
  have hend : n * (i + 1) ≤ n * (stream.length / n) := Nat.mul_le_mul_left n hi
  have hfits : n * (stream.length / n) ≤ stream.length := Nat.mul_div_le _ _
  rw [Nat.mul_succ] at hend
  rw [List.drop_append_of_le_length (by omega), List.take_append_of_le_length]
  rw [List.length_drop]
  omega

/-! ### Another portion -/

section short
variable (h : (leftover n stream).length + more.length < n)
include h

theorem div_short : (stream ++ more).length / n = stream.length / n := by
  rw [leftover_length] at h
  have hsplit := Nat.div_add_mod stream.length n
  rw [List.length_append]
  apply Nat.div_eq_of_lt_le
  · rw [Nat.mul_comm]
    omega
  · rw [Nat.mul_comm, Nat.mul_succ]
    omega

/-- A portion that fills no block is kept. -/
theorem foldBlocks_short : foldBlocks n f init (stream ++ more) = foldBlocks n f init stream := by
  have hblocks : blocks n (stream ++ more) = blocks n stream := by
    rw [blocks, blocks, div_short h]
    exact List.map_congr_left fun i hi => block_append (List.mem_range.mp hi)
  rw [foldBlocks, foldBlocks, hblocks]

theorem leftover_short : leftover n (stream ++ more) = leftover n stream ++ more := by
  rw [leftover, div_short h, leftover, List.drop_append_of_le_length (Nat.mul_div_le _ _)]

end short

section full
variable (h : (leftover n stream).length + more.length = n)
include h

theorem length_full : (stream ++ more).length = n * (stream.length / n + 1) := by
  rw [leftover_length] at h
  have hsplit := Nat.div_add_mod stream.length n
  rw [List.length_append, Nat.mul_succ]
  omega

variable (hn : 0 < n)
include hn

/-- A portion that fills a block has it worked off. -/
theorem foldBlocks_full : foldBlocks n f init (stream ++ more) =
    f (foldBlocks n f init stream) (leftover n stream ++ more) := by
  have hcount : (stream ++ more).length / n = stream.length / n + 1 := by
    rw [length_full h, Nat.mul_div_cancel_left _ hn]
  have hlast : ((stream ++ more).drop (n * (stream.length / n))).take n =
      leftover n stream ++ more := by
    rw [List.drop_append_of_le_length (Nat.mul_div_le _ _)]
    apply List.take_of_length_le
    rw [List.length_append]
    exact Nat.le_of_eq h
  have hblocks : blocks n (stream ++ more) = blocks n stream ++ [leftover n stream ++ more] := by
    rw [blocks, hcount, List.range_succ, List.map_append, List.map_singleton, hlast, blocks]
    congr 1
    exact List.map_congr_left fun i hi => block_append (List.mem_range.mp hi)
  rw [foldBlocks, hblocks, List.foldl_append, foldBlocks]
  rfl

omit hn in
theorem leftover_full : leftover n (stream ++ more) = [] := by
  apply List.eq_nil_of_length_eq_zero
  rw [leftover_length, length_full h, Nat.mul_mod_right]

end full

end Framework
