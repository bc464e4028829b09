import Mathlib.Tactic.Common

/-! # Streams of records

    A record is a header of a fixed size and a body whose length the header
    tells. Records stand one behind the other with nothing in between, so a
    reader finds the next one only if the lengths of all earlier ones are right.

    * `RecordFormat.next_write`: one record, with any others behind it.
    * `RecordFormat.read_write`: what was written is read back.
-/

namespace Framework

/-- How the header of a record lies in a stream of `α`. -/
structure RecordFormat (α H : Type) where
  size : Nat
  encode : H → List α
  decode : List α → H
  body_length : H → Nat
  size_pos : 0 < size
  encode_length : ∀ hdr, (encode hdr).length = size
  decode_encode : ∀ hdr rest, decode (encode hdr ++ rest) = hdr

/-- A record of a format: the body is as long as the header says. -/
structure Record {α H : Type} (fmt : RecordFormat α H) where
  hdr : H
  body : List α
  fits : body.length = fmt.body_length hdr

namespace RecordFormat

variable {α H : Type} (fmt : RecordFormat α H)

/-! ### Writing and reading -/

def write (record : Record fmt) : List α := fmt.encode record.hdr ++ record.body

/-- The first record, and what comes behind it. -/
def next (stream : List α) : Option (Record fmt × List α) :=
  let rest := stream.drop fmt.size
  let n := fmt.body_length (fmt.decode stream)
  if h : fmt.size ≤ stream.length ∧ n ≤ rest.length then
    some (⟨fmt.decode stream, rest.take n, List.length_take_of_le h.2⟩, rest.drop n)
  else none

/-- The records of a stream, if there are at most `n`. A stream that ends in the middle of a
    record has none. -/
def readUpTo : Nat → List α → Option (List (Record fmt))
  | _, [] => some []
  | 0, _ :: _ => none
  | n + 1, x :: stream =>
    match fmt.next (x :: stream) with
    | none => none
    | some (record, rest) => (readUpTo n rest).map (record :: ·)

/-- The records of a stream, each of which takes something of it. -/
def read (stream : List α) : Option (List (Record fmt)) := fmt.readUpTo stream.length stream

/-! ### Reading what was written -/

variable {fmt}

theorem write_length (record : Record fmt) :
    (fmt.write record).length = fmt.size + record.body.length := by
  rw [write, List.length_append, fmt.encode_length]

/-- **One record** is split off from whatever comes behind it. -/
theorem next_write (record : Record fmt) (rest : List α) :
    fmt.next (fmt.write record ++ rest) = some (record, rest) := by
  have hdecode : fmt.decode (fmt.write record ++ rest) = record.hdr := by
    rw [write, List.append_assoc, fmt.decode_encode]
  have hdrop : (fmt.write record ++ rest).drop fmt.size = record.body ++ rest := by
    rw [write, List.append_assoc, List.drop_left' (fmt.encode_length _)]
  have hroom : fmt.size ≤ (fmt.write record ++ rest).length ∧
      fmt.body_length record.hdr ≤ (record.body ++ rest).length := by
    rw [List.length_append, List.length_append, write_length, record.fits]
    omega
  unfold next
  simp only [hdecode, hdrop]
  rw [dif_pos hroom]
  simp only [List.take_left' record.fits, List.drop_left' record.fits]

theorem readUpTo_next {n : Nat} {stream rest : List α} {record : Record fmt}
    (h : fmt.next stream = some (record, rest)) :
    fmt.readUpTo (n + 1) stream = (fmt.readUpTo n rest).map (record :: ·) := by
  cases stream with
  | nil =>
    -- there is no room for a header
    have hsize : ¬ fmt.size ≤ ([] : List α).length := Nat.not_le.mpr fmt.size_pos
    rw [next, dif_neg fun hroom => hsize hroom.1] at h
    cases h
  | cons x stream => rw [readUpTo, h]

theorem readUpTo_write {n : Nat} {records : List (Record fmt)} (h : records.length ≤ n) :
    fmt.readUpTo n (records.flatMap fmt.write) = some records := by
  induction records generalizing n with
  | nil => rw [List.flatMap_nil, readUpTo]
  | cons record records ih =>
    cases n with
    | zero => exact absurd h (Nat.not_succ_le_zero _)
    | succ n =>
      rw [List.flatMap_cons, readUpTo_next (next_write record _), ih (Nat.le_of_succ_le_succ h)]
      rfl

theorem length_le_write (records : List (Record fmt)) :
    records.length ≤ (records.flatMap fmt.write).length := by
  induction records with
  | nil => exact Nat.le_refl 0
  | cons record records ih =>
    have hsize := fmt.size_pos
    rw [List.flatMap_cons, List.length_append, write_length, List.length_cons]
    omega

/-- **What was written** one record behind the other is read back. -/
theorem read_write (records : List (Record fmt)) :
    fmt.read (records.flatMap fmt.write) = some records :=
  readUpTo_write (length_le_write records)

end RecordFormat

end Framework
