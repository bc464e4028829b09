import Mathlib.Data.Stream.Init

/-! # Sources that are read piece by piece

    A source gives one result for each call: some data, an interruption or a
    failure. Data that was not asked for stays for the next call, and no data
    at all is the end of the stream.

    * `Steady`: results that only bring data, now and then interrupted.
    * `recv_steady`: what one call takes of them.
    * `EndsOnce.eq_closed`: a stream that has ended gives nothing else.
-/

namespace Framework

/-- What a call may give. -/
inductive Recv (α : Type) where
  /-- Some data, or the end of the stream if there is none. -/
  | data (chunk : List α)
  | interrupted
  | failed
  deriving DecidableEq

variable {α : Type}

/-- The data of a result. -/
def Recv.contents : Recv α → List α
  | .data chunk => chunk
  | _ => []

/-- Data, or an interruption. -/
def Recv.Flows : Recv α → Prop
  | .data chunk => chunk ≠ []
  | .interrupted => True
  | .failed => False

instance [DecidableEq α] : (r : Recv α) → Decidable r.Flows
  | .data _ => inferInstanceAs (Decidable (_ ≠ _))
  | .interrupted => .isTrue trivial
  | .failed => .isFalse not_false

theorem Recv.Flows.ne_end {r : Recv α} (h : r.Flows) : r ≠ .data [] := by
  rintro rfl
  exact h rfl

theorem Recv.eq_failed {r : Recv α} (hflows : ¬ r.Flows) (hend : r ≠ .data []) : r = .failed := by
  cases r with
  | data chunk => exact absurd (fun hnil => hend (congrArg Recv.data hnil)) hflows
  | interrupted => exact absurd trivial hflows
  | failed => rfl

/-- The results of all calls to come. -/
abbrev Source (α : Type) := Stream' (Recv α)

namespace Source

/-- A call that asks for at most `n` items. -/
def recv (n : Nat) (src : Source α) : Recv α × Source α :=
  match src.head with
  | .data chunk =>
    (.data (chunk.take n),
      if chunk.length ≤ n then src.tail else Stream'.cons (.data (chunk.drop n)) src.tail)
  | r => (r, src.tail)

/-- The end of the stream, for good. -/
def closed : Source α := Stream'.const (.data [])

/-- Once it has ended, the stream stays so. -/
def EndsOnce (src : Source α) : Prop := ∀ n, src.get n = .data [] → src.get (n + 1) = .data []

/-! ### Steady results -/

def Steady (rs : List (Recv α)) : Prop := ∀ r ∈ rs, r.Flows

instance [DecidableEq α] (rs : List (Recv α)) : Decidable (Steady rs) :=
  inferInstanceAs (Decidable (∀ r ∈ rs, r.Flows))

/-- All the data of some results. -/
def contents (rs : List (Recv α)) : List α := rs.flatMap Recv.contents

@[simp] theorem contents_nil : contents ([] : List (Recv α)) = [] := rfl

@[simp] theorem contents_cons (r : Recv α) (rs : List (Recv α)) :
    contents (r :: rs) = r.contents ++ contents rs := rfl

theorem steady_nil : Steady ([] : List (Recv α)) := by
  intro r hr
  cases hr

theorem steady_cons {r : Recv α} {rs : List (Recv α)} : Steady (r :: rs) ↔ r.Flows ∧ Steady rs :=
  List.forall_mem_cons

theorem contents_append (rs rs' : List (Recv α)) :
    contents (rs ++ rs') = contents rs ++ contents rs' := List.flatMap_append

theorem Steady.append {rs rs' : List (Recv α)} (h : Steady rs) (h' : Steady rs') :
    Steady (rs ++ rs') := List.forall_mem_append.mpr ⟨h, h'⟩

/-- Of two beginnings of a source, one goes on as the other. -/
theorem append_eq_append {rs rs' : List (Recv α)} {s s' : Source α} (h : rs ++ₛ s = rs' ++ₛ s') :
    (∃ more, rs' = rs ++ more ∧ s = more ++ₛ s') ∨ ∃ more, rs = rs' ++ more ∧ s' = more ++ₛ s := by
  induction rs generalizing rs' with
  | nil => exact .inl ⟨rs', rfl, h⟩
  | cons r rs ih =>
    cases rs' with
    | nil => exact .inr ⟨r :: rs, rfl, h.symm⟩
    | cons r' rs' =>
      rw [Stream'.cons_append_stream, Stream'.cons_append_stream] at h
      obtain rfl : r = r' := congrArg Stream'.head h
      have htail : rs ++ₛ s = rs' ++ₛ s' := congrArg Stream'.tail h
      rcases ih htail with ⟨more, rfl, hs⟩ | ⟨more, rfl, hs⟩
      · exact .inl ⟨more, rfl, hs⟩
      · exact .inr ⟨more, rfl, hs⟩

/-- **One call** takes a result, or as much as was asked for of its data. -/
theorem recv_steady {r : Recv α} {rs : List (Recv α)} (h : Steady (r :: rs)) (n : Nat)
    (s : Source α) :
    recv n (r :: rs ++ₛ s) = (r, rs ++ₛ s) ∧ r.contents.length ≤ n ∨
      ∃ chunk, r = .data chunk ∧ n < chunk.length ∧
        recv n (r :: rs ++ₛ s) = (.data (chunk.take n), .data (chunk.drop n) :: rs ++ₛ s) ∧
        Steady (.data (chunk.drop n) :: rs) := by
  obtain ⟨hr, hrs⟩ := steady_cons.mp h
  cases r with
  | failed => exact absurd hr not_false
  | interrupted => exact .inl ⟨rfl, Nat.zero_le n⟩
  | data chunk =>
    by_cases hlen : chunk.length ≤ n
    · refine .inl ⟨?_, hlen⟩
      rw [recv, Stream'.cons_append_stream, Stream'.head_cons]
      simp only [if_pos hlen, Stream'.tail_cons, List.take_of_length_le hlen]
    · refine .inr ⟨chunk, rfl, Nat.not_le.mp hlen, ?_, ?_⟩
      · rw [recv, Stream'.cons_append_stream, Stream'.head_cons]
        simp only [if_neg hlen, Stream'.tail_cons, Stream'.cons_append_stream]
      · refine steady_cons.mpr ⟨?_, hrs⟩
        show chunk.drop n ≠ []
        rw [Ne, List.drop_eq_nil_iff]
        exact hlen

/-! ### The end -/

theorem EndsOnce.tail {src : Source α} (h : EndsOnce src) : EndsOnce src.tail := by
  intro n hn
  exact h (n + 1) hn

theorem EndsOnce.cons {r : Recv α} {src : Source α} (h : EndsOnce src) (hr : r ≠ .data []) :
    EndsOnce (Stream'.cons r src) := by
  intro n hn
  cases n with
  | zero => exact absurd hn hr
  | succ n => exact h n hn

theorem EndsOnce.right {rs : List (Recv α)} {s : Source α} (h : EndsOnce (rs ++ₛ s)) :
    EndsOnce s := by
  induction rs with
  | nil => exact h
  | cons r rs ih => exact ih h.tail

theorem EndsOnce.append {rs : List (Recv α)} {s : Source α} (hrs : Steady rs) (h : EndsOnce s) :
    EndsOnce (rs ++ₛ s) := by
  induction rs with
  | nil => exact h
  | cons r rs ih =>
    obtain ⟨hr, hrs⟩ := steady_cons.mp hrs
    exact (ih hrs).cons (Recv.Flows.ne_end hr)

/-- **At its end** there is only the end. -/
theorem EndsOnce.eq_closed {src : Source α} (h : EndsOnce src) (hhead : src.head = .data []) :
    src = closed := by
  apply Stream'.ext
  intro n
  induction n with
  | zero => exact hhead
  | succ n ih => exact h n ih

theorem endsOnce_closed : EndsOnce (closed : Source α) := fun _ _ => rfl

theorem recv_closed (n : Nat) : recv n (closed : Source α) = (.data [], closed) := by
  rw [recv, show closed.head = Recv.data ([] : List α) from rfl]
  simp only [List.take_nil, List.length_nil, Nat.zero_le, if_true]
  rfl

end Source

end Framework
