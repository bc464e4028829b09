import Mathlib.Data.Multiset.Filter
import Mathlib.Tactic.Common

/-! # Tables of slots

    A table of a fixed size that is scanned from its first slot on: for the last
    entry that matches, and for the first slot that is free.

    * `lastMatch_some`, `lastMatch_none`: what the scan for the last match finds.
    * `firstSlot_cases`: what the scan for the first slot finds.
    * `contents`: what a table holds, whatever slot it is in.
-/

namespace Framework

variable {α β : Type} {n : Nat}

/-! ### The last match -/

/-- The scan that keeps the last entry that matches. -/
def lastMatch (p : α → Prop) [DecidablePred p] (table : Vector α n) : Option α :=
  table.toList.foldl (fun last e => if p e then some e else last) none

variable {p : α → Prop} [DecidablePred p] {table : Vector α n}

/-- A scan that keeps the last match finds what a search from the end finds. -/
theorem foldl_last_eq (p : α → Prop) [DecidablePred p] (l : List α) (last : Option α) :
    l.foldl (fun last e => if p e then some e else last) last =
      (l.reverse.find? fun e => p e).or last := by
  induction l generalizing last with
  | nil => rfl
  | cons e rest ih =>
    rw [List.foldl_cons, ih, List.reverse_cons, List.find?_append]
    by_cases he : p e <;> simp [he]

theorem lastMatch_eq_find : lastMatch p table = table.toList.reverse.find? fun e => p e := by
  rw [lastMatch, foldl_last_eq, Option.or_none]

theorem lastMatch_some {e : α} (h : lastMatch p table = some e) :
    ∃ k : Fin n, table[k] = e ∧ p e ∧ ∀ j > k, ¬ p table[j] := by
  rw [lastMatch_eq_find, List.find?_eq_some_iff_getElem] at h
  obtain ⟨he, i, hi, hentry, hlater⟩ := h
  simp only [List.length_reverse, Vector.length_toList] at hi
  rw [List.getElem_reverse] at hentry
  refine ⟨⟨n - 1 - i, by omega⟩, by simpa using hentry, by simpa using he, fun j hj => ?_⟩
  have hj : n - 1 - i < j.val := hj
  have hlt := j.isLt
  have hj' := hlater (n - 1 - j) (by omega)
  rw [List.getElem_reverse] at hj'
  have hback : n - 1 - (n - 1 - j.val) = j.val := by omega
  simpa [hback] using hj'

theorem lastMatch_none (h : lastMatch p table = none) (k : Fin n) : ¬ p table[k] := by
  rw [lastMatch_eq_find, List.find?_eq_none] at h
  simpa using h table[k] (by simp)

/-! ### The first slot -/

/-- The first slot that satisfies a test, if there is one. -/
theorem firstSlot_cases (test : α → Bool) (table : Vector α n) :
    (∃ f : Fin n, table.findFinIdx? test = some f ∧ test table[f] ∧
      ∀ k < f, test table[k] = false) ∨
    table.findFinIdx? test = none ∧ ∀ k : Fin n, test table[k] = false := by
  cases h : table.findFinIdx? test with
  | none => exact .inr ⟨rfl, fun k => by simpa using Vector.findFinIdx?_eq_none_iff.mp h table[k]⟩
  | some f =>
    refine .inl ⟨f, rfl, ?_⟩
    obtain ⟨xs, rfl⟩ := table
    rw [Vector.findFinIdx?_mk] at h
    obtain ⟨hf, hbefore⟩ := Array.findFinIdx?_eq_some_iff.mp (by simpa using h)
    exact ⟨hf, fun k hk => by simpa using hbefore k hk⟩

/-! ### Contents -/

/-- What the slots of a table hold; `f` is `none` for a free slot. -/
def contents (f : α → Option β) (table : Vector α n) : Multiset β := table.toList.filterMap f

section
variable {f : α → Option β} {table : Vector α n}

/-- There is room exactly when a slot is free. -/
theorem card_contents_lt :
    Multiset.card (contents f table) < n ↔ ∃ k : Fin n, f table[k] = none := by
  have hlt : (table.toList.filterMap f).length < table.toList.length ↔
      ∃ e, ∃ (_ : e ∈ table.toList), f e = none := List.length_filterMap_lt_length_iff_exists
  rw [Vector.length_toList] at hlt
  rw [contents, Multiset.coe_card, hlt]
  constructor
  · intro h
    obtain ⟨e, he, hfree⟩ := h
    obtain ⟨i, hi, rfl⟩ := List.getElem_of_mem he
    rw [Vector.length_toList] at hi
    exact ⟨⟨i, hi⟩, by simpa using hfree⟩
  · intro h
    obtain ⟨k, hfree⟩ := h
    exact ⟨table[k], by simp, hfree⟩

/-- A free slot is filled. -/
theorem contents_set {k : Fin n} (hfree : f table[k] = none) {x : α} {b : β} (hx : f x = some b) :
    contents f (table.set k x) = b ::ₘ contents f table := by
  have hk : k.val < table.toList.length := by
    rw [Vector.length_toList]
    exact k.isLt
  have hslot : f table.toList[k.val] = none := by simpa using hfree
  have hsplit : table.toList.filterMap f =
      (table.toList.take k).filterMap f ++ (table.toList.drop (k + 1)).filterMap f := by
    conv_lhs => rw [← List.take_append_drop k.val table.toList, List.drop_eq_getElem_cons hk]
    rw [List.filterMap_append, List.filterMap_cons_none hslot]
  rw [contents, contents, Vector.toList_set, List.set_eq_take_append_cons_drop, if_pos hk,
    List.filterMap_append, List.filterMap_cons_some hx, hsplit, Multiset.cons_coe]
  exact Multiset.coe_eq_coe.mpr List.perm_middle

/-- Slots are freed. -/
theorem contents_map {g : α → α} {p : β → Prop} [DecidablePred p]
    (h : ∀ e, f (g e) = (f e).filter fun b => p b) :
    contents f (table.map g) = (contents f table).filter p := by
  have hcomp : f ∘ g = fun e => (f e).filter fun b => p b := funext h
  rw [contents, contents, Vector.toList_map, List.filterMap_map, Multiset.filter_coe, hcomp,
    List.filter_filterMap]

end

end Framework
