import Mathlib.Algebra.GroupWithZero.Nat
import Mathlib.Data.List.Nodup
import SimpleRouter.Framework.System

/-! # Measures that steps pay for

    A measure of the state that no step raises by more than the step is worth
    is bounded by what the steps of a run were worth. Where the measure counts
    what lies in the items of a list, it changes by what one item is given, and
    by what is in an item that is taken out.

    * `sum_update`, `sum_eraseP`: items of a list.
    * `System.Run.budget`: the rule for runs.
-/

namespace Framework

section lists
variable {α κ : Type} [DecidableEq κ] (g : α → Nat)

theorem sum_append_cons (before after : List α) (x : α) :
    ((before ++ x :: after).map g).sum = ((before ++ after).map g).sum + g x := by
  simp only [List.map_append, List.map_cons, List.sum_append, List.sum_cons]
  omega

/-- The item with one key is changed. -/
theorem sum_update {key : α → κ} {l : List α} {x : α} (f : α → α) (hl : (l.map key).Nodup)
    (hx : x ∈ l) :
    ((l.map fun y => if key y = key x then f y else y).map g).sum + g x =
      (l.map g).sum + g (f x) := by
  obtain ⟨before, after, rfl⟩ := List.append_of_mem hx
  have hother : ∀ y ∈ before ++ after, key y ≠ key x := by
    intro y hy hkey
    rw [List.map_append, List.map_cons, List.nodup_middle, ← List.map_append] at hl
    exact (List.nodup_cons.mp hl).1 (hkey ▸ List.mem_map_of_mem hy)
  have hsame : ∀ l' : List α, (∀ y ∈ l', key y ≠ key x) →
      (l'.map fun y => if key y = key x then f y else y) = l' := by
    intro l' hl'
    rw [List.map_congr_left fun y hy => if_neg (hl' y hy), List.map_id']
  rw [List.map_append, List.map_cons, if_pos rfl,
    hsame before fun y hy => hother y (List.mem_append_left _ hy),
    hsame after fun y hy => hother y (List.mem_append_right _ hy), sum_append_cons, sum_append_cons]
  omega

/-- The first item of a kind is taken out. -/
theorem sum_eraseP {l : List α} {p : α → Bool} {x : α} (hx : l.find? p = some x) :
    ((l.eraseP p).map g).sum + g x = (l.map g).sum := by
  obtain ⟨hp, before, after, rfl, hbefore⟩ := List.find?_eq_some_iff_append.mp hx
  rw [List.eraseP_append_right _ fun b hb => by simpa using hbefore b hb,
    List.eraseP_cons_of_pos hp, sum_append_cons]

end lists

namespace System

variable {State Label : Type} {sys : System State Label} {guard : State → Label → Prop}
  {s t : State} {τ : List (Taken State Label)}

/-- **Budget rule**: a run raises a measure by no more than its steps were worth. -/
theorem Run.budget (measure : State → Nat) {credit : Label → Nat}
    (hstep : ∀ t l u, sys.Reachable guard t → guard t l → sys.step t l u →
      measure u ≤ measure t + credit l)
    (hs : sys.Reachable guard s) (h : sys.Run guard s τ t) :
    measure t ≤ measure s + (τ.map fun x => credit x.label).sum := by
  induction h with
  | nil => simp
  | @step τ t u l hr hg hl ih =>
    have hlast := hstep t l u (hr.reachable hs) hg hl
    rw [List.map_append, List.sum_append]
    simp only [List.map_cons, List.map_nil, List.sum_cons, List.sum_nil]
    omega

end System

end Framework
