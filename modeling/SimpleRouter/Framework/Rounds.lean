import SimpleRouter.Framework.System

/-! # Rounds of a run

    In a run some steps carry a time. What has to happen within a number of
    rounds is shown by counting: each round leaves a mark of its own, and only
    so many marks can be left.

    * `clock`: the times of a run.
    * `rounds_le_marks`: rounds whose marks are apart.
-/

namespace Framework

/-- **Counting rounds**: when every round has left a mark, and no mark is one of two rounds,
    there are at least as many marks as rounds. -/
theorem rounds_le_marks {α β : Type} {mark : α → β → Prop} {rounds : List α} {marks : List β}
    (hmark : ∀ x ∈ rounds, ∃ y ∈ marks, mark x y)
    (happart : rounds.Pairwise fun x x' => ∀ y, mark x y → ¬ mark x' y) :
    rounds.length ≤ marks.length := by
  classical
  induction rounds generalizing marks with
  | nil => exact Nat.zero_le _
  | cons x rounds ih =>
    obtain ⟨hx, hrounds⟩ := List.pairwise_cons.mp happart
    obtain ⟨y, hy, hxy⟩ := hmark x (by simp)
    -- the marks of the other rounds are left when this one is taken away
    have hleft : ∀ x' ∈ rounds, ∃ y' ∈ marks.erase y, mark x' y' := by
      intro x' hx'
      obtain ⟨y', hy', hmark'⟩ := hmark x' (List.mem_cons_of_mem _ hx')
      refine ⟨y', (List.mem_erase_of_ne ?_).mpr hy', hmark'⟩
      rintro rfl
      exact hx x' hx' y' hxy hmark'
    have hle := ih hleft hrounds
    have hpos := List.length_pos_of_mem hy
    rw [List.length_erase_of_mem hy] at hle
    show rounds.length + 1 ≤ marks.length
    omega

namespace System

variable {State Label Time : Type}

/-- The times of the steps of a run, in order. -/
def clock (time : Label → Option Time) (τ : List (Taken State Label)) : List Time :=
  τ.filterMap fun x => time x.label

variable {time : Label → Option Time} {τ : List (Taken State Label)} {x : Taken State Label}

theorem clock_eq : clock time τ = (τ.map (·.label)).filterMap time := by
  rw [List.filterMap_map]
  rfl

theorem clock_concat : clock time (τ ++ [x]) = clock time τ ++ (time x.label).toList := by
  rw [clock, List.filterMap_append, clock]
  cases htime : time x.label <;> simp [htime]

/-- A clock that never goes back shows nothing later than now. -/
theorem le_now [LE Time] {now : Time} (h : (clock time (τ ++ [x])).Pairwise (· ≤ ·))
    (hx : time x.label = some now) : ∀ t ∈ clock time τ, t ≤ now := by
  intro t ht
  rw [clock_concat, hx, List.pairwise_append] at h
  exact h.2.2 t ht now (by simp)

end System

end Framework
