import Mathlib.Tactic.Common

/-! # Loops that end

    `Loop cond body x y` says that `while (cond) body`, started in `x`, comes to
    its own end, in `y`. A loop that goes on forever has no such `y`.

    * `Loop.exits`: at the end, the condition is false.
    * `Loop.keeps`: what holds at the end because every round keeps it.
-/

namespace Framework

variable {α : Type} {cond : α → Prop} {body : α → α} {x y : α}

inductive Loop (cond : α → Prop) (body : α → α) : α → α → Prop where
  | done {x : α} (h : ¬ cond x) : Loop cond body x x
  | round {x y : α} (h : cond x) (hrest : Loop cond body (body x) y) : Loop cond body x y

namespace Loop

theorem exits (h : Loop cond body x y) : ¬ cond y := by
  induction h with
  | done hx => exact hx
  | round _ _ ih => exact ih

/-- **Invariant rule**: a round is only made where the condition is true. -/
theorem keeps {I : α → Prop} (h : Loop cond body x y) (hround : ∀ z, cond z → I z → I (body z))
    (hx : I x) : I y := by
  induction h with
  | done _ => exact hx
  | round hcond _ ih => exact ih (hround _ hcond hx)

end Loop

end Framework
