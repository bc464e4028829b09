import Mathlib.Tactic.Common

/-! # Labelled transition systems with guarded runs

    A `System` is given by its initial states and its labelled steps. A run
    may be restricted by a guard, a condition on each step taken and on the
    state it is taken in; `sys.Reachable guard` are the states of such runs.

    * `Reachable.invariant`: the induction rule, used once per invariant.
    * `Reachable.mono`: fewer guards, more states.
    * `Run`: a run with all its steps, for what depends on the past.
-/

namespace Framework

/-- A labelled transition system. -/
structure System (State Label : Type) where
  init : State → Prop
  step : State → Label → State → Prop

namespace System

variable {State Label : Type}

/-- The guard that allows every step. -/
def always : State → Label → Prop := fun _ _ => True

/-- The states of the runs whose steps all satisfy `guard`. -/
inductive Reachable (sys : System State Label) (guard : State → Label → Prop) : State → Prop where
  | init {s : State} : sys.init s → Reachable sys guard s
  | step {s s' : State} {l : Label} :
      Reachable sys guard s → guard s l → sys.step s l s' → Reachable sys guard s'

variable {sys : System State Label} {guard guard' : State → Label → Prop}

/-- **Invariant rule**: what holds initially and is kept by every allowed step
    holds in every state of every allowed run. -/
theorem Reachable.invariant {I : State → Prop} (hinit : ∀ s, sys.init s → I s)
    (hstep : ∀ s l s', I s → guard s l → sys.step s l s' → I s')
    {s : State} (h : sys.Reachable guard s) : I s := by
  induction h with
  | init h => exact hinit _ h
  | step _ hg hs ih => exact hstep _ _ _ ih hg hs

theorem Reachable.mono (hguard : ∀ s l, guard s l → guard' s l) {s : State}
    (h : sys.Reachable guard s) : sys.Reachable guard' s := by
  induction h with
  | init h => exact .init h
  | step _ hg hs ih => exact .step ih (hguard _ _ hg) hs

/-! ### Runs with their steps -/

/-- A step that was taken. -/
structure Taken (State Label : Type) where
  before : State
  label : Label
  after : State

/-- A run from `s` with the steps `τ`, in order. -/
inductive Run (sys : System State Label) (guard : State → Label → Prop) (s : State) :
    List (Taken State Label) → State → Prop where
  | nil : Run sys guard s [] s
  | step {τ : List (Taken State Label)} {t u : State} {l : Label} :
      Run sys guard s τ t → guard t l → sys.step t l u → Run sys guard s (τ ++ [⟨t, l, u⟩]) u

namespace Run

variable {s t : State} {τ τ' : List (Taken State Label)}

/-- **Invariant rule for runs**: the invariant may speak of the steps so far. -/
theorem invariant {I : List (Taken State Label) → State → Prop} (hnil : I [] s)
    (hstep : ∀ τ t l u, sys.Run guard s τ t → I τ t → guard t l → sys.step t l u →
      I (τ ++ [⟨t, l, u⟩]) u)
    (h : sys.Run guard s τ t) : I τ t := by
  induction h with
  | nil => exact hnil
  | step hr hg hs ih => exact hstep _ _ _ _ hr ih hg hs

theorem reachable (hs : sys.Reachable guard s) (h : sys.Run guard s τ t) :
    sys.Reachable guard t :=
  h.invariant (I := fun _ => sys.Reachable guard) hs fun _ _ _ _ _ hr hg hstep =>
    hr.step hg hstep

/-- Each step of a run was allowed, and taken after a run to where it starts. -/
theorem taken (h : sys.Run guard s τ t) {x : Taken State Label} (hx : x ∈ τ) :
    ∃ τ₁, sys.Run guard s τ₁ x.before ∧ guard x.before x.label ∧
      sys.step x.before x.label x.after := by
  induction h with
  | nil => cases hx
  | step hr hg hs ih =>
    rcases List.mem_append.mp hx with hx | hx
    · exact ih hx
    · obtain rfl := List.mem_singleton.mp hx
      exact ⟨_, hr, hg, hs⟩

theorem append {u : State} (h : sys.Run guard s τ t) (h' : sys.Run guard t τ' u) :
    sys.Run guard s (τ ++ τ') u := by
  induction h' with
  | nil => rwa [List.append_nil]
  | step _ hg hs ih =>
    rw [← List.append_assoc]
    exact ih.step hg hs

/-- **Rule for the two ends of a run**: what relates each state to the next relates the first
    to the last, and to every state on the way. -/
theorem since {R : State → State → Prop} (hrefl : ∀ s, R s s)
    (htrans : ∀ s t u, R s t → R t u → R s u)
    (hstep : ∀ t l u, sys.Reachable guard t → guard t l → sys.step t l u → R t u)
    (hs : sys.Reachable guard s) (h : sys.Run guard s τ t) :
    R s t ∧ ∀ x ∈ τ, R s x.before := by
  induction h with
  | nil => exact ⟨hrefl s, by simp⟩
  | step hr hg hl ih =>
    refine ⟨htrans _ _ _ ih.1 (hstep _ _ _ (hr.reachable hs) hg hl), fun x hx => ?_⟩
    rcases List.mem_append.mp hx with hx | hx
    · exact ih.2 x hx
    · obtain rfl := List.mem_singleton.mp hx
      exact ih.1

end Run

/-- A reachable state is reached by some run. -/
theorem Reachable.run {s : State} (h : sys.Reachable guard s) :
    ∃ s₀ τ, sys.init s₀ ∧ sys.Run guard s₀ τ s := by
  induction h with
  | init h => exact ⟨_, [], h, .nil⟩
  | step _ hg hs ih =>
    obtain ⟨s₀, τ, hinit, hrun⟩ := ih
    exact ⟨s₀, _, hinit, hrun.step hg hs⟩

end System

end Framework
