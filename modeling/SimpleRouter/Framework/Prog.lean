import Mathlib.Tactic.Common

/-! # Programs with state, faults and fuel

    A `Prog ε σ α` is a total function that always hands back the state it
    leaves, whichever way it ends: it returned a value, it ran into a fault
    `e : ε`, or it used up its fuel. Keeping the state on the last two makes
    statements about everything a crashing or endless call did on the way.

    * **Triples**: `Triple P m Q E`, with rules for each way of building
      a program.
    * **Fuel**: `Prog.Le m m'` says that `m'` does what `m` does wherever `m`
      does not run out of fuel; it is preserved by sequencing and loops.
-/

namespace Framework

/-- How a program ends. -/
inductive Outcome (ε α : Type) where
  | returned (a : α)
  | fault (e : ε)
  | exhausted
  deriving DecidableEq, Repr

/-- A program over states `σ`, with faults in `ε` and results in `α`. -/
def Prog (ε σ α : Type) : Type := σ → Outcome ε α × σ

namespace Prog

variable {ε σ α β γ : Type}

/-! ### Building blocks -/

protected def pure (a : α) : Prog ε σ α := fun s => (.returned a, s)

/-- Run `m`; go on with `f` only if it returned. -/
protected def bind (m : Prog ε σ α) (f : α → Prog ε σ β) : Prog ε σ β := fun s =>
  match m s with
  | (.returned a, s') => f a s'
  | (.fault e, s') => (.fault e, s')
  | (.exhausted, s') => (.exhausted, s')

instance : Monad (Prog ε σ) where
  pure := Prog.pure
  bind := Prog.bind

/-- The current state. -/
def read : Prog ε σ σ := fun s => (.returned s, s)

def modify (f : σ → σ) : Prog ε σ Unit := fun s => (.returned (), f s)

def fail (e : ε) : Prog ε σ α := fun s => (.fault e, s)

/-- What a recursive program does when its fuel is gone. -/
def exhaust : Prog ε σ α := fun s => (.exhausted, s)

/-- Run a program on a part of the state. -/
def within {ε' τ : Type} (get : σ → τ) (put : τ → σ → σ) (fault : ε' → ε) (m : Prog ε' τ α) :
    Prog ε σ α := fun s =>
  match m (get s) with
  | (.returned a, t) => (.returned a, put t s)
  | (.fault e, t) => (.fault (fault e), put t s)
  | (.exhausted, t) => (.exhausted, put t s)

/-- The loop over a list that was read before the loop started. -/
def forEach : List β → (β → Prog ε σ Unit) → Prog ε σ Unit
  | [], _ => pure ()
  | x :: xs, body => do
    body x
    forEach xs body

/-! ### Computing -/

@[simp] theorem pure_apply (a : α) (s : σ) : (pure a : Prog ε σ α) s = (.returned a, s) := rfl

@[simp] theorem read_apply (s : σ) : (read : Prog ε σ σ) s = (.returned s, s) := rfl

@[simp] theorem modify_apply (f : σ → σ) (s : σ) :
    (modify f : Prog ε σ Unit) s = (.returned (), f s) := rfl

@[simp] theorem fail_apply (e : ε) (s : σ) : (fail e : Prog ε σ α) s = (.fault e, s) := rfl

@[simp] theorem exhaust_apply (s : σ) : (exhaust : Prog ε σ α) s = (.exhausted, s) := rfl

@[simp] theorem read_bind (f : σ → Prog ε σ β) (s : σ) : (read >>= f) s = f s s := rfl

@[simp] theorem modify_bind (g : σ → σ) (f : Unit → Prog ε σ β) (s : σ) :
    (modify g >>= f) s = f () (g s) := rfl

@[simp] theorem pure_bind_apply (a : α) (f : α → Prog ε σ β) (s : σ) :
    ((pure a : Prog ε σ α) >>= f) s = f a s := rfl

@[simp] theorem fail_bind (e : ε) (f : α → Prog ε σ β) (s : σ) :
    ((fail e : Prog ε σ α) >>= f) s = (.fault e, s) := rfl

theorem bind_of_returned {m : Prog ε σ α} {f : α → Prog ε σ β} {s s' : σ} {a : α}
    (h : m s = (.returned a, s')) : (m >>= f) s = f a s' := by
  show Prog.bind m f s = _
  simp only [Prog.bind, h]

theorem bind_of_fault {m : Prog ε σ α} {f : α → Prog ε σ β} {s s' : σ} {e : ε}
    (h : m s = (.fault e, s')) : (m >>= f) s = (.fault e, s') := by
  show Prog.bind m f s = _
  simp only [Prog.bind, h]

theorem bind_of_exhausted {m : Prog ε σ α} {f : α → Prog ε σ β} {s s' : σ}
    (h : m s = (.exhausted, s')) : (m >>= f) s = (.exhausted, s') := by
  show Prog.bind m f s = _
  simp only [Prog.bind, h]

/-- Returning something else changes neither the state nor the faults. -/
theorem bind_pure_state (m : Prog ε σ α) (b : β) (s : σ) :
    ((m >>= fun _ => pure b) s).2 = (m s).2 := by
  rcases hm : m s with ⟨_ | _ | _, t⟩
  · rw [bind_of_returned hm, pure_apply]
  · rw [bind_of_fault hm]
  · rw [bind_of_exhausted hm]

theorem bind_pure_returned {m : Prog ε σ α} {b : β} {s : σ} {a : α}
    (h : (m s).1 = .returned a) : ((m >>= fun _ => pure b) s).1 = .returned b := by
  have hm : m s = (.returned a, (m s).2) := Prod.ext h rfl
  rw [bind_of_returned hm, pure_apply]

theorem bind_pure_fault {m : Prog ε σ α} {b : β} {s : σ} {e : ε}
    (h : ((m >>= fun _ => pure b) s).1 = .fault e) : (m s).1 = .fault e := by
  rcases hm : m s with ⟨_ | _ | _, t⟩
  · rw [bind_of_returned hm] at h
    cases h
  · rw [bind_of_fault hm] at h
    exact congrArg Outcome.fault (Outcome.fault.inj h)
  · rw [bind_of_exhausted hm] at h
    cases h

section Within

variable {ε' τ : Type} (get : σ → τ) (put : τ → σ → σ) (fault : ε' → ε) (m : Prog ε' τ α) (s : σ)

/-- Only the part is written. -/
theorem within_state : (within get put fault m s).2 = put (m (get s)).2 s := by
  rw [within]
  rcases m (get s) with ⟨_ | _ | _, t⟩ <;> rfl

theorem within_returned {a : α} (h : (m (get s)).1 = .returned a) :
    (within get put fault m s).1 = .returned a := by
  rw [within]
  rcases hm : m (get s) with ⟨_ | _ | _, t⟩
  · rw [hm] at h
    exact congrArg Outcome.returned (Outcome.returned.inj h)
  · rw [hm] at h
    cases h
  · rw [hm] at h
    cases h

/-- A fault is one of the part. -/
theorem within_fault {e : ε} (h : (within get put fault m s).1 = .fault e) :
    ∃ e', e = fault e' := by
  rw [within] at h
  rcases hm : m (get s) with ⟨_ | e' | _, t⟩
  · rw [hm] at h
    cases h
  · rw [hm] at h
    exact ⟨e', (Outcome.fault.inj h).symm⟩
  · rw [hm] at h
    cases h

end Within

theorem returned_inj {a b : α} {s t : σ}
    (h : ((.returned a, s) : Outcome ε α × σ) = (.returned b, t)) : a = b ∧ s = t :=
  ⟨Outcome.returned.inj (Prod.mk.inj h).1, (Prod.mk.inj h).2⟩

/-- A sequence that returned is two programs that returned. -/
theorem bind_eq_returned {m : Prog ε σ α} {f : α → Prog ε σ β} {s t : σ} {b : β} :
    (m >>= f) s = (.returned b, t) ↔
      ∃ a s', m s = (.returned a, s') ∧ f a s' = (.returned b, t) := by
  constructor
  · intro h
    rcases hm : m s with ⟨_ | _ | _, s'⟩
    · exact ⟨_, s', rfl, by rwa [bind_of_returned hm] at h⟩
    · rw [bind_of_fault hm] at h; simp at h
    · rw [bind_of_exhausted hm] at h; simp at h
  · intro h
    obtain ⟨a, s', hm, hf⟩ := h
    rw [bind_of_returned hm, hf]

/-- A sequence that faulted did so in its first or in its second part. -/
theorem bind_eq_fault {m : Prog ε σ α} {f : α → Prog ε σ β} {s t : σ} {e : ε} :
    (m >>= f) s = (.fault e, t) ↔
      m s = (.fault e, t) ∨ ∃ a s', m s = (.returned a, s') ∧ f a s' = (.fault e, t) := by
  constructor
  · intro h
    rcases hm : m s with ⟨_ | _ | _, s'⟩
    · exact .inr ⟨_, s', rfl, by rwa [bind_of_returned hm] at h⟩
    · rw [bind_of_fault hm] at h; exact .inl (by simpa using h)
    · rw [bind_of_exhausted hm] at h; simp at h
  · intro h
    rcases h with hm | ⟨a, s', hm, hf⟩
    · rw [bind_of_fault hm]
    · rw [bind_of_returned hm, hf]

instance : LawfulMonad (Prog ε σ) := LawfulMonad.mk' _
  (fun m => by
    funext s
    show Prog.bind m (fun a => Prog.pure (id a)) s = m s
    unfold Prog.bind
    rcases m s with ⟨_ | _ | _, _⟩ <;> rfl)
  (fun _ _ => rfl)
  (fun m f g => by
    funext s
    show Prog.bind (Prog.bind m f) g s = Prog.bind m (fun a => Prog.bind (f a) g) s
    unfold Prog.bind
    rcases m s with ⟨_ | _ | _, _⟩ <;> rfl)

@[simp] theorem forEach_nil (body : β → Prog ε σ Unit) (s : σ) :
    forEach [] body s = (.returned (), s) := rfl

theorem forEach_cons (x : β) (xs : List β) (body : β → Prog ε σ Unit) :
    forEach (x :: xs) body = (body x >>= fun _ => forEach xs body) := rfl

/-- A loop that faulted did so at one of its elements, after the ones before. -/
theorem forEach_eq_fault {xs : List β} {body : β → Prog ε σ Unit} {s t : σ} {e : ε}
    (h : forEach xs body s = (.fault e, t)) :
    ∃ xs₁ x xs₂ s', xs = xs₁ ++ x :: xs₂ ∧ forEach xs₁ body s = (.returned (), s') ∧
      body x s' = (.fault e, t) := by
  induction xs generalizing s with
  | nil => simp at h
  | cons y ys ih =>
    rw [forEach_cons, bind_eq_fault] at h
    rcases h with hy | ⟨⟨⟩, s', hy, hrest⟩
    · exact ⟨[], y, ys, s, rfl, rfl, hy⟩
    · obtain ⟨xs₁, x, xs₂, v, rfl, hpre, hx⟩ := ih hrest
      refine ⟨y :: xs₁, x, xs₂, v, rfl, ?_, hx⟩
      rw [forEach_cons, bind_of_returned hy, hpre]

/-! ### Triples -/

/-- From a state satisfying `P`, if `m` returns `a` then `Q a` holds of the
    state it leaves; if it faults with `e` then `E (some e)` does; and if it
    runs out of fuel then `E none` does. -/
def Triple (P : σ → Prop) (m : Prog ε σ α) (Q : α → σ → Prop) (E : Option ε → σ → Prop) : Prop :=
  ∀ s, P s →
    match m s with
    | (.returned a, s') => Q a s'
    | (.fault e, s') => E (some e) s'
    | (.exhausted, s') => E none s'

section rules
variable {P P' : σ → Prop} {Q : α → σ → Prop} {R : β → σ → Prop} {E : Option ε → σ → Prop}

theorem Triple.returned {m : Prog ε σ α} (h : Triple P m Q E) {s s' : σ} {a : α}
    (hs : P s) (hm : m s = (.returned a, s')) : Q a s' := by
  have := h s hs
  rwa [hm] at this

theorem Triple.faulted {m : Prog ε σ α} (h : Triple P m Q E) {s s' : σ} {e : ε}
    (hs : P s) (hm : m s = (.fault e, s')) : E (some e) s' := by
  have := h s hs
  rwa [hm] at this

/-- What holds on every way out holds of the state that is left. -/
theorem Triple.left {m : Prog ε σ α} (h : Triple P m (fun _ => P') (fun _ => P')) {s : σ}
    (hs : P s) : P' (m s).2 := by
  have := h s hs
  rcases hres : m s with ⟨_ | _ | _, _⟩ <;> rwa [hres] at this

theorem triple_pure {a : α} (h : ∀ s, P s → Q a s) : Triple P (pure a : Prog ε σ α) Q E := h

theorem triple_modify {f : σ → σ} {Q : Unit → σ → Prop} (h : ∀ s, P s → Q () (f s)) :
    Triple P (modify f : Prog ε σ Unit) Q E := h

theorem triple_fail {e : ε} (h : ∀ s, P s → E (some e) s) :
    Triple P (fail e : Prog ε σ α) Q E := h

theorem triple_exhaust (h : ∀ s, P s → E none s) : Triple P (exhaust : Prog ε σ α) Q E := h

theorem triple_bind {m : Prog ε σ α} {f : α → Prog ε σ β}
    (hm : Triple P m Q E) (hf : ∀ a, Triple (Q a) (f a) R E) : Triple P (m >>= f) R E := by
  intro s hs
  have h := hm s hs
  rcases hres : m s with ⟨a | e | _, s'⟩ <;> rw [hres] at h
  · rw [bind_of_returned hres]; exact hf a s' h
  · rw [bind_of_fault hres]; exact h
  · rw [bind_of_exhausted hres]; exact h

/-- Reading the state fixes it for what follows. -/
theorem triple_read {f : σ → Prog ε σ β} (h : ∀ t, P t → Triple (fun s => s = t ∧ P s) (f t) R E) :
    Triple P (read >>= f) R E := by
  intro s hs
  exact h s hs s ⟨rfl, hs⟩

theorem Triple.weaken {Q' : α → σ → Prop} {E' : Option ε → σ → Prop} {m : Prog ε σ α}
    (h : Triple P m Q E) (hP : ∀ s, P' s → P s) (hQ : ∀ a s, Q a s → Q' a s)
    (hE : ∀ e s, E e s → E' e s) : Triple P' m Q' E' := by
  intro s hs
  have := h s (hP s hs)
  rcases hres : m s with ⟨a | e | _, s'⟩ <;> rw [hres] at this
  · exact hQ a s' this
  · exact hE _ s' this
  · exact hE _ s' this

theorem Triple.pre {m : Prog ε σ α} (h : Triple P m Q E) (hP : ∀ s, P' s → P s) :
    Triple P' m Q E :=
  h.weaken hP (fun _ _ h => h) (fun _ _ h => h)

/-- **Loop rule**: a body that keeps `I` gives a loop that keeps `I`. -/
theorem triple_forEach {I : σ → Prop} {xs : List β} {body : β → Prog ε σ Unit}
    (h : ∀ x ∈ xs, Triple I (body x) (fun _ => I) E) :
    Triple I (forEach xs body) (fun _ => I) E := by
  induction xs with
  | nil => exact triple_pure fun _ hs => hs
  | cons x xs ih =>
    exact triple_bind (h x (by simp)) fun _ => ih fun y hy => h y (by simp [hy])

/-- **Loop rule with progress**: the invariant may speak of the part of the
    list that has been handled. -/
theorem forEach_returned {I : List β → σ → Prop} {xs : List β} {body : β → Prog ε σ Unit}
    {s t : σ} (hI : I [] s)
    (hstep : ∀ xs₁ x xs₂ s s', xs = xs₁ ++ x :: xs₂ → I xs₁ s →
      body x s = (.returned (), s') → I (xs₁ ++ [x]) s')
    (hrun : forEach xs body s = (.returned (), t)) : I xs t := by
  suffices h : ∀ ys zs s, xs = zs ++ ys → I zs s → forEach ys body s = (.returned (), t) →
      I xs t from h xs [] s rfl hI hrun
  intro ys
  induction ys with
  | nil =>
    intro zs s hxs hz hr
    simp only [forEach_nil, Prod.mk.injEq, true_and] at hr
    subst hr
    simpa [hxs] using hz
  | cons y ys ih =>
    intro zs s hxs hz hr
    rw [forEach_cons, bind_eq_returned] at hr
    obtain ⟨_, s', hy, hrest⟩ := hr
    exact ih (zs ++ [y]) s' (by simp [hxs]) (hstep zs y ys s s' hxs hz hy) hrest

end rules

/-! ### Keeping an invariant -/

/-- `m` keeps `I` however it ends. -/
def Keeps (I : σ → Prop) (m : Prog ε σ α) : Prop := Triple I m (fun _ => I) (fun _ => I)

theorem keeps_iff {I : σ → Prop} {m : Prog ε σ α} : Keeps I m ↔ ∀ s, I s → I (m s).2 := by
  refine forall_congr' fun s => forall_congr' fun _ => ?_
  rcases m s with ⟨_ | _ | _, _⟩ <;> exact Iff.rfl

/-- `m` only moves along `R`: a relation between the state before and the
    state after, however it ends. -/
def Moves (R : σ → σ → Prop) (m : Prog ε σ α) : Prop := ∀ s, R s (m s).2

section moves
variable {R : σ → σ → Prop}

theorem moves_pure (hrefl : ∀ s, R s s) (a : α) : Moves R (pure a : Prog ε σ α) := hrefl

theorem moves_exhaust (hrefl : ∀ s, R s s) : Moves R (exhaust : Prog ε σ α) := hrefl

theorem moves_bind (htrans : ∀ s t u, R s t → R t u → R s u)
    {m : Prog ε σ α} {f : α → Prog ε σ β} (hm : Moves R m) (hf : ∀ a, Moves R (f a)) :
    Moves R (m >>= f) := by
  intro s
  have h := hm s
  rcases hres : m s with ⟨a | e | _, s'⟩ <;> rw [hres] at h
  · rw [bind_of_returned hres]; exact htrans _ _ _ h (hf a s')
  · rw [bind_of_fault hres]; exact h
  · rw [bind_of_exhausted hres]; exact h

theorem moves_read {f : σ → Prog ε σ β} (h : ∀ t, R t (f t t).2) : Moves R (read >>= f) := h

theorem moves_forEach (hrefl : ∀ s, R s s) (htrans : ∀ s t u, R s t → R t u → R s u)
    {xs : List β} {body : β → Prog ε σ Unit} (h : ∀ x ∈ xs, Moves R (body x)) :
    Moves R (forEach xs body) := by
  induction xs with
  | nil => exact moves_pure hrefl ()
  | cons x xs ih =>
    exact moves_bind htrans (h x (by simp)) fun _ => ih fun y hy => h y (by simp [hy])

end moves

/-! ### Fuel -/

/-- `m'` does what `m` does from every state where `m` has fuel enough. -/
def Le (m m' : Prog ε σ α) : Prop := ∀ s, (m s).1 ≠ .exhausted → m' s = m s

theorem Le.refl (m : Prog ε σ α) : Le m m := fun _ _ => rfl

theorem Le.trans {m₁ m₂ m₃ : Prog ε σ α} (h₁ : Le m₁ m₂) (h₂ : Le m₂ m₃) : Le m₁ m₃ := by
  intro s hs
  have h := h₁ s hs
  rw [h₂ s (by rwa [h]), h]

/-- What returned with some fuel returns with more. -/
theorem Le.returned {m m' : Prog ε σ α} (h : Le m m') {s s' : σ} {a : α}
    (hm : m s = (.returned a, s')) : m' s = (.returned a, s') := by
  rw [h s (by simp [hm]), hm]

theorem exhaust_le (m : Prog ε σ α) : Le exhaust m := fun _ h => absurd rfl h

theorem Le.bind {m m' : Prog ε σ α} {f f' : α → Prog ε σ β} (hm : Le m m')
    (hf : ∀ a, Le (f a) (f' a)) : Le (m >>= f) (m' >>= f') := by
  intro s hs
  rcases hres : m s with ⟨a | e | _, s'⟩
  · have hm' : m' s = (.returned a, s') := by rw [hm s (by simp [hres]), hres]
    rw [bind_of_returned hres] at hs ⊢
    rw [bind_of_returned hm', hf a s' hs]
  · have hm' : m' s = (.fault e, s') := by rw [hm s (by simp [hres]), hres]
    rw [bind_of_fault hres, bind_of_fault hm']
  · rw [bind_of_exhausted hres] at hs
    exact absurd rfl hs

theorem Le.forEach {body body' : β → Prog ε σ Unit} (h : ∀ x, Le (body x) (body' x)) :
    ∀ xs, Le (forEach xs body) (forEach xs body')
  | [] => Le.refl _
  | x :: xs => (h x).bind fun _ => Le.forEach h xs

/-- A program that grows with its fuel gives one result at every fuel that is
    enough. -/
theorem le_of_fuel {m : Nat → Prog ε σ α} (hsucc : ∀ n, Le (m n) (m (n + 1))) {n k : Nat}
    (hnk : n ≤ k) : Le (m n) (m k) := by
  induction hnk with
  | refl => exact Le.refl _
  | step _ ih => exact ih.trans (hsucc _)

end Prog

end Framework
