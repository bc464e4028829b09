import Mathlib.Data.Fintype.Card
import Mathlib.Data.Set.Finite.Basic
import Mathlib.Data.Set.Finite.List
import Mathlib.Logic.Relation
import Mathlib.Tactic.Common

/-! # Chains that end

    `Ends r a` says that no chain `a, b, c, …` of `r`-related elements starting
    at `a` goes on forever. A depth-first traversal along `r` that removes each
    element after its successors comes back exactly when this holds:
    `Removes r ok before after start` says what it did to the elements when it
    started from those in `start`, and has one rule for each step of such a
    traversal.

    * `Removes.keep`: nothing is removed.
    * `Removes.node`: an element is removed after its successors.
    * `Removes.trans`: one traversal after another, over what the first left.
    * `Removes.settles`: all that could be reached is gone, and was `ok`.
-/

namespace Framework

open Relation

variable {α : Type} {r s : α → α → Prop} {a b : α}

/-- Every `r`-chain starting at `a` ends. -/
def Ends (r : α → α → Prop) (a : α) : Prop := Acc (fun y x => r x y) a

theorem Ends.intro (h : ∀ b, r a b → Ends r b) : Ends r a := Acc.intro a h

theorem Ends.next (h : Ends r a) (hab : r a b) : Ends r b := Acc.inv h hab

theorem Ends.induct {motive : α → Prop} (h : Ends r a)
    (step : ∀ a, Ends r a → (∀ b, r a b → motive b) → motive a) : motive a :=
  Acc.rec (fun x hx ih => step x (Acc.intro x hx) ih) h

theorem Ends.mono (hsub : ∀ x y, s x y → r x y) (h : Ends r a) : Ends s a :=
  Subrelation.accessible (fun hxy => hsub _ _ hxy) h

theorem Ends.of_reflTransGen (h : Ends r a) (hab : ReflTransGen r a b) : Ends r b := by
  induction hab with
  | refl => exact h
  | tail _ hbc ih => exact ih.next hbc

/-- An element whose chains end is on no cycle. -/
theorem Ends.not_transGen_self (h : Ends r a) : ¬ TransGen r a a := by
  apply h.induct (motive := fun a => ¬ TransGen r a a)
  intro a _ ih hcycle
  obtain ⟨b, hab, hba⟩ := TransGen.head'_iff.mp hcycle
  exact ih b hab (TransGen.tail' hba hab)

/-- If the chains of `s` from `a` end, where `s` is `r` without some removed
    elements, and the chains of `r` from each removed element end, then so do
    the chains of `r` from `a`. -/
theorem Ends.restore {alive : α → Prop}
    (hedge : ∀ x y, alive x → alive y → r x y → s x y)
    (hgone : ∀ x y, r x y → ¬ alive y → Ends r y)
    (ha : alive a) (h : Ends s a) : Ends r a := by
  refine h.induct (motive := fun a => alive a → Ends r a) (fun a _ ih ha => ?_) ha
  apply Ends.intro
  intro b hab
  by_cases hb : alive b
  · exact ih b (hedge a b ha hb hab) hb
  · exact hgone a b hab hb

/-- Where only finitely many elements have a predecessor, chains end unless they
    run into a cycle. -/
theorem ends_of_no_cycle {l : List α} (htarget : ∀ x y, r x y → y ∈ l)
    (h : ∀ b, ReflTransGen r a b → ¬ TransGen r b b) : Ends r a := by
  let S := { b // ReflTransGen r a b }
  have hfin : Finite S := by
    refine Set.Finite.to_subtype (Set.Finite.subset (List.finite_toSet (a :: l)) ?_)
    intro b hab
    rcases ReflTransGen.cases_tail hab with rfl | ⟨c, -, hcb⟩
    · exact List.mem_cons_self
    · exact List.mem_cons_of_mem _ (htarget c b hcb)
  let down : S → S → Prop := fun x y => TransGen r y.1 x.1
  have htrans : IsTrans S down := ⟨fun x y z hxy hyz => TransGen.trans hyz hxy⟩
  have hirrefl : Std.Irrefl down := ⟨fun x => h x.1 x.2⟩
  have hwf : WellFounded down := Finite.wellFounded_of_trans_of_irrefl down
  suffices hall : ∀ x : S, Ends r x.1 from hall ⟨a, .refl⟩
  intro x
  induction x using hwf.induction with
  | _ x ih => exact Ends.intro fun b hb => ih ⟨b, x.2.tail hb⟩ (TransGen.single hb)

/-- Every `r`-chain starting at `a` ends, and all elements on them are `ok`. -/
def Settles (r : α → α → Prop) (ok : α → Prop) (a : α) : Prop :=
  Ends r a ∧ ∀ b, ReflTransGen r a b → ok b

theorem Settles.next {ok : α → Prop} (h : Settles r ok a) (hab : r a b) : Settles r ok b :=
  ⟨h.1.next hab, fun c hbc => h.2 c (.head hab hbc)⟩

theorem Settles.ok {ok : α → Prop} (h : Settles r ok a) : ok a := h.2 a .refl

theorem settles_iff {ok : α → Prop} {l : List α} (htarget : ∀ x y, r x y → y ∈ l) :
    Settles r ok a ↔ ∀ b, ReflTransGen r a b → ¬ TransGen r b b ∧ ok b := by
  constructor
  · exact fun h b hab => ⟨(h.1.of_reflTransGen hab).not_transGen_self, h.2 b hab⟩
  · exact fun h => ⟨ends_of_no_cycle htarget fun b hab => (h b hab).1, fun b hab => (h b hab).2⟩

/-! ### Removing along chains -/

/-- What a depth-first traversal along `r` from the elements of `start` did, if
    it removes each element after its successors: `before` and `after` are the
    elements there were and those that are left, and `ok` is what the traversal
    checked of each element that it removed. -/
structure Removes (r : α → α → Prop) (ok before after start : α → Prop) : Prop where
  gone : ∀ a, start a → before a ∧ ¬ after a
  reached : ∀ a, before a → ¬ after a → ∃ b, start b ∧ ReflTransGen r b a
  ends : ∀ a, before a → ¬ after a → Ends r a
  checked : ∀ a, before a → ¬ after a → ok a
  closed : ∀ a b, before a → ¬ after a → r a b → ¬ after b

namespace Removes

variable {r' : α → α → Prop} {ok ok' before mid after start start' : α → Prop}

theorem keep (h : ∀ a, before a → after a) : Removes r ok before after fun _ => False where
  gone _ hf := hf.elim
  reached a hb ha := absurd (h a hb) ha
  ends a hb ha := absurd (h a hb) ha
  checked a hb ha := absurd (h a hb) ha
  closed a _ hb ha := absurd (h a hb) ha

/-- An element is removed after its successors. -/
theorem node (h : Removes r ok before mid (r a)) (ha : before a) (hok : ok a)
    (hafter : ∀ b, after b ↔ mid b ∧ b ≠ a) : Removes r ok before after (· = a) := by
  have hsplit : ∀ b, ¬ after b → b = a ∨ ¬ mid b := by
    intro b hb
    by_cases hba : b = a
    · exact .inl hba
    · exact .inr fun hm => hb ((hafter b).mpr ⟨hm, hba⟩)
  have hout : ∀ b, ¬ mid b → ¬ after b := fun b hm hb => hm ((hafter b).mp hb).1
  refine ⟨?_, ?_, ?_, ?_, ?_⟩
  · rintro b rfl
    exact ⟨ha, fun hb => ((hafter b).mp hb).2 rfl⟩
  · intro b hb hgone
    rcases hsplit b hgone with rfl | hm
    · exact ⟨b, rfl, .refl⟩
    · obtain ⟨c, hac, hcb⟩ := h.reached b hb hm
      exact ⟨a, rfl, .head hac hcb⟩
  · intro b hb hgone
    rcases hsplit b hgone with rfl | hm
    · exact Ends.intro fun c hc => h.ends c (h.gone c hc).1 (h.gone c hc).2
    · exact h.ends b hb hm
  · intro b hb hgone
    rcases hsplit b hgone with rfl | hm
    · exact hok
    · exact h.checked b hb hm
  · intro b c hb hgone hbc
    rcases hsplit b hgone with rfl | hm
    · exact hout c (h.gone c hbc).2
    · exact hout c (h.closed b c hb hm hbc)

/-- A second traversal, along what is left of `r` after the first one. -/
theorem trans (hmid : ∀ a, mid a → before a) (hafter : ∀ a, after a → mid a)
    (htarget : ∀ a b, r a b → before b) (hsub : ∀ a b, r' a b → r a b)
    (hsup : ∀ a b, mid a → mid b → r a b → r' a b) (hok : ∀ a, mid a → ok' a → ok a)
    (h : Removes r ok before mid start) (h' : Removes r' ok' mid after start') :
    Removes r ok before after fun a => start a ∨ start' a where
  gone a ha := by
    rcases ha with ha | ha
    · exact ⟨(h.gone a ha).1, fun hx => (h.gone a ha).2 (hafter a hx)⟩
    · exact ⟨hmid a (h'.gone a ha).1, (h'.gone a ha).2⟩
  reached a hb ha := by
    by_cases hm : mid a
    · obtain ⟨b, hstart, hba⟩ := h'.reached a hm ha
      exact ⟨b, .inr hstart, ReflTransGen.mono hsub _ _ hba⟩
    · obtain ⟨b, hstart, hba⟩ := h.reached a hb hm
      exact ⟨b, .inl hstart, hba⟩
  ends a hb ha := by
    by_cases hm : mid a
    · exact Ends.restore hsup (fun x y hxy hy => h.ends y (htarget x y hxy) hy) hm
        (h'.ends a hm ha)
    · exact h.ends a hb hm
  checked a hb ha := by
    by_cases hm : mid a
    · exact hok a hm (h'.checked a hm ha)
    · exact h.checked a hb hm
  closed a b hb ha hab hx := by
    by_cases hm : mid a
    · exact h'.closed a b hm ha (hsup a b hm (hafter b hx) hab) hx
    · exact h.closed a b hb hm hab (hafter b hx)

/-- What is gone may be counted among the elements started from. -/
theorem widen (h : Removes r ok before after start) (hsub : ∀ a, start a → start' a)
    (hgone : ∀ a, start' a → before a ∧ ¬ after a) : Removes r ok before after start' where
  gone := hgone
  reached a hb ha := by
    obtain ⟨b, hstart, hba⟩ := h.reached a hb ha
    exact ⟨b, hsub b hstart, hba⟩
  ends := h.ends
  checked := h.checked
  closed := h.closed

theorem settles (h : Removes r ok before after start) (htarget : ∀ a b, r a b → before b)
    (ha : before a) (hgone : ¬ after a) : Settles r ok a := by
  refine ⟨h.ends a ha hgone, fun b hab => ?_⟩
  suffices hb : before b ∧ ¬ after b from h.checked b hb.1 hb.2
  induction hab with
  | refl => exact ⟨ha, hgone⟩
  | tail _ hbc ih => exact ⟨htarget _ _ hbc, h.closed _ _ ih.1 ih.2 hbc⟩

/-- An element that leads to every element of `start` is still there: else it
    would lie on a cycle. -/
theorem left (h : Removes r ok before after start) (ha : before a)
    (hall : ∀ b, start b → r a b) : after a := by
  apply Classical.byContradiction
  intro hgone
  obtain ⟨c, hc, hca⟩ := h.reached a ha hgone
  exact (h.ends a ha hgone).not_transGen_self (TransGen.head' (hall c hc) hca)

end Removes

end Framework
