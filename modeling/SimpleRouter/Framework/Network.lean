import SimpleRouter.Framework.System

/-! # Networks of systems

    Parties that take what others have sent, or what comes from outside. A
    message may be taken at any time after it was sent, any number of times, or
    never. What each party promises for what it sends, as long as it only takes
    what it may expect, they promise together.

    * `Network.system`: one party moves at a time.
    * `Contract.reachable`, `Contract.kept`: what holds of each party by itself holds
      of all of them together.
-/

namespace Framework

structure Network (Name State Label In Out : Type) where
  party : Name → System State Label
  /-- What a step takes. -/
  takes : Label → In → Prop
  /-- All that a party in this state has sent so far. -/
  sent : State → Out → Prop
  /-- What is sent by one party comes to another. -/
  link : Name → Out → Name → In → Prop
  outside : Name → In → Prop

namespace Network

variable {Name State Label In Out : Type}

/-- What party `i` can take at the moment. -/
def Offered (net : Network Name State Label In Out) (st : Name → State) (i : Name) (x : In) :
    Prop :=
  net.outside i x ∨ ∃ j y, net.sent (st j) y ∧ net.link j y i x

/-- One party makes a step, and the others stay where they are. -/
def system (net : Network Name State Label In Out) : System (Name → State) (Name × Label) where
  init := fun st => ∀ i, (net.party i).init (st i)
  step := fun st l st' => (∀ x, net.takes l.2 x → net.Offered st l.1 x) ∧
    (net.party l.1).step (st l.1) l.2 (st' l.1) ∧ ∀ j, j ≠ l.1 → st' j = st j

/-- Only what `assume` allows is taken. -/
def Takes (net : Network Name State Label In Out) (assume : In → Prop) (_ : State) (l : Label) :
    Prop :=
  ∀ x, net.takes l x → assume x

/-- What each party may expect to take, and what it promises for all that it sends. -/
structure Contract (net : Network Name State Label In Out) (assume : Name → In → Prop)
    (promise : Name → Out → Prop) : Prop where
  outside : ∀ i x, net.outside i x → assume i x
  /-- What is promised is what the others expect. -/
  link : ∀ j y i x, promise j y → net.link j y i x → assume i x
  /-- A party keeps its promise as long as it only takes what it may expect. -/
  party : ∀ i s, (net.party i).Reachable (net.Takes (assume i)) s →
    ∀ y, net.sent s y → promise i y

namespace Contract

variable {net : Network Name State Label In Out} {assume : Name → In → Prop}
  {promise : Name → Out → Prop} {guard : (Name → State) → Name × Label → Prop}
  {st : Name → State}

/-- **Assumptions and promises**: in the whole network every party only takes what it may
    expect. -/
theorem reachable (h : Contract net assume promise) (hst : net.system.Reachable guard st)
    (i : Name) : (net.party i).Reachable (net.Takes (assume i)) (st i) := by
  induction hst generalizing i with
  | init hinit => exact .init (hinit i)
  | @step st st' l _ _ hstep ih =>
    obtain ⟨htakes, hmove, hothers⟩ := hstep
    by_cases hi : i = l.1
    · subst hi
      refine (ih l.1).step (fun x hx => ?_) hmove
      rcases htakes x hx with hout | ⟨j, y, hsent, hy⟩
      · exact h.outside _ x hout
      · exact h.link j y _ x (h.party j _ (ih j) y hsent) hy
    · rw [hothers i hi]
      exact ih i

/-- So all that is sent is as promised. -/
theorem kept (h : Contract net assume promise) (hst : net.system.Reachable guard st) {i : Name}
    {y : Out} (hy : net.sent (st i) y) : promise i y :=
  h.party i _ (h.reachable hst i) y hy

end Contract

end Network

end Framework
