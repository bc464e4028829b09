import Mathlib.Data.List.Perm.Basic
import SimpleRouter.Queue.Termination

/-! # Sweeping the queue

    `sr_arpcache_sweepreqs` saves the successor of each request before it
    handles the request. What it finds when it gets there depends on what was
    destroyed meanwhile, and that can be told from the queue as it was at the
    start: handling an expired request destroys it and what nested calls reach
    from it along requests that are still there (`after_handling`).

    * `gone_iff_after_handling`: this is exactly what is gone.
    * `PointsAt`: the saved successor is the next request that was still there.
    * `SweepSafe`: no expired request reaches its successor.
-/

namespace SimpleRouter

open Framework Framework.Bytes RouterState Relation

variable {sr : SrInstance} {heap : Heap} {now : time_t} {s t t' : RouterState}

/-! ### Frames stay where they are -/

/-- Answering a sender leaves no answer on an expired request, when nested calls do as
    they should: the request that the answer was stored on is gone. -/
theorem answer_sender_waiting {fuel req : Nat} {s' : RouterState} {p : SrPacket}
    (ih : ∀ {s s' : RouterState} {r : SrArpreq}, WellFormed s → r ∈ s.reqs →
      sr_arpcache_handle_arpreq sr heap now fuel r.addr s = (.returned (), s') →
      ∀ {x y : uint32_t}, Waiting now s' x y → Waiting now s x y)
    (hs : WellFormed s)
    (hrun : answer_sender sr heap (sr_arpcache_handle_arpreq sr heap now fuel) req p s =
      (.returned (), s'))
    {x y : uint32_t} (hw : Waiting now s' x y) : Waiting now s x y := by
  cases answer_sender_returned hrun with
  | unrouted _ hs' =>
    subst hs'
    exact hw
  | sent _ _ _ hs' =>
    obtain rfl := (Prod.mk.inj hs').2
    exact hw
  | @stored _ _ r hrt hifc _ hr hip hans hcall =>
    have hu := (queueAnswer_handles heap now req hrt hifc hs).1
    have hwu := ih hu hr hcall hw
    rcases waiting_queuePacket hs.alloc hwu with hold | hnew
    · exact hold
    · -- an answer that still waits is on a request that the call has destroyed
      obtain ⟨r₁, hr₁, hip₁, hexp₁, -⟩ := hwu
      obtain rfl := hu.ip_inj hr₁ hr (by rw [hip₁, hnew.1, hip])
      have hdis := (handle_discards hu hr₁ hexp₁ hcall).nested hu hr₁ hexp₁ hans
      obtain ⟨r₂, hr₂, hip₂, hexp₂, -⟩ := hw
      exact absurd ⟨r₂, hr₂, hip₂, hexp₂⟩ (hdis.gone _ hip₁.symm).2

/-- A call that returned leaves no answer on an expired request: the requests
    that it stored answers on are gone. -/
theorem handle_waiting {fuel : Nat} {s' : RouterState} {r : SrArpreq} (hs : WellFormed s)
    (hr : r ∈ s.reqs)
    (hrun : sr_arpcache_handle_arpreq sr heap now fuel r.addr s = (.returned (), s'))
    {x y : uint32_t} (hw : Waiting now s' x y) : Waiting now s x y := by
  induction fuel generalizing s s' r x y with
  | zero => simp [sr_arpcache_handle_arpreq] at hrun
  | succ fuel ih =>
    obtain ⟨n, ⟨⟩, hdone⟩ := handle_arpreq_returned hs hr hrun
    obtain ⟨r', hr', hip, hexp', hp⟩ := hw
    cases hdone with
    | idle _ hs' => exact hs' ▸ ⟨r', hr', hip, hexp', hp⟩
    | asked _ _ hask =>
      obtain ⟨_, _, e, -, -, rfl⟩ := send_arp_request_returned hask
      obtain ⟨r₀, hr₀, rfl⟩ := mem_updateReq.mp hr'
      split at hexp'
      · exact absurd hexp' (not_expired_asked r₀)
      · next haddr =>
        rw [if_neg haddr] at hip hp
        exact ⟨r₀, hr₀, hip, hexp', hp⟩
    | @discarded t _ hloop _ hs' =>
      -- every turn of the loop handles the request that its answer waits on
      subst hs'
      have hwt : Waiting now t x y := ⟨r', List.mem_of_mem_eraseP hr', hip, hexp', hp⟩
      refine Prog.forEach_returned
        (I := fun _ v => InLoop sr now s r v ∧ ∀ x y, Waiting now v x y → Waiting now s x y)
        ⟨InLoop.start hs hr, fun _ _ h => h⟩ ?_ hloop |>.2 x y hwt
      intro _ p _ v v' _ hI hbody
      obtain ⟨hv, hwait⟩ := hI
      refine ⟨hv.next hs hbody, fun x y hw' => hwait x y ?_⟩
      exact answer_sender_waiting ih hv.wellFormed (discard_packet_returned hbody).1 hw'

/-! ### What is gone -/

/-- The expired request for `x` has been destroyed. -/
def Gone (now : time_t) (s t : RouterState) (x : uint32_t) : Prop :=
  ExpiredFor now s x ∧ ¬ ExpiredFor now t x

/-- What is gone once the expired request for `x` was handled, when the requests in
    `gone` were gone before: `x` itself and what nested calls reach, from the
    sources of its frames, through requests that are left. -/
def after_handling (sr : SrInstance) (now : time_t) (s : RouterState) (gone : uint32_t → Prop)
    (x : uint32_t) : uint32_t → Prop := fun z =>
  gone z ∨ z = x ∨ ∃ y, OuterCall sr now s x y ∧ ¬ gone y ∧
    ReflTransGen (fun a b => NestedCall sr now s a b ∧ ¬ gone b) y z

/-- A state of a sweep that started in `s`: what is gone is known, and the frames
    of the expired requests that are left are the old ones. -/
structure Sweeping (sr : SrInstance) (now : time_t) (s : RouterState) (gone : uint32_t → Prop)
    (t : RouterState) : Prop where
  wellFormed : WellFormed t
  evolves : Evolves sr now s t
  gone_iff : ∀ z, gone z ↔ Gone now s t z
  waiting : ∀ x y, Waiting now t x y → Waiting now s x y

namespace Sweeping

variable {gone : uint32_t → Prop}

theorem start (hs : WellFormed s) : Sweeping sr now s (fun _ => False) s :=
  ⟨hs, Evolves.refl hs, fun _ => ⟨fun h => h.elim, fun h => h.2 h.1⟩, fun _ _ h => h⟩

theorem expiredFor (h : Sweeping sr now s gone t) {z : uint32_t} (hz : ExpiredFor now s z)
    (hleft : ¬ gone z) : ExpiredFor now t z := by
  refine Classical.byContradiction fun hn => hleft ?_
  exact (h.gone_iff z).mpr ⟨hz, hn⟩

theorem not_gone (h : Sweeping sr now s gone t) {z : uint32_t} (hz : ExpiredFor now t z) :
    ¬ gone z :=
  fun hg => ((h.gone_iff z).mp hg).2 hz

/-- Handling a request that has not expired leaves everything there. -/
theorem handle_other (h : Sweeping sr now s gone t) (hs : WellFormed s) {fuel : Nat}
    {r : SrArpreq} (hr : r ∈ t.reqs) (hexp : ¬ Expired now r)
    (hrun : sr_arpcache_handle_arpreq sr heap now fuel r.addr t = (.returned (), t')) :
    Sweeping sr now s gone t' := by
  obtain ⟨ht', hev⟩ := handle_arpreq_evolves h.wellFormed hrun
  refine ⟨ht', h.evolves.trans hs hev, fun z => ?_, fun x y hw => h.waiting x y ?_⟩
  · rw [h.gone_iff]
    refine and_congr_right fun _ => not_congr ?_
    exact ⟨handle_keeps h.wellFormed hr hexp hrun, hev.expiredFor_old⟩
  · exact handle_waiting h.wellFormed hr hrun hw

/-- What is reached through requests that are left was there, and is gone with the first. -/
theorem path_gone (h : Sweeping sr now s gone t) (hs : WellFormed s) {v : RouterState}
    {start : uint32_t → Prop} (hdis : Discards sr now t v start) {y z : uint32_t}
    (hy : ExpiredFor now t y ∧ ¬ ExpiredFor now v y)
    (hpath : ReflTransGen (fun a b => NestedCall sr now s a b ∧ ¬ gone b) y z) :
    ExpiredFor now t z ∧ ¬ ExpiredFor now v z := by
  induction hpath with
  | refl => exact hy
  | tail _ hbc ih =>
    have hct := h.expiredFor hbc.1.target hbc.2
    exact ⟨hct, hdis.closed _ _ ih.1 ih.2 (h.evolves.nested_new hs ih.1 hct hbc.1)⟩

/-- Handling an expired request destroys exactly what `after_handling` says. -/
theorem gone_iff_after_handling (h : Sweeping sr now s gone t) (hs : WellFormed s)
    {r : SrArpreq} (hr : r ∈ t.reqs) (hexp : Expired now r) (hdone : Discarded sr now t r t')
    (hev : Evolves sr now t t') (z : uint32_t) :
    after_handling sr now s gone r.ip z ↔ Gone now s t' z := by
  obtain ⟨v, hv, htv, hdis, hlive, rfl⟩ := hdone.loop
  have hdestroy : ∀ z, ExpiredFor now (v.destroyReq r.addr) z ↔ ExpiredFor now v z ∧ z ≠ r.ip :=
    fun z => htv.expiredFor_destroyReq hv hr hlive
  constructor
  · intro hz
    -- gone before, the request itself, or reached through a nested call
    rcases hz with hz | rfl | ⟨y, hcall, hleft, hpath⟩
    · obtain ⟨hzs, hzt⟩ := (h.gone_iff z).mp hz
      exact ⟨hzs, fun hz' => hzt (hev.expiredFor_old hz')⟩
    · exact ⟨h.evolves.expiredFor_old ⟨r, hr, rfl, hexp⟩, fun hz' => ((hdestroy _).mp hz').2 rfl⟩
    · have hyt : ExpiredFor now t y := h.expiredFor hcall.2.expired hleft
      have hy : ExpiredFor now t y ∧ ¬ ExpiredFor now v y := by
        refine hdis.gone y ⟨?_, h.evolves.chased_new hcall.2 hyt⟩
        exact h.evolves.waiting_new hs hcall.1 ⟨r, hr, rfl, hexp⟩
      obtain ⟨hzt, hzv⟩ := h.path_gone hs hdis hy hpath
      exact ⟨h.evolves.expiredFor_old hzt, fun hz' => hzv ((hdestroy z).mp hz').1⟩
  · intro hz
    obtain ⟨hzs, hz'⟩ := hz
    by_cases hzt : ExpiredFor now t z
    · by_cases hzr : z = r.ip
      · exact .inr (.inl hzr)
      · -- `z` went in the loop, so some call of the loop reached it
        have hzv : ¬ ExpiredFor now v z := fun hzv => hz' ((hdestroy z).mpr ⟨hzv, hzr⟩)
        obtain ⟨y, hcall, hpath⟩ := hdis.reached z hzt hzv
        refine .inr (.inr ⟨y, ⟨h.waiting _ _ hcall.1, h.evolves.chased_old hcall.2⟩,
          h.not_gone hcall.2.expired, ReflTransGen.mono (fun a b hab => ?_) _ _ hpath⟩)
        exact ⟨h.evolves.nested_old hab, h.not_gone hab.target⟩
    · exact .inl ((h.gone_iff z).mpr ⟨hzs, hzt⟩)

theorem handle_gone (h : Sweeping sr now s gone t) (hs : WellFormed s) {fuel : Nat}
    {r : SrArpreq} (hr : r ∈ t.reqs) (hexp : Expired now r)
    (hrun : sr_arpcache_handle_arpreq sr heap now fuel r.addr t = (.returned (), t')) :
    Sweeping sr now s (after_handling sr now s gone r.ip) t' := by
  obtain ⟨ht', hev⟩ := handle_arpreq_evolves h.wellFormed hrun
  have hdone := handle_discards h.wellFormed hr hexp hrun
  exact
    { wellFormed := ht'
      evolves := h.evolves.trans hs hev
      gone_iff := h.gone_iff_after_handling hs hr hexp hdone hev
      waiting := fun x y hw => h.waiting x y (handle_waiting h.wellFormed hr hrun hw) }

/-- A request of the start that is not there any more is gone. -/
theorem gone_of_dead (h : Sweeping sr now s gone t) (hs : WellFormed s) {r : SrArpreq}
    (hr : r ∈ s.reqs) (hdead : ¬ (t.reqAt r.addr).isSome) : gone r.ip := by
  have hexp : Expired now r := by
    refine Classical.byContradiction fun hne => hdead ?_
    exact reqAt_isSome.mpr (h.evolves.kept r hr hne)
  refine (h.gone_iff _).mpr ⟨⟨r, hr, rfl, hexp⟩, fun hx => hdead ?_⟩
  exact h.evolves.live_of_expiredFor hs hr hx

/-- A request of the start that is still there is not gone. -/
theorem not_gone_of_live (h : Sweeping sr now s gone t) (hs : WellFormed s) {r : SrArpreq}
    (hr : r ∈ s.reqs) (hlive : (t.reqAt r.addr).isSome) : ¬ gone r.ip := by
  intro hg
  obtain ⟨hexp, hdead⟩ := (h.gone_iff _).mp hg
  exact hdead (h.evolves.expiredFor_of_live hr (expired_of_expiredFor hs hr hexp) hlive)

end Sweeping

/-! ### The saved successor -/

theorem mem_addrs {req : Nat} : req ∈ t.addrs ↔ (t.reqAt req).isSome := by
  rw [reqAt_isSome]
  exact List.mem_map

/-- The queue is what is left of the old one, followed by new requests. -/
theorem Evolves.addrs_eq (h : Evolves sr now s t) (hs : WellFormed s) :
    ∃ new, t.addrs = s.addrs.filter (fun a => (t.reqAt a).isSome) ++ new ∧ ∀ a ∈ new, s.brk ≤ a := by
  obtain ⟨kept, new, haddrs, hsub, hnew⟩ := h.order
  refine ⟨new, ?_, hnew⟩
  have hmem : ∀ a, a ∈ kept ↔ a ∈ s.addrs ∧ (t.reqAt a).isSome := by
    intro a
    rw [← mem_addrs, haddrs, List.mem_append]
    refine ⟨fun ha => ⟨hsub.subset ha, .inl ha⟩, fun ⟨ha, hat⟩ => hat.resolve_right fun hn => ?_⟩
    obtain ⟨r, hr, rfl⟩ := List.mem_map.mp ha
    exact absurd (hnew _ hn) (by have := hs.lt_brk hr; omega)
  have hkept : kept.filter (fun a => (t.reqAt a).isSome) = kept :=
    List.filter_eq_self.mpr fun a ha => ((hmem a).mp ha).2
  have hsub' : kept.Sublist (s.addrs.filter fun a => (t.reqAt a).isSome) :=
    hkept ▸ hsub.filter _
  have hperm : kept.Perm (s.addrs.filter fun a => (t.reqAt a).isSome) := by
    apply (List.perm_ext_iff_of_nodup (hsub.nodup hs.addrs_nodup) (hs.addrs_nodup.filter _)).mpr
    intro a
    rw [hmem, List.mem_filter]
  rw [haddrs, hsub'.eq_of_length hperm.length_eq]

theorem next_request_eq (requests : List SrArpreq) (req : Nat) :
    next_request requests req =
      (((requests.map (·.addr)).dropWhile fun a => a ≠ req).drop 1).head? := by
  rw [next_request, ← List.head?_map, List.map_drop, List.dropWhile_map]
  rfl

/-- `next` is the first request of `rest` that is left, or one queued since. -/
structure PointsAt (s t : RouterState) (rest : List SrArpreq) (next : Option Nat) : Prop where
  live : ∀ a, next = some a → (t.reqAt a).isSome
  next : (∃ mid y post, rest = mid ++ y :: post ∧ (∀ m ∈ mid, ¬ (t.reqAt m.addr).isSome) ∧
      next = some y.addr) ∨
    ((∀ m ∈ rest, ¬ (t.reqAt m.addr).isSome) ∧ ∀ a, next = some a → s.brk ≤ a)

/-- At the start, `next` is the head of the queue. -/
theorem PointsAt.start (s : RouterState) : PointsAt s s s.reqs (s.reqs.head?.map (·.addr)) := by
  cases hreqs : s.reqs with
  | nil => exact ⟨by simp, .inr ⟨by simp, by simp⟩⟩
  | cons r rest =>
    refine ⟨fun a ha => ?_, .inl ⟨[], r, rest, rfl, by simp, rfl⟩⟩
    obtain rfl : r.addr = a := by simpa using ha
    exact reqAt_isSome.mpr ⟨r, by simp [hreqs], rfl⟩

/-- Behind a request of the start that is left come those of `rest` that are left, then
    the new ones. -/
theorem Evolves.addrs_split (h : Evolves sr now s t) (hs : WellFormed s)
    {pre rest : List SrArpreq} {x : SrArpreq} (hreqs : s.reqs = pre ++ x :: rest)
    (hlive : (t.reqAt x.addr).isSome) :
    ∃ before new, t.addrs = before ++ x.addr ::
        ((rest.map (·.addr)).filter (fun a => (t.reqAt a).isSome) ++ new) ∧
      (∀ a ∈ before, a ≠ x.addr) ∧ ∀ a ∈ new, s.brk ≤ a := by
  obtain ⟨new, haddrs, hnew⟩ := h.addrs_eq hs
  have hnd := hs.addrs_nodup
  rw [addrs, hreqs, List.map_append, List.map_cons] at hnd
  refine ⟨(pre.map (·.addr)).filter fun a => (t.reqAt a).isSome, new, ?_, ?_, hnew⟩
  · rw [haddrs, addrs, hreqs, List.map_append, List.map_cons, List.filter_append,
      List.filter_cons_of_pos (p := fun a => (t.reqAt a).isSome) hlive, List.append_assoc]
    rfl
  · intro a ha
    exact (List.nodup_append.mp hnd).2.2 a (List.mem_of_mem_filter ha) x.addr (by simp)

/-- The successor of a request of the start. -/
theorem Evolves.next_old (h : Evolves sr now s t) (hs : WellFormed s) {pre rest : List SrArpreq}
    {x : SrArpreq} (hreqs : s.reqs = pre ++ x :: rest) (hlive : (t.reqAt x.addr).isSome) :
    PointsAt s t rest (next_request t.reqs x.addr) := by
  obtain ⟨before, new, hsplit, hbefore, hnew⟩ := h.addrs_split hs hreqs hlive
  have hnext : next_request t.reqs x.addr =
      ((rest.map (·.addr)).filter (fun a => (t.reqAt a).isSome) ++ new).head? := by
    rw [next_request_eq, show t.reqs.map (·.addr) = t.addrs from rfl, hsplit,
      List.dropWhile_append_of_pos (by simpa using hbefore)]
    simp
  refine ⟨fun a ha => ?_, ?_⟩
  · rw [hnext] at ha
    rw [← mem_addrs, hsplit]
    exact List.mem_append_right _ (List.mem_cons_of_mem _ (List.mem_of_head? ha))
  · rw [hnext, List.head?_append, List.head?_filter, List.find?_map]
    cases hfind : rest.find? (fun m => (t.reqAt m.addr).isSome) with
    | some y =>
      obtain ⟨-, mid, post, hrest, hmid⟩ := List.find?_eq_some_iff_append.mp hfind
      refine .inl ⟨mid, y, post, hrest, fun m hm => by simpa using hmid m hm, ?_⟩
      simp only [Function.comp_def, hfind, Option.map_some, Option.some_or]
    | none =>
      refine .inr ⟨fun m hm => by simpa using List.find?_eq_none.mp hfind m hm, fun a ha => ?_⟩
      simp only [Function.comp_def, hfind, Option.map_none, Option.none_or] at ha
      exact hnew a (List.mem_of_head? ha)

/-- The successor of a request queued since the start. -/
theorem Evolves.next_new (h : Evolves sr now s t) (hs : WellFormed s) {rest : List SrArpreq}
    {x : Nat} (hrest : ∀ m ∈ rest, ¬ (t.reqAt m.addr).isSome) (hx : s.brk ≤ x) :
    PointsAt s t rest (next_request t.reqs x) := by
  obtain ⟨new, haddrs, hnew⟩ := h.addrs_eq hs
  have hold : ∀ a ∈ s.addrs.filter (fun a => (t.reqAt a).isSome), decide (a ≠ x) = true := by
    intro a ha
    obtain ⟨r, hr, rfl⟩ := List.mem_map.mp (List.mem_of_mem_filter ha)
    have := hs.lt_brk hr
    exact decide_eq_true (by omega)
  have hmem : ∀ a, next_request t.reqs x = some a → a ∈ new := by
    intro a ha
    rw [next_request_eq, show t.reqs.map (·.addr) = t.addrs from rfl, haddrs,
      List.dropWhile_append_of_pos hold] at ha
    exact (List.dropWhile_sublist _).subset (List.mem_of_mem_drop (List.mem_of_head? ha))
  refine ⟨fun a ha => ?_, .inr ⟨hrest, fun a ha => hnew a (hmem a ha)⟩⟩
  rw [← mem_addrs, haddrs]
  exact List.mem_append_right _ (hmem a ha)

/-- The saved successor is still the right one, if it is still there. -/
theorem PointsAt.later {rest : List SrArpreq} {next : Option Nat} (h : PointsAt s t rest next)
    (hst : Evolves sr now s t) (hev : Evolves sr now t t') (hs : WellFormed s)
    (hrest : ∀ m ∈ rest, m ∈ s.reqs) (hlive : ∀ a, next = some a → (t'.reqAt a).isSome) :
    PointsAt s t' rest next := by
  have hold : ∀ m ∈ rest, m.addr < t.brk :=
    fun m hm => Nat.lt_of_lt_of_le (hs.lt_brk (hrest m hm)) hst.brk_le
  refine ⟨hlive, ?_⟩
  rcases h.next with ⟨mid, y, post, rfl, hmid, hnext⟩ | ⟨hdead, hnew⟩
  · exact .inl ⟨mid, y, post, rfl, fun m hm => hev.dead (hold m (by simp [hm])) (hmid m hm), hnext⟩
  · exact .inr ⟨fun m hm => hev.dead (hold m hm) (hdead m hm), hnew⟩

/-! ### Safe sweeps -/

/-- No expired request of the list, handled when its turn comes, takes the next
    request that is left with it; `gone` were gone before. -/
def SweepSafeFrom (sr : SrInstance) (now : time_t) (s : RouterState) :
    (uint32_t → Prop) → List SrArpreq → Prop
  | _, [] => True
  | gone, x :: rest =>
    (gone x.ip ∨ ¬ Expired now x → SweepSafeFrom sr now s gone rest) ∧
      (¬ gone x.ip → Expired now x →
        (∀ mid y post, rest = mid ++ y :: post → (∀ m ∈ mid, gone m.ip) → ¬ gone y.ip →
          ¬ after_handling sr now s gone x.ip y.ip) ∧
        SweepSafeFrom sr now s (after_handling sr now s gone x.ip) rest)

/-- No expired request, when the sweep comes to it, takes its successor with it. -/
def SweepSafe (sr : SrInstance) (now : time_t) (s : RouterState) : Prop :=
  SweepSafeFrom sr now s (fun _ => False) s.reqs

theorem sweepSafeFrom_skip {gone : uint32_t → Prop} {mid rest : List SrArpreq}
    (hmid : ∀ m ∈ mid, gone m.ip) :
    SweepSafeFrom sr now s gone (mid ++ rest) ↔ SweepSafeFrom sr now s gone rest := by
  induction mid with
  | nil => exact Iff.rfl
  | cons m mid ih =>
    have hm := hmid m (by simp)
    rw [← ih fun m hm => hmid m (by simp [hm])]
    exact ⟨fun h => h.1 (.inl hm), fun h => ⟨fun _ => h, fun hn => absurd hm hn⟩⟩

theorem sweepSafeFrom_gone {gone : uint32_t → Prop} {rest : List SrArpreq}
    (hrest : ∀ m ∈ rest, gone m.ip) : SweepSafeFrom sr now s gone rest := by
  rw [← List.append_nil rest]
  exact (sweepSafeFrom_skip hrest).mpr trivial

/-- One turn of a sweep, from `t` to `u`: it handled a request `x` of the start, expired
    or not, or one that was queued since and has not expired. -/
inductive Turn (sr : SrInstance) (now : time_t) (s : RouterState) (gone : uint32_t → Prop)
    (t : RouterState) (rest : List SrArpreq) (a : Nat) (u : RouterState) : Prop where
  | expired {mid : List SrArpreq} {x : SrArpreq} {post : List SrArpreq}
      (hrest : rest = mid ++ x :: post) (hmid : ∀ m ∈ mid, gone m.ip) (hx : ¬ gone x.ip)
      (hexp : Expired now x) (hpoints : PointsAt s t post (next_request t.reqs a))
      (hu : Sweeping sr now s (after_handling sr now s gone x.ip) u)
  | other {mid : List SrArpreq} {x : SrArpreq} {post : List SrArpreq}
      (hrest : rest = mid ++ x :: post) (hmid : ∀ m ∈ mid, gone m.ip)
      (hexp : ¬ Expired now x) (hpoints : PointsAt s t post (next_request t.reqs a))
      (hu : Sweeping sr now s gone u)
  | later (hgone : ∀ m ∈ rest, gone m.ip) (hpoints : PointsAt s t [] (next_request t.reqs a))
      (hu : Sweeping sr now s gone u)

theorem Sweeping.turn {gone : uint32_t → Prop} {pre rest : List SrArpreq} {a fuel : Nat}
    (h : Sweeping sr now s gone t) (hs : WellFormed s) (hreqs : s.reqs = pre ++ rest)
    (hnext : PointsAt s t rest (some a))
    (hrun : sr_arpcache_handle_arpreq sr heap now fuel a t = (.returned (), t')) :
    Turn sr now s gone t rest a t' := by
  obtain ⟨r, hr, rfl⟩ := reqAt_isSome.mp (hnext.live a rfl)
  rcases hnext.next with ⟨mid, x, post, rfl, hmid, hx⟩ | ⟨hdead, hnew⟩
  · have haddr : r.addr = x.addr := by simpa using hx
    have hxs : x ∈ s.reqs := by simp [hreqs]
    have hlive : (t.reqAt x.addr).isSome := haddr ▸ hnext.live _ rfl
    have hsame := h.evolves.same x hxs r hr haddr
    have hmid' : ∀ m ∈ mid, gone m.ip := fun m hm =>
      h.gone_of_dead hs (by simp [hreqs, hm]) (hmid m hm)
    have hreqs' : s.reqs = (pre ++ mid) ++ x :: post := by simp [hreqs]
    have hpoints : PointsAt s t post (next_request t.reqs r.addr) :=
      haddr ▸ h.evolves.next_old hs hreqs' hlive
    by_cases hexp : Expired now x
    · have hu := h.handle_gone hs hr (hsame.expired.mpr hexp) hrun
      rw [hsame.ip] at hu
      exact .expired rfl hmid' (h.not_gone_of_live hs hxs hlive) hexp hpoints hu
    · have hu := h.handle_other hs hr (fun hr => hexp (hsame.expired.mp hr)) hrun
      exact .other rfl hmid' hexp hpoints hu
  · -- requests that were queued since come after those of the start
    have hbrk := hnew r.addr rfl
    have hu := h.handle_other hs hr (h.evolves.new r hr hbrk) hrun
    refine .later (fun m hm => ?_) (h.evolves.next_new hs (by simp) hbrk) hu
    exact h.gone_of_dead hs (by simp [hreqs, hm]) (hdead m hm)

/-- The saved successor is still there, if it is not among what is gone now. -/
theorem Sweeping.next_live {gone gone' : uint32_t → Prop} {rest : List SrArpreq}
    {next : Option Nat} (h : Sweeping sr now s gone t) (h' : Sweeping sr now s gone' t')
    (hs : WellFormed s) (hev : Evolves sr now t t') (hrest : ∀ m ∈ rest, m ∈ s.reqs)
    (hnext : PointsAt s t rest next)
    (hsafe : ∀ mid y post, rest = mid ++ y :: post → (∀ m ∈ mid, gone m.ip) → ¬ gone y.ip →
      ¬ gone' y.ip) : ∀ a, next = some a → (t'.reqAt a).isSome := by
  intro a ha
  have hlive := hnext.live a ha
  obtain ⟨r, hr, rfl⟩ := reqAt_isSome.mp hlive
  rcases hnext.next with ⟨mid, y, post, rfl, hmid, hy⟩ | ⟨-, hnew⟩
  · have haddr : y.addr = r.addr := by simpa [ha] using hy.symm
    have hys : y ∈ s.reqs := hrest y (by simp)
    apply Classical.byContradiction
    intro hdead
    rw [← haddr] at hdead hlive
    exact hsafe mid y post rfl
      (fun m hm => h.gone_of_dead hs (hrest m (by simp [hm])) (hmid m hm))
      (h.not_gone_of_live hs hys hlive) (h'.gone_of_dead hs hys hdead)
  · exact reqAt_isSome.mpr (hev.kept r hr (h.evolves.new r hr (hnew _ ha)))

/-- The saved successor is the first request that is not gone. -/
theorem Sweeping.next_eq {gone : uint32_t → Prop} {mid post : List SrArpreq} {y : SrArpreq}
    {next : Option Nat} (h : Sweeping sr now s gone t) (hs : WellFormed s)
    (hrest : ∀ m ∈ mid ++ y :: post, m ∈ s.reqs) (hmid : ∀ m ∈ mid, gone m.ip) (hy : ¬ gone y.ip)
    (hnext : PointsAt s t (mid ++ y :: post) next) : next = some y.addr := by
  have hlive : (t.reqAt y.addr).isSome :=
    Classical.byContradiction fun hdead => hy (h.gone_of_dead hs (hrest y (by simp)) hdead)
  have hdead : ∀ m ∈ mid, ¬ (t.reqAt m.addr).isSome := fun m hm hlive =>
    h.not_gone_of_live hs (hrest m (by simp [hm])) hlive (hmid m hm)
  rcases hnext.next with ⟨mid', y', post', heq, hmid', hnext'⟩ | ⟨hall, -⟩
  · have hlive' := hnext.live _ hnext'
    have hfind : ∀ {m : List SrArpreq} {z p}, mid ++ y :: post = m ++ z :: p →
        (∀ x ∈ m, ¬ (t.reqAt x.addr).isSome) → (t.reqAt z.addr).isSome →
        (mid ++ y :: post).find? (fun x => (t.reqAt x.addr).isSome) = some z :=
      fun heq hm hz => List.find?_eq_some_iff_append.mpr ⟨hz, _, _, heq, by simpa using hm⟩
    have hsome := (hfind rfl hdead hlive).symm.trans (hfind heq hmid' hlive')
    rw [Option.some.inj hsome, hnext']
  · exact absurd hlive (hall y (by simp))

theorem sweep_from_live {fuel a : Nat} (h : (t.reqAt a).isSome) :
    sweep_from sr heap now (fuel + 1) (some a) t =
      (sr_arpcache_handle_arpreq sr heap now fuel a >>= fun _ =>
        sweep_from sr heap now fuel (next_request t.reqs a)) t := by
  rw [sweep_from, Prog.read_bind, if_pos h]

/-- What comes after `x` in the sweep. -/
theorem rest_after {pre mid post : List SrArpreq} {x : SrArpreq}
    (hreqs : s.reqs = pre ++ (mid ++ x :: post)) :
    s.reqs = (pre ++ mid ++ [x]) ++ post ∧ ∀ m ∈ post, m ∈ s.reqs :=
  ⟨by simp [hreqs], fun m hm => by simp [hreqs, hm]⟩

/-- **A safe sweep never uses a request that was destroyed.** -/
theorem sweep_from_never_stale {fuel : Nat} {gone : uint32_t → Prop} {pre rest : List SrArpreq}
    {next : Option Nat} {f : Fault} (hs : WellFormed s) (hreqs : s.reqs = pre ++ rest)
    (h : Sweeping sr now s gone t) (hsafe : SweepSafeFrom sr now s gone rest)
    (hnext : PointsAt s t rest next)
    (hrun : sweep_from sr heap now fuel next t = (.fault f, t')) : ¬ StaleRequest f := by
  -- on the fuel: each turn leaves a shorter rest, what is gone now, and a live successor
  induction fuel generalizing gone pre rest next t with
  | zero => cases next <;> simp [sweep_from] at hrun
  | succ fuel ih =>
    cases next with
    | none => simp [sweep_from] at hrun
    | some a =>
      rw [sweep_from_live (hnext.live a rfl)] at hrun
      rcases Prog.bind_eq_fault.mp hrun with hhandle | ⟨⟨⟩, u, hhandle, hlater⟩
      · obtain ⟨r, hr, rfl⟩ := reqAt_isSome.mp (hnext.live a rfl)
        exact handle_never_freed h.wellFormed hr hhandle
      have hev := (handle_arpreq_evolves h.wellFormed hhandle).2
      cases h.turn hs hreqs hnext hhandle with
      | @expired mid x post hrest hmid hx hexp hpoints hu =>
        subst hrest
        obtain ⟨hreqs', hpost⟩ := rest_after hreqs
        obtain ⟨hsucc, hsafe'⟩ := ((sweepSafeFrom_skip hmid).mp hsafe).2 hx hexp
        have hlive := h.next_live hu hs hev hpost hpoints hsucc
        exact ih hreqs' hu hsafe' (hpoints.later h.evolves hev hs hpost hlive) hlater
      | @other mid x post hrest hmid hexp hpoints hu =>
        subst hrest
        obtain ⟨hreqs', hpost⟩ := rest_after hreqs
        have hsafe' := ((sweepSafeFrom_skip hmid).mp hsafe).1 (.inr hexp)
        have hlive := h.next_live hu hs hev hpost hpoints fun _ _ _ _ _ hy => hy
        exact ih hreqs' hu hsafe' (hpoints.later h.evolves hev hs hpost hlive) hlater
      | later _ hpoints hu =>
        have hlive := h.next_live hu hs hev (by simp) hpoints fun _ _ _ _ _ hy => hy
        exact ih (List.append_nil _).symm hu trivial
          (hpoints.later h.evolves hev hs (by simp) hlive) hlater

theorem sweep_from_next_live {fuel : Nat} {next : Option Nat}
    (hrun : sweep_from sr heap now fuel next t = (.returned (), t')) :
    ∀ a, next = some a → (t.reqAt a).isSome := by
  rintro a rfl
  cases fuel with
  | zero => simp [sweep_from] at hrun
  | succ fuel =>
    apply Classical.byContradiction
    intro hdead
    rw [sweep_from, Prog.read_bind, if_neg hdead] at hrun
    simp at hrun

theorem Sweeping.safe_of_none {gone : uint32_t → Prop} {pre rest : List SrArpreq}
    (h : Sweeping sr now s gone t) (hs : WellFormed s) (hreqs : s.reqs = pre ++ rest)
    (hnext : PointsAt s t rest none) : SweepSafeFrom sr now s gone rest := by
  apply sweepSafeFrom_gone
  intro m hm
  apply h.gone_of_dead hs (by simp [hreqs, hm])
  exact (hnext.next.resolve_left (by simp)).1 m hm

/-- **A sweep that came to its end was safe.** -/
theorem sweep_from_returned {fuel : Nat} {gone : uint32_t → Prop} {pre rest : List SrArpreq}
    {next : Option Nat} (hs : WellFormed s) (hreqs : s.reqs = pre ++ rest)
    (h : Sweeping sr now s gone t) (hnext : PointsAt s t rest next)
    (hrun : sweep_from sr heap now fuel next t = (.returned (), t')) :
    SweepSafeFrom sr now s gone rest := by
  -- on the fuel, as before; now the successor is live because the sweep went on
  induction fuel generalizing gone pre rest next t with
  | zero =>
    cases next with
    | none => exact h.safe_of_none hs hreqs hnext
    | some a => simp [sweep_from] at hrun
  | succ fuel ih =>
    cases next with
    | none => exact h.safe_of_none hs hreqs hnext
    | some a =>
      rw [sweep_from_live (hnext.live a rfl)] at hrun
      obtain ⟨⟨⟩, u, hhandle, hlater⟩ := Prog.bind_eq_returned.mp hrun
      have hev := (handle_arpreq_evolves h.wellFormed hhandle).2
      have hlive := sweep_from_next_live hlater
      cases h.turn hs hreqs hnext hhandle with
      | @expired mid x post hrest hmid hx hexp hpoints hu =>
        subst hrest
        obtain ⟨hreqs', hpost⟩ := rest_after hreqs
        have hpoints' := hpoints.later h.evolves hev hs hpost hlive
        rw [sweepSafeFrom_skip hmid]
        refine ⟨fun hor => (hor.elim hx fun hn => hn hexp).elim, fun _ _ => ⟨?_, ?_⟩⟩
        · -- the next that is left is the saved one, and the sweep found it there
          rintro mid' y post' rfl hmid' hy
          have hnext' := h.next_eq hs hpost hmid' hy hpoints
          exact hu.not_gone_of_live hs (hpost y (by simp)) (hlive _ hnext')
        · exact ih hreqs' hu hpoints' hlater
      | @other mid x post hrest hmid hexp hpoints hu =>
        subst hrest
        obtain ⟨hreqs', hpost⟩ := rest_after hreqs
        have hpoints' := hpoints.later h.evolves hev hs hpost hlive
        rw [sweepSafeFrom_skip hmid]
        exact ⟨fun _ => ih hreqs' hu hpoints' hlater, fun _ hn => absurd hn hexp⟩
      | later hgone => exact sweepSafeFrom_gone hgone

/-- A sweep is over: it came to its end, or to a request that was not there any more. -/
def SweepOver (o : Outcome Fault Unit) : Prop :=
  o = .returned () ∨ ∃ f, StaleRequest f ∧ o = .fault f

/-- **Exactly the safe sweeps handle live requests only**, in every reachable
    state and at every time at which the calls of the sweep come back. -/
theorem sweep_stale_free_iff (hs : Reachable sr heap System.always s) {now : time_t}
    (hover : ∃ fuel, SweepOver (sr_arpcache_sweepreqs sr heap now fuel s).1) :
    (∀ fuel f, StaleRequest f → (sr_arpcache_sweepreqs sr heap now fuel s).1 ≠ .fault f) ↔
      SweepSafe sr now s := by
  have hwf := Reachable.wellFormed hs
  have hsweep : ∀ fuel, sr_arpcache_sweepreqs sr heap now fuel s =
      sweep_from sr heap now fuel (s.reqs.head?.map (·.addr)) s := fun _ => rfl
  constructor
  · intro hfree
    obtain ⟨fuel, hret | ⟨f, hf, hfault⟩⟩ := hover
    · exact sweep_from_returned hwf (List.nil_append _).symm (Sweeping.start hwf)
        (PointsAt.start s) (Prod.ext hret rfl)
    · exact absurd hfault (hfree fuel f hf)
  · intro hsafe fuel f hf hfault
    exact sweep_from_never_stale hwf (List.nil_append _).symm (Sweeping.start hwf) hsafe
      (PointsAt.start s) (Prod.ext hfault rfl) hf

namespace Sample

/-- Discarding the frame from 172.64.3.9 destroys the request for it, which is the
    successor that the sweep has saved. -/
theorem to_each_other_stale : Reachable net mem System.always (run 20 to_each_other).2 ∧
    (sr_arpcache_sweepreqs net mem 20 20 (run 20 to_each_other).2).1 = .fault .freed_request :=
  ⟨run_reachable (by decide +kernel), by decide +kernel⟩

/-- The same packets, the other one first. -/
def from_each_other : List Label :=
  [.packet 10 (ip_frame (inet_addr 8 8 8 8) away 64 17 []) (eth 3),
    .packet 10 (ip_frame away lost 64 17 []) (eth 2),
    .sweep 12, .sweep 14, .sweep 16, .sweep 18]

/-- Where the request that is reached from the other comes first, only it goes with its turn. -/
theorem BothLost.safe {s : RouterState} (h : BothLost s) (hexp : ∀ r ∈ s.reqs, Expired now r)
    (hips : s.reqs.map (·.ip) = [away, lost]) : SweepSafe net now s := by
  have hother : lost ≠ away := by decide
  have hgone : ∀ z, after_handling net now s (fun _ => False) away z → z = away := by
    rintro z (hz | hz | ⟨y, hy, -⟩)
    · exact hz.elim
    · exact hz
    · exact absurd (h.call hy.nested).1 hother.symm
  obtain ⟨r, r', hreqs⟩ : ∃ r r', s.reqs = [r, r'] :=
    List.length_eq_two.mp (by simpa using congrArg List.length hips)
  rw [hreqs] at hips hexp
  obtain ⟨haway, hlost⟩ : r.ip = away ∧ r'.ip = lost := by simpa using hips
  rw [SweepSafe, hreqs]
  refine ⟨fun hkept => absurd (hexp r (by simp)) (by simpa using hkept), fun _ _ => ⟨?_, ?_⟩⟩
  · intro mid y post hrest _ _ hy
    have hmem : y ∈ [r'] := hrest ▸ by simp
    rw [List.mem_singleton.mp hmem, hlost, haway] at hy
    exact hother (hgone _ hy)
  · exact ⟨fun _ => trivial, fun _ _ => ⟨by simp, trivial⟩⟩

theorem from_each_other_pending : ∃ s, Reachable net mem System.always s ∧ BothLost s ∧
    s.reqs.map (·.ip) = [away, lost] ∧ (∀ r ∈ s.reqs, Expired 20 r) ∧
    OuterCall net 20 s lost away ∧ SweepOver (sr_arpcache_sweepreqs net mem 20 20 s).1 :=
  ⟨(run 20 from_each_other).2, run_reachable (by decide +kernel),
    ⟨by decide +kernel, by decide +kernel⟩, by decide +kernel, by decide +kernel,
    by decide +kernel, .inl (by decide +kernel)⟩

/-- Both have expired, and the sweep handles each while it is there. -/
theorem from_each_other_safe : ∃ s, Reachable net mem System.always s ∧
    (∀ r ∈ s.reqs, Expired 20 r) ∧ OuterCall net 20 s lost away ∧
      ∀ fuel f, StaleRequest f → (sr_arpcache_sweepreqs net mem 20 fuel s).1 ≠ .fault f := by
  obtain ⟨s, hs, hboth, hips, hexp, hcall, hover⟩ := from_each_other_pending
  exact ⟨s, hs, hexp, hcall, (sweep_stale_free_iff hs ⟨20, hover⟩).mpr (hboth.safe hexp hips)⟩

end Sample

end SimpleRouter
