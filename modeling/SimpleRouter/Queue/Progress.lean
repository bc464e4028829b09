import SimpleRouter.Framework.Rounds
import SimpleRouter.Queue.Sweep
import SimpleRouter.Safety.Interleaving

/-! # No request waits for ever

    A request is due when more than a second has passed since it was last asked
    for. A pass of the timeout thread goes through the queue while the calls it
    makes destroy requests and append others; when it returns, none is due.

    * `handle_settles`: a call that returns leaves its request not due.
    * `sweep_from_settles`: nothing behind the sweep is due.
    * `settled_after_six_passes`: six passes, more than a second apart, settle
      whatever was waiting before the first one.
-/

namespace SimpleRouter

open Framework Framework.Prog RouterState Relation

variable {sr : SrInstance} {heap : Heap} {now : time_t} {s t u : RouterState}

/-! ### What is due -/

/-- The request at `req` is to be asked for again, or given up. -/
def Due (now : time_t) (s : RouterState) (req : Nat) : Prop :=
  ∃ r ∈ s.reqs, r.addr = req ∧ now - r.sent > 1

theorem Due.live {req : Nat} (h : Due now s req) : (s.reqAt req).isSome := by
  obtain ⟨r, hr, haddr, -⟩ := h
  exact reqAt_isSome.mpr ⟨r, hr, haddr⟩

/-- What is due in `t` was due in `s`. -/
structure DueSince (now : time_t) (s t : RouterState) : Prop where
  wellFormed : WellFormed t
  due : ∀ req, Due now t req → Due now s req

theorem DueSince.of_same_reqs (ht : WellFormed t) (hreqs : t.reqs = s.reqs) :
    DueSince now s t := by
  refine ⟨ht, fun req h => ?_⟩
  unfold Due at h ⊢
  rwa [hreqs] at h

theorem DueSince.trans (h : DueSince now s t) (h' : DueSince now t u) : DueSince now s u :=
  ⟨h'.wellFormed, fun req hu => h.due req (h'.due req hu)⟩

/-- Storing a frame leaves the times of the requests alone, but it may append a request. -/
theorem times_queuePacket {msg : Message} {ip : uint32_t} {buf : RawFrame} {iface : IfName}
    {r' : SrArpreq} (hr' : r' ∈ (s.queuePacket msg ip buf iface).reqs) :
    (∃ r ∈ s.reqs, r.addr = r'.addr ∧ r.sent = r'.sent) ∨ r'.addr = s.queueTarget ip := by
  obtain ⟨r, hr, rfl⟩ := mem_updateReq.mp hr'
  by_cases haddr : r.addr = s.queueTarget ip
  · rw [if_pos haddr]
    exact .inr haddr
  rw [if_neg haddr]
  refine .inl ⟨r, ?_, rfl, rfl⟩
  unfold RouterState.queueReady at hr
  unfold RouterState.queueTarget at haddr
  split at hr
  · exact hr
  · next hnone =>
    rcases List.mem_append.mp hr with hr | hr
    · exact hr
    · rw [List.mem_singleton.mp hr, hnone] at haddr
      exact absurd rfl haddr

theorem due_queuePacket {msg : Message} {ip : uint32_t} {buf : RawFrame} {iface : IfName}
    {req : Nat} (h : Due now (s.queuePacket msg ip buf iface) req) :
    Due now s req ∨ req = s.queueTarget ip := by
  obtain ⟨r', hr', rfl, hdue⟩ := h
  rcases times_queuePacket hr' with ⟨r, hr, haddr, hsent⟩ | htarget
  · exact .inl ⟨r, hr, haddr, hsent ▸ hdue⟩
  · exact .inr htarget

/-- Asking for a request leaves the others as they are. -/
theorem due_askReq {r : SrArpreq} {req : Nat} (h : Due now (s.askReq now r) req) :
    Due now s req ∧ req ≠ r.addr := by
  obtain ⟨r', hr', rfl, hdue⟩ := h
  obtain ⟨r₀, hr₀, rfl⟩ := mem_updateReq.mp hr'
  by_cases haddr : r₀.addr = r.addr
  · rw [if_pos haddr] at hdue
    simp at hdue
  · rw [if_neg haddr] at hdue ⊢
    exact ⟨⟨r₀, hr₀, rfl, hdue⟩, haddr⟩

/-! ### Handling a request -/

/-- When a call on `req` returns, `req` is not due, and no other request has become due. -/
def Settles (now : time_t) (handle : Nat → Router Unit) : Prop :=
  ∀ req s s', WellFormed s → handle req s = (.returned (), s') →
    DueSince now s s' ∧ ¬ Due now s' req

/-- A frame was stored, and its request was seen to. -/
theorem store_settles {handle : Nat → Router Unit} (ih : Settles now handle) (hs : WellFormed s)
    {msg : Message} {ip : uint32_t} {buf : RawFrame} {iface : IfName}
    (hrun : handle (s.queueTarget ip) (s.queuePacket msg ip buf iface) = (.returned (), t)) :
    DueSince now s t := by
  obtain ⟨hsince, htarget⟩ := ih _ _ _ (hs.queuePacket ..) hrun
  refine ⟨hsince.wellFormed, fun req hdue => ?_⟩
  rcases due_queuePacket (hsince.due req hdue) with hold | rfl
  · exact hold
  · exact absurd hdue htarget

theorem answer_sender_settles {fuel req : Nat} {pck : SrPacket}
    (ih : Settles now (sr_arpcache_handle_arpreq sr heap now fuel)) (hs : WellFormed s)
    (hrun : answer_sender sr heap (sr_arpcache_handle_arpreq sr heap now fuel) req pck s =
      (.returned (), t)) : DueSince now s t := by
  rw [answer_sender_eq] at hrun
  split at hrun
  · obtain rfl := (Prod.mk.inj hrun).2
    exact .of_same_reqs hs.alloc rfl
  · split at hrun
    · simp at hrun
    · split at hrun
      · obtain rfl := (Prod.mk.inj hrun).2
        exact .of_same_reqs (hs.alloc.emit _) rfl
      · have halloc : DueSince now s s.alloc := .of_same_reqs hs.alloc rfl
        exact halloc.trans (store_settles ih hs.alloc hrun)

/-- Only a request that is on the queue can be handled. -/
theorem handle_arpreq_live {fuel req : Nat}
    (hrun : sr_arpcache_handle_arpreq sr heap now (fuel + 1) req s = (.returned (), t)) :
    (s.reqAt req).isSome := by
  by_contra hnone
  rw [handle_arpreq_eq, Option.not_isSome_iff_eq_none.mp hnone] at hrun
  simp at hrun

/-- **A call that returns** leaves its request not due, or gone. -/
theorem handle_settles (fuel : Nat) : Settles now (sr_arpcache_handle_arpreq sr heap now fuel) := by
  -- on the fuel: the calls for the frames of an expired request have less of it
  induction fuel with
  | zero =>
    intro req s s' _ hrun
    simp [sr_arpcache_handle_arpreq] at hrun
  | succ fuel ih =>
    intro req s s' hs hrun
    obtain ⟨r, hr, rfl⟩ := reqAt_isSome.mp (handle_arpreq_live hrun)
    obtain ⟨n, ⟨⟩, hdone⟩ := handle_arpreq_returned hs hr hrun
    cases hdone with
    | idle hdue hs' =>
      subst hs'
      refine ⟨.of_same_reqs hs rfl, ?_⟩
      rintro ⟨r', hr', haddr, hdue'⟩
      rw [hs.addr_inj hr' hr haddr] at hdue'
      exact hdue hdue'
    | asked _ _ hask =>
      obtain ⟨rtentry, ifc, accepted, -, -, rfl⟩ := send_arp_request_returned hask
      have hwf := (hs.askReq now r).emit (.sent (.arp_request r.addr now) (arp_request_frame ifc r.ip)
        ifc.name accepted)
      exact ⟨⟨hwf, fun req hdue => (due_askReq hdue).1⟩, fun hdue => (due_askReq hdue).2 rfl⟩
    | @discarded v _ hloop _ hs' =>
      subst hs'
      -- the answers may append requests, and the nested calls ask for them
      have hv : DueSince now s v :=
        Prog.forEach_returned (I := fun _ v => DueSince now s v) (.of_same_reqs hs rfl)
          (fun _ _ _ _ _ _ hv hbody =>
            hv.trans (answer_sender_settles ih hv.wellFormed (discard_packet_returned hbody).1))
          hloop
      refine ⟨⟨hv.wellFormed.destroyReq _, fun req hdue => ?_⟩, fun hdue => ?_⟩
      · obtain ⟨r', hr', haddr, hdue'⟩ := hdue
        exact hv.due req ⟨r', ((mem_destroyReq hv.wellFormed).mp hr').1, haddr, hdue'⟩
      · obtain ⟨r', hr', haddr, -⟩ := hdue
        exact ((mem_destroyReq hv.wellFormed).mp hr').2 haddr

/-! ### A pass -/

/-- A sweep with no successor has come to the end of the queue. -/
theorem PointsAt.settled {rest : List SrArpreq} (h : PointsAt s t rest none)
    (hahead : ∀ req, Due now t req → ∃ m ∈ rest, m.addr = req) : ∀ req, ¬ Due now t req := by
  intro req hdue
  obtain ⟨m, hm, rfl⟩ := hahead req hdue
  rcases h.next with ⟨_, _, _, _, _, hnone⟩ | ⟨hdead, -⟩
  · cases hnone
  · exact hdead m hm hdue.live

/-- What is left of a sweep settles what is due: all of it is still ahead. -/
theorem sweep_from_settles {fuel : Nat} {pre rest : List SrArpreq} {next : Option Nat}
    (hs : WellFormed s) (ht : WellFormed t) (hev : Evolves sr now s t)
    (hreqs : s.reqs = pre ++ rest) (hnext : PointsAt s t rest next)
    (hahead : ∀ req, Due now t req → ∃ m ∈ rest, m.addr = req)
    (hrun : sweep_from sr heap now fuel next t = (.returned (), u)) : ∀ req, ¬ Due now u req := by
  -- on the fuel: each turn settles a request and leaves a shorter rest
  have hrest : ∀ m ∈ rest, m ∈ s.reqs := fun m hm => by simp [hreqs, hm]
  induction fuel generalizing pre rest next t with
  | zero =>
    cases next with
    | none =>
      rw [sweep_from] at hrun
      obtain rfl := (Prod.mk.inj hrun).2
      exact hnext.settled hahead
    | some a => simp [sweep_from] at hrun
  | succ fuel ih =>
    cases next with
    | none =>
      rw [sweep_from] at hrun
      obtain rfl := (Prod.mk.inj hrun).2
      exact hnext.settled hahead
    | some a =>
      have hlive := hnext.live a rfl
      rw [sweep_from_live hlive] at hrun
      obtain ⟨⟨⟩, v, hhandle, hlater⟩ := Prog.bind_eq_returned.mp hrun
      obtain ⟨hv, hev'⟩ := handle_arpreq_evolves ht hhandle
      obtain ⟨hsince, hdone⟩ := handle_settles fuel a t v ht hhandle
      have hlive' := sweep_from_next_live hlater
      have hevolves := hev.trans hs hev'
      rcases hnext.next with ⟨mid, y, post, rfl, hmid, hy⟩ | ⟨hdead, hnew⟩
      · obtain rfl : a = y.addr := Option.some.inj hy
        obtain ⟨hreqs', hpost⟩ := rest_after hreqs
        have hreqs'' : s.reqs = (pre ++ mid) ++ y :: post := by simp [hreqs]
        have hpoints := hev.next_old hs hreqs'' hlive
        refine ih hv hevolves hreqs' (hpoints.later hev hev' hs hpost hlive') (fun req hdue => ?_)
          hlater hpost
        have hdue' := hsince.due req hdue
        obtain ⟨m, hm, rfl⟩ := hahead req hdue'
        rcases List.mem_append.mp hm with hm | hm
        · exact absurd hdue'.live (hmid m hm)
        · rcases List.mem_cons.mp hm with rfl | hm
          · exact absurd hdue hdone
          · exact ⟨m, hm, rfl⟩
      · -- the sweep is among the requests that were appended, and they are not due
        have hpoints : PointsAt s t [] (next_request t.reqs a) :=
          hev.next_new hs (by simp) (hnew a rfl)
        refine ih hv hevolves (List.append_nil _).symm (hpoints.later hev hev' hs (by simp) hlive')
          (fun req hdue => ?_) hlater (by simp)
        obtain ⟨m, hm, rfl⟩ := hahead req (hsince.due req hdue)
        exact absurd (hsince.due _ hdue).live (hdead m hm)

/-- **A sweep that returns** leaves no request that is due. -/
theorem sweep_settles {fuel : Nat} (hs : WellFormed s)
    (hrun : sr_arpcache_sweepreqs sr heap now fuel s = (.returned (), t)) :
    ∀ r ∈ t.reqs, ¬ now - r.sent > 1 := by
  intro r hr hdue
  refine sweep_from_settles hs hs (Evolves.refl hs) (List.nil_append _).symm (PointsAt.start s)
    (fun req h => ?_) hrun r.addr ⟨r, hr, rfl, hdue⟩
  obtain ⟨r', hr', haddr, -⟩ := h
  exact ⟨r', hr', haddr⟩

theorem timeout_settles {fuel : Nat} (hs : WellFormed s)
    (hrun : sr_arpcache_timeout sr heap now fuel s = (.returned (), t)) :
    ∀ r ∈ t.reqs, ¬ now - r.sent > 1 :=
  sweep_settles (hs.setEntries (sr_arpcache_expire s.cache.entries now)) hrun

/-! ### A section -/

/-- When a step of a thread looks at the clock, what it shows. -/
def ThreadLabel.time : ThreadLabel → Option time_t
  | .receive _ _ => none
  | .resume now => some now
  | .timeout now => some now

/-- What any stretch of a run does to requests and log. -/
structure Proceeds (s t : RouterState) : Prop where
  inherits : Inherits s t
  log : s.log <+: t.log

namespace Proceeds

theorem refl (s : RouterState) : Proceeds s s :=
  ⟨⟨Nat.le_refl _, fun r hr => .inl ⟨r, hr, rfl, rfl⟩⟩, List.prefix_rfl⟩

theorem trans (h : Proceeds s t) (h' : Proceeds t u) : Proceeds s u := by
  refine ⟨⟨Nat.le_trans h.inherits.brk_le h'.inherits.brk_le, fun r'' hr'' => ?_⟩,
    h.log.trans h'.log⟩
  rcases h'.inherits.origin r'' hr'' with ⟨r', hr', haddr', hip'⟩ | hnew
  · rcases h.inherits.origin r' hr' with ⟨r, hr, haddr, hip⟩ | hnew
    · exact .inl ⟨r, hr, haddr'.trans haddr, hip'.trans hip⟩
    · exact .inr (haddr' ▸ hnew)
  · exact .inr (Nat.le_trans h.inherits.brk_le hnew)

theorem of_subset (hbrk : s.brk ≤ t.brk) (hsub : t.reqs ⊆ s.reqs) (hlog : s.log <+: t.log) :
    Proceeds s t :=
  ⟨⟨hbrk, fun r hr => .inl ⟨r, hsub hr, rfl, rfl⟩⟩, hlog⟩

theorem of_path {l : Label} (h : Path sr heap l s t) (hs : WellFormed s) : Proceeds s t :=
  have hfollows := h.follows hs
  ⟨.of_follows hfollows, hfollows.log⟩

theorem learnFor (hs : WellFormed s) (mac : EtherAddr) (ip : uint32_t) (now : time_t) :
    Proceeds s (s.learnFor mac ip now) := by
  refine .of_subset ?_ (fun r hr => ((mem_learnFor hs).mp hr).1) (by rw [learnFor_log])
  unfold RouterState.learnFor
  cases s.reqFor ip <;> exact Nat.le_refl _

end Proceeds

variable {guard : Label → Prop} {st st' st₀ : Threads} {l : ThreadLabel}
  {τ τ₀ : List (System.Taken Threads ThreadLabel)}

theorem Sectioned.proceeds (h : Sectioned sr heap guard st l st') (hs : WellFormed st.1) :
    Proceeds st.1 st'.1 := by
  cases h with
  | received _ _ hpath => exact .of_path (hpath 0) hs
  | moved _ _ _ hpath => exact .of_path hpath hs
  | @passed s _ _ now _ hpath =>
    let expired := s.setEntries (sr_arpcache_expire s.cache.entries now)
    have hexpire : Proceeds s expired :=
      .of_subset (Nat.le_refl _) (List.Subset.refl _) List.prefix_rfl
    exact hexpire.trans (.of_path hpath (hs.setEntries _))
  | learned => exact .learnFor hs ..
  | taken => exact .learnFor hs ..
  | released => exact .of_subset (Nat.le_refl _) (List.Subset.refl _) (List.prefix_append _ _)
  | freed => exact .of_subset (Nat.le_refl _) (List.Subset.refl _) (List.prefix_append _ _)

/-- A broadcast is made at the time of the step. -/
theorem Path.broadcast {l : Label} (h : Path sr heap l s t) (hs : WellFormed s) {req : Nat}
    {b : time_t} (hb : b ∈ broadcasts req t.log) : b ∈ broadcasts req s.log ∨ b = l.now := by
  obtain ⟨L, hlog, hL⟩ := h.timely hs
  rw [hlog, broadcasts_append] at hb
  rcases List.mem_append.mp hb with hb | hb
  · exact .inl hb
  · obtain ⟨e, he, hbroadcast⟩ := List.mem_filterMap.mp hb
    exact .inr ((hL e he).broadcast _ _ hbroadcast)

theorem Sectioned.broadcast (h : Sectioned sr heap guard st l st') (hs : WellFormed st.1)
    {req : Nat} {b : time_t} (hb : b ∈ broadcasts req st'.1.log) :
    b ∈ broadcasts req st.1.log ∨ l.time = some b := by
  cases h with
  | received _ _ hpath =>
    -- no clock was looked at, so what was made at two times was not made
    rcases (hpath 0).broadcast hs hb with hold | hzero
    · exact .inl hold
    · rcases (hpath 1).broadcast hs hb with hold | hone
      · exact .inl hold
      · have hsame : (0 : time_t) = 1 := hzero.symm.trans hone
        exact absurd hsame (by decide)
  | moved _ _ _ hpath => exact (hpath.broadcast hs hb).imp_right fun hnow => congrArg some hnow.symm
  | passed _ hpath =>
    exact (hpath.broadcast (hs.setEntries _) hb).imp_right fun hnow => congrArg some hnow.symm
  | learned => exact .inl (by rwa [learnFor_log] at hb)
  | taken => exact .inl (by rwa [learnFor_log] at hb)
  | @released s mac arpreq now =>
    left
    show b ∈ broadcasts req s.log
    have hsilent : ∀ e ∈ release_events sr mac arpreq, e.Silent := by
      intro e he
      obtain ⟨p, -, rfl⟩ := List.mem_map.mp he
      exact .sent (by simp) ..
    rwa [← broadcasts_neutral hsilent]
  | @freed s arpreq now =>
    left
    show b ∈ broadcasts req s.log
    have hsilent : (Event.destroyed arpreq.addr).Silent := ⟨fun _ => rfl⟩
    rwa [← broadcasts_neutral (List.forall_mem_singleton.mpr hsilent)]

/-! ### Runs -/

/-- The requests that were there before a pass, and still are, were asked for within a second
    of it. -/
def PassesLeft (τ : List (System.Taken Threads ThreadLabel)) (s : RouterState) : Prop :=
  ∀ x ∈ τ, ∀ now, x.label = .timeout now → 1 < now → ∀ r ∈ s.reqs, r.addr < x.before.1.brk →
    ∃ b ∈ broadcasts r.addr s.log, now - 1 ≤ b ∧ b ≤ now

structure Timed (sr : SrInstance) (heap : Heap) (τ : List (System.Taken Threads ThreadLabel))
    (st : Threads) : Prop where
  asked : Asked st.1
  carried : Carried sr heap (fun _ => True) st.1 st.2
  past : ∀ x ∈ τ, x.before.1.brk ≤ st.1.brk
  /-- Broadcasts are made at times of the run. -/
  times : ∀ req, ∀ b ∈ broadcasts req st.1.log, b ∈ System.clock ThreadLabel.time τ
  passes : (System.clock ThreadLabel.time τ).Pairwise (· ≤ ·) → PassesLeft τ st.1

theorem le_of_not_due {now sent : Int} (h : ¬ now - sent > 1) : now - 1 ≤ sent := by omega

/-- What a pass leaves on the queue was asked for within a second. -/
theorem Asked.recent (h : Asked s) {r : SrArpreq} (hr : r ∈ s.reqs) (hnow : 1 < now)
    (hdue : ¬ now - r.sent > 1) : ∃ b ∈ broadcasts r.addr s.log, now - 1 ≤ b := by
  have hsent := h.sent r hr
  rw [List.getLastD_eq_getLast?] at hsent
  cases hlast : (broadcasts r.addr s.log).getLast? with
  | none =>
    rw [hlast, Option.getD_none] at hsent
    rw [hsent, Int.sub_zero] at hdue
    exact absurd hnow hdue
  | some b =>
    rw [hlast, Option.getD_some] at hsent
    refine ⟨b, List.mem_of_getLast? hlast, ?_⟩
    rw [hsent] at hdue
    exact le_of_not_due hdue

theorem Timed.passes_step (h : Timed sr heap τ st) (hproceeds : Proceeds st.1 st'.1)
    (hasked : Asked st'.1)
    (htimes : ∀ req, ∀ b ∈ broadcasts req st'.1.log,
      b ∈ System.clock ThreadLabel.time τ ∨ l.time = some b)
    (hsettled : ∀ now, l = .timeout now → ∀ r ∈ st'.1.reqs, ¬ now - r.sent > 1)
    (hclock : (System.clock ThreadLabel.time (τ ++ [⟨st, l, st'⟩])).Pairwise (· ≤ ·)) :
    PassesLeft (τ ++ [⟨st, l, st'⟩]) st'.1 := by
  intro x hx now hl hnow r hr hbrk
  rcases List.mem_append.mp hx with hx | hx
  · -- a pass before this step: the request was there all the time
    have hpast : (System.clock ThreadLabel.time τ).Pairwise (· ≤ ·) := by
      rw [System.clock_concat] at hclock
      exact (List.pairwise_append.mp hclock).1
    have hnotnew : ¬ st.1.brk ≤ r.addr := by
      have := h.past x hx
      omega
    obtain ⟨r₀, hr₀, haddr, -⟩ := (hproceeds.inherits.origin r hr).resolve_right hnotnew
    obtain ⟨b, hb, hbounds⟩ := h.passes hpast x hx now hl hnow r₀ hr₀ (haddr ▸ hbrk)
    exact ⟨b, haddr ▸ (hproceeds.log.sublist.filterMap _).subset hb, hbounds⟩
  · obtain rfl := List.mem_singleton.mp hx
    obtain ⟨b, hb, hle⟩ := hasked.recent hr hnow (hsettled now hl r hr)
    refine ⟨b, hb, hle, ?_⟩
    rcases htimes _ b hb with hold | htime
    · exact System.le_now hclock (congrArg ThreadLabel.time hl) b hold
    · rw [show l = .timeout now from hl] at htime
      exact Int.le_of_eq (Option.some.inj htime).symm

/-- A pass that is a step of the timeout thread returned. -/
theorem timeout_step {fuel : Nat} {m : Router Phase} {phase phase' : Phase} (hs : WellFormed s)
    (hm : thread_section sr heap fuel (.timeout now) phase = some m)
    (hrun : m s = (.returned phase', t)) : ∀ r ∈ t.reqs, ¬ now - r.sent > 1 := by
  obtain rfl : _ = m := Option.some.inj hm
  obtain ⟨⟨⟩, v, hpass, hreturn⟩ := Prog.bind_eq_returned.mp hrun
  obtain rfl := (Prod.mk.inj hreturn).2
  exact timeout_settles hs hpass

theorem timed_of_run
    (hrun : (threads sr heap).Run System.always (RouterState.empty, .idle) τ st) :
    Timed sr heap τ st := by
  refine hrun.invariant (I := Timed sr heap) ?_ ?_
  · exact ⟨.empty, rfl, by simp, by simp [RouterState.empty, broadcasts], fun _ _ hx => by cases hx⟩
  · rintro τ ⟨s, phase⟩ l ⟨s', phase'⟩ _ h _ ⟨fuel, m, hm, hstep⟩
    have hwf := h.asked.wellFormed
    obtain ⟨hsection, hcarried⟩ := section_sectioned sr heap hwf h.carried (.all l) hm hstep
    have hproceeds := hsection.proceeds hwf
    have hasked := (asked_sections sr heap).sectioned h.asked hsection
    have htimes : ∀ req, ∀ b ∈ broadcasts req s'.log,
        b ∈ System.clock ThreadLabel.time τ ∨ l.time = some b := by
      intro req b hb
      exact (hsection.broadcast hwf hb).imp_left (h.times req b)
    refine ⟨hasked, hcarried, fun x hx => ?_, fun req b hb => ?_, fun hclock => ?_⟩
    · rcases List.mem_append.mp hx with hx | hx
      · exact Nat.le_trans (h.past x hx) hproceeds.inherits.brk_le
      · obtain rfl := List.mem_singleton.mp hx
        exact hproceeds.inherits.brk_le
    · rw [System.clock_concat]
      rcases htimes req b hb with hold | htime
      · exact List.mem_append_left _ hold
      · exact List.mem_append_right _ (by simp [htime])
    · refine h.passes_step hproceeds hasked htimes (fun now hl => ?_) hclock
      subst hl
      exact timeout_step hwf hm hstep

/-- From one state of a run to another, nothing is lost from the log and no address is used
    again. -/
theorem run_proceeds (hst : (threads sr heap).Reachable System.always st₀)
    (hrun : (threads sr heap).Run System.always st₀ τ st) :
    Proceeds st₀.1 st.1 ∧ ∀ x ∈ τ, Proceeds st₀.1 x.before.1 := by
  let R : Threads → Threads → Prop := fun st st' => Proceeds st.1 st'.1
  have htrans : ∀ st₁ st₂ st₃, R st₁ st₂ → R st₂ st₃ → R st₁ st₃ :=
    fun _ _ _ h h' => Proceeds.trans h h'
  refine System.Run.since (R := R) (fun st => .refl st.1) htrans ?_ hst hrun
  rintro ⟨s, phase⟩ l ⟨s', phase'⟩ hs _ ⟨fuel, m, hm, hstep⟩
  obtain ⟨hasked, hcarried⟩ := (asked_sections sr heap).always .empty hs
  obtain ⟨hsection, -⟩ :=
    section_sectioned sr heap hasked.wellFormed hcarried (.all l) hm hstep
  exact hsection.proceeds hasked.wellFormed

theorem windows_apart {now now' : Int} (h : now' - now > 1) (b : Int)
    (hb : now - 1 ≤ b ∧ b ≤ now) : ¬ (now' - 1 ≤ b ∧ b ≤ now') := by omega

/-- **A request is settled within six passes.** From any state of any interleaving of the steps
    of `threads`, with no pass in the middle of the packet thread's handling of a request, when
    the clock never goes back and six passes are made more than a second apart, every request
    that was waiting before the first of them has left the queue, and each of its frames was
    sent once, is about to be sent, or was given up. -/
theorem settled_after_six_passes (times : List time_t)
    (hrun₀ : (threads sr heap).Run System.always (RouterState.empty, .idle) τ₀ st₀)
    (hrun : (threads sr heap).Run System.always st₀ τ st)
    (hclock : (System.clock ThreadLabel.time (τ₀ ++ τ)).Pairwise (· ≤ ·))
    (hpasses : (times.map ThreadLabel.timeout).Sublist (τ.map (·.label)))
    (hspaced : times.Pairwise fun t u => u - t > 1) (hrunning : ∀ now ∈ times, 1 < now)
    (hsix : 6 ≤ times.length) :
    ∀ r ∈ st₀.1.reqs, ¬ (st.1.reqAt r.addr).isSome ∧ ∀ pck ∈ r.packets,
      Held sr (τ₀ ++ τ) st r.addr pck ∨ SentOnce sr (τ₀ ++ τ) st r.addr pck ∨
        GivenUp (τ₀ ++ τ) st r.addr pck := by
  intro r hr
  have hboth := hrun₀.append hrun
  have h₀ := timed_of_run hrun₀
  have h := timed_of_run hboth
  obtain ⟨hproceeds, hbetween⟩ := run_proceeds (hrun₀.reachable (.init rfl)) hrun
  have hgone : ¬ (st.1.reqAt r.addr).isSome := by
    intro hlive
    obtain ⟨r', hr', haddr⟩ := reqAt_isSome.mp hlive
    -- each pass has a broadcast of its own, and there are five at most
    have hmarks : ∀ now ∈ times, ∃ b ∈ broadcasts r.addr st.1.log, now - 1 ≤ b ∧ b ≤ now := by
      intro now hnow
      obtain ⟨x, hx, hl⟩ := List.mem_map.mp (hpasses.subset (List.mem_map_of_mem hnow))
      have hlt : r'.addr < x.before.1.brk := by
        have := h₀.asked.wellFormed.lt_brk hr
        have := (hbetween x hx).inherits.brk_le
        omega
      rw [← haddr]
      exact h.passes hclock x (List.mem_append_right _ hx) now hl (hrunning now hnow) r' hr' hlt
    have hle := rounds_le_marks hmarks (hspaced.imp windows_apart)
    have hfew := h.asked.few r.addr
    omega
  refine ⟨hgone, fun pck hpck => ?_⟩
  obtain ⟨hcustody, -, -⟩ := placed_of_run rfl hrun₀
  obtain ⟨-, -, hplaced⟩ := placed_of_run rfl hboth
  rw [hcustody.ledger.packets r hr, List.mem_reverse, mem_queuedOn] at hpck
  have hq := (hproceeds.log.sublist.filterMap _).subset hpck
  rcases hplaced r.addr pck hq with hw | hrest
  · exact absurd hw.live hgone
  · exact hrest

namespace Sample

theorem interleave_run {fuel : Nat} {labels : List ThreadLabel} {st st' : Threads}
    (h : interleave fuel labels st = some st') :
    ∃ τ, τ.map (·.label) = labels ∧ (threads net mem).Run System.always st τ st' := by
  induction labels generalizing st with
  | nil => exact ⟨[], rfl, Option.some.inj h ▸ .nil⟩
  | cons l labels ih =>
    rw [interleave] at h
    split at h
    · next phase' s' hsection =>
      obtain ⟨m, hm, hrun⟩ := Option.map_eq_some_iff.mp hsection
      obtain ⟨τ, hlabels, hτ⟩ := ih h
      have hfirst : (threads net mem).Run System.always st [⟨st, l, (s', phase')⟩] (s', phase') :=
        System.Run.step .nil trivial ⟨fuel, m, hm, hrun⟩
      exact ⟨_, by rw [List.map_append, hlabels]; rfl, hfirst.append hτ⟩
    · simp at h

/-- A frame is stored before six passes. -/
theorem lost_after_six_passes : ∃ (τ₀ τ : List (System.Taken Threads ThreadLabel))
    (st₀ st : Threads), (∃ r ∈ st₀.1.reqs, r.packets ≠ []) ∧
    ∀ r ∈ st₀.1.reqs, ¬ (st.1.reqAt r.addr).isSome ∧ ∀ pck ∈ r.packets,
      Held net (τ₀ ++ τ) st r.addr pck ∨ SentOnce net (τ₀ ++ τ) st r.addr pck ∨
        GivenUp (τ₀ ++ τ) st r.addr pck := by
  let times : List time_t := [12, 14, 16, 18, 20, 22]
  obtain ⟨st₀, hstored, hwaits⟩ := (Option.any_eq_true
    (fun st₀ : Threads => (st₀.1.reqs.any fun r => !r.packets.isEmpty) &&
      (interleave 20 (.resume 10 :: times.map .timeout) st₀).isSome) _).mp
    (show (interleave 20 (store 10) (RouterState.empty, .idle)).any _ = true by decide +kernel)
  obtain ⟨hany, hsome⟩ := Bool.and_eq_true_iff.mp hwaits
  obtain ⟨st, hpassed⟩ := Option.isSome_iff_exists.mp hsome
  obtain ⟨τ₀, hlabels₀, hrun₀⟩ := interleave_run hstored
  obtain ⟨τ, hlabels, hrun⟩ := interleave_run hpassed
  refine ⟨τ₀, τ, st₀, st, ?_, settled_after_six_passes times hrun₀ hrun ?_ ?_
    (by decide) (by decide) (by decide)⟩
  · obtain ⟨r, hr, hne⟩ := List.any_eq_true.mp hany
    exact ⟨r, hr, by simpa using hne⟩
  · rw [System.clock_eq, List.map_append, hlabels₀, hlabels]
    decide
  · rw [hlabels]
    exact List.sublist_cons_self _ _

end Sample

end SimpleRouter
