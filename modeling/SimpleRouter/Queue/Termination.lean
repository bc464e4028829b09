import SimpleRouter.Packet.LongestMatch
import SimpleRouter.Queue.Discarding
import SimpleRouter.Queue.Rules

/-! # When handling a request comes back

    * `handle_never_freed`: a call on a live request never touches a request
      that was destroyed, because a request destroyed on the way cannot lead
      back to the one whose frames are being discarded.
    * `handle_returns_of`: a call comes back if the chains of calls that start
      at its frames settle; the fuel is found along the chains.
-/

namespace SimpleRouter

open Framework Framework.Bytes RouterState Relation

variable {sr : SrInstance} {heap : Heap} {now : time_t} {s t u : RouterState}

/-! ### Nothing is used after it was freed -/

/-- While a frame of an expired request is discarded, the request stays. -/
theorem answer_sender_live {fuel : Nat} {s' : RouterState} {r : SrArpreq} {pck : SrPacket}
    (hs : WellFormed s) (hr : r ∈ s.reqs) (hexp : Expired now r)
    (hpck : Waiting now s r.ip (source pck))
    (hrun : answer_sender sr heap (sr_arpcache_handle_arpreq sr heap now fuel) r.addr pck s =
      (.returned (), s')) :
    (s'.reqAt r.addr).isSome := by
  have hdis := discard_packet_discards handle_discards hs hrun
  have hleft : ExpiredFor now s' r.ip := by
    apply hdis.left ⟨r, hr, rfl, hexp⟩
    intro y h
    obtain ⟨rfl, hc⟩ := h
    exact ⟨.inl hpck, hc⟩
  exact (answer_sender_evolves hs hrun).2.live_of_expiredFor hs hr hleft

/-- A state inside the loop over the frames of an expired request `r` of `s`. -/
structure InLoop (sr : SrInstance) (now : time_t) (s : RouterState) (r : SrArpreq)
    (v : RouterState) : Prop where
  wellFormed : WellFormed v
  evolves : Evolves sr now s v
  live : (v.reqAt r.addr).isSome

namespace InLoop

variable {r : SrArpreq} {v : RouterState}

theorem start (hs : WellFormed s) (hr : r ∈ s.reqs) : InLoop sr now s r s :=
  ⟨hs, Evolves.refl hs, reqAt_isSome.mpr ⟨r, hr, rfl⟩⟩

/-- The request as it is now, with all its old frames. -/
theorem request (h : InLoop sr now s r v) (hr : r ∈ s.reqs) (hexp : Expired now r) :
    ∃ r' ∈ v.reqs, r'.addr = r.addr ∧ r'.ip = r.ip ∧ Expired now r' ∧ r.packets ⊆ r'.packets := by
  obtain ⟨r', hr', haddr⟩ := reqAt_isSome.mp h.live
  have hsame := h.evolves.same r hr r' hr' haddr
  exact ⟨r', hr', haddr, hsame.ip, hsame.expired.mpr hexp, hsame.packets hexp⟩

theorem next (h : InLoop sr now s r v) {fuel : Nat} {v' : RouterState} {pck : SrPacket}
    (hs : WellFormed s)
    (hrun : discard_packet sr heap (sr_arpcache_handle_arpreq sr heap now fuel) r.addr pck v =
      (.returned (), v')) : InLoop sr now s r v' := by
  obtain ⟨hv', hvv'⟩ := discard_packet_evolves h.wellFormed hrun
  exact ⟨hv', h.evolves.trans hs hvv', (discard_packet_returned hrun).2⟩

theorem of_loop {fuel : Nat} {pcks : List SrPacket} (hs : WellFormed s) (hr : r ∈ s.reqs)
    (hrun : Prog.forEach pcks
      (discard_packet sr heap (sr_arpcache_handle_arpreq sr heap now fuel) r.addr) s =
        (.returned (), v)) : InLoop sr now s r v :=
  Prog.forEach_returned (I := fun _ => InLoop sr now s r) (start hs hr)
    (fun _ _ _ _ _ _ h hbody => h.next hs hbody) hrun

/-- The body of the loop is `answer_sender` as long as that returns. -/
theorem discard_packet_eq (h : InLoop sr now s r v) (hr : r ∈ s.reqs) (hexp : Expired now r)
    {fuel : Nat} {v' : RouterState} {pck : SrPacket} (hpck : pck ∈ r.packets)
    (hrun : answer_sender sr heap (sr_arpcache_handle_arpreq sr heap now fuel) r.addr pck v =
      (.returned (), v')) :
    discard_packet sr heap (sr_arpcache_handle_arpreq sr heap now fuel) r.addr pck v =
      (.returned (), v') := by
  obtain ⟨r', hr', haddr, hip, hexp', hsub⟩ := h.request hr hexp
  have hlive : (v'.reqAt r.addr).isSome := by
    rw [← haddr] at hrun ⊢
    exact answer_sender_live h.wellFormed hr' hexp' ⟨r', hr', rfl, hexp', pck, hsub hpck, rfl⟩ hrun
  rw [discard_packet, Prog.bind_of_returned hrun, Prog.read_bind, if_pos hlive, Prog.pure_apply]

end InLoop

/-- Asking for a request touches no other. -/
theorem send_arp_request_never_freed {s' : RouterState} {r : SrArpreq} {f : Fault}
    (hrun : send_arp_request sr now r s = (.fault f, s')) : ¬ StaleRequest f := by
  rw [send_arp_request_eq] at hrun
  split at hrun
  · obtain rfl := Outcome.fault.inj (Prod.mk.inj hrun).1
    simp [StaleRequest]
  · split at hrun
    · obtain rfl := Outcome.fault.inj (Prod.mk.inj hrun).1
      simp [StaleRequest]
    · simp [sr_send_packet_apply] at hrun

/-- Answering a sender uses no request but in the nested call, which is on a live one. -/
theorem answer_sender_never_freed {fuel req : Nat} {s' : RouterState} {pck : SrPacket} {f : Fault}
    (ih : ∀ {s s' : RouterState} {r : SrArpreq} {f : Fault}, WellFormed s → r ∈ s.reqs →
      sr_arpcache_handle_arpreq sr heap now fuel r.addr s = (.fault f, s') → ¬ StaleRequest f)
    (hs : WellFormed s)
    (hrun : answer_sender sr heap (sr_arpcache_handle_arpreq sr heap now fuel) req pck s =
      (.fault f, s')) : ¬ StaleRequest f := by
  rw [answer_sender_eq] at hrun
  split at hrun
  · simp at hrun
  · next rtentry hrt =>
    split at hrun
    · obtain rfl := Outcome.fault.inj (Prod.mk.inj hrun).1
      simp [StaleRequest]
    · next ifc hifc =>
      split at hrun
      · simp [sr_send_packet_apply] at hrun
      · obtain ⟨r', hr', haddr, -⟩ := queueAnswer_target heap req s hrt hifc
        rw [← haddr] at hrun
        exact ih (queueAnswer_handles heap now req hrt hifc hs).1 hr' hrun

/-- **No use after free**: a call on a live request never uses a request that
    was destroyed, nor destroys one again. -/
theorem handle_never_freed {fuel : Nat} {s' : RouterState} {r : SrArpreq} {f : Fault}
    (hs : WellFormed s) (hr : r ∈ s.reqs)
    (hrun : sr_arpcache_handle_arpreq sr heap now fuel r.addr s = (.fault f, s')) :
    ¬ StaleRequest f := by
  -- on the fuel: a nested call that uses a dead request has less of it
  induction fuel generalizing s s' r f with
  | zero => simp [sr_arpcache_handle_arpreq] at hrun
  | succ fuel ih =>
    rw [handle_arpreq_eq, hs.reqAt_eq hr] at hrun
    simp only at hrun
    split at hrun
    · next hexp =>
      rcases Prog.bind_eq_fault.mp hrun with hloop | ⟨⟨⟩, t, hloop, hdestroy⟩
      · obtain ⟨pcks₁, pck, pcks₂, v, hpcks, hpre, hbody⟩ := Prog.forEach_eq_fault hloop
        have hv := InLoop.of_loop hs hr hpre
        have hmem : pck ∈ r.packets := by simp [hpcks]
        rcases Prog.bind_eq_fault.mp hbody with hans | ⟨⟨⟩, v', hans, -⟩
        · exact answer_sender_never_freed ih hv.wellFormed hans
        · -- the request is still there after `pck`, so the loop goes on
          rw [hv.discard_packet_eq hr hexp hmem hans] at hbody
          simp at hbody
      · obtain ⟨hlive, -⟩ := discard_and_destroy_eq hr hloop
        rw [sr_arpreq_destroy_eq hlive] at hdestroy
        simp at hdestroy
    · split at hrun
      · exact send_arp_request_never_freed hrun
      · simp at hrun

/-! ### More fuel -/

theorem send_or_queue_le {handle handle' : Nat → Router Unit}
    (h : ∀ a, Prog.Le (handle a) (handle' a)) (msg : Message) (ip : uint32_t) (buf : RawFrame)
    (iface : IfName) :
    Prog.Le (send_or_queue sr handle msg ip buf iface) (send_or_queue sr handle' msg ip buf iface) := by
  apply (Prog.Le.refl Prog.read).bind
  intro s
  cases sr_arpcache_lookup s.cache ip with
  | some entry => exact Prog.Le.refl _
  | none => exact (Prog.Le.refl _).bind fun a => h a

theorem discard_packet_le {handle handle' : Nat → Router Unit}
    (h : ∀ a, Prog.Le (handle a) (handle' a)) (req : Nat) (pck : SrPacket) :
    Prog.Le (discard_packet sr heap handle req pck) (discard_packet sr heap handle' req pck) := by
  refine Prog.Le.bind ?_ fun _ => Prog.Le.refl _
  apply (Prog.Le.refl malloc).bind
  intro buf
  cases sr_findLPMentry sr.routing_table (ip_hdr pck.buf).ip_src with
  | none => exact Prog.Le.refl _
  | some rtentry =>
    cases hifc : sr_get_interface sr rtentry.interface with
    | none => simp only [hifc]; exact Prog.Le.refl _
    | some ifc => simp only [hifc]; exact send_or_queue_le h _ _ _ _

theorem handle_arpreq_le_succ (fuel req : Nat) :
    Prog.Le (sr_arpcache_handle_arpreq sr heap now fuel req)
      (sr_arpcache_handle_arpreq sr heap now (fuel + 1) req) := by
  induction fuel generalizing req with
  | zero => exact Prog.exhaust_le _
  | succ fuel ih =>
    rw [sr_arpcache_handle_arpreq, sr_arpcache_handle_arpreq]
    apply (Prog.Le.refl Prog.read).bind
    intro s
    cases s.reqAt req with
    | none => exact Prog.Le.refl _
    | some r =>
      simp only
      split
      · split
        · exact (Prog.Le.forEach (fun pck => discard_packet_le ih req pck) _).bind
            fun _ => Prog.Le.refl _
        · exact Prog.Le.refl _
      · exact Prog.Le.refl _

theorem handle_arpreq_le {n k : Nat} (hnk : n ≤ k) (req : Nat) :
    Prog.Le (sr_arpcache_handle_arpreq sr heap now n req)
      (sr_arpcache_handle_arpreq sr heap now k req) :=
  Prog.le_of_fuel (fun n => handle_arpreq_le_succ n req) hnk

/-! ### Enough fuel -/

variable (sr heap) in
/-- A request that has not expired is handled at once, if its route is usable. -/
theorem handle_returns_of_not_expired {r : SrArpreq} (hs : WellFormed s) (hr : r ∈ s.reqs)
    (hexp : ¬ Expired now r) (hroute : now - r.sent > 1 → (reply_ip sr r.ip).isSome) :
    ∃ s', sr_arpcache_handle_arpreq sr heap now 1 r.addr s = (.returned (), s') := by
  rw [handle_arpreq_eq, hs.reqAt_eq hr]
  simp only [if_neg hexp]
  split
  · next hdue =>
    rw [send_arp_request_eq]
    have hsome := hroute hdue
    cases hrt : sr_findLPMentry sr.routing_table r.ip with
    | none => simp [reply_ip, hrt] at hsome
    | some rtentry =>
      cases hifc : sr_get_interface sr rtentry.interface with
      | none => simp [reply_ip, hrt, hifc] at hsome
      | some ifc => exact ⟨_, by simp only [hifc]; rfl⟩
  · exact ⟨s, rfl⟩

variable (heap) in
/-- One frame is discarded, if the call for its source comes back. -/
theorem answer_sender_returns (req : Nat) {pck : SrPacket} {v : RouterState} (hv : WellFormed v)
    (hres : Resolvable sr (source pck))
    (hcall : Chased sr now v (source pck) → ∀ w r', WellFormed w → Evolves sr now v w →
      r' ∈ w.reqs → Expired now r' → r'.ip = source pck →
      ∃ fuel w', sr_arpcache_handle_arpreq sr heap now fuel r'.addr w = (.returned (), w')) :
    ∃ fuel v', answer_sender sr heap (sr_arpcache_handle_arpreq sr heap now fuel) req pck v =
      (.returned (), v') := by
  simp only [answer_sender_eq]
  cases hrt : sr_findLPMentry sr.routing_table (source pck) with
  | none => exact ⟨0, _, rfl⟩
  | some rtentry =>
    obtain ⟨ifc, hifc⟩ := Option.isSome_iff_exists.mp (hres rtentry hrt)
    simp only [hifc]
    cases hl : sr_arpcache_lookup v.cache (source pck) with
    | some entry => exact ⟨0, _, rfl⟩
    | none =>
      obtain ⟨r', hr', haddr, hip, -⟩ := queueAnswer_target heap req v hrt hifc
      obtain ⟨hw, hvw⟩ := queueAnswer_handles heap now req hrt hifc hv
      simp only [← haddr]
      -- only a request that has expired makes further calls
      by_cases hexp : Expired now r'
      · refine hcall ⟨by simp [hrt], hl, ?_⟩ _ r' hw hvw hr' hexp hip
        exact hvw.expiredFor_old ⟨r', hr', hip, hexp⟩
      · obtain ⟨w', hw'⟩ := handle_returns_of_not_expired sr heap hw hr' hexp
          fun _ => by simp [hip, reply_ip_eq hrt hifc]
        exact ⟨1, w', hw'⟩

/-- An expired request is handled, if the calls for the sources of its frames
    come back. -/
theorem handle_returns_of_calls {r : SrArpreq} (hs : WellFormed s) (hr : r ∈ s.reqs)
    (hexp : Expired now r) (hres : ∀ p ∈ r.packets, Resolvable sr (source p))
    (hcall : ∀ y, OuterCall sr now s r.ip y → ∀ w r', WellFormed w → Evolves sr now s w →
      r' ∈ w.reqs → Expired now r' → r'.ip = y →
      ∃ fuel w', sr_arpcache_handle_arpreq sr heap now fuel r'.addr w = (.returned (), w')) :
    ∃ fuel s', sr_arpcache_handle_arpreq sr heap now fuel r.addr s = (.returned (), s') := by
  -- on the frames: each one's call comes back, and leaves the loop in place
  have hloop : ∀ pcks ⊆ r.packets, ∀ v, InLoop sr now s r v → ∃ fuel t, Prog.forEach pcks
      (discard_packet sr heap (sr_arpcache_handle_arpreq sr heap now fuel) r.addr) v =
        (.returned (), t) := by
    intro pcks
    induction pcks with
    | nil => exact fun _ v _ => ⟨0, v, rfl⟩
    | cons pck pcks ih =>
      intro hsub v hv
      obtain ⟨hpck, hpcks⟩ := List.cons_subset.mp hsub
      obtain ⟨n, v', hans⟩ := answer_sender_returns heap r.addr hv.wellFormed
        (hres pck hpck) fun hc w r' hw hvw hr' hexp' hip =>
          hcall _ ⟨⟨r, hr, rfl, hexp, pck, hpck, rfl⟩, hv.evolves.chased_old hc⟩ w r' hw
            (hv.evolves.trans hs hvw) hr' hexp' hip
      have hbody := hv.discard_packet_eq hr hexp hpck hans
      obtain ⟨k, t, hrest⟩ := ih hpcks v' (hv.next hs hbody)
      -- both parts run with the greater of the two fuels
      have hle : ∀ n', n' ≤ max n k → ∀ p, Prog.Le
          (discard_packet sr heap (sr_arpcache_handle_arpreq sr heap now n') r.addr p)
          (discard_packet sr heap (sr_arpcache_handle_arpreq sr heap now (max n k)) r.addr p) :=
        fun n' hn' p => discard_packet_le (fun a => handle_arpreq_le hn' a) _ _
      refine ⟨max n k, t, ?_⟩
      rw [Prog.forEach_cons, Prog.bind_of_returned
        (Prog.Le.returned (hle n (Nat.le_max_left _ _) pck) hbody)]
      exact Prog.Le.returned (Prog.Le.forEach (hle k (Nat.le_max_right _ _)) pcks) hrest
  obtain ⟨n, t, hrun⟩ := hloop r.packets (List.Subset.refl _) s (InLoop.start hs hr)
  refine ⟨n + 1, t.destroyReq r.addr, ?_⟩
  rw [handle_arpreq_eq, hs.reqAt_eq hr]
  simp only [if_pos hexp]
  exact (discard_and_destroy_eq hr hrun).2

/-- A nested call comes back, if the chains of nested calls from it settle. -/
theorem nested_returns {y : uint32_t} (hs : WellFormed s)
    (hsettle : Settles (NestedCall sr now s) (Answerable sr now s) y) :
    ∀ w r, WellFormed w → Evolves sr now s w → r ∈ w.reqs → Expired now r → r.ip = y →
      ∃ fuel w', sr_arpcache_handle_arpreq sr heap now fuel r.addr w = (.returned (), w') := by
  obtain ⟨hends, hok⟩ := hsettle
  -- the induction is on the chains of calls; each call strictly shortens them
  refine hends.induct (motive := fun y => (∀ z, ReflTransGen (NestedCall sr now s) y z →
    Answerable sr now s z) → ∀ w r, WellFormed w → Evolves sr now s w → r ∈ w.reqs →
      Expired now r → r.ip = y → ∃ fuel w', sr_arpcache_handle_arpreq sr heap now fuel r.addr w =
        (.returned (), w')) ?_ hok
  rintro y - ih hok w r hw hsw hr hexp rfl
  refine handle_returns_of_calls hw hr hexp (fun p hp => ?_) ?_
  · exact hok r.ip .refl _ (hsw.waiting_old ⟨r, hr, rfl, hexp, p, hp, rfl⟩)
  · intro y hy w' r' hw' hww' hr' hexp' hip
    have hcall := hsw.nested_old hy.nested
    exact ih y hcall (fun z hz => hok z (.head hcall hz)) w' r' hw' (hsw.trans hs hww') hr' hexp' hip

/-! ### Exactly when -/

/-- Handling `r` at `now` can come back: either it is not due, or it is asked for
    over a usable route, or it has expired, every sender of its frames has a
    usable route or none, and no chain of calls from its frames runs into a
    loop or into a route without an interface. -/
def ComesBack (sr : SrInstance) (now : time_t) (s : RouterState) (r : SrArpreq) : Prop :=
  if Expired now r then
    (∀ p ∈ r.packets, Resolvable sr (source p)) ∧
      ∀ y, OuterCall sr now s r.ip y → ∀ z, ReflTransGen (NestedCall sr now s) y z →
        ¬ TransGen (NestedCall sr now s) z z ∧ Answerable sr now s z
  else
    now - r.sent > 1 → (reply_ip sr r.ip).isSome

theorem settles_nested_iff {y : uint32_t} :
    Settles (NestedCall sr now s) (Answerable sr now s) y ↔
      ∀ z, ReflTransGen (NestedCall sr now s) y z →
        ¬ TransGen (NestedCall sr now s) z z ∧ Answerable sr now s z := by
  apply settles_iff (l := s.reqs.map (·.ip))
  intro x z hxz
  obtain ⟨r, hr, hip, -⟩ := hxz.target
  exact List.mem_map.mpr ⟨r, hr, hip⟩

theorem comesBack_of_returned {fuel : Nat} {s' : RouterState} {r : SrArpreq} (hs : WellFormed s)
    (hr : r ∈ s.reqs)
    (hrun : sr_arpcache_handle_arpreq sr heap now fuel r.addr s = (.returned (), s')) :
    ComesBack sr now s r := by
  unfold ComesBack
  split
  · next hexp =>
    have hdis := handle_discards hs hr hexp hrun
    obtain ⟨t, -, -, hloop, -⟩ := hdis.loop
    refine ⟨hdis.resolvable, fun y hy => settles_nested_iff.mp ?_⟩
    obtain ⟨hbefore, hgone⟩ := hloop.gone y hy
    exact hloop.settles (fun _ _ hxy => hxy.target) hbefore hgone
  · next hexp =>
    intro hdue
    obtain ⟨n, -, hdone⟩ := handle_arpreq_returned hs hr hrun
    cases hdone with
    | idle hnot => exact absurd hdue hnot
    | asked _ _ hask =>
      obtain ⟨rtentry, ifc, _, hrt, hifc, -⟩ := send_arp_request_returned hask
      simp [reply_ip_eq hrt hifc]
    | discarded hexp' => exact absurd hexp' hexp

theorem handle_returns_of {r : SrArpreq} (hs : WellFormed s) (hr : r ∈ s.reqs)
    (h : ComesBack sr now s r) :
    ∃ fuel s', sr_arpcache_handle_arpreq sr heap now fuel r.addr s = (.returned (), s') := by
  unfold ComesBack at h
  split at h
  · next hexp =>
    exact handle_returns_of_calls hs hr hexp h.1 fun y hy w r' hw hsw =>
      nested_returns hs (settles_nested_iff.mpr (h.2 y hy)) w r' hw hsw
  · next hexp => exact ⟨1, handle_returns_of_not_expired sr heap hs hr hexp h⟩

/-- **Handling comes back exactly when no chain of calls loops**, in every
    reachable state and at every time. -/
theorem handle_arpreq_returns_iff (hs : Reachable sr heap System.always s) {r : SrArpreq}
    (hr : r ∈ s.reqs) (now : time_t) :
    (∃ fuel s', sr_arpcache_handle_arpreq sr heap now fuel r.addr s = (.returned (), s')) ↔
      ComesBack sr now s r := by
  constructor
  · intro h
    obtain ⟨fuel, s', hrun⟩ := h
    exact comesBack_of_returned (Reachable.wellFormed hs) hr hrun
  · exact handle_returns_of (Reachable.wellFormed hs) hr

namespace Sample

/-- A packet from 192.168.2.7 to itself, and four sweeps. -/
def to_itself : List Label :=
  [.packet 10 (ip_frame (inet_addr 192 168 2 7) (inet_addr 192 168 2 7) 64 17 []) (eth 3),
    .sweep 12, .sweep 14, .sweep 16, .sweep 18]

theorem to_itself_pending : ∃ r ∈ (run 20 to_itself).2.reqs, Expired 20 r ∧
    OuterCall net 20 (run 20 to_itself).2 r.ip r.ip := by decide +kernel

/-- The request that waits for the answer to its own frame is never done with. -/
theorem to_itself_never_returns : ∃ r ∈ (run 20 to_itself).2.reqs,
    Reachable net mem System.always (run 20 to_itself).2 ∧
      ¬ ∃ fuel s', sr_arpcache_handle_arpreq net mem 20 fuel r.addr (run 20 to_itself).2 =
        (.returned (), s') := by
  have hreach : Reachable net mem System.always (run 20 to_itself).2 :=
    run_reachable (by decide +kernel)
  obtain ⟨r, hr, hexp, hloop⟩ := to_itself_pending
  refine ⟨r, hr, hreach, ?_⟩
  intro h
  obtain ⟨fuel, s', hrun⟩ := h
  have hback := comesBack_of_returned (Reachable.wellFormed hreach) hr hrun
  rw [ComesBack, if_pos hexp] at hback
  exact (hback.2 r.ip hloop r.ip .refl).1 (.single hloop.nested)

/-- 192.168.2.7 and 172.64.3.9, which never answer. -/
def lost : uint32_t := inet_addr 192 168 2 7

def away : uint32_t := inet_addr 172 64 3 9

/-- A packet to 192.168.2.7 from 172.64.3.9, one to 172.64.3.9, and four sweeps. -/
def to_each_other : List Label :=
  [.packet 10 (ip_frame away lost 64 17 []) (eth 2),
    .packet 10 (ip_frame (inet_addr 8 8 8 8) away 64 17 []) (eth 3),
    .sweep 12, .sweep 14, .sweep 16, .sweep 18]

/-- Two requests whose frames are from 172.64.3.9 and from where there is no route to. -/
structure BothLost (s : RouterState) : Prop where
  asked : ∀ r ∈ s.reqs, r.ip = lost ∨ r.ip = away
  sources : ∀ r ∈ s.reqs, ∀ p ∈ r.packets,
    r.ip = lost ∧ source p = away ∨ r.ip = away ∧ source p = inet_addr 8 8 8 8

theorem net_resolvable (ip : uint32_t) : Resolvable net ip := by
  have hall : ∀ rtentry ∈ net.routing_table, (sr_get_interface net rtentry.interface).isSome := by
    decide
  exact fun rtentry hrt => hall rtentry (sr_findLPMentry_mem hrt)

/-- The only call is from the request for 192.168.2.7 to that for 172.64.3.9. -/
theorem BothLost.call {s : RouterState} (h : BothLost s) {now : time_t} {x y : uint32_t}
    (hcall : NestedCall net now s x y) : x = lost ∧ y = away := by
  obtain ⟨hfrom, -, -, r, hr, hy, -⟩ := hcall
  have hasked : y = lost ∨ y = away := hy ▸ h.asked r hr
  rcases hfrom with ⟨r', hr', hx, -, p, hp, hsource⟩ | hreply
  · rw [← hx, ← hsource]
    rcases h.sources r' hr' p hp with hlost | ⟨-, hunrouted⟩
    · exact hlost
    · rw [← hsource, hunrouted] at hasked
      exact absurd hasked (by decide)
  · -- an interface of the router is not asked for
    have hown : ∀ ifc ∈ net.if_list, ¬ (ifc.ip = lost ∨ ifc.ip = away) := by decide
    obtain ⟨rtentry, -, hifc⟩ := Option.bind_eq_some_iff.mp hreply
    obtain ⟨ifc, hget, rfl⟩ := Option.map_eq_some_iff.mp hifc
    exact absurd hasked (hown ifc (sr_get_interface_mem hget).1)

/-- Discarding the frame from 172.64.3.9 handles the request for that, which has expired
    too, and both calls come back. -/
theorem to_each_other_returns : ∃ r ∈ (run 20 to_each_other).2.reqs, Expired 20 r ∧
    OuterCall net 20 (run 20 to_each_other).2 r.ip away ∧
      ∃ fuel s', sr_arpcache_handle_arpreq net mem 20 fuel r.addr (run 20 to_each_other).2 =
        (.returned (), s') := by
  have hboth : BothLost (run 20 to_each_other).2 := ⟨by decide +kernel, by decide +kernel⟩
  obtain ⟨r, hr, hexp, hcall⟩ : ∃ r ∈ (run 20 to_each_other).2.reqs, Expired 20 r ∧
      OuterCall net 20 (run 20 to_each_other).2 r.ip away := by decide +kernel
  refine ⟨r, hr, hexp, hcall,
    (handle_arpreq_returns_iff (run_reachable (by decide +kernel)) hr 20).mpr ?_⟩
  have hlast : ∀ z, ¬ NestedCall net 20 (run 20 to_each_other).2 away z :=
    fun z hz => absurd (hboth.call hz).1 (by decide)
  rw [ComesBack, if_pos hexp]
  refine ⟨fun p _ => net_resolvable _, fun y hy z hz => ⟨fun hloop => ?_, fun x _ => ?_⟩⟩
  · rw [(hboth.call hy.nested).2] at hz
    obtain rfl := hz.cases_head.resolve_right fun ⟨c, hc, _⟩ => hlast c hc
    obtain ⟨c, hc, -⟩ := TransGen.head'_iff.mp hloop
    exact hlast c hc
  · exact net_resolvable x

end Sample

end SimpleRouter
