import SimpleRouter.Packet.Frames
import SimpleRouter.Queue.Evolves

/-! # Handling a request, step by step

    What `sr_arpcache_handle_arpreq` did when it returned, as equations on the
    state, and that handling requests only ever moves the queue along
    `Evolves`, even when it crashes or never comes back.
-/

namespace SimpleRouter

open Framework Framework.Bytes RouterState

/-! ### Destroying -/

namespace RouterState

variable {s : RouterState}

/-- The queue after the request at `req` was destroyed. -/
def destroyReq (s : RouterState) (req : Nat) : RouterState :=
  (s.setRequests (s.reqs.eraseP fun r => r.addr = req)).emit (.destroyed req)

theorem WellFormed.eraseReq (h : WellFormed s) (req : Nat) :
    WellFormed (s.setRequests (s.reqs.eraseP fun r => r.addr = req)) where
  addr_nodup := by
    have hsub : (s.reqs.eraseP fun r => r.addr = req).Sublist s.reqs := List.eraseP_sublist
    exact ((hsub.append (List.Sublist.refl s.detached)).map _).nodup h.addr_nodup
  ip_nodup := ((List.eraseP_sublist (l := s.reqs)).map _).nodup h.ip_nodup
  addr_lt := by
    intro r hr
    apply h.addr_lt r
    rcases List.mem_append.mp hr with hr | hr
    · exact List.mem_append_left _ (List.mem_of_mem_eraseP hr)
    · exact List.mem_append_right _ hr

theorem WellFormed.destroyReq (h : WellFormed s) (req : Nat) : WellFormed (s.destroyReq req) :=
  (h.eraseReq req).emit _

theorem mem_destroyReq (h : WellFormed s) {req : Nat} {r : SrArpreq} :
    r ∈ (s.destroyReq req).reqs ↔ r ∈ s.reqs ∧ r.addr ≠ req := by
  constructor
  · intro hr
    refine ⟨List.mem_of_mem_eraseP hr, fun he => ?_⟩
    have hnd : ((s.reqs.eraseP fun r => r.addr = req).map (·.addr)).Nodup :=
      (List.eraseP_sublist.map _).nodup h.addrs_nodup
    obtain ⟨r', l₁, l₂, hl₁, hreq, hs, herase⟩ :=
      List.exists_of_eraseP (p := fun r => decide (r.addr = req))
        (List.mem_of_mem_eraseP hr) (by simpa using he)
    have hr' : r ∈ l₁ ++ l₂ := herase ▸ hr
    rcases List.mem_append.mp hr' with hm | hm
    · exact hl₁ r hm (by simpa using he)
    · have hdup := h.addrs_nodup
      simp only [addrs, hs, List.map_append, List.map_cons] at hdup
      have hnot := (List.nodup_cons.mp (List.nodup_append.mp hdup).2.1).1
      have hreq' : r'.addr = req := by simpa using hreq
      exact hnot (List.mem_map.mpr ⟨r, hm, he.trans hreq'.symm⟩)
  · intro hboth
    obtain ⟨hr, hne⟩ := hboth
    exact (List.mem_eraseP_of_neg (by simpa using hne)).mpr hr

end RouterState

theorem sr_arpreq_destroy_eq {s : RouterState} {req : Nat} (h : (s.reqAt req).isSome) :
    sr_arpreq_destroy req s = (.returned (), s.destroyReq req) := by
  simp only [sr_arpreq_destroy, Prog.read_bind, if_pos h]
  rfl

/-! ### Handling at `now` -/

variable {sr : SrInstance} {heap : Heap} {now : time_t}

theorem Evolves.destroyReq {s : RouterState} (h : WellFormed s) {r : SrArpreq} (hr : r ∈ s.reqs)
    (hexp : Expired now r) : Evolves sr now s (s.destroyReq r.addr) :=
  (Evolves.destroy h hr hexp).trans h (Evolves.emit (h.eraseReq r.addr) _)

/-- What handling requests does to a well-formed queue. -/
def Handles (sr : SrInstance) (now : time_t) (s s' : RouterState) : Prop :=
  WellFormed s → WellFormed s' ∧ Evolves sr now s s'

theorem Handles.refl (s : RouterState) : Handles sr now s s := fun h => ⟨h, Evolves.refl h⟩

theorem Handles.trans (s t u : RouterState) (h : Handles sr now s t) (h' : Handles sr now t u) :
    Handles sr now s u := by
  intro hs
  obtain ⟨ht, hst⟩ := h hs
  obtain ⟨hu, htu⟩ := h' ht
  exact ⟨hu, hst.trans hs htu⟩

theorem Handles.emit (s : RouterState) (e : Event) : Handles sr now s (s.emit e) :=
  fun h => ⟨h.emit e, Evolves.emit h e⟩

theorem Handles.alloc (s : RouterState) : Handles sr now s s.alloc :=
  fun h => ⟨h.alloc, Evolves.alloc h⟩

theorem malloc_apply (s : RouterState) : malloc s = (.returned s.brk, s.alloc) := rfl

theorem sr_send_packet_apply (msg : Message) (buf : RawFrame) (iface : IfName) (s : RouterState) :
    sr_send_packet sr msg buf iface s =
      (.returned (), s.emit (.sent msg buf iface (decide (SrEthernetHdr.size ≤ buf.length) &&
        sr_ether_addrs_match_interface sr buf iface))) := rfl

/-! ### The end of every branch that sends an IP frame -/

theorem send_or_queue_hit {handle : Nat → Router Unit} {msg : Message} {ip : uint32_t}
    {buf : RawFrame} {iface : IfName} {s : RouterState} {entry : SrArpentry}
    (h : sr_arpcache_lookup s.cache ip = some entry) :
    send_or_queue sr handle msg ip buf iface s =
      sr_send_packet sr msg (set_ether_dhost buf entry.mac) iface s := by
  simp only [send_or_queue, Prog.read_bind, h]

theorem send_or_queue_miss {handle : Nat → Router Unit} {msg : Message} {ip : uint32_t}
    {buf : RawFrame} {iface : IfName} {s : RouterState} (hbuf : buf.length ≠ 0)
    (h : sr_arpcache_lookup s.cache ip = none) :
    send_or_queue sr handle msg ip buf iface s =
      handle (s.queueTarget ip) (s.queuePacket msg ip buf iface) := by
  simp only [send_or_queue, Prog.read_bind, h]
  rw [Prog.bind_of_returned (sr_arpcache_queuereq_eq hbuf s)]

/-! ### The parts of `sr_arpcache_handle_arpreq` -/

/-- The queue after one more broadcast for `r`. -/
def RouterState.askReq (s : RouterState) (now : time_t) (r : SrArpreq) : RouterState :=
  s.updateReq r.addr fun r => { r with sent := now, times_sent := r.times_sent + 1 }

theorem marks_asked (now : time_t) :
    Marks fun r => { r with sent := now, times_sent := r.times_sent + 1 } :=
  fun _ => ⟨rfl, rfl, rfl⟩

/-- A request that was just asked for has not expired. -/
theorem not_expired_asked (r : SrArpreq) :
    ¬ Expired now { r with sent := now, times_sent := r.times_sent + 1 } := by
  simp [Expired]

theorem askReq_handles {s : RouterState} {r : SrArpreq} (hr : r ∈ s.reqs)
    (hexp : ¬ Expired now r) : Handles sr now s (s.askReq now r) := by
  intro h
  refine ⟨h.updateReq (fun _ => rfl) (fun _ => rfl), Evolves.updateReq h (fun _ => rfl) ?_⟩
  intro r' hr' haddr
  obtain rfl := h.addr_inj hr' hr haddr
  exact SameRequest.of_not_expired rfl hexp (not_expired_asked r')

/-- The three ways in which a request is asked for or not. -/
theorem send_arp_request_eq (s : RouterState) (r : SrArpreq) :
    send_arp_request sr now r s =
      match sr_findLPMentry sr.routing_table r.ip with
      | none => (.fault .null_rtentry, s)
      | some rtentry =>
        match sr_get_interface sr rtentry.interface with
        | none => (.fault .null_interface, s)
        | some ifc =>
          sr_send_packet sr (.arp_request r.addr now) (arp_request_frame ifc r.ip) ifc.name
            (s.askReq now r) := by
  unfold send_arp_request
  cases hrt : sr_findLPMentry sr.routing_table r.ip with
  | none => rfl
  | some rtentry =>
    cases hifc : sr_get_interface sr rtentry.interface with
    | none => simp only [hifc, Prog.fail_apply]
    | some ifc => simp only [hifc, Prog.modify_bind, RouterState.askReq]

theorem send_arp_request_handles {s : RouterState} {r : SrArpreq} (hr : r ∈ s.reqs)
    (hexp : ¬ Expired now r) : Handles sr now s (send_arp_request sr now r s).2 := by
  rw [send_arp_request_eq]
  split
  · exact Handles.refl s
  · split
    · exact Handles.refl s
    · exact (askReq_handles hr hexp).trans _ _ _ (Handles.emit _ _)

theorem send_arp_request_returned {s s' : RouterState} {r : SrArpreq}
    (h : send_arp_request sr now r s = (.returned (), s')) :
    ∃ rtentry ifc accepted, sr_findLPMentry sr.routing_table r.ip = some rtentry ∧
      sr_get_interface sr rtentry.interface = some ifc ∧
      s' = (s.askReq now r).emit (.sent (.arp_request r.addr now) (arp_request_frame ifc r.ip)
        ifc.name accepted) := by
  rw [send_arp_request_eq] at h
  split at h
  · simp at h
  · next rtentry hrt =>
    split at h
    · simp at h
    · next ifc hifc =>
      simp only [sr_send_packet_apply, Prod.mk.injEq, true_and] at h
      exact ⟨rtentry, ifc, _, hrt, hifc, h.symm⟩

section discard
variable {handle : Nat → Router Unit} {req : Nat} {pck : SrPacket}

/-- The queue when the sender of `pck` is answered through it. -/
def RouterState.queueAnswer (s : RouterState) (heap : Heap) (req : Nat) (pck : SrPacket)
    (rtentry : SrRt) (ifc : SrIf) : RouterState :=
  s.alloc.queuePacket (.host_unreachable req pck.addr) (source pck)
    (icmp_t3_frame heap s.brk ifc 1 pck.buf) rtentry.interface

variable (heap now req) in
theorem queueAnswer_handles {s : RouterState} {rtentry : SrRt} {ifc : SrIf}
    (hrt : sr_findLPMentry sr.routing_table (source pck) = some rtentry)
    (hifc : sr_get_interface sr rtentry.interface = some ifc) :
    Handles sr now s (s.queueAnswer heap req pck rtentry ifc) := by
  intro h
  have hans : reply_ip sr (source pck) =
      some (ip_hdr (icmp_t3_frame heap s.brk ifc 1 pck.buf)).ip_src := by
    simp [reply_ip_eq hrt hifc]
  exact ⟨h.alloc.queuePacket .., (Evolves.alloc h).trans h (Evolves.queuePacket h.alloc hans)⟩

/-- The four ways in which the sender of a frame is answered or not. -/
theorem answer_sender_eq (s : RouterState) :
    answer_sender sr heap handle req pck s =
      match sr_findLPMentry sr.routing_table (source pck) with
      | none => (.returned (), s.alloc)
      | some rtentry =>
        match sr_get_interface sr rtentry.interface with
        | none => (.fault .null_interface, s.alloc)
        | some ifc =>
          match sr_arpcache_lookup s.cache (source pck) with
          | some entry =>
            sr_send_packet sr (.host_unreachable req pck.addr)
              (set_ether_dhost (icmp_t3_frame heap s.brk ifc 1 pck.buf) entry.mac)
              rtentry.interface s.alloc
          | none =>
            handle (s.alloc.queueTarget (source pck)) (s.queueAnswer heap req pck rtentry ifc) := by
  simp only [answer_sender]
  rw [Prog.bind_of_returned (malloc_apply s)]
  show (match sr_findLPMentry sr.routing_table (source pck) with
    | none => (pure () : Router Unit)
    | some rtentry => _) s.alloc = _
  cases hrt : sr_findLPMentry sr.routing_table (source pck) with
  | none => rfl
  | some rtentry =>
    cases hifc : sr_get_interface sr rtentry.interface with
    | none => simp only [hifc, Prog.fail_apply]
    | some ifc =>
      cases hl : sr_arpcache_lookup s.cache (source pck) with
      | some entry =>
        simp only [hifc]
        exact send_or_queue_hit hl
      | none =>
        simp only [hifc]
        exact send_or_queue_miss (by simp) hl

variable (heap req pck) in
theorem answer_sender_handles (hrec : ∀ a, Prog.Moves (Handles sr now) (handle a)) :
    Prog.Moves (Handles sr now) (answer_sender sr heap handle req pck) := by
  intro s
  rw [answer_sender_eq]
  split
  · exact Handles.alloc s
  · next rtentry hrt =>
    split
    · exact Handles.alloc s
    · next ifc hifc =>
      split
      · exact (Handles.alloc s).trans _ _ _ (Handles.emit _ _)
      · exact (queueAnswer_handles heap now req hrt hifc).trans _ _ _ (hrec _ _)

variable (heap req pck) in
theorem discard_packet_handles (hrec : ∀ a, Prog.Moves (Handles sr now) (handle a)) :
    Prog.Moves (Handles sr now) (discard_packet sr heap handle req pck) := by
  apply Prog.moves_bind Handles.trans (answer_sender_handles heap req pck hrec)
  intro _
  apply Prog.moves_read
  intro t
  split
  · exact Handles.refl t
  · exact Handles.refl t

/-- A frame was discarded: its sender was answered, and the request is still there. -/
theorem discard_packet_returned {s s' : RouterState}
    (h : discard_packet sr heap handle req pck s = (.returned (), s')) :
    answer_sender sr heap handle req pck s = (.returned (), s') ∧ (s'.reqAt req).isSome := by
  obtain ⟨⟨⟩, t, hans, hrest⟩ := Prog.bind_eq_returned.mp h
  rw [Prog.read_bind] at hrest
  split at hrest
  · next hlive =>
    simp only [Prog.pure_apply, Prod.mk.injEq, true_and] at hrest
    subst hrest
    exact ⟨hans, hlive⟩
  · simp at hrest

theorem discard_packets_live {pcks : List SrPacket} {s t : RouterState}
    (hs : (s.reqAt req).isSome)
    (h : Prog.forEach pcks (discard_packet sr heap handle req) s = (.returned (), t)) :
    (t.reqAt req).isSome :=
  Prog.forEach_returned (I := fun _ s => (s.reqAt req).isSome) hs
    (fun _ _ _ _ _ _ _ hbody => (discard_packet_returned hbody).2) h

end discard

/-! ### The whole of it -/

/-- The loop over the frames waiting on an expired request. -/
abbrev discard_packets (sr : SrInstance) (heap : Heap) (now : time_t) (fuel : Nat)
    (r : SrArpreq) : Router Unit :=
  Prog.forEach r.packets (discard_packet sr heap (sr_arpcache_handle_arpreq sr heap now fuel) r.addr)

/-- The four ways in which a request is handled. -/
theorem handle_arpreq_eq (fuel req : Nat) (s : RouterState) :
    sr_arpcache_handle_arpreq sr heap now (fuel + 1) req s =
      match s.reqAt req with
      | none => (.fault .freed_request, s)
      | some r =>
        if Expired now r then
          (discard_packets sr heap now fuel r >>= fun _ => sr_arpreq_destroy r.addr) s
        else if now - r.sent > 1 then send_arp_request sr now r s
        else (.returned (), s) := by
  rw [sr_arpcache_handle_arpreq, Prog.read_bind]
  cases hr : s.reqAt req with
  | none => rfl
  | some r =>
    obtain rfl := (reqAt_some hr).2
    by_cases hdue : now - r.sent > 1
    · by_cases htimes : r.times_sent ≥ 5
      · simp only [if_pos hdue, if_pos htimes, if_pos (show Expired now r from ⟨hdue, htimes⟩)]
      · simp only [if_pos hdue, if_neg htimes, if_neg (fun h : Expired now r => htimes h.2)]
    · simp only [if_neg hdue, if_neg (fun h : Expired now r => hdue h.1), Prog.pure_apply]

/-- The frames of an expired request were discarded: it is destroyed. -/
theorem discard_and_destroy_eq {fuel : Nat} {s t : RouterState} {r : SrArpreq} (hr : r ∈ s.reqs)
    (h : discard_packets sr heap now fuel r s = (.returned (), t)) :
    (t.reqAt r.addr).isSome ∧
      (discard_packets sr heap now fuel r >>= fun _ => sr_arpreq_destroy r.addr) s =
        (.returned (), t.destroyReq r.addr) := by
  have hlive := discard_packets_live (reqAt_isSome.mpr ⟨r, hr, rfl⟩) h
  rw [Prog.bind_of_returned h, sr_arpreq_destroy_eq hlive]
  exact ⟨hlive, rfl⟩

variable (sr heap now) in
/-- Handling a request only moves the queue along `Evolves`, however it ends. -/
theorem handle_arpreq_handles (fuel req : Nat) :
    Prog.Moves (Handles sr now) (sr_arpcache_handle_arpreq sr heap now fuel req) := by
  induction fuel generalizing req with
  | zero => exact Prog.moves_exhaust Handles.refl
  | succ fuel ih =>
    intro s h
    rw [handle_arpreq_eq]
    split
    · exact Handles.refl s h
    · next r hr =>
      obtain ⟨hmem, rfl⟩ := reqAt_some hr
      split
      · next hexp =>
        -- the loop only moves along, so the request has still expired when it is freed
        have hloop : Handles sr now s (discard_packets sr heap now fuel r s).2 :=
          Prog.moves_forEach Handles.refl Handles.trans
            (fun _ _ => discard_packet_handles heap _ _ ih) s
        rcases hrun : discard_packets sr heap now fuel r s with ⟨_ | _ | _, t⟩ <;>
          rw [hrun] at hloop
        · obtain ⟨hlive, heq⟩ := discard_and_destroy_eq hmem hrun
          obtain ⟨ht, hst⟩ := hloop h
          obtain ⟨r', hr', haddr⟩ := reqAt_isSome.mp hlive
          have hexp' : Expired now r' := (hst.same r hmem r' hr' haddr).expired.mpr hexp
          rw [heq]
          exact ⟨ht.destroyReq _, hst.trans h (haddr ▸ Evolves.destroyReq ht hr' hexp')⟩
        · rw [Prog.bind_of_fault hrun]
          exact hloop h
        · rw [Prog.bind_of_exhausted hrun]
          exact hloop h
      · next hexp =>
        split
        · exact send_arp_request_handles hmem hexp h
        · exact Handles.refl s h

/-- The queue after a call, however it ended. -/
theorem handle_arpreq_evolves {fuel req : Nat} {s s' : RouterState} {o : Outcome Fault Unit}
    (hs : WellFormed s) (hrun : sr_arpcache_handle_arpreq sr heap now fuel req s = (o, s')) :
    WellFormed s' ∧ Evolves sr now s s' := by
  have h := handle_arpreq_handles sr heap now fuel req s hs
  rwa [hrun] at h

theorem answer_sender_evolves {fuel req : Nat} {pck : SrPacket} {s s' : RouterState}
    {o : Outcome Fault Unit} (hs : WellFormed s)
    (hrun : answer_sender sr heap (sr_arpcache_handle_arpreq sr heap now fuel) req pck s = (o, s')) :
    WellFormed s' ∧ Evolves sr now s s' := by
  have h := answer_sender_handles heap req pck (handle_arpreq_handles sr heap now fuel) s hs
  rwa [hrun] at h

theorem discard_packet_evolves {fuel req : Nat} {pck : SrPacket} {s s' : RouterState}
    {o : Outcome Fault Unit} (hs : WellFormed s)
    (hrun : discard_packet sr heap (sr_arpcache_handle_arpreq sr heap now fuel) req pck s =
      (o, s')) : WellFormed s' ∧ Evolves sr now s s' := by
  have h := discard_packet_handles heap req pck (handle_arpreq_handles sr heap now fuel) s hs
  rwa [hrun] at h

/-- What a call on `r` did when it returned: nothing, or it asked for the request, or it
    discarded the frames and destroyed the request. -/
inductive Handled (sr : SrInstance) (heap : Heap) (now : time_t) (fuel : Nat) (s : RouterState)
    (r : SrArpreq) (s' : RouterState) : Prop where
  | idle (hdue : ¬ now - r.sent > 1) (hs' : s' = s)
  | asked (hdue : now - r.sent > 1) (hexp : ¬ Expired now r)
      (hask : send_arp_request sr now r s = (.returned (), s'))
  | discarded {t : RouterState} (hexp : Expired now r)
      (hloop : discard_packets sr heap now fuel r s = (.returned (), t))
      (hlive : (t.reqAt r.addr).isSome) (hs' : s' = t.destroyReq r.addr)

theorem handle_arpreq_returned {fuel : Nat} {s s' : RouterState} {r : SrArpreq}
    (hs : WellFormed s) (hr : r ∈ s.reqs)
    (h : sr_arpcache_handle_arpreq sr heap now fuel r.addr s = (.returned (), s')) :
    ∃ n, fuel = n + 1 ∧ Handled sr heap now n s r s' := by
  cases fuel with
  | zero => simp [sr_arpcache_handle_arpreq] at h
  | succ n =>
    refine ⟨n, rfl, ?_⟩
    rw [handle_arpreq_eq, hs.reqAt_eq hr] at h
    simp only at h
    split at h
    · next hexp =>
      obtain ⟨⟨⟩, t, hloop, -⟩ := Prog.bind_eq_returned.mp h
      obtain ⟨hlive, heq⟩ := discard_and_destroy_eq hr hloop
      rw [heq, Prod.mk.injEq] at h
      exact .discarded hexp hloop hlive h.2.symm
    · next hexp =>
      split at h
      · next hdue => exact .asked hdue hexp h
      · next hdue => exact .idle hdue (Prod.mk.inj h).2.symm

end SimpleRouter
