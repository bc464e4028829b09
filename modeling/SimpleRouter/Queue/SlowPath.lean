import SimpleRouter.Cache.Lifetime
import SimpleRouter.Queue.Ledger
import SimpleRouter.Safety.SenderCheck

/-! # The fast path and the slow path

    Every branch that sends an IP frame does it in one of two ways. If the
    address is known, it is filled in and the frame goes out. If not, a copy of
    the frame is put aside, and much later another part of the program fills in
    the address and sends the copy. The frames are the same.

    * `fast_path`: what is sent when the address is known.
    * `slow_path`: what is put aside when it is not.
    * `slow_path_returns`: when the call that does so comes back.
    * `PutAside`: what is left of it until the address is learned.
    * `paths_agree`: the same frame goes out, on the same interface.
-/

namespace SimpleRouter

open Framework Framework.Prog RouterState

variable {sr : SrInstance} {heap : Heap} {now : time_t} {s t : RouterState} {l : Label}
  {packet frame : RawFrame} {interface iface : IfName} {buf : Nat} {msg : Message}
  {ip : uint32_t} {mac : EtherAddr}

/-! ### What is sent for a packet -/

/-- The branches that send an IP frame leave it to be sent to the address of an IP. -/
theorem Resolves.todo (h : Resolves sr heap buf packet interface msg ip frame iface)
    (hip : has_ether_type packet ethertype_ip) :
    sr_handlepacket_todo sr heap buf packet interface = .resolve msg ip frame iface := by
  obtain ⟨hlen, htype⟩ : SrEthernetHdr.size ≤ packet.length ∧
      (SrEthernetHdr.ofBytes packet).ether_type = htons ethertype_ip := by
    simpa [has_ether_type] using hip
  rw [sr_handlepacket_todo, if_neg (by omega), if_pos htype]
  cases h with
  | echo_reply hbranch hrt hifc => simp only [hbranch, sr_ip_todo, hrt, hifc]
  | forward hbranch hifc => simp only [hbranch, sr_ip_todo, hifc]
  | error herror hifc =>
    generalize sr_ip_branch sr packet = branch at herror
    cases herror with
    | port_unreachable => simp only [sr_ip_todo, answer_error, hifc]
    | time_exceeded => simp only [sr_ip_todo, answer_error, hifc]
    | net_unreachable => simp only [sr_ip_todo, answer_error, hifc]

/-- The state in which the cache is looked at for an IP packet. -/
abbrev taken (sr : SrInstance) (packet : RawFrame) (s : RouterState) : RouterState :=
  s.alloc.emit (.took (sr_ip_branch sr packet))

variable (now) in
theorem packet_eq (hip : has_ether_type packet ethertype_ip)
    (hres : Resolves sr heap s.brk packet interface msg ip frame iface) (fuel : Nat) :
    run_label sr heap fuel (.packet now packet interface) s =
      send_or_queue sr (sr_arpcache_handle_arpreq sr heap now fuel) msg ip frame iface
        (taken sr packet s) := by
  rw [run_label, handlepacket_eq, if_pos hip, hres.todo hip]
  rfl

/-- **The fast path**: the address is known. -/
theorem fast_path (hip : has_ether_type packet ethertype_ip)
    (hres : Resolves sr heap s.brk packet interface msg ip frame iface)
    (hknown : Used s.cache mac ip) (fuel : Nat) (now : time_t) :
    ∃ t, run_label sr heap fuel (.packet now packet interface) s = (.returned (), t) ∧
      t.cache = s.cache ∧
      t.log = s.log ++ [.took (sr_ip_branch sr packet),
        .sent msg (set_ether_dhost frame mac) iface true] := by
  obtain ⟨entry, hentry, rfl⟩ := hknown
  have hl : sr_arpcache_lookup (taken sr packet s).cache ip = some entry := hentry
  have haccepts := ((Sendable.of_resolves hres).set_ether_dhost entry.mac).accepts
  refine ⟨(taken sr packet s).send sr msg (set_ether_dhost frame entry.mac) iface, ?_, rfl, ?_⟩
  · rw [packet_eq now hip hres, send_or_queue_hit hl]
    rfl
  · simp [RouterState.send, haccepts]

/-! ### What is put aside -/

/-- A broadcast for `req`. -/
def Event.IsRequest (req : Nat) (e : Event) : Prop :=
  ∃ time buf iface accepted, e = .sent (.arp_request req time) buf iface accepted

theorem Event.IsRequest.releasedFrame {req : Nat} {e : Event} (h : e.IsRequest req) :
    e.releasedFrame = none := by
  obtain ⟨time, buf, iface, accepted, rfl⟩ := h
  rfl

/-- The frame `pck` waits on the request `req` for `ip`, and was not sent so far. -/
structure PutAside (ip : uint32_t) (req : Nat) (pck : SrPacket) (s : RouterState) : Prop where
  ledger : Ledger s
  request : ∃ r ∈ s.reqs, r.addr = req ∧ r.ip = ip ∧ pck ∈ r.packets
  unsent : deliveries pck.addr s.log = []

/-- The request that a frame is the first one of. -/
theorem mem_queuePacket_new (h : s.reqFor ip = none) (msg : Message) (buf : RawFrame)
    (iface : IfName) :
    ⟨s.brk, ip, 0, 0, [⟨s.brk + 1, buf, iface⟩]⟩ ∈ (s.queuePacket msg ip buf iface).reqs := by
  have hready : s.queueReady ip = s.appendReq ip := by simp only [queueReady, h]
  have htarget : s.queueTarget ip = s.brk := by simp only [queueTarget, h]
  refine mem_updateReq.mpr ⟨⟨s.brk, ip, 0, 0, []⟩, ?_, ?_⟩
  · rw [hready]
    exact List.mem_append_right _ (List.mem_singleton.mpr rfl)
  · rw [hready, htarget, if_pos rfl]
    rfl

/-- Handling a new request asks for it at most. -/
theorem handle_new (hs : WellFormed s) {r : SrArpreq} (hr : r ∈ s.reqs)
    (hnew : r.times_sent = 0) {fuel : Nat}
    (hrun : sr_arpcache_handle_arpreq sr heap now fuel r.addr s = (.returned (), t)) :
    ∃ asked, t.log = s.log ++ asked ∧ (∀ e ∈ asked, e.IsRequest r.addr) ∧
      ∃ r' ∈ t.reqs, r'.addr = r.addr ∧ r'.ip = r.ip ∧ r'.packets = r.packets := by
  obtain ⟨n, -, hdone⟩ := handle_arpreq_returned hs hr hrun
  cases hdone with
  | idle _ hs' =>
    subst hs'
    exact ⟨[], (List.append_nil _).symm, by simp, r, hr, rfl, rfl, rfl⟩
  | asked _ _ hask =>
    obtain ⟨_, ifc, accepted, -, -, rfl⟩ := send_arp_request_returned hask
    refine ⟨[_], rfl, List.forall_mem_singleton.mpr ⟨_, _, _, _, rfl⟩, ?_⟩
    exact ⟨_, mem_updateReq.mpr ⟨r, hr, rfl⟩, by simp, by simp, by simp⟩
  | discarded hexp =>
    -- it takes 5 broadcasts to expire
    have htimes := hexp.2
    omega

/-- **The slow path**: the address is not known, and was not asked for. -/
theorem slow_path (hs : Ledger s) (hip : has_ether_type packet ethertype_ip)
    (hres : Resolves sr heap s.brk packet interface msg ip frame iface)
    (hunknown : sr_arpcache_lookup s.cache ip = none) (hunasked : s.reqFor ip = none) {fuel : Nat}
    (hrun : run_label sr heap fuel (.packet now packet interface) s = (.returned (), t)) :
    ∃ req pck, (∃ asked,
        t.log = s.log ++ [.took (sr_ip_branch sr packet), .queued msg req pck] ++ asked ∧
        ∀ e ∈ asked, e.IsRequest req) ∧
      pck.buf = frame ∧ pck.iface = iface ∧ PutAside ip req pck t := by
  let s₁ := taken sr packet s
  let pck : SrPacket := ⟨s₁.brk + 1, frame, iface⟩
  have hs₁ : WellFormed s₁ := hs.wellFormed.alloc.emit _
  have hasked₁ : s₁.reqFor ip = none := hunasked
  have hunknown₁ : sr_arpcache_lookup s₁.cache ip = none := hunknown
  have htarget : s₁.queueTarget ip = s₁.brk := by simp only [queueTarget, hasked₁]
  have hready : (s₁.queueReady ip).brk = s₁.brk + 1 := by
    simp only [queueReady, hasked₁]
    rfl
  have ht : Ledger t := by
    have hkept := (ledger_moves sr heap).run_label (l := .packet now packet interface) trivial hs
      fuel
    rwa [hrun] at hkept
  -- the frame is the first of a new request, and that is asked for
  rw [packet_eq now hip hres, send_or_queue_miss hres.length hunknown₁, htarget] at hrun
  obtain ⟨asked, hlog, hasked, r, hr, haddr, hip', hpackets⟩ :=
    handle_new (hs₁.queuePacket msg ip frame iface)
      (mem_queuePacket_new hasked₁ msg frame iface) rfl hrun
  have hnew : t.log = s.log ++ [.took (sr_ip_branch sr packet),
      .queued msg s₁.brk pck] ++ asked := by
    rw [hlog, queuePacket_log, htarget, hready]
    simp [s₁, pck]
  -- no frame was stored at the new address before, and none was sent since
  have hold : deliveries pck.addr s.log = [] := hs.unsent fun x hx hsame => by
    have hlt := (hs.lt_brk x hx).2
    have hfresh : pck.addr = s.brk + 2 := rfl
    omega
  have hunsent : deliveries pck.addr t.log = [] := by
    rw [hnew, deliveries_append, deliveries_append, hold]
    exact List.filter_eq_nil_iff.mpr fun e he => by simp [(hasked e he).releasedFrame]
  exact ⟨s₁.brk, pck, ⟨asked, hnew, hasked⟩, rfl, rfl, ht,
    ⟨r, hr, haddr, hip', by simp [hpackets, pck]⟩, hunsent⟩

/-- The call comes back if the IP can be asked for. -/
theorem slow_path_returns {rtentry : SrRt} (hs : WellFormed s)
    (hip : has_ether_type packet ethertype_ip)
    (hres : Resolves sr heap s.brk packet interface msg ip frame iface)
    (hunknown : sr_arpcache_lookup s.cache ip = none) (hunasked : s.reqFor ip = none)
    (hrt : sr_findLPMentry sr.routing_table ip = some rtentry)
    (hifc : (sr_get_interface sr rtentry.interface).isSome) (fuel : Nat) (now : time_t) :
    ∃ t, run_label sr heap (fuel + 1) (.packet now packet interface) s = (.returned (), t) := by
  obtain ⟨ifc, hifc⟩ := Option.isSome_iff_exists.mp hifc
  have hs₁ : WellFormed (taken sr packet s) := hs.alloc.emit _
  have hunasked₁ : (taken sr packet s).reqFor ip = none := hunasked
  have hunknown₁ : sr_arpcache_lookup (taken sr packet s).cache ip = none := hunknown
  have htarget : (taken sr packet s).queueTarget ip = (taken sr packet s).brk := by
    simp only [queueTarget, hunasked₁]
  have hmem := mem_queuePacket_new hunasked₁ msg frame iface
  obtain ⟨t, ht⟩ : ∃ t, sr_arpcache_handle_arpreq sr heap now 1 (taken sr packet s).brk
      ((taken sr packet s).queuePacket msg ip frame iface) = (.returned (), t) :=
    handle_returns_of_not_expired sr heap (hs₁.queuePacket msg ip frame iface) hmem
      (fun hexp => absurd hexp.2 (by simp)) fun _ => by simp [reply_ip_eq hrt hifc]
  refine ⟨t, ?_⟩
  rw [packet_eq now hip hres, send_or_queue_miss hres.length hunknown₁, htarget]
  exact Prog.Le.returned (handle_arpreq_le (Nat.le_add_left 1 fuel) _) ht

/-! ### Until the address is learned -/

/-- The step announces no address for `ip`, and a request for `ip` has not expired. -/
structure Spares (sr : SrInstance) (ip : uint32_t) (s : RouterState) (l : Label) : Prop where
  silent : ∀ mac, announced sr l ≠ some (mac, ip)
  young : ∀ r ∈ s.reqs, r.ip = ip → ¬ Expired l.now r

namespace PutAside

variable {req : Nat} {pck : SrPacket}

theorem mem_queued (h : PutAside ip req pck s) : (req, pck) ∈ queuedFrames s.log := by
  obtain ⟨r, hr, rfl, -, hpck⟩ := h.request
  exact (h.ledger.mem_packets hr).mp hpck

/-- **A step** that spares the request leaves the frame where it is. -/
theorem step (h : PutAside ip req pck s) (hl : Spares sr ip s l)
    (hstep : (router sr heap).step s l t) : PutAside ip req pck t := by
  obtain ⟨fuel, hrun⟩ := hstep
  obtain ⟨r, hr, haddr, hip, hpck⟩ := h.request
  have hwf := h.ledger.wellFormed
  have ht : Ledger t := by
    have hkept := (ledger_moves sr heap).run_label (l := l) trivial h.ledger fuel
    rwa [hrun] at hkept
  cases hann : announced sr l with
  | none =>
    have hfollows := step_follows sr heap hwf hann fuel
    have hacc := step_accounts sr heap hwf hann fuel
    rw [hrun] at hfollows hacc
    -- nothing is taken off a request that has not expired
    obtain ⟨r', hr', hcont⟩ := hfollows.kept r hr (hl.young r hr hip)
    exact ⟨ht, ⟨r', hr', hcont.addr.trans haddr, hcont.ip.trans hip, hcont.packets.subset hpck⟩,
      (hacc.deliveries pck.addr).trans h.unsent⟩
  | some mapping =>
    obtain ⟨mac, ip'⟩ := mapping
    have hne : ip ≠ ip' := fun heq => hl.silent mac (by rw [hann, heq])
    obtain rfl : s.alloc.release sr mac ip' l.now = t :=
      (Prod.mk.inj ((announce_eq hwf hann fuel).symm.trans hrun)).2
    refine ⟨ht, ⟨r, (mem_release hwf.alloc).mpr ⟨hr, hip ▸ hne⟩, haddr, hip, hpck⟩, ?_⟩
    -- the frame is on one request only, and that is for another IP
    have hother : ∀ r' ∈ s.reqs, r'.ip = ip' → pck ∉ r'.packets := by
      intro r' hr' hip' hpck'
      have hsame := h.ledger.frame_eq ((h.ledger.mem_packets hr').mp hpck') h.mem_queued rfl
      obtain rfl := hwf.addr_inj hr' hr ((Prod.mk.inj hsame).1.trans haddr.symm)
      exact hne (hip.symm.trans hip')
    exact (h.ledger.alloc.release_spares h.mem_queued hother mac l.now).trans h.unsent

theorem run (h : PutAside ip req pck s) {τ : List (System.Taken RouterState Label)}
    (hrun : (router sr heap).Run (Spares sr ip) s τ t) : PutAside ip req pck t :=
  hrun.invariant (I := fun _ => PutAside ip req pck) h fun _ _ _ _ _ h hl hstep => h.step hl hstep

/-- The address is learned: the frame is sent. -/
theorem learn (h : PutAside ip req pck s) (hl : announced sr l = some (mac, ip)) (fuel : Nat) :
    ∃ t, run_label sr heap fuel l s = (.returned (), t) ∧
      deliveries pck.addr t.log = [delivery sr mac req pck] := by
  obtain ⟨r, hr, rfl, rfl, hpck⟩ := h.request
  refine ⟨_, announce_eq h.ledger.wellFormed hl fuel, ?_⟩
  rw [h.ledger.alloc.release_delivers (s := s.alloc) hr hpck, alloc_log, h.unsent, List.nil_append]

end PutAside

/-! ### The two paths -/

/-- Two states that differ in the entries of the cache only: in the first, `ip` is known to be
    at `mac`, and in the second, it is neither known nor asked for. -/
structure DifferAt (ip : uint32_t) (mac : EtherAddr) (s₁ s₂ : RouterState) : Prop where
  same : s₁ = s₂.setEntries s₁.cache.entries
  known : Used s₁.cache mac ip
  unknown : sr_arpcache_lookup s₂.cache ip = none
  unasked : s₂.reqFor ip = none

/-- **The fast path and the slow path send the same frame.** An accepted packet is answered or
    passed on at once if the address is known. If it is neither known nor asked for, then the
    frame is put aside, and when the address is learned, after any steps that do not give up or
    answer the request, it goes out once: the same bytes, on the same interface. The call that
    puts it aside comes back if the IP has a route over an interface of ours. -/
theorem paths_agree {s₁ s₂ : RouterState} (hs : Ledger s₂)
    (hdiffer : DifferAt ip mac s₁ s₂) (hip : has_ether_type packet ethertype_ip)
    (hres : Resolves sr heap s₂.brk packet interface msg ip frame iface) :
    ∃ out, (∀ fuel now, ∃ t,
        run_label sr heap fuel (.packet now packet interface) s₁ = (.returned (), t) ∧
        t.log = s₁.log ++ [.took (sr_ip_branch sr packet), .sent msg out iface true]) ∧
      (∀ fuel now t,
        run_label sr heap fuel (.packet now packet interface) s₂ = (.returned (), t) →
        ∃ req pck, (∃ asked, t.log =
            s₂.log ++ [.took (sr_ip_branch sr packet), .queued msg req pck] ++ asked ∧
          ∀ e ∈ asked, e.IsRequest req) ∧
        ∀ τ u, (router sr heap).Run (Spares sr ip) t τ u →
          ∀ l, announced sr l = some (mac, ip) → ∀ fuel, ∃ u',
            run_label sr heap fuel l u = (.returned (), u') ∧
            deliveries pck.addr u'.log = [.sent (.released req pck.addr) out iface true]) ∧
      ∀ rtentry, sr_findLPMentry sr.routing_table ip = some rtentry →
        (sr_get_interface sr rtentry.interface).isSome → ∀ fuel now, ∃ t,
          run_label sr heap (fuel + 1) (.packet now packet interface) s₂ = (.returned (), t) := by
  have hbrk : s₁.brk = s₂.brk := by
    rw [hdiffer.same]
    rfl
  refine ⟨set_ether_dhost frame mac, fun fuel now => ?_, fun fuel now t hrun => ?_,
    fun rtentry hrt hifc => ?_⟩
  · obtain ⟨t, hrun, -, hlog⟩ := fast_path hip (hbrk ▸ hres) hdiffer.known fuel now
    exact ⟨t, hrun, hlog⟩
  · obtain ⟨req, pck, hlog, rfl, rfl, haside⟩ :=
      slow_path hs hip hres hdiffer.unknown hdiffer.unasked hrun
    refine ⟨req, pck, hlog, fun τ u hτ l hl fuel => ?_⟩
    -- whatever happens in between, the frame is still there when the address comes
    obtain ⟨u', hlearn, hsent⟩ := (haside.run hτ).learn hl fuel
    have haccepts := ((Sendable.of_resolves hres).set_ether_dhost mac).accepts
    exact ⟨u', hlearn, by rw [hsent, delivery, haccepts]⟩
  · exact slow_path_returns hs.wellFormed hip hres hdiffer.unknown hdiffer.unasked hrt hifc

namespace Sample

/-- The answer to a packet on its last hop is sent at once if the address of its sender is
    known, and else as soon as it is. -/
theorem last_hop_paths_agree :
    let s₁ := RouterState.empty.setEntries (sr_arpcache_fill RouterState.empty.cache.entries
      (Sample.mac 9) (inet_addr 172 64 3 9) 0)
    let packet := ip_frame (inet_addr 172 64 3 9) (inet_addr 192 168 2 7) 1 17 []
    ∃ out, (∀ fuel now, ∃ t,
        run_label net mem fuel (.packet now packet (eth 2)) s₁ = (.returned (), t) ∧
        t.log = s₁.log ++ [.took (sr_ip_branch net packet), .sent .time_exceeded out (eth 2) true]) ∧
      (∀ fuel now t, run_label net mem fuel (.packet now packet (eth 2)) RouterState.empty =
          (.returned (), t) →
        ∃ req pck, (∃ asked, t.log = RouterState.empty.log ++
            [.took (sr_ip_branch net packet), .queued .time_exceeded req pck] ++ asked ∧
          ∀ e ∈ asked, e.IsRequest req) ∧
        ∀ τ u, (router net mem).Run (Spares net (inet_addr 172 64 3 9)) t τ u →
          ∀ l, announced net l = some (Sample.mac 9, inet_addr 172 64 3 9) → ∀ fuel, ∃ u',
            run_label net mem fuel l u = (.returned (), u') ∧
            deliveries pck.addr u'.log = [.sent (.released req pck.addr) out (eth 2) true]) ∧
      ∀ rtentry, sr_findLPMentry net.routing_table (inet_addr 172 64 3 9) = some rtentry →
        (sr_get_interface net rtentry.interface).isSome → ∀ fuel now, ∃ t,
          run_label net mem (fuel + 1) (.packet now packet (eth 2)) RouterState.empty =
            (.returned (), t) := by
  intro s₁ packet
  have hbranch : sr_ip_branch net packet = .time_exceeded := by decide +kernel
  have hsource : (ip_hdr packet).ip_src = inet_addr 172 64 3 9 := by decide +kernel
  let ifc : SrIf := ⟨eth 2, Sample.mac 2, inet_addr 172 64 3 1⟩
  have hifc : sr_get_interface net (eth 2) = some ifc := by decide +kernel
  have herror : ErrorReply mem 1 packet ifc (sr_ip_branch net packet) .time_exceeded
      (icmp_t11_frame mem 1 ifc packet) := by
    rw [hbranch]
    exact .time_exceeded
  have hdiffer : DifferAt (ip_hdr packet).ip_src (Sample.mac 9) s₁ RouterState.empty :=
    ⟨rfl, .fill rfl (by decide +kernel) (by decide +kernel), by decide +kernel, rfl⟩
  rw [← hsource]
  exact paths_agree .empty hdiffer (by decide +kernel) (.error herror hifc)

end Sample

end SimpleRouter
