import SimpleRouter.Model.Vns
import SimpleRouter.Queue.Consistent
import SimpleRouter.Queue.Retries
import SimpleRouter.Safety.SenderCheck

/-! # Two routers resolve an address

    A request is made by one router, passes another router's filter, is turned
    into a reply in place, and comes back to be learned from. Each of these is
    its own piece of code, and they share nothing but the frame.

    * `Broadcast`: what was asked for a request is what its IP asks for.
    * `handshake`: the request is answered, and the answer completes it.
-/

namespace SimpleRouter

open Framework Framework.Prog RouterState

variable {sr : SrInstance} {heap : Heap} {now : time_t} {s t : RouterState} {l : Label}

/-! ### What is broadcast for a request -/

/-- The frame that is broadcast for `ip`, on the interface of the route to it. -/
structure AsksFor (sr : SrInstance) (ip : uint32_t) (buf : RawFrame) (iface : IfName)
    (accepted : Bool) : Prop where
  frame : ∃ rtentry ifc, sr_findLPMentry sr.routing_table ip = some rtentry ∧
    sr_get_interface sr rtentry.interface = some ifc ∧ buf = arp_request_frame ifc ip ∧
    iface = ifc.name
  accepted : accepted = true

/-- What was broadcast for a request that is pending asks for its IP. -/
structure Broadcast (sr : SrInstance) (s : RouterState) : Prop where
  wellFormed : WellFormed s
  asks : ∀ req time buf iface accepted, .sent (.arp_request req time) buf iface accepted ∈ s.log →
    req < s.brk ∧ ∀ r ∈ s.reqs, r.addr = req → AsksFor sr r.ip buf iface accepted

namespace Broadcast

theorem empty : Broadcast sr RouterState.empty where
  wellFormed := .empty
  asks _ _ _ _ _ he := by cases he

/-- Requests go on or go, new ones come, and what is new in the log asks for one of them. -/
theorem of_inherits (h : Broadcast sr s) (ht : WellFormed t) (hinherits : Inherits s t)
    (hnew : ∀ req time buf iface accepted,
      .sent (.arp_request req time) buf iface accepted ∈ t.log →
      .sent (.arp_request req time) buf iface accepted ∈ s.log ∨
      ∃ r ∈ s.reqs, r.addr = req ∧ AsksFor sr r.ip buf iface accepted) : Broadcast sr t where
  wellFormed := ht
  asks req time buf iface accepted he := by
    have hold : req < s.brk ∧ ∀ r ∈ s.reqs, r.addr = req → AsksFor sr r.ip buf iface accepted := by
      rcases hnew _ _ _ _ _ he with he | ⟨r, hr, rfl, hasks⟩
      · exact h.asks _ _ _ _ _ he
      · refine ⟨h.wellFormed.lt_brk hr, fun r' hr' haddr => ?_⟩
        rwa [h.wellFormed.addr_inj hr' hr haddr]
    obtain ⟨hlt, hall⟩ := hold
    refine ⟨Nat.lt_of_lt_of_le hlt hinherits.brk_le, fun r' hr' haddr => ?_⟩
    rcases hinherits.origin r' hr' with ⟨r, hr, hsame, hip⟩ | hfresh
    · rw [hip]
      exact hall r hr (hsame.symm.trans haddr)
    · omega

/-- No request is asked for by the events that are new. -/
theorem of_silent (h : Broadcast sr s) (ht : WellFormed t) (hinherits : Inherits s t)
    {L : List Event} (hlog : t.log = s.log ++ L) (hL : ∀ e ∈ L, e.Silent) : Broadcast sr t := by
  refine h.of_inherits ht hinherits fun req time buf iface accepted he => ?_
  rw [hlog] at he
  rcases List.mem_append.mp he with he | he
  · exact .inl he
  · have hnone := (hL _ he).broadcast req
    simp [Event.broadcast] at hnone

/-- A change that follows what was there, with an event that asks for nothing. -/
theorem of_follows (h : Broadcast sr s) (ht : WellFormed t) (hfollows : Follows now s t)
    {e : Event} (hlog : t.log = s.log ++ [e]) (he : e.Silent) : Broadcast sr t :=
  h.of_silent ht (.of_follows hfollows) hlog (List.forall_mem_singleton.mpr he)

theorem alloc (h : Broadcast sr s) : Broadcast sr s.alloc := by
  have hfollows : Follows 0 s s.alloc := .alloc s
  exact h.of_silent h.wellFormed.alloc (.of_follows hfollows) (List.append_nil _).symm (by simp)

theorem release (h : Broadcast sr s) (mac : EtherAddr) (ip : uint32_t) (now : time_t) :
    Broadcast sr (s.release sr mac ip now) := by
  have hwf := h.wellFormed.release sr mac ip now
  have hinherits := Inherits.release h.wellFormed sr mac ip now
  obtain ⟨L, hlog, hL⟩ := release_logs sr s mac ip now
  exact h.of_silent hwf hinherits hlog fun e he => Asked.release_silent (hL e he)

/-- The request `r` is asked for. -/
theorem ask (h : Broadcast sr s) {r : SrArpreq} (hr : r ∈ s.reqs) {rtentry : SrRt} {ifc : SrIf}
    (hrt : sr_findLPMentry sr.routing_table r.ip = some rtentry)
    (hifc : sr_get_interface sr rtentry.interface = some ifc) :
    Broadcast sr ((s.askReq now r).send sr (.arp_request r.addr now) (arp_request_frame ifc r.ip)
      ifc.name) := by
  refine h.of_inherits ((h.wellFormed.askReq now r).emit _) (.ask s now r _)
    fun req time buf iface accepted he => ?_
  rcases List.mem_append.mp he with he | he
  · exact .inl he
  · -- the new event is the one that asks for `r`
    have hevent := List.mem_singleton.mp he
    simp only [Event.sent.injEq, Message.arp_request.injEq] at hevent
    obtain ⟨⟨rfl, rfl⟩, rfl, rfl, rfl⟩ := hevent
    exact .inr ⟨r, hr, rfl, ⟨rtentry, ifc, hrt, hifc, rfl, rfl⟩,
      (Sendable.arp_request_frame hifc r.ip).accepts⟩

end Broadcast

variable (sr heap) in
theorem broadcast_moves : MoveRules sr heap (fun _ => True) (Broadcast sr) where
  wellFormed _ hs := hs.wellFormed
  alloc _ hs := hs.alloc
  release _ mac ip now hs := hs.release mac ip now
  expire _ _ hs := ⟨hs.wellFormed.setEntries _, hs.asks⟩
  move l s s' _ hs hmove := by
    have hwf := hmove.wellFormed hs.wellFormed
    have hfollows := hmove.follows hs.wellFormed
    cases hmove with
    | alloc => exact hs.alloc
    | took => exact hs.of_follows hwf hfollows rfl ⟨fun _ => rfl⟩
    | replied => exact hs.of_follows hwf hfollows rfl (.sent (by simp) ..)
    | sent _ _ hres => exact hs.of_follows hwf hfollows rfl (.sent_forPacket hres.forPacket ..)
    | stored => exact hs.of_follows hwf hfollows (queuePacket_log ..) ⟨fun _ => rfl⟩
    | asked hr _ _ hrt hifc => exact hs.ask hr hrt hifc
    | answered => exact hs.of_follows hwf hfollows rfl (.sent (by simp) ..)
    | answer_stored => exact hs.of_follows hwf hfollows (queuePacket_log ..) ⟨fun _ => rfl⟩
    | discarded => exact hs.of_follows hwf hfollows rfl ⟨fun _ => rfl⟩

theorem Reachable.broadcast (hs : Reachable sr heap System.always s) : Broadcast sr s :=
  (broadcast_moves sr heap).reachable .empty hs

/-! ### The link -/

/-- Interface `b` of router `B` is reached by router `A` through its interface `a`. -/
structure Linked (srA srB : SrInstance) (a b : SrIf) : Prop where
  far : sr_get_interface srB b.name = some b
  near : ∃ rtentry, sr_findLPMentry srA.routing_table b.ip = some rtentry ∧
    sr_get_interface srA rtentry.interface = some a

section link
variable {srA srB : SrInstance} {heapA heapB : Heap} {sA sB : RouterState} {a b : SrIf}
  {r : SrArpreq}

theorem Linked.interface (h : Linked srA srB a b) : sr_get_interface srA a.name = some a := by
  obtain ⟨rtentry, -, ha⟩ := h.near
  rwa [(sr_get_interface_mem ha).2]

/-- There is only one frame that asks for `b`'s IP. -/
theorem AsksFor.unique (hlink : Linked srA srB a b) {buf : RawFrame} {iface : IfName}
    {accepted : Bool} (h : AsksFor srA b.ip buf iface accepted) :
    buf = arp_request_frame a b.ip ∧ iface = a.name ∧ accepted = true := by
  obtain ⟨rtentry, hrt, ha⟩ := hlink.near
  obtain ⟨rtentry', ifc, hrt', hifc, rfl, rfl⟩ := h.frame
  obtain rfl := Option.some.inj (hrt.symm.trans hrt')
  obtain rfl := Option.some.inj (ha.symm.trans hifc)
  exact ⟨rfl, rfl, h.accepted⟩

/-- Asking for `r` once more. -/
theorem ask_eq (hlink : Linked srA srB a b) (hs : WellFormed sA) (hr : r ∈ sA.reqs)
    (hip : r.ip = b.ip) (hdue : now - r.sent > 1) (hexp : ¬ Expired now r) (fuel : Nat) :
    sr_arpcache_handle_arpreq srA heapA now (fuel + 1) r.addr sA =
      (.returned (), (sA.askReq now r).send srA (.arp_request r.addr now)
        (arp_request_frame a b.ip) a.name) := by
  obtain ⟨rtentry, hrt, ha⟩ := hlink.near
  rw [handle_arpreq_eq, hs.reqAt_eq hr]
  simp only [if_neg hexp, if_pos hdue, send_arp_request_eq, hip, hrt, ha]
  rfl

/-! ### The answer -/

theorem arp_request_frame_length (ifc : SrIf) (ip : uint32_t) :
    (arp_request_frame ifc ip).length = SrEthernetHdr.size + SrArpHdr.size := by
  simp [arp_request_frame]

theorem arp_reply_frame_length (packet : RawFrame) (ifc : SrIf) :
    SrEthernetHdr.size + SrArpHdr.size ≤ (arp_reply_frame packet ifc).length := by
  simp [arp_reply_frame]

/-- The filter lets the request through to `b`. -/
theorem filter_passes (hlink : Linked srA srB a b) :
    sr_arp_req_not_for_us srB (arp_request_frame a b.ip) b.name = some false := by
  have hlen : ¬ (arp_request_frame a b.ip).length < SrEthernetHdr.size + SrArpHdr.size := by
    rw [arp_request_frame_length]
    exact Nat.lt_irrefl _
  have htip : (arp_hdr (arp_request_frame a b.ip)).ar_tip = b.ip := by rw [arp_hdr_request_frame]
  rw [sr_arp_req_not_for_us, if_neg hlen, hlink.far]
  simp only [Option.some.injEq, decide_eq_false_iff_not, not_and, not_not]
  exact fun _ _ => htip

/-- What `b` says of itself. -/
abbrev answer_frame (a b : SrIf) : RawFrame := arp_reply_frame (arp_request_frame a b.ip) b

theorem todo_answer (hlink : Linked srA srB a b) (buf : Nat) :
    sr_handlepacket_todo srB heapB buf (arp_request_frame a b.ip) b.name =
      .reply (answer_frame a b) b.name := by
  have hlen := arp_request_frame_length a b.ip
  have htype := arp_request_frame_type a b.ip
  have harp : has_ether_type (arp_request_frame a b.ip) ethertype_arp := by
    simp [has_ether_type, hlen, htype]
  have hhdr := arp_hdr_request_frame a b.ip
  rw [arp_hdr] at hhdr
  rw [handlepacket_todo_arp harp, sr_arp_todo, hlink.far, hhdr, hlen]
  simp

variable (heapB) in
/-- Router `B` answers the request, and does nothing else. -/
theorem answer_eq (hlink : Linked srA srB a b) (fuel : Nat) (now : time_t) (s : RouterState) :
    run_label srB heapB fuel (.packet now (arp_request_frame a b.ip) b.name) s =
      (.returned (), s.alloc.send srB .arp_reply (answer_frame a b) b.name) := by
  rw [run_label, handlepacket_eq, if_neg (not_ip_of_type (arp_request_frame_type ..)),
    todo_answer hlink]
  rfl

/-- The answer announces what was asked for. -/
theorem announced_answer (hlink : Linked srA srB a b) (now : time_t) :
    announced srA (.packet now (answer_frame a b) a.name) = some (b.addr, b.ip) := by
  have hlen : SrEthernetHdr.size + SrArpHdr.size ≤ (answer_frame a b).length :=
    arp_reply_frame_length _ b
  have htype : (SrEthernetHdr.ofBytes (answer_frame a b)).ether_type = htons ethertype_arp := by
    rw [arp_reply_frame_type, arp_request_frame_type]
  have harp : has_ether_type (answer_frame a b) ethertype_arp := by
    simp only [has_ether_type, htype, and_true, decide_eq_true_eq]
    omega
  have hhdr := arp_hdr_reply_frame (arp_request_frame a b.ip) b
  rw [arp_hdr_request_frame, arp_hdr] at hhdr
  simp only [announced, harp, hlen, hhdr, hlink.interface, Option.map_some, and_self, if_true]

/-! ### From request to mapping -/

/-- `request` is what router `A` broadcasts for `r`: whenever it did so, and when it is time
    to do so again. -/
structure RequestedBy (sr : SrInstance) (heap : Heap) (ifc : SrIf) (r : SrArpreq)
    (request : RawFrame) (s : RouterState) : Prop where
  sent : ∀ time buf iface accepted, .sent (.arp_request r.addr time) buf iface accepted ∈ s.log →
    buf = request ∧ iface = ifc.name ∧ accepted = true
  next : ∀ now fuel, now - r.sent > 1 → ¬ Expired now r → ∃ s',
    sr_arpcache_handle_arpreq sr heap now (fuel + 1) r.addr s = (.returned (), s') ∧
      s'.log = s.log ++ [.sent (.arp_request r.addr now) request ifc.name true]

/-- The one thing that was done was to send `reply`. -/
structure RepliedWith (reply : RawFrame) (iface : IfName) (s s' : RouterState) : Prop where
  log : s'.log = s.log ++ [.sent .arp_reply reply iface true]
  cache : s'.cache = s.cache
  detached : s'.detached = s.detached

/-- The request `r` was resolved to `mac`. -/
structure ResolvedTo (sr : SrInstance) (mac : EtherAddr) (r : SrArpreq) (s s' : RouterState) :
    Prop where
  released : Released sr mac r s s'
  /-- Each frame that waited was sent once, as it was stored but for its destination. -/
  sent : ∀ p ∈ r.packets, ∃ buf,
    deliveries p.addr s'.log = [.sent (.released r.addr p.addr) buf p.iface true] ∧
      (SrEthernetHdr.ofBytes buf).ether_dhost = mac ∧
      buf.drop ETHER_ADDR_LEN = p.buf.drop ETHER_ADDR_LEN
  known : (∃ e ∈ s.cache.entries, e.valid = false) → Used s'.cache mac r.ip

theorem requestedBy (hlink : Linked srA srB a b) (hA : Reachable srA heapA System.always sA)
    (hr : r ∈ sA.reqs) (hip : r.ip = b.ip) :
    RequestedBy srA heapA a r (arp_request_frame a b.ip) sA where
  sent time buf iface accepted he := by
    -- every broadcast so far was made for the IP of its request
    obtain ⟨-, hasks⟩ := (Reachable.broadcast hA).asks _ _ _ _ _ he
    have hask := hasks r hr rfl
    rw [hip] at hask
    exact hask.unique hlink
  next now fuel hdue hexp := by
    refine ⟨_, ask_eq hlink (Reachable.wellFormed hA) hr hip hdue hexp fuel, ?_⟩
    have haccepted := (Sendable.arp_request_frame hlink.interface b.ip).accepts
    show sA.log ++ [.sent _ _ _ (accepts srA _ a.name)] = _
    rw [haccepted]

variable (heapB sB) in
theorem repliedWith (hlink : Linked srA srB a b) (fuel : Nat) (now : time_t) :
    ∃ sB', run_label srB heapB fuel (.packet now (arp_request_frame a b.ip) b.name) sB =
      (.returned (), sB') ∧ RepliedWith (answer_frame a b) b.name sB sB' := by
  have haccepted := (Sendable.arp_reply_frame hlink.far (arp_request_frame a b.ip)).accepts
  refine ⟨_, answer_eq heapB hlink fuel now sB, ?_, rfl, rfl⟩
  show sB.log ++ [.sent _ _ _ (accepts srB _ b.name)] = _
  rw [haccepted]

theorem resolvedTo (hlink : Linked srA srB a b) (hA : Reachable srA heapA System.always sA)
    (hr : r ∈ sA.reqs) (hip : r.ip = b.ip) (fuel : Nat) (now : time_t) :
    ∃ sA', run_label srA heapA fuel (.packet now (answer_frame a b) a.name) sA =
      (.returned (), sA') ∧ ResolvedTo srA b.addr r sA sA' := by
  -- the answer announces the IP that was asked for, so the request is taken off
  have hledger := Reachable.ledger hA
  have hl := announced_answer hlink now
  rw [← hip] at hl
  obtain ⟨sA', hrun, hreleased⟩ : ∃ sA', run_label srA heapA fuel _ sA = (.returned (), sA') ∧
      Released srA b.addr r sA sA' := released_of_announced hledger hr hl fuel
  have hsA' : sA' = sA.alloc.release srA b.addr r.ip now :=
    (Prod.mk.inj (hrun.symm.trans (announce_eq hledger.wellFormed hl fuel))).2
  refine ⟨sA', hrun, hreleased, fun p hp => ?_, fun hfree => ?_⟩
  · have haccepted := (((sender_accepts hA).1 r hr p hp).set_ether_dhost b.addr).accepts
    refine ⟨set_ether_dhost p.buf b.addr, ?_, ether_dhost_set_ether_dhost _ _,
      set_ether_dhost_drop _ _⟩
    rw [hsA', hledger.alloc.release_delivers (s := sA.alloc) hr hp, alloc_log,
      Reachable.waiting_unsent hA hr hp, List.nil_append, delivery, haccepted]
  · rw [hsA']
    exact .fill release_entries ((Reachable.consistent hA).unknown r hr) hfree

/-- **A handshake between two routers.** If router `A` reaches interface `b` of router `B`
    through `a`, and is asking for `b`'s IP, then what it broadcasts passes `B`'s filter; `B`
    answers it with one frame on `b` and changes nothing; and the answer makes `A` send every
    frame that waited, once, to `b`, take the request off the queue, and know `b`'s address if
    there was a slot to put it in. -/
theorem handshake (hlink : Linked srA srB a b) (hA : Reachable srA heapA System.always sA)
    (hr : r ∈ sA.reqs) (hip : r.ip = b.ip) (sB : RouterState) :
    RequestedBy srA heapA a r (arp_request_frame a b.ip) sA ∧
      sr_arp_req_not_for_us srB (arp_request_frame a b.ip) b.name = some false ∧
      (∀ fuel now, ∃ sB', run_label srB heapB fuel
        (.packet now (arp_request_frame a b.ip) b.name) sB = (.returned (), sB') ∧
          RepliedWith (answer_frame a b) b.name sB sB') ∧
      ∀ fuel now, ∃ sA', run_label srA heapA fuel (.packet now (answer_frame a b) a.name) sA =
        (.returned (), sA') ∧ ResolvedTo srA b.addr r sA sA' :=
  ⟨requestedBy hlink hA hr hip, filter_passes hlink, repliedWith heapB sB hlink,
    resolvedTo hlink hA hr hip⟩

end link

namespace Sample

/-- Our interface `eth2`. -/
def near_if : SrIf := ⟨eth 2, mac 2, inet_addr 172 64 3 1⟩

/-- The one interface of the router on its other side. -/
def far_if : SrIf := ⟨eth 1, mac 9, inet_addr 172 64 3 9⟩

def neighbour : SrInstance := ⟨[far_if], []⟩

theorem neighbour_linked : Linked net neighbour near_if far_if where
  far := by decide +kernel
  near := ⟨⟨inet_addr 172 64 3 10, inet_addr 172 64 3 10, inet_addr 255 255 255 0, eth 2⟩,
    by decide +kernel⟩

/-- It is asked for while an answer to it waits. -/
theorem neighbour_resolved : ∃ s : RouterState, ∃ r ∈ s.reqs, r.packets.length = 1 ∧
    RequestedBy net mem near_if r (arp_request_frame near_if far_if.ip) s ∧
    sr_arp_req_not_for_us neighbour (arp_request_frame near_if far_if.ip) far_if.name =
      some false ∧
    (∀ fuel now, ∃ sB', run_label neighbour mem fuel
      (.packet now (arp_request_frame near_if far_if.ip) far_if.name) RouterState.empty =
        (.returned (), sB') ∧
        RepliedWith (answer_frame near_if far_if) far_if.name RouterState.empty sB') ∧
    ∀ fuel now, ∃ sA', run_label net mem fuel
      (.packet now (answer_frame near_if far_if) near_if.name) s = (.returned (), sA') ∧
        ResolvedTo net far_if.addr r s sA' := by
  have hrun : ∃ s, Reachable net mem System.always s ∧
      ∃ r ∈ s.reqs, r.packets.length = 1 ∧ r.ip = far_if.ip :=
    ⟨(run 20 [.packet 10 (ip_frame far_if.ip (inet_addr 192 168 2 7) 1 17 []) (eth 2)]).2,
      run_reachable (by decide +kernel), by decide +kernel⟩
  obtain ⟨s, hs, r, hr, hpackets, hip⟩ := hrun
  exact ⟨s, r, hr, hpackets, handshake neighbour_linked hs hr hip RouterState.empty⟩

end Sample

end SimpleRouter
