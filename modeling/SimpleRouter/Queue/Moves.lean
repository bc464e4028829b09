import Mathlib.Logic.Relation
import SimpleRouter.Queue.Termination

/-! # What one step does

    A step of the router, however it ends, is a chain of a few changes of the
    state: `Move` lists them, each with what the code knows when it makes it.
    Only ARP replies and timeout passes do more: a reply is learned and what
    waited for it is released, and a pass begins by dropping old entries.

    * `handle_path`, `run_label_stepped`: no step does anything else.
    * `MoveRules`: so an invariant is checked once for each change.
-/

namespace SimpleRouter

open Framework Framework.Prog RouterState Relation

/-! ### What the changes do to the state -/

/-- `sr_send_packet` passes a frame on. -/
def accepts (sr : SrInstance) (buf : RawFrame) (iface : IfName) : Bool :=
  decide (SrEthernetHdr.size ≤ buf.length) && sr_ether_addrs_match_interface sr buf iface

/-- The state after a call of `sr_send_packet`. -/
def RouterState.send (s : RouterState) (sr : SrInstance) (msg : Message) (buf : RawFrame)
    (iface : IfName) : RouterState :=
  s.emit (.sent msg buf iface (accepts sr buf iface))

/-- The state after more events were logged. -/
def RouterState.emits (s : RouterState) (L : List Event) : RouterState := { s with log := s.log ++ L }

/-- The frames of `r` as they are sent to `mac`. -/
def release_events (sr : SrInstance) (mac : EtherAddr) (r : SrArpreq) : List Event :=
  r.packets.map fun p => .sent (.released r.addr p.addr) (set_ether_dhost p.buf mac) p.iface
    (accepts sr (set_ether_dhost p.buf mac) p.iface)

/-- The state after a mapping for `ip` was learned and what waited for it was released. -/
def RouterState.release (s : RouterState) (sr : SrInstance) (mac : EtherAddr) (ip : uint32_t)
    (now : time_t) : RouterState :=
  match s.reqFor ip with
  | some r =>
    ((s.setRequests (s.reqs.eraseP fun r => r.ip = ip)).setEntries
      (sr_arpcache_fill s.cache.entries mac ip now)).emits
        (release_events sr mac r ++ [.destroyed r.addr])
  | none => s.setEntries (sr_arpcache_fill s.cache.entries mac ip now)

/-! ### Learning a mapping -/

/-- The time of a step. -/
def Label.now : Label → time_t
  | .packet now _ _ => now
  | .sweep now => now
  | .timeout now => now

/-- The mapping that a step announces: it handles an ARP reply to the address of the
    interface that it came in on. -/
def announced (sr : SrInstance) : Label → Option (EtherAddr × uint32_t)
  | .packet _ packet interface =>
    let a_hdr := SrArpHdr.ofBytes (packet.drop SrEthernetHdr.size)
    if has_ether_type packet ethertype_arp ∧
        SrEthernetHdr.size + SrArpHdr.size ≤ packet.length ∧
        a_hdr.ar_op = htons arp_op_reply ∧
        (sr_get_interface sr interface).map (·.ip) = some a_hdr.ar_tip then
      some (a_hdr.ar_sha, a_hdr.ar_sip)
    else none
  | _ => none

variable {sr : SrInstance} {heap : Heap} {now : time_t} {s t u : RouterState} {l : Label}
  {packet : RawFrame} {interface : IfName}

namespace RouterState

variable {mac : EtherAddr} {ip : uint32_t}

theorem release_of_none (h : s.reqFor ip = none) :
    s.release sr mac ip now = s.setEntries (sr_arpcache_fill s.cache.entries mac ip now) := by
  simp only [release, h]

theorem release_of_some {r : SrArpreq} (h : s.reqFor ip = some r) :
    s.release sr mac ip now =
      ((s.setRequests (s.reqs.eraseP fun r => r.ip = ip)).setEntries
        (sr_arpcache_fill s.cache.entries mac ip now)).emits
          (release_events sr mac r ++ [.destroyed r.addr]) := by
  simp only [release, h]

/-- The log after a mapping was learned that a request waited for. -/
theorem release_log {r : SrArpreq} (h : s.reqFor ip = some r) :
    (s.release sr mac ip now).log = s.log ++ (release_events sr mac r ++ [.destroyed r.addr]) := by
  rw [release_of_some h]
  rfl

/-- What is logged then: a frame that waited is sent, or the request is gone. -/
inductive ReleaseEvent (sr : SrInstance) (s : RouterState) (mac : EtherAddr) (ip : uint32_t) :
    Event → Prop where
  | sent {r : SrArpreq} {p : SrPacket} (hr : s.reqFor ip = some r) (hp : p ∈ r.packets) :
      ReleaseEvent sr s mac ip (.sent (.released r.addr p.addr) (set_ether_dhost p.buf mac) p.iface
        (accepts sr (set_ether_dhost p.buf mac) p.iface))
  | destroyed (req : Nat) : ReleaseEvent sr s mac ip (.destroyed req)

theorem release_logs (sr : SrInstance) (s : RouterState) (mac : EtherAddr) (ip : uint32_t)
    (now : time_t) :
    ∃ L, (s.release sr mac ip now).log = s.log ++ L ∧ ∀ e ∈ L, ReleaseEvent sr s mac ip e := by
  cases hr : s.reqFor ip with
  | none =>
    rw [release_of_none hr]
    exact ⟨[], (List.append_nil _).symm, fun e he => by cases he⟩
  | some r =>
    refine ⟨_, release_log hr, List.forall_mem_append.mpr ⟨fun e he => ?_, ?_⟩⟩
    · obtain ⟨p, hp, rfl⟩ := List.mem_map.mp he
      exact .sent hr hp
    · exact List.forall_mem_singleton.mpr (.destroyed r.addr)

@[simp] theorem release_entries :
    (s.release sr mac ip now).cache.entries = sr_arpcache_fill s.cache.entries mac ip now := by
  unfold release
  cases s.reqFor ip <;> rfl

@[simp] theorem release_brk : (s.release sr mac ip now).brk = s.brk := by
  unfold release
  cases s.reqFor ip <;> rfl

/-- The request for `ip` goes, if there is one. -/
theorem release_reqs : (s.release sr mac ip now).reqs = s.reqs.eraseP fun r => r.ip = ip := by
  cases h : s.reqFor ip with
  | none =>
    rw [release_of_none h]
    exact (List.eraseP_of_forall_not fun r hr => by simpa using reqFor_none.mp h r hr).symm
  | some r =>
    rw [release_of_some h]
    rfl

theorem mem_release (h : WellFormed s) {r : SrArpreq} :
    r ∈ (s.release sr mac ip now).reqs ↔ r ∈ s.reqs ∧ r.ip ≠ ip := by
  rw [release_reqs]
  constructor
  · intro hr
    refine ⟨List.mem_of_mem_eraseP hr, ?_⟩
    rintro rfl
    obtain ⟨before, after, hreqs, herase⟩ :=
      eraseP_reqFor (h.reqFor_eq (List.mem_of_mem_eraseP hr))
    have hnodup := h.ip_nodup
    rw [hreqs, List.map_append, List.map_cons] at hnodup
    rw [herase] at hr
    rcases List.mem_append.mp hr with hr | hr
    · exact (List.nodup_append.mp hnodup).2.2 _ (List.mem_map_of_mem hr) _ List.mem_cons_self rfl
    · exact (List.nodup_cons.mp (List.nodup_append.mp hnodup).2.1).1 (List.mem_map_of_mem hr)
  · intro hboth
    exact (List.mem_eraseP_of_neg (by simpa using hboth.2)).mpr hboth.1

theorem WellFormed.emits (h : WellFormed s) (L : List Event) : WellFormed (s.emits L) :=
  ⟨h.addr_nodup, h.ip_nodup, h.addr_lt⟩

theorem WellFormed.release (h : WellFormed s) (sr : SrInstance) (mac : EtherAddr) (ip : uint32_t)
    (now : time_t) : WellFormed (s.release sr mac ip now) := by
  cases hr : s.reqFor ip with
  | none =>
    rw [release_of_none hr]
    exact h.setEntries _
  | some r =>
    rw [release_of_some hr]
    refine WellFormed.emits (WellFormed.setEntries ?_ _) _
    have hsub : (s.reqs.eraseP fun r => r.ip = ip).Sublist s.reqs := List.eraseP_sublist
    refine ⟨((hsub.append_right s.detached).map _).nodup h.addr_nodup,
      (hsub.map _).nodup h.ip_nodup, fun r' hr' => h.addr_lt r' ?_⟩
    exact (hsub.append_right s.detached).subset hr'

end RouterState

/-- No frame is both. -/
theorem not_ip_of_arp (h : has_ether_type packet ethertype_arp) :
    ¬ has_ether_type packet ethertype_ip := by
  simp only [has_ether_type, Bool.decide_and, Bool.and_eq_true, decide_eq_true_eq] at h ⊢
  intro hip
  exact absurd (h.2.symm.trans hip.2) (by decide)

theorem handlepacket_todo_arp {buf : Nat} (h : has_ether_type packet ethertype_arp) :
    sr_handlepacket_todo sr heap buf packet interface = sr_arp_todo sr packet interface := by
  obtain ⟨hlen, htype⟩ : SrEthernetHdr.size ≤ packet.length ∧
      (SrEthernetHdr.ofBytes packet).ether_type = htons ethertype_arp := by
    simpa [has_ether_type] using h
  rw [sr_handlepacket_todo, if_neg (by omega), if_neg (by rw [htype]; decide), if_pos htype]

/-- Only ARP packets are learned from. -/
theorem arp_of_todo_learn {buf : Nat} {mac : EtherAddr} {ip : uint32_t}
    (h : sr_handlepacket_todo sr heap buf packet interface = .learn mac ip) :
    has_ether_type packet ethertype_arp := by
  unfold sr_handlepacket_todo at h
  split at h
  · simp at h
  · next hlen =>
    split at h
    · rcases ip_todo_cases sr heap buf packet interface (sr_ip_branch sr packet) with
        hnothing | ⟨f, hcrash⟩ | ⟨msg, ip, frame, iface, hresolve⟩ <;> simp_all
    · split at h
      · next htype => simpa [has_ether_type, htype] using hlen
      · simp at h

theorem arp_todo_learn_iff {mac : EtherAddr} {ip : uint32_t}
    (h : has_ether_type packet ethertype_arp) :
    sr_arp_todo sr packet interface = .learn mac ip ↔
      announced sr (.packet now packet interface) = some (mac, ip) := by
  have hlen : SrEthernetHdr.size ≤ packet.length := by
    simp only [has_ether_type, Bool.decide_and, Bool.and_eq_true, decide_eq_true_eq] at h
    exact h.1
  have hop : htons arp_op_reply ≠ htons arp_op_request := by decide
  simp only [sr_arp_todo, announced, h, true_and]
  by_cases hsize : packet.length - SrEthernetHdr.size < SrArpHdr.size
  · simp only [if_pos hsize, reduceCtorEq, false_iff]
    rw [if_neg (by omega)]
    simp
  · have hsize' : SrEthernetHdr.size + SrArpHdr.size ≤ packet.length := by omega
    simp only [if_neg hsize, hsize', true_and]
    cases sr_get_interface sr interface with
    | none => simp
    | some ifc =>
      simp only [Option.map_some, Option.some.injEq]
      by_cases htip : (SrArpHdr.ofBytes (packet.drop SrEthernetHdr.size)).ar_tip = ifc.ip
      · by_cases hreply : (SrArpHdr.ofBytes (packet.drop SrEthernetHdr.size)).ar_op =
            htons arp_op_reply
        · simp [htip, hreply, hop]
        · simp only [htip, hreply, if_true, if_false, false_and]
          split <;> simp
      · simp [htip, Ne.symm htip]

variable (heap now) in
/-- An ARP reply is learned from exactly when it announces a mapping. -/
theorem todo_learn_iff (buf : Nat) {mac : EtherAddr} {ip : uint32_t} :
    sr_handlepacket_todo sr heap buf packet interface = .learn mac ip ↔
      announced sr (.packet now packet interface) = some (mac, ip) := by
  by_cases harp : has_ether_type packet ethertype_arp
  · rw [handlepacket_todo_arp harp, arp_todo_learn_iff harp]
  · constructor
    · exact fun h => absurd (arp_of_todo_learn h) harp
    · simp [announced, harp]

/-! ### Releasing what waited -/

theorem send_apply (msg : Message) (buf : RawFrame) (iface : IfName) (s : RouterState) :
    sr_send_packet sr msg buf iface s = (.returned (), s.send sr msg buf iface) := rfl

/-- The loop that sends the frames of a request. -/
theorem release_loop (mac : EtherAddr) (r : SrArpreq) (s : RouterState) :
    Prog.forEach r.packets (fun p => sr_send_packet sr (.released r.addr p.addr)
        (set_ether_dhost p.buf mac) p.iface) s =
      (.returned (), s.emits (release_events sr mac r)) := by
  suffices h : ∀ pcks s, Prog.forEach pcks (fun p => sr_send_packet sr (.released r.addr p.addr)
        (set_ether_dhost p.buf mac) p.iface) s =
      (.returned (), s.emits (release_events sr mac { r with packets := pcks })) from h r.packets s
  intro pcks
  induction pcks with
  | nil => simp [release_events, RouterState.emits]
  | cons p pcks ih =>
    intro s
    rw [forEach_cons, bind_of_returned (send_apply ..), ih]
    simp [release_events, RouterState.emits, RouterState.send, RouterState.emit]

variable (now) in
/-- A request that was taken off the queue is not on it. -/
theorem reqAt_learnFor (h : WellFormed s) {ip : uint32_t} {r : SrArpreq}
    (hr : s.reqFor ip = some r) (mac : EtherAddr) :
    ¬ ((s.learnFor mac ip now).reqAt r.addr).isSome := by
  have hwf : WellFormed (s.learnFor mac ip now) := h.learnFor mac ip
  have hdetached : (s.learnFor mac ip now).detached = r :: s.detached := by
    simp [RouterState.learnFor, hr]
  have hnodup := hwf.addr_nodup
  rw [hdetached, List.map_append, List.nodup_append] at hnodup
  intro hlive
  obtain ⟨r', hr', haddr⟩ := reqAt_isSome.mp hlive
  exact hnodup.2.2 _ (List.mem_map_of_mem hr') _ (List.mem_map_of_mem List.mem_cons_self) haddr

/-- **Learning a mapping** releases the frames of the request for its IP and frees it. -/
theorem learn_eq (h : WellFormed s) (fuel : Nat) (mac : EtherAddr) (ip : uint32_t) :
    sr_handlepacket_rest sr heap now fuel (.learn mac ip) s =
      (.returned (), s.release sr mac ip now) := by
  simp only [sr_handlepacket_rest, bind_of_returned (sr_arpcache_insert_eq mac ip s)]
  cases hr : s.reqFor ip with
  | none => simp [RouterState.release, RouterState.learnFor, hr]
  | some r =>
    have hgone : ¬ (((s.learnFor mac ip now).emits (release_events sr mac r)).reqAt r.addr).isSome :=
      reqAt_learnFor now h hr mac
    show (Prog.forEach r.packets _ >>= fun _ => sr_arpreq_destroy r.addr) _ = _
    rw [bind_of_returned (release_loop mac r _), sr_arpreq_destroy, read_bind, if_neg hgone]
    simp [RouterState.release, RouterState.learnFor, hr, RouterState.emit, RouterState.emits,
      RouterState.setEntries, RouterState.setRequests]

theorem handlepacket_eq (fuel : Nat) (s : RouterState) :
    sr_handlepacket sr heap now fuel packet interface s =
      sr_handlepacket_rest sr heap now fuel
        (sr_handlepacket_todo sr heap s.brk packet interface)
        (if has_ether_type packet ethertype_ip then s.alloc.emit (.took (sr_ip_branch sr packet))
          else s.alloc) := by
  rw [sr_handlepacket, bind_of_returned (malloc_apply s), modify_bind]

/-- **A step that announces a mapping** learns it, and does nothing else. -/
theorem announce_eq (h : WellFormed s) {mac : EtherAddr} {ip : uint32_t}
    (hl : announced sr l = some (mac, ip)) (fuel : Nat) :
    run_label sr heap fuel l s = (.returned (), s.alloc.release sr mac ip l.now) := by
  cases l with
  | sweep now => simp [announced] at hl
  | timeout now => simp [announced] at hl
  | packet now packet interface =>
    have htodo := (todo_learn_iff heap now s.brk).mpr hl
    rw [run_label, handlepacket_eq, htodo, if_neg (not_ip_of_arp (arp_of_todo_learn htodo))]
    exact learn_eq h.alloc fuel mac ip

/-! ### The changes -/

/-- A change of the state in a step `l`. -/
inductive Move (sr : SrInstance) (heap : Heap) (l : Label) (s : RouterState) :
    RouterState → Prop where
  | alloc : Move sr heap l s s.alloc
  | took {now : time_t} {packet : RawFrame} {interface : IfName}
      (hl : l = .packet now packet interface) (hip : has_ether_type packet ethertype_ip) :
      Move sr heap l s (s.emit (.took (sr_ip_branch sr packet)))
  /-- An ARP request is replied to. -/
  | replied {now : time_t} {packet : RawFrame} {interface : IfName} {ifc : SrIf}
      (hl : l = .packet now packet interface)
      (htype : (SrEthernetHdr.ofBytes packet).ether_type = htons ethertype_arp)
      (hifc : sr_get_interface sr interface = some ifc) :
      Move sr heap l s (s.send sr .arp_reply (arp_reply_frame packet ifc) interface)
  /-- A frame is sent to a known address. -/
  | sent {now : time_t} {packet frame : RawFrame} {interface iface : IfName} {buf : Nat}
      {msg : Message} {ip : uint32_t} {entry : SrArpentry}
      (hl : l = .packet now packet interface) (hip : has_ether_type packet ethertype_ip)
      (hres : Resolves sr heap buf packet interface msg ip frame iface)
      (hentry : sr_arpcache_lookup s.cache ip = some entry) :
      Move sr heap l s (s.send sr msg (set_ether_dhost frame entry.mac) iface)
  /-- A frame is stored until the address is known. -/
  | stored {now : time_t} {packet frame : RawFrame} {interface iface : IfName} {buf : Nat}
      {msg : Message} {ip : uint32_t}
      (hl : l = .packet now packet interface) (hip : has_ether_type packet ethertype_ip)
      (hres : Resolves sr heap buf packet interface msg ip frame iface)
      (hmiss : sr_arpcache_lookup s.cache ip = none) :
      Move sr heap l s (s.queuePacket msg ip frame iface)
  /-- A request is asked for once more. -/
  | asked {r : SrArpreq} {rtentry : SrRt} {ifc : SrIf} (hr : r ∈ s.reqs)
      (hdue : l.now - r.sent > 1) (htimes : r.times_sent < 5)
      (hrt : sr_findLPMentry sr.routing_table r.ip = some rtentry)
      (hifc : sr_get_interface sr rtentry.interface = some ifc) :
      Move sr heap l s ((s.askReq l.now r).send sr (.arp_request r.addr l.now)
        (arp_request_frame ifc r.ip) ifc.name)
  /-- The sender of a frame of an expired request is answered. -/
  | answered {r : SrArpreq} {pck : SrPacket} {rtentry : SrRt} {ifc : SrIf} {entry : SrArpentry}
      (hr : r ∈ s.reqs) (hexp : Expired l.now r) (hpck : pck ∈ r.packets)
      (hrt : sr_findLPMentry sr.routing_table (source pck) = some rtentry)
      (hifc : sr_get_interface sr rtentry.interface = some ifc)
      (hentry : sr_arpcache_lookup s.cache (source pck) = some entry) :
      Move sr heap l s (s.alloc.send sr (.host_unreachable r.addr pck.addr)
        (set_ether_dhost (icmp_t3_frame heap s.brk ifc 1 pck.buf) entry.mac) rtentry.interface)
  /-- The answer is stored until the address is known. -/
  | answer_stored {r : SrArpreq} {pck : SrPacket} {rtentry : SrRt} {ifc : SrIf}
      (hr : r ∈ s.reqs) (hexp : Expired l.now r) (hpck : pck ∈ r.packets)
      (hrt : sr_findLPMentry sr.routing_table (source pck) = some rtentry)
      (hifc : sr_get_interface sr rtentry.interface = some ifc)
      (hmiss : sr_arpcache_lookup s.cache (source pck) = none) :
      Move sr heap l s (s.queueAnswer heap r.addr pck rtentry ifc)
  /-- An expired request is given up. -/
  | discarded {r : SrArpreq} (hr : r ∈ s.reqs) (hexp : Expired l.now r) :
      Move sr heap l s (s.destroyReq r.addr)

theorem RouterState.WellFormed.askReq (h : WellFormed s) (now : time_t) (r : SrArpreq) :
    WellFormed (s.askReq now r) :=
  h.updateReq (fun _ => rfl) fun _ => rfl

theorem Move.wellFormed (h : Move sr heap l s t) (hs : WellFormed s) : WellFormed t := by
  cases h with
  | alloc => exact hs.alloc
  | took => exact hs.emit _
  | replied => exact hs.emit _
  | sent => exact hs.emit _
  | stored => exact hs.queuePacket ..
  | asked => exact (hs.askReq _ _).emit _
  | answered => exact hs.alloc.emit _
  | answer_stored => exact hs.alloc.queuePacket ..
  | discarded => exact hs.destroyReq _

/-- Changes of the state, one after the other. -/
abbrev Path (sr : SrInstance) (heap : Heap) (l : Label) : RouterState → RouterState → Prop :=
  ReflTransGen (Move sr heap l)

/-! ### Handling requests -/

theorem answer_sender_path {handle : Nat → Router Unit} {r : SrArpreq} {pck : SrPacket}
    (ih : ∀ req s, WellFormed s → Path sr heap l s (handle req s).2) (hs : WellFormed s)
    (hr : r ∈ s.reqs) (hexp : Expired l.now r) (hpck : pck ∈ r.packets) :
    Path sr heap l s (answer_sender sr heap handle r.addr pck s).2 := by
  rw [answer_sender_eq]
  cases hrt : sr_findLPMentry sr.routing_table (source pck) with
  | none => exact .single .alloc
  | some rtentry =>
    cases hifc : sr_get_interface sr rtentry.interface with
    | none =>
      simp only [hifc]
      exact .single .alloc
    | some ifc =>
      simp only [hifc]
      cases hl : sr_arpcache_lookup s.cache (source pck) with
      | some entry => exact .single (.answered hr hexp hpck hrt hifc hl)
      | none =>
        have hstored : Move sr heap l s (s.queueAnswer heap r.addr pck rtentry ifc) :=
          .answer_stored hr hexp hpck hrt hifc hl
        exact .head hstored (ih _ _ (hstored.wellFormed hs))

/-- One frame of the loop over the frames of an expired request. -/
theorem discard_packet_path {fuel : Nat} {r : SrArpreq} {pck : SrPacket}
    (ih : ∀ req s, WellFormed s →
      Path sr heap l s (sr_arpcache_handle_arpreq sr heap l.now fuel req s).2)
    (hs : WellFormed s) (hr : r ∈ s.reqs) (hexp : Expired l.now r) (hpck : pck ∈ r.packets) :
    Triple (fun v => InLoop sr l.now s r v ∧ Path sr heap l s v)
      (discard_packet sr heap (sr_arpcache_handle_arpreq sr heap l.now fuel) r.addr pck)
      (fun _ v => InLoop sr l.now s r v ∧ Path sr heap l s v) (fun _ v => Path sr heap l s v) := by
  intro v hboth
  obtain ⟨hv, hpath⟩ := hboth
  obtain ⟨r', hr', haddr, -, hexp', hsub⟩ := hv.request hr hexp
  have hanswer := answer_sender_path ih hv.wellFormed hr' hexp' (hsub hpck)
  rw [haddr] at hanswer
  rcases hrun : answer_sender sr heap (sr_arpcache_handle_arpreq sr heap l.now fuel) r.addr pck v
    with ⟨_ | _ | _, v'⟩
  · rw [hrun] at hanswer
    have hbody := hv.discard_packet_eq hr hexp hpck hrun
    rw [hbody]
    exact ⟨hv.next hs hbody, hpath.trans hanswer⟩
  · rw [hrun] at hanswer
    rw [discard_packet, bind_of_fault hrun]
    exact hpath.trans hanswer
  · rw [hrun] at hanswer
    rw [discard_packet, bind_of_exhausted hrun]
    exact hpath.trans hanswer

theorem discard_packets_path {fuel : Nat} {r : SrArpreq}
    (ih : ∀ req s, WellFormed s →
      Path sr heap l s (sr_arpcache_handle_arpreq sr heap l.now fuel req s).2)
    (hs : WellFormed s) (hr : r ∈ s.reqs) (hexp : Expired l.now r) :
    Triple (· = s) (discard_packets sr heap l.now fuel r)
      (fun _ v => InLoop sr l.now s r v ∧ Path sr heap l s v) (fun _ v => Path sr heap l s v) := by
  apply (triple_forEach fun pck hpck => discard_packet_path ih hs hr hexp hpck).pre
  rintro v rfl
  exact ⟨.start hs hr, .refl⟩

variable (sr heap l) in
/-- **Handling a request** changes the state in these ways only, however it ends. -/
theorem handle_path (fuel req : Nat) (s : RouterState) (hs : WellFormed s) :
    Path sr heap l s (sr_arpcache_handle_arpreq sr heap l.now fuel req s).2 := by
  -- on the fuel: the calls for the frames of an expired request have less of it
  induction fuel generalizing req s with
  | zero => exact .refl
  | succ fuel ih =>
    rw [handle_arpreq_eq]
    cases hreq : s.reqAt req with
    | none => exact .refl
    | some r =>
      obtain ⟨hr, rfl⟩ := reqAt_some hreq
      by_cases hexp : Expired l.now r
      · simp only [if_pos hexp]
        have hloop := discard_packets_path ih hs hr hexp s rfl
        rcases hrun : discard_packets sr heap l.now fuel r s with ⟨_ | _ | _, v⟩
        · -- the loop ends, and the request is destroyed
          rw [hrun] at hloop
          obtain ⟨hv, hpath⟩ := hloop
          obtain ⟨r', hr', haddr, -, hexp', -⟩ := hv.request hr hexp
          rw [(discard_and_destroy_eq hr hrun).2, ← haddr]
          exact hpath.tail (.discarded hr' hexp')
        · rw [hrun] at hloop
          rw [bind_of_fault hrun]
          exact hloop
        · rw [hrun] at hloop
          rw [bind_of_exhausted hrun]
          exact hloop
      · simp only [if_neg hexp]
        by_cases hdue : l.now - r.sent > 1
        · -- it is due, so it would have expired with 5 broadcasts
          have htimes : r.times_sent < 5 := by
            by_contra hle
            exact hexp ⟨hdue, by omega⟩
          simp only [if_pos hdue, send_arp_request_eq]
          cases hrt : sr_findLPMentry sr.routing_table r.ip with
          | none => exact .refl
          | some rtentry =>
            cases hifc : sr_get_interface sr rtentry.interface with
            | none =>
              simp only [hifc]
              exact .refl
            | some ifc =>
              simp only [hifc]
              exact .single (.asked hr hdue htimes hrt hifc)
        · simp only [if_neg hdue]
          exact .refl

variable (sr heap l) in
theorem sweep_path (fuel : Nat) (s : RouterState) (hs : WellFormed s) :
    Path sr heap l s (sr_arpcache_sweepreqs sr heap l.now fuel s).2 := by
  have hhandle : ∀ n req, Triple (fun v => WellFormed v ∧ Path sr heap l s v)
      (sr_arpcache_handle_arpreq sr heap l.now n req)
      (fun _ v => WellFormed v ∧ Path sr heap l s v)
      (fun _ v => WellFormed v ∧ Path sr heap l s v) := by
    intro n req
    refine keeps_iff.mpr fun v hv => ?_
    exact ⟨(handle_arpreq_evolves hv.1 rfl).1, hv.2.trans (handle_path sr heap l n req v hv.1)⟩
  exact ((triple_sweep hhandle (fun _ h => h) fun _ h => h).left ⟨hs, .refl⟩).2

/-! ### Whole steps -/

theorem send_or_queue_path {now : time_t} {buf : Nat} {packet frame : RawFrame}
    {interface iface : IfName} {msg : Message} {ip : uint32_t}
    (hip : has_ether_type packet ethertype_ip)
    (hres : Resolves sr heap buf packet interface msg ip frame iface) (hs : WellFormed s)
    (fuel : Nat) :
    Path sr heap (.packet now packet interface) s
      (send_or_queue sr (sr_arpcache_handle_arpreq sr heap now fuel) msg ip frame iface s).2 := by
  cases hl : sr_arpcache_lookup s.cache ip with
  | some entry =>
    rw [send_or_queue_hit hl]
    exact .single (.sent rfl hip hres hl)
  | none =>
    rw [send_or_queue_miss hres.length hl]
    have hstored : Move sr heap (.packet now packet interface) s (s.queuePacket msg ip frame iface) :=
      .stored rfl hip hres hl
    exact .head hstored (handle_path sr heap (.packet now packet interface) fuel _ _
      (hstored.wellFormed hs))

/-- What is left to do with a packet that announces no mapping. -/
theorem rest_path {now : time_t} {buf : Nat} {todo : Todo}
    (htodo : sr_handlepacket_todo sr heap buf packet interface = todo)
    (hl : announced sr (.packet now packet interface) = none) (hs : WellFormed s) (fuel : Nat) :
    Path sr heap (.packet now packet interface) s
      (sr_handlepacket_rest sr heap now fuel todo s).2 := by
  cases todo with
  | nothing => exact .refl
  | crash f => exact .refl
  | reply frame iface =>
    obtain ⟨htype, ifc, hifc, rfl, rfl⟩ := todo_reply htodo
    exact .single (.replied rfl htype hifc)
  | resolve msg ip frame iface =>
    obtain ⟨hip, hres⟩ := todo_resolve htodo
    exact send_or_queue_path hip hres hs fuel
  | learn mac ip => simp [(todo_learn_iff heap now buf).mp htodo] at hl

variable (sr heap) in
theorem packet_path {now : time_t} (hl : announced sr (.packet now packet interface) = none)
    (fuel : Nat) (s : RouterState) (hs : WellFormed s) :
    Path sr heap (.packet now packet interface) s
      (sr_handlepacket sr heap now fuel packet interface s).2 := by
  rw [handlepacket_eq]
  by_cases hip : has_ether_type packet ethertype_ip
  · rw [if_pos hip]
    exact .head .alloc (.head (.took rfl hip) (rest_path rfl hl (hs.alloc.emit _) fuel))
  · rw [if_neg hip]
    exact .head .alloc (rest_path rfl hl hs.alloc fuel)

/-- What a step does. -/
inductive Stepped (sr : SrInstance) (heap : Heap) (l : Label) (s : RouterState) :
    RouterState → Prop where
  | learned {mac : EtherAddr} {ip : uint32_t} {s' : RouterState}
      (hl : announced sr l = some (mac, ip)) (hs' : s' = s.alloc.release sr mac ip l.now) :
      Stepped sr heap l s s'
  | moved {s' : RouterState} (hl : announced sr l = none) (htimeout : ∀ now, l ≠ .timeout now)
      (hpath : Path sr heap l s s') : Stepped sr heap l s s'
  | passed {now : time_t} {s' : RouterState} (hl : l = .timeout now)
      (hpath : Path sr heap l (s.setEntries (sr_arpcache_expire s.cache.entries now)) s') :
      Stepped sr heap l s s'

variable (sr heap) in
/-- **A step**, however it ends, learns a mapping or makes changes one by one. -/
theorem run_label_stepped (fuel : Nat) (l : Label) (s : RouterState) (hs : WellFormed s) :
    Stepped sr heap l s (run_label sr heap fuel l s).2 := by
  cases l with
  | sweep now => exact .moved rfl (by simp) (sweep_path sr heap (.sweep now) fuel s hs)
  | timeout now =>
    exact .passed rfl (sweep_path sr heap (.timeout now) fuel _ (hs.setEntries _))
  | packet now packet interface =>
    cases hl : announced sr (.packet now packet interface) with
    | none => exact .moved hl (by simp) (packet_path sr heap hl fuel s hs)
    | some mapping =>
      obtain ⟨mac, ip⟩ := mapping
      rw [announce_eq hs hl fuel]
      exact .learned hl rfl

/-! ### Invariants -/

/-- What an invariant of the steps that `guard` allows has to survive. -/
structure MoveRules (sr : SrInstance) (heap : Heap) (guard : Label → Prop)
    (I : RouterState → Prop) : Prop where
  wellFormed : ∀ s, I s → WellFormed s
  alloc : ∀ s, I s → I s.alloc
  release : ∀ s mac ip now, I s → I (s.release sr mac ip now)
  expire : ∀ s now, I s → I (s.setEntries (sr_arpcache_expire s.cache.entries now))
  move : ∀ l s s', guard l → I s → Move sr heap l s s' → I s'

namespace MoveRules

variable {guard : Label → Prop} {I : RouterState → Prop}

theorem path (h : MoveRules sr heap guard I) (hl : guard l) (hs : I s) (hpath : Path sr heap l s t) :
    I t := by
  induction hpath with
  | refl => exact hs
  | tail _ hmove ih => exact h.move _ _ _ hl ih hmove

/-- **Every step** that the guard allows keeps the invariant, however it ends. -/
theorem run_label (h : MoveRules sr heap guard I) (hl : guard l) (hs : I s) (fuel : Nat) :
    I (run_label sr heap fuel l s).2 := by
  cases run_label_stepped sr heap fuel l s (h.wellFormed s hs) with
  | learned _ hs' =>
    rw [hs']
    exact h.release _ _ _ _ (h.alloc _ hs)
  | moved _ _ hpath => exact h.path hl hs hpath
  | passed _ hpath => exact h.path hl (h.expire _ _ hs) hpath

theorem reachable (h : MoveRules sr heap guard I) (hempty : I RouterState.empty)
    (hs : Reachable sr heap (fun _ => guard) s) : I s := by
  refine System.Reachable.invariant ?_ ?_ hs
  · rintro s rfl
    exact hempty
  · intro s l s' hs hl hstep
    obtain ⟨fuel, hrun⟩ := hstep
    have hkeep := h.run_label hl hs fuel
    rwa [hrun] at hkeep

end MoveRules

end SimpleRouter
