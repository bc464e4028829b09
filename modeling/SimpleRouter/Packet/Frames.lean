import SimpleRouter.Model.Router

/-! # The frames that packet handling makes

    Each frame the router builds has its own IP header behind its Ethernet
    header. `Resolves` lists the branches of `sr_handlepacket` that send an IP
    frame, with what each of them sends, to whom and on which interface.
-/

namespace SimpleRouter

open Framework Framework.Bytes

/-! ### What was produced -/

/-- The frame that an event sends or stores, with the interface it is for. -/
def produced : Event → Option (Message × RawFrame × IfName)
  | .sent msg buf iface true => some (msg, buf, iface)
  | .queued msg _ pck => some (msg, pck.buf, pck.iface)
  | _ => none

/-- The frames that were produced for `msg`, in order. -/
def produced_for (msg : Message) (L : List Event) : List (RawFrame × IfName) :=
  (L.filterMap produced).filterMap fun (msg', buf, iface) =>
    if msg' = msg then some (buf, iface) else none

theorem produced_for_append (msg : Message) (L₁ L₂ : List Event) :
    produced_for msg (L₁ ++ L₂) = produced_for msg L₁ ++ produced_for msg L₂ := by
  simp [produced_for]

/-- There is one list of events that a step has added to the log. -/
theorem exists_new_events_iff {s s' : RouterState} {L : List Event} {P : List Event → Prop}
    (hlog : s'.log = s.log ++ L) : (∃ L', s'.log = s.log ++ L' ∧ P L') ↔ P L := by
  constructor
  · intro hex
    obtain ⟨L', hlog', h⟩ := hex
    rwa [List.append_cancel_left (hlog.symm.trans hlog')]
  · exact fun h => ⟨L, hlog, h⟩

/-! ### Headers of frames -/

theorem ip_hdr_append (e : SrEthernetHdr) (h : SrIpHdr) (rest : List uint8_t) :
    ip_hdr (e.toBytes ++ h.toBytes ++ rest) = h := by
  have hlen : SrEthernetHdr.size = e.toBytes.length := e.toBytes_length.symm
  rw [ip_hdr, List.append_assoc, hlen, List.drop_left, SrIpHdr.ofBytes_toBytes]

@[simp] theorem ip_hdr_icmp_t3_frame (heap : Heap) (buf : Nat) (ifc : SrIf) (code : uint8_t)
    (frame : RawFrame) :
    ip_hdr (icmp_t3_frame heap buf ifc code frame) =
      icmp_error_ip ifc (ip_hdr frame) SrIcmpT3Hdr.size :=
  ip_hdr_append _ _ _

@[simp] theorem ip_hdr_icmp_t11_frame (heap : Heap) (buf : Nat) (ifc : SrIf) (frame : RawFrame) :
    ip_hdr (icmp_t11_frame heap buf ifc frame) =
      icmp_error_ip ifc (ip_hdr frame) SrIcmpT11Hdr.size :=
  ip_hdr_append _ _ _

@[simp] theorem icmp_error_ip_src (ifc : SrIf) (i_hdr0 : SrIpHdr) (n : Nat) :
    (icmp_error_ip ifc i_hdr0 n).ip_src = ifc.ip := rfl

@[simp] theorem icmp_error_ip_dst (ifc : SrIf) (i_hdr0 : SrIpHdr) (n : Nat) :
    (icmp_error_ip ifc i_hdr0 n).ip_dst = i_hdr0.ip_src := rfl

@[simp] theorem icmp_t3_frame_length (heap : Heap) (buf : Nat) (ifc : SrIf) (code : uint8_t)
    (frame : RawFrame) : (icmp_t3_frame heap buf ifc code frame).length = 70 := by
  simp [icmp_t3_frame, SrEthernetHdr.size, SrIpHdr.size, SrIcmpT3Hdr.size]

@[simp] theorem icmp_t11_frame_length (heap : Heap) (buf : Nat) (ifc : SrIf)
    (frame : RawFrame) : (icmp_t11_frame heap buf ifc frame).length = 70 := by
  simp [icmp_t11_frame, SrEthernetHdr.size, SrIpHdr.size, SrIcmpT11Hdr.size]

/-- A forwarded frame has one hop less to live. -/
theorem transit_frame_ttl (packet : RawFrame) (addr : EtherAddr) :
    (ip_hdr (transit_frame packet addr)).ip_ttl = (ip_hdr packet).ip_ttl - 1 := by
  rw [transit_frame, ip_hdr_append]

theorem transit_frame_dst (packet : RawFrame) (addr : EtherAddr) :
    (ip_hdr (transit_frame packet addr)).ip_dst = (ip_hdr packet).ip_dst := by
  rw [transit_frame, ip_hdr_append]

/-- An echo reply goes back to where the request came from. -/
theorem echo_reply_frame_dst (packet : RawFrame) (addr : EtherAddr) :
    (ip_hdr (echo_reply_frame packet addr)).ip_dst = (ip_hdr packet).ip_src := by
  rw [echo_reply_frame, List.append_assoc, ip_hdr_append]

/-- A time-exceeded message is an ICMP message of type 11 and code 0. -/
theorem icmp_hdr_icmp_t11_frame (heap : Heap) (buf : Nat) (ifc : SrIf) (frame : RawFrame) :
    (icmp_hdr (icmp_t11_frame heap buf ifc frame)).icmp_type = 11 ∧
      (icmp_hdr (icmp_t11_frame heap buf ifc frame)).icmp_code = 0 := by
  have hdrop : (icmp_t11_frame heap buf ifc frame).drop (SrEthernetHdr.size + SrIpHdr.size) =
      (icmp_t11 (icmp_data heap buf frame)).toBytes :=
    List.drop_left' (by simp)
  rw [icmp_hdr, hdrop]
  exact ⟨rfl, rfl⟩

theorem set_ether_dhost_drop (buf : RawFrame) (mac : EtherAddr) :
    (set_ether_dhost buf mac).drop ETHER_ADDR_LEN = buf.drop ETHER_ADDR_LEN := by
  simp [set_ether_dhost]

/-- Filling in the destination address touches neither the IP header. -/
@[simp] theorem ip_hdr_set_ether_dhost (buf : RawFrame) (mac : EtherAddr) :
    ip_hdr (set_ether_dhost buf mac) = ip_hdr buf := by
  have hdrop := congrArg (List.drop 8) (set_ether_dhost_drop buf mac)
  rw [List.drop_drop, List.drop_drop] at hdrop
  exact congrArg SrIpHdr.ofBytes hdrop

/-- Nor the ICMP header. -/
@[simp] theorem icmp_hdr_set_ether_dhost (buf : RawFrame) (mac : EtherAddr) :
    icmp_hdr (set_ether_dhost buf mac) = icmp_hdr buf := by
  have hdrop := congrArg (List.drop 28) (set_ether_dhost_drop buf mac)
  rw [List.drop_drop, List.drop_drop] at hdrop
  exact congrArg SrIcmpHdr.ofBytes hdrop

/-- Nor the type of the frame. -/
@[simp] theorem ether_type_set_ether_dhost (buf : RawFrame) (mac : EtherAddr) :
    (SrEthernetHdr.ofBytes (set_ether_dhost buf mac)).ether_type =
      (SrEthernetHdr.ofBytes buf).ether_type := by
  have hdrop := set_ether_dhost_drop buf mac
  show u16 _ (6 + 6) = u16 _ (6 + 6)
  rw [← u16_drop, hdrop, u16_drop]

/-- Nor the source address. -/
@[simp] theorem ether_shost_set_ether_dhost (buf : RawFrame) (mac : EtherAddr) :
    (SrEthernetHdr.ofBytes (set_ether_dhost buf mac)).ether_shost =
      (SrEthernetHdr.ofBytes buf).ether_shost := by
  have hdrop := set_ether_dhost_drop buf mac
  show array 6 _ (6 + 0) = array 6 _ (6 + 0)
  rw [← array_drop, hdrop, array_drop]

/-- It is filled in. -/
@[simp] theorem ether_dhost_set_ether_dhost (buf : RawFrame) (mac : EtherAddr) :
    (SrEthernetHdr.ofBytes (set_ether_dhost buf mac)).ether_dhost = mac :=
  array_append_left _ _

/-- What `sr_send_packet` checks holds of a frame from the address of its interface. -/
theorem send_accepted {sr : SrInstance} {buf : RawFrame} {iface : IfName} {ifc : SrIf}
    (hifc : sr_get_interface sr iface = some ifc) (hlen : SrEthernetHdr.size ≤ buf.length)
    (hshost : (SrEthernetHdr.ofBytes buf).ether_shost = ifc.addr) :
    (decide (SrEthernetHdr.size ≤ buf.length) && sr_ether_addrs_match_interface sr buf iface) =
      true := by
  rw [Bool.and_eq_true, decide_eq_true_eq]
  refine ⟨hlen, ?_⟩
  simp only [sr_ether_addrs_match_interface, hifc, hshost, decide_true]

theorem set_ether_dhost_length {buf : RawFrame} (h : SrEthernetHdr.size ≤ buf.length)
    (mac : EtherAddr) : (set_ether_dhost buf mac).length = buf.length := by
  have hsize : SrEthernetHdr.size = 14 := rfl
  simp only [set_ether_dhost, List.length_append, Vector.length_toList, List.length_drop,
    ETHER_ADDR_LEN]
  omega

/-- The ARP header of a frame. -/
def arp_hdr (packet : RawFrame) : SrArpHdr := SrArpHdr.ofBytes (packet.drop SrEthernetHdr.size)

theorem arp_hdr_append (e : SrEthernetHdr) (h : SrArpHdr) (rest : List uint8_t) :
    arp_hdr (e.toBytes ++ h.toBytes ++ rest) = h := by
  have hlen : SrEthernetHdr.size = e.toBytes.length := e.toBytes_length.symm
  rw [arp_hdr, List.append_assoc, hlen, List.drop_left, SrArpHdr.ofBytes_toBytes]

/-! ### The branches that send an IP frame -/

/-- The ICMP errors that answer a packet from the interface `ifc` it came in on. -/
inductive ErrorReply (heap : Heap) (buf : Nat) (packet : RawFrame) (ifc : SrIf) :
    IpBranch → Message → RawFrame → Prop where
  | port_unreachable : ErrorReply heap buf packet ifc .port_unreachable .port_unreachable
      (icmp_t3_frame heap buf ifc 3 packet)
  | time_exceeded : ErrorReply heap buf packet ifc .time_exceeded .time_exceeded
      (icmp_t11_frame heap buf ifc packet)
  | net_unreachable : ErrorReply heap buf packet ifc .net_unreachable .net_unreachable
      (icmp_t3_frame heap buf ifc 0 packet)

/-- The frames that are left to be sent to the address of some IP. -/
inductive Resolves (sr : SrInstance) (heap : Heap) (buf : Nat) (packet : RawFrame)
    (interface : IfName) : Message → uint32_t → RawFrame → IfName → Prop where
  | echo_reply {rtentry : SrRt} {ifc : SrIf} (hbranch : sr_ip_branch sr packet = .echo_request)
      (hrt : sr_findLPMentry sr.routing_table (ip_hdr packet).ip_src = some rtentry)
      (hifc : sr_get_interface sr rtentry.interface = some ifc) :
      Resolves sr heap buf packet interface .echo_reply (ip_hdr packet).ip_src
        (echo_reply_frame packet ifc.addr) rtentry.interface
  | forward {rtentry : SrRt} {ifc : SrIf} (hbranch : sr_ip_branch sr packet = .forward rtentry)
      (hifc : sr_get_interface sr rtentry.interface = some ifc) :
      Resolves sr heap buf packet interface .forward (ip_hdr packet).ip_dst
        (transit_frame packet ifc.addr) rtentry.interface
  | error {msg : Message} {frame : RawFrame} {ifc : SrIf}
      (herror : ErrorReply heap buf packet ifc (sr_ip_branch sr packet) msg frame)
      (hifc : sr_get_interface sr interface = some ifc) :
      Resolves sr heap buf packet interface msg (ip_hdr packet).ip_src frame interface

variable {sr : SrInstance} {heap : Heap} {buf : Nat} {packet frame : RawFrame}
  {interface iface : IfName} {msg : Message} {ip : uint32_t}

theorem ErrorReply.length {ifc : SrIf} {branch : IpBranch}
    (h : ErrorReply heap buf packet ifc branch msg frame) : frame.length = 70 := by
  cases h <;> simp

theorem ErrorReply.shost {ifc : SrIf} {branch : IpBranch}
    (h : ErrorReply heap buf packet ifc branch msg frame) :
    (SrEthernetHdr.ofBytes frame).ether_shost = ifc.addr := by
  cases h with
  | time_exceeded =>
    rw [icmp_t11_frame, List.append_assoc, SrEthernetHdr.ofBytes_toBytes, icmp_error_ethernet]
  | _ => rw [icmp_t3_frame, List.append_assoc, SrEthernetHdr.ofBytes_toBytes, icmp_error_ethernet]

/-- The errors of both types have the same header: they are of one size. -/
theorem ErrorReply.header {ifc : SrIf} {branch : IpBranch}
    (h : ErrorReply heap buf packet ifc branch msg frame) :
    ip_hdr frame = icmp_error_ip ifc (ip_hdr packet) SrIcmpT3Hdr.size := by
  cases h <;> simp [SrIcmpT3Hdr.size, SrIcmpT11Hdr.size]

/-- An error goes back to where the packet came from. -/
theorem ErrorReply.dst {ifc : SrIf} {branch : IpBranch}
    (h : ErrorReply heap buf packet ifc branch msg frame) :
    (ip_hdr frame).ip_dst = (ip_hdr packet).ip_src := by
  cases h <;> simp

/-- Every frame is sent from the address of its interface. -/
theorem Resolves.shost (h : Resolves sr heap buf packet interface msg ip frame iface) :
    ∃ ifc, sr_get_interface sr iface = some ifc ∧
      (SrEthernetHdr.ofBytes frame).ether_shost = ifc.addr ∧ SrEthernetHdr.size ≤ frame.length := by
  cases h with
  | echo_reply _ _ hifc =>
    refine ⟨_, hifc, ?_, by simp [echo_reply_frame]⟩
    rw [echo_reply_frame, List.append_assoc, List.append_assoc, SrEthernetHdr.ofBytes_toBytes]
  | forward _ hifc =>
    refine ⟨_, hifc, ?_, by simp [transit_frame]⟩
    rw [transit_frame, List.append_assoc, SrEthernetHdr.ofBytes_toBytes]
  | error herror hifc => exact ⟨_, hifc, herror.shost, by rw [herror.length]; decide⟩

theorem Resolves.length (h : Resolves sr heap buf packet interface msg ip frame iface) :
    frame.length ≠ 0 := by
  cases h with
  | echo_reply => simp [echo_reply_frame, SrIpHdr.size]
  | forward => simp [transit_frame, SrIpHdr.size]
  | error herror => simp [herror.length]

/-- Every frame is sent to the address of its own destination. -/
theorem Resolves.dst (h : Resolves sr heap buf packet interface msg ip frame iface) :
    (ip_hdr frame).ip_dst = ip := by
  cases h with
  | echo_reply => exact echo_reply_frame_dst _ _
  | forward => exact transit_frame_dst _ _
  | error herror => exact herror.dst

/-- The frames that packets are answered or passed on with. -/
def Message.forPacket : Message → Bool
  | .echo_reply => true
  | .port_unreachable => true
  | .time_exceeded => true
  | .forward => true
  | .net_unreachable => true
  | _ => false

theorem ErrorReply.forPacket {ifc : SrIf} {branch : IpBranch}
    (h : ErrorReply heap buf packet ifc branch msg frame) : msg.forPacket := by
  cases h <;> rfl

theorem Resolves.forPacket (h : Resolves sr heap buf packet interface msg ip frame iface) :
    msg.forPacket := by
  cases h with
  | echo_reply => rfl
  | forward => rfl
  | error herror => exact herror.forPacket

/-- An Ethernet frame with an IP header. -/
structure IpFrame (frame : RawFrame) : Prop where
  type : (SrEthernetHdr.ofBytes frame).ether_type = htons ethertype_ip
  length : SrEthernetHdr.size + SrIpHdr.size ≤ frame.length

theorem IpFrame.set_ether_dhost {frame : RawFrame} (h : IpFrame frame) (mac : EtherAddr) :
    IpFrame (set_ether_dhost frame mac) where
  type := by rw [ether_type_set_ether_dhost, h.type]
  length := by
    rw [set_ether_dhost_length (Nat.le_trans (Nat.le_add_right _ _) h.length)]
    exact h.length

theorem IpFrame.has_ether_type {frame : RawFrame} (h : IpFrame frame) :
    has_ether_type frame ethertype_ip := by
  have := h.length
  simp only [SimpleRouter.has_ether_type, h.type, and_true, decide_eq_true_eq]
  omega

theorem icmp_t3_frame_ip (heap : Heap) (buf : Nat) (ifc : SrIf) (code : uint8_t)
    (frame : RawFrame) : IpFrame (icmp_t3_frame heap buf ifc code frame) := by
  refine ⟨?_, by simp [SrEthernetHdr.size, SrIpHdr.size]⟩
  rw [icmp_t3_frame, List.append_assoc, SrEthernetHdr.ofBytes_toBytes, icmp_error_ethernet]

theorem icmp_t11_frame_ip (heap : Heap) (buf : Nat) (ifc : SrIf) (frame : RawFrame) :
    IpFrame (icmp_t11_frame heap buf ifc frame) := by
  refine ⟨?_, by simp [SrEthernetHdr.size, SrIpHdr.size]⟩
  rw [icmp_t11_frame, List.append_assoc, SrEthernetHdr.ofBytes_toBytes, icmp_error_ethernet]

theorem ErrorReply.ip_frame {ifc : SrIf} {branch : IpBranch}
    (h : ErrorReply heap buf packet ifc branch msg frame) : IpFrame frame := by
  cases h with
  | port_unreachable => exact icmp_t3_frame_ip ..
  | time_exceeded => exact icmp_t11_frame_ip ..
  | net_unreachable => exact icmp_t3_frame_ip ..

/-- Every frame that is made for an IP packet is one. -/
theorem Resolves.ip_frame (h : Resolves sr heap buf packet interface msg ip frame iface)
    (hip : has_ether_type packet ethertype_ip) : IpFrame frame := by
  have htype : (SrEthernetHdr.ofBytes packet).ether_type = htons ethertype_ip := by
    simp only [has_ether_type, Bool.decide_and, Bool.and_eq_true, decide_eq_true_eq] at hip
    exact hip.2
  cases h with
  | echo_reply =>
    refine ⟨?_, by simp [echo_reply_frame]⟩
    rw [echo_reply_frame, List.append_assoc, List.append_assoc, SrEthernetHdr.ofBytes_toBytes,
      htype]
  | forward =>
    refine ⟨?_, by simp [transit_frame]⟩
    rw [transit_frame, List.append_assoc, SrEthernetHdr.ofBytes_toBytes, htype]
  | error herror => exact herror.ip_frame

theorem answer_error_resolve {f : SrIf → RawFrame} {msg' : Message}
    (h : answer_error sr msg' packet interface f = .resolve msg ip frame iface) :
    msg' = msg ∧ ip = (ip_hdr packet).ip_src ∧ iface = interface ∧
      ∃ ifc, sr_get_interface sr interface = some ifc ∧ frame = f ifc := by
  unfold answer_error at h
  split at h
  · simp at h
  · next ifc hifc =>
    obtain ⟨rfl, rfl, rfl, rfl⟩ := Todo.resolve.inj h
    exact ⟨rfl, rfl, rfl, ifc, hifc, rfl⟩

theorem ip_todo_resolve
    (h : sr_ip_todo sr heap buf packet interface (sr_ip_branch sr packet) =
      .resolve msg ip frame iface) : Resolves sr heap buf packet interface msg ip frame iface := by
  -- by the branch: `Resolves` has a case for each of those that send
  cases hbranch : sr_ip_branch sr packet with
  | drop => simp [hbranch, sr_ip_todo] at h
  | echo_request =>
    simp only [hbranch, sr_ip_todo] at h
    split at h
    · simp at h
    · next rtentry hrt =>
      split at h
      · simp at h
      · next ifc hifc =>
        obtain ⟨rfl, rfl, rfl, rfl⟩ := Todo.resolve.inj h
        exact .echo_reply hbranch hrt hifc
  | forward rtentry =>
    simp only [hbranch, sr_ip_todo] at h
    split at h
    · simp at h
    · next ifc hifc =>
      obtain ⟨rfl, rfl, rfl, rfl⟩ := Todo.resolve.inj h
      exact .forward hbranch hifc
  | port_unreachable =>
    simp only [hbranch, sr_ip_todo] at h
    obtain ⟨rfl, rfl, rfl, ifc, hifc, rfl⟩ := answer_error_resolve h
    exact .error (hbranch ▸ .port_unreachable) hifc
  | time_exceeded =>
    simp only [hbranch, sr_ip_todo] at h
    obtain ⟨rfl, rfl, rfl, ifc, hifc, rfl⟩ := answer_error_resolve h
    exact .error (hbranch ▸ .time_exceeded) hifc
  | net_unreachable =>
    simp only [hbranch, sr_ip_todo] at h
    obtain ⟨rfl, rfl, rfl, ifc, hifc, rfl⟩ := answer_error_resolve h
    exact .error (hbranch ▸ .net_unreachable) hifc

/-- What is left to do with an IP packet. -/
theorem ip_todo_cases (sr : SrInstance) (heap : Heap) (buf : Nat) (packet : RawFrame)
    (interface : IfName) (branch : IpBranch) :
    sr_ip_todo sr heap buf packet interface branch = .nothing ∨
      (∃ f, sr_ip_todo sr heap buf packet interface branch = .crash f) ∨
      ∃ msg ip frame iface,
        sr_ip_todo sr heap buf packet interface branch = .resolve msg ip frame iface := by
  have herror : ∀ msg frame, (∃ f, answer_error sr msg packet interface frame = .crash f) ∨
      ∃ msg' ip frame' iface,
        answer_error sr msg packet interface frame = .resolve msg' ip frame' iface := by
    intro msg frame
    rw [answer_error]
    cases sr_get_interface sr interface with
    | none => exact .inl ⟨_, rfl⟩
    | some ifc => exact .inr ⟨_, _, _, _, rfl⟩
  cases branch with
  | drop => exact .inl rfl
  | echo_request =>
    rw [sr_ip_todo]
    cases sr_findLPMentry sr.routing_table (ip_hdr packet).ip_src with
    | none => exact .inl rfl
    | some rtentry =>
      cases hifc : sr_get_interface sr rtentry.interface with
      | none => simp [hifc]
      | some ifc => simp [hifc]
  | forward rtentry =>
    rw [sr_ip_todo]
    cases sr_get_interface sr rtentry.interface with
    | none => exact .inr (.inl ⟨_, rfl⟩)
    | some ifc => exact .inr (.inr ⟨_, _, _, _, rfl⟩)
  | port_unreachable => exact .inr (herror _ _)
  | time_exceeded => exact .inr (herror _ _)
  | net_unreachable => exact .inr (herror _ _)

theorem arp_todo_not_resolve :
    sr_arp_todo sr packet interface ≠ .resolve msg ip frame iface := by
  unfold sr_arp_todo
  simp only
  repeat' split
  all_goals simp

/-- Only frames with an IP header lead to these branches. -/
theorem todo_resolve (h : sr_handlepacket_todo sr heap buf packet interface =
    .resolve msg ip frame iface) :
    has_ether_type packet ethertype_ip ∧ Resolves sr heap buf packet interface msg ip frame iface := by
  unfold sr_handlepacket_todo at h
  split at h
  · simp at h
  · next hlen =>
    split at h
    · next htype => exact ⟨by simpa [has_ether_type, htype] using hlen, ip_todo_resolve h⟩
    · split at h
      · exact absurd h arp_todo_not_resolve
      · simp at h

/-- ARP requests are replied to, from the interface they came in on, and nothing else is. -/
theorem todo_reply (h : sr_handlepacket_todo sr heap buf packet interface = .reply frame iface) :
    (SrEthernetHdr.ofBytes packet).ether_type = htons ethertype_arp ∧
      ∃ ifc, sr_get_interface sr interface = some ifc ∧ iface = interface ∧
        frame = arp_reply_frame packet ifc := by
  unfold sr_handlepacket_todo at h
  split at h
  · simp at h
  · split at h
    · rcases ip_todo_cases sr heap buf packet interface (sr_ip_branch sr packet) with
        hnothing | ⟨f, hcrash⟩ | ⟨msg, ip, frame', iface', hresolve⟩ <;> simp_all
    · split at h
      · next htype =>
        refine ⟨htype, ?_⟩
        unfold sr_arp_todo at h
        grind
      · simp at h

theorem arp_reply_frame_type (ifc : SrIf) :
    (SrEthernetHdr.ofBytes (arp_reply_frame packet ifc)).ether_type =
      (SrEthernetHdr.ofBytes packet).ether_type := by
  rw [arp_reply_frame, List.append_assoc, SrEthernetHdr.ofBytes_toBytes]

theorem arp_request_frame_type (ifc : SrIf) (ip : uint32_t) :
    (SrEthernetHdr.ofBytes (arp_request_frame ifc ip)).ether_type = htons ethertype_arp := by
  rw [arp_request_frame, SrEthernetHdr.ofBytes_toBytes]

/-- No ARP frame is an IP frame. -/
theorem not_ip_of_type {frame : RawFrame}
    (h : (SrEthernetHdr.ofBytes frame).ether_type = htons ethertype_arp) :
    ¬ has_ether_type frame ethertype_ip := by
  simp only [has_ether_type, h, Bool.decide_and, Bool.and_eq_true, decide_eq_true_eq]
  intro hip
  exact absurd hip.2 (by decide)

/-- The ARP request for `ip`, field by field. -/
theorem arp_hdr_request_frame (ifc : SrIf) (ip : uint32_t) :
    arp_hdr (arp_request_frame ifc ip) =
      { ar_hrd := htons arp_hrd_ethernet
        ar_pro := htons ethertype_ip
        ar_hln := BitVec.ofNat 8 ETHER_ADDR_LEN
        ar_pln := 4
        ar_op := htons arp_op_request
        ar_sha := ifc.addr
        ar_sip := ifc.ip
        ar_tha := Vector.replicate 6 0xff
        ar_tip := ip } := by
  rw [arp_request_frame, ← List.append_nil (_ ++ _), arp_hdr_append]

/-- The reply to an ARP request says our address to whoever asked. -/
theorem arp_hdr_reply_frame (packet : RawFrame) (ifc : SrIf) :
    arp_hdr (arp_reply_frame packet ifc) =
      { arp_hdr packet with
        ar_op := htons arp_op_reply
        ar_tip := (arp_hdr packet).ar_sip
        ar_sip := ifc.ip
        ar_tha := (arp_hdr packet).ar_sha
        ar_sha := ifc.addr } := by
  rw [arp_reply_frame, arp_hdr_append]
  rfl

/-- A packet that is not dropped was accepted. -/
theorem accepted_of_branch (h : sr_ip_branch sr packet ≠ .drop) :
    ip_valid packet ∧ ip_black_list (ip_hdr packet) = false := by
  cases hvalid : ip_valid packet with
  | false => simp [sr_ip_branch, hvalid] at h
  | true =>
    cases hlist : ip_black_list (ip_hdr packet) with
    | true => simp [sr_ip_branch, hvalid, hlist] at h
    | false => exact ⟨rfl, rfl⟩

theorem ErrorReply.branch_ne_drop {ifc : SrIf} {branch : IpBranch}
    (h : ErrorReply heap buf packet ifc branch msg frame) : branch ≠ .drop := by
  cases h <;> simp

theorem Resolves.accepted (h : Resolves sr heap buf packet interface msg ip frame iface) :
    ip_valid packet ∧ ip_black_list (ip_hdr packet) = false := by
  have hbranch : sr_ip_branch sr packet ≠ .drop := by
    cases h with
    | echo_reply hbranch => simp [hbranch]
    | forward hbranch => simp [hbranch]
    | error herror => exact herror.branch_ne_drop
  exact accepted_of_branch hbranch

/-- Only packets for somewhere else are passed on, on the route to there. -/
theorem ip_branch_forward {rtentry : SrRt} (h : sr_ip_branch sr packet = .forward rtentry) :
    ip_to_router sr packet = false ∧
      sr_findLPMentry sr.routing_table (ip_hdr packet).ip_dst = some rtentry := by
  cases hto : ip_to_router sr packet with
  | true =>
    simp only [sr_ip_branch, hto, if_true] at h
    grind
  | false =>
    refine ⟨rfl, ?_⟩
    simp only [sr_ip_branch, hto, Bool.false_eq_true, if_false] at h
    grind

/-- The branches that answer a packet with an ICMP error. -/
def IpBranch.is_error : IpBranch → Bool
  | .port_unreachable => true
  | .time_exceeded => true
  | .net_unreachable => true
  | _ => false

theorem ErrorReply.is_error {ifc : SrIf} {branch : IpBranch}
    (h : ErrorReply heap buf packet ifc branch msg frame) : branch.is_error := by
  cases h <;> rfl

theorem ErrorReply.not_forward {ifc : SrIf} {branch : IpBranch}
    (h : ErrorReply heap buf packet ifc branch msg frame) : msg ≠ .forward := by
  cases h <;> simp

/-! ### A network to run on

    A router between three /24 networks, and a builder for the frames that
    reach it.
-/

namespace Sample

def eth (n : uint8_t) : IfName := IfName.ofChars [0x65, 0x74, 0x68, 0x30 + n]

def mac (n : uint8_t) : EtherAddr := #v[0x02, 0, 0, 0, 0, n]

def net : SrInstance where
  if_list :=
    [⟨eth 1, mac 1, inet_addr 192 168 2 1⟩,
      ⟨eth 2, mac 2, inet_addr 172 64 3 1⟩,
      ⟨eth 3, mac 3, inet_addr 10 0 1 1⟩]
  routing_table :=
    [⟨inet_addr 10 0 1 100, inet_addr 10 0 1 100, inet_addr 255 255 255 0, eth 3⟩,
      ⟨inet_addr 192 168 2 2, inet_addr 192 168 2 2, inet_addr 255 255 255 0, eth 1⟩,
      ⟨inet_addr 172 64 3 10, inet_addr 172 64 3 10, inet_addr 255 255 255 0, eth 2⟩]

def mem : Heap := ⟨fun _ _ => 0xaa, fun _ _ => 0xbb⟩

/-- An IP packet with a valid checksum, in a frame. -/
def ip_frame (ip_src ip_dst : uint32_t) (ip_ttl ip_p : uint8_t) (rest : List uint8_t) : RawFrame :=
  let i_hdr : SrIpHdr :=
    { ip_hl := 5
      ip_v := 4
      ip_tos := 0
      ip_len := htons (BitVec.ofNat 16 (SrIpHdr.size + rest.length))
      ip_id := 0
      ip_off := 0
      ip_ttl := ip_ttl
      ip_p := ip_p
      ip_src := ip_src
      ip_dst := ip_dst
      ip_sum := 0 }
  let e_hdr : SrEthernetHdr := ⟨mac 9, mac 8, htons ethertype_ip⟩
  e_hdr.toBytes ++ { i_hdr with ip_sum := cksum i_hdr.toBytes }.toBytes ++ rest

/-- A run from the empty cache. -/
def run (fuel : Nat) (labels : List Label) : Outcome Fault Unit × RouterState :=
  Prog.forEach labels (run_label net mem fuel) RouterState.empty

theorem run_guarded {guard : Label → Prop} {fuel : Nat} {labels : List Label}
    (hguard : ∀ l ∈ labels, guard l) (h : (run fuel labels).1 = .returned ()) :
    Reachable net mem (fun _ => guard) (run fuel labels).2 := by
  have hrun : Prog.forEach labels (run_label net mem fuel) RouterState.empty =
      (.returned (), (run fuel labels).2) := Prod.ext h rfl
  refine Prog.forEach_returned (I := fun _ s => Reachable net mem (fun _ => guard) s) (.init rfl)
    ?_ hrun
  intro before l after s s' hlabels hs hbody
  exact .step hs (hguard l (by simp [hlabels])) ⟨fuel, hbody⟩

theorem run_reachable {fuel : Nat} {labels : List Label}
    (h : (run fuel labels).1 = .returned ()) :
    Reachable net mem System.always (run fuel labels).2 :=
  run_guarded (fun _ _ => trivial) h

end Sample

end SimpleRouter
