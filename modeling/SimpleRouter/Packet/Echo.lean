import SimpleRouter.Packet.Acceptance
import SimpleRouter.Packet.Forwarding

/-! # Echo requests in padded frames

    A frame may be longer than the IP packet in it. The router does not look at
    `ip_len`: it checks the ICMP checksum over the rest of the frame, padding
    included, and writes that of the reply over the rest of the frame too. So
    padding does not matter exactly if it adds up to zero.

    * `ValidRequest`: an echo request that should be answered.
    * `EchoReplyTo`: its answer.
    * `padding_iff`: when it is answered.
-/

namespace SimpleRouter

open Framework Framework.Bytes Framework.OnesComplement

variable {sr : SrInstance} {heap : Heap} {now : time_t} {packet reply : RawFrame}
  {interface : IfName}

/-! ### IP packets in frames -/

/-- The length of the IP packet, by its header. -/
def ip_length (packet : RawFrame) : Nat := (htons (ip_hdr packet).ip_len).toNat

/-- The ICMP message of the IP packet, without what follows it in the frame. -/
def icmp_message (packet : RawFrame) : List uint8_t :=
  (packet.drop (SrEthernetHdr.size + SrIpHdr.size)).take (ip_length packet - SrIpHdr.size)

/-- What follows the IP packet in the frame. -/
def padding (packet : RawFrame) : List uint8_t :=
  packet.drop (SrEthernetHdr.size + ip_length packet)

/-- The rest of the frame is the message and the padding. -/
theorem icmp_message_padding (h : SrIpHdr.size ≤ ip_length packet) :
    packet.drop (SrEthernetHdr.size + SrIpHdr.size) = icmp_message packet ++ padding packet := by
  have hpadding : padding packet = (packet.drop (SrEthernetHdr.size + SrIpHdr.size)).drop
      (ip_length packet - SrIpHdr.size) := by
    rw [padding, List.drop_drop]
    congr 1
    omega
  rw [icmp_message, hpadding, List.take_append_drop]

/-- The padding adds nothing to the sum of the message before it. -/
def PaddingZero (packet : RawFrame) : Prop :=
  totalBehind (ip_length packet) (padding packet) % 0xffff = 0

instance (packet : RawFrame) : Decidable (PaddingZero packet) :=
  inferInstanceAs (Decidable (_ = 0))

/-! ### Requests and replies -/

/-- An ICMP echo request for the router that is valid as an IP packet: the checksums are right,
    and that of the message is not zero. -/
structure ValidRequest (sr : SrInstance) (packet : RawFrame) : Prop where
  ether_type : has_ether_type packet ethertype_ip
  ip_v : (ip_hdr packet).ip_v = 4
  ip_hl : (ip_hdr packet).ip_hl = 5
  ip_p : (ip_hdr packet).ip_p = ip_protocol_icmp
  allowed : ip_black_list (ip_hdr packet) = false
  to_router : ip_to_router sr packet
  header : HeaderSum packet
  shortest : 28 ≤ ip_length packet
  fits : ip_length packet ≤ packet.length - SrEthernetHdr.size
  icmp_type : (icmp_hdr packet).icmp_type = 0x08
  icmp_sum : (icmp_hdr packet).icmp_sum ≠ 0
  message : sum (words (icmp_message packet)) = 0xffff

/-- The reply to an echo request: source and destination swapped, a new TTL, type 0, both
    checksums right, and the rest as it was. -/
structure EchoReplyTo (packet reply : RawFrame) : Prop where
  ip_hdr : ∃ x, ip_hdr reply =
    { ip_hdr packet with
      ip_ttl := 255
      ip_src := (ip_hdr packet).ip_dst
      ip_dst := (ip_hdr packet).ip_src
      ip_sum := x }
  header : HeaderSum reply
  icmp : ∃ x : uint16_t, icmp_message reply =
    [0x00, (icmp_hdr packet).icmp_code] ++ (le16 x ++ (icmp_message packet).drop SrIcmpHdr.size)
  message : sum (words (icmp_message reply)) = 0xffff

theorem EchoReplyTo.ip_length (h : EchoReplyTo packet reply) :
    ip_length reply = ip_length packet := by
  obtain ⟨x, hhdr⟩ := h.ip_hdr
  rw [SimpleRouter.ip_length, hhdr, SimpleRouter.ip_length]

/-- The destination address is no part of it. -/
theorem EchoReplyTo.set_ether_dhost (h : EchoReplyTo packet reply) (mac : EtherAddr) :
    EchoReplyTo packet (set_ether_dhost reply mac) := by
  have hmessage : icmp_message (SimpleRouter.set_ether_dhost reply mac) = icmp_message reply := by
    rw [icmp_message, SimpleRouter.ip_length, ip_hdr_set_ether_dhost]
    exact congrArg (List.take _) (set_ether_dhost_sum mac 28)
  refine ⟨?_, h.header.set_ether_dhost mac, ?_, ?_⟩
  · rw [ip_hdr_set_ether_dhost]
    exact h.ip_hdr
  · rw [hmessage]
    exact h.icmp
  · rw [hmessage]
    exact h.message

/-! ### The checksums -/

/-- The checksum over a message and more is right, given that it is right over the message,
    exactly if what follows adds nothing. -/
theorem message_sum_iff {message rest : List uint8_t} (h : sum (words message) = 0xffff) :
    sum (words (message ++ rest)) = 0xffff ↔ totalBehind message.length rest % 0xffff = 0 := by
  obtain ⟨hpos, hmod⟩ := (sum_eq_ones_iff message).mp h
  rw [sum_eq_ones_iff, total_append_behind]
  omega

theorem icmp_message_length (hfits : ip_length packet ≤ packet.length - SrEthernetHdr.size) :
    (icmp_message packet).length = ip_length packet - SrIpHdr.size := by
  simp only [icmp_message, List.length_take, List.length_drop, SrEthernetHdr.size,
    SrIpHdr.size] at hfits ⊢
  omega

theorem totalBehind_icmp_message (hlen : 28 ≤ ip_length packet)
    (hfits : ip_length packet ≤ packet.length - SrEthernetHdr.size) (rest : List uint8_t) :
    totalBehind (icmp_message packet).length rest = totalBehind (ip_length packet) rest := by
  have hparity : (ip_length packet - SrIpHdr.size) % 2 = ip_length packet % 2 := by
    simp only [SrIpHdr.size]
    omega
  rw [icmp_message_length hfits, totalBehind, totalBehind, hparity]

/-- Where the padding adds nothing, what is right over the frame is right over the message. -/
theorem message_sum_of_icmpSum (hlen : 28 ≤ ip_length packet)
    (hfits : ip_length packet ≤ packet.length - SrEthernetHdr.size)
    (hpos : 0 < total (icmp_message packet)) (hsum : IcmpSum packet) (hzero : PaddingZero packet) :
    sum (words (icmp_message packet)) = 0xffff := by
  have hsize : SrIpHdr.size ≤ ip_length packet := Nat.le_trans (by decide) hlen
  have hbehind : totalBehind (icmp_message packet).length (padding packet) % 0xffff = 0 := by
    rw [totalBehind_icmp_message hlen hfits]
    exact hzero
  rw [IcmpSum, icmp_message_padding hsize, sum_eq_ones_iff, total_append_behind] at hsum
  rw [sum_eq_ones_iff]
  omega

/-- The rest of the frame is checked instead of the message. -/
theorem ValidRequest.icmpSum_iff (h : ValidRequest sr packet) :
    IcmpSum packet ↔ PaddingZero packet := by
  have hlen : SrIpHdr.size ≤ ip_length packet := Nat.le_trans (by decide) h.shortest
  rw [IcmpSum, icmp_message_padding hlen, message_sum_iff h.message,
    totalBehind_icmp_message h.shortest h.fits]
  rfl

theorem ValidRequest.length (h : ValidRequest sr packet) :
    SrEthernetHdr.size + SrIpHdr.size + 8 ≤ packet.length := by
  have hshortest := h.shortest
  have hfits := h.fits
  simp only [SrEthernetHdr.size, SrIpHdr.size] at hfits ⊢
  omega

/-- A valid request is accepted unless its header has no checksum or its padding counts. -/
theorem ValidRequest.branch (h : ValidRequest sr packet) (hmax : packet.length ≤ cksum_max) :
    sr_ip_branch sr packet =
      if (ip_hdr packet).ip_sum ≠ 0 ∧ PaddingZero packet then .echo_request else .drop := by
  have hlen := h.length
  have hvalid : ip_valid packet ↔ (ip_hdr packet).ip_sum ≠ 0 := by
    rw [ip_valid_iff (Nat.le_trans (Nat.le_add_right _ _) hlen) h.ip_v]
    exact and_iff_left h.header
  by_cases hsum : (ip_hdr packet).ip_sum ≠ 0
  · have hrequest : EchoRequest sr packet :=
      { valid := hvalid.mpr hsum
        allowed := h.allowed
        to_router := h.to_router
        ip_p := h.ip_p
        length := Nat.le_trans (Nat.add_le_add_left (by decide) _) hlen
        icmp_type := h.icmp_type }
    have haccepted := hrequest.accepted_iff hmax
    rw [h.icmpSum_iff, and_iff_right h.icmp_sum] at haccepted
    by_cases hzero : PaddingZero packet
    · rw [if_pos ⟨hsum, hzero⟩]
      exact haccepted.mpr hzero
    · rw [if_neg fun hboth => hzero hboth.2]
      have hother : sr_ip_branch sr packet ≠ .echo_request := fun he => hzero (haccepted.mp he)
      revert hother
      simp only [sr_ip_branch, hrequest.valid, h.allowed, h.to_router, h.ip_p, h.icmp_type]
      grind
  · have hinvalid : ip_valid packet = false := by
      rw [← Bool.not_eq_true, hvalid]
      exact hsum
    rw [if_neg fun hboth => hsum hboth.1]
    simp [sr_ip_branch, hinvalid]

/-! ### The reply -/

theorem cksum_ne_zero (data : List uint8_t) : cksum data ≠ 0 := by
  unfold cksum
  simp only
  split
  · assumption
  · decide

/-- The reply from its ICMP header on. -/
theorem echo_reply_drop (packet : RawFrame) (addr : EtherAddr) :
    ∃ x : uint16_t, x ≠ 0 ∧
      (echo_reply_frame packet addr).drop (SrEthernetHdr.size + SrIpHdr.size) =
        [0x00, (icmp_hdr packet).icmp_code] ++ (le16 x ++ icmp_rest packet) := by
  let ic_hdr : SrIcmpHdr := { icmp_hdr packet with icmp_type := 0x00, icmp_sum := 0 }
  refine ⟨cksum (ic_hdr.toBytes ++ icmp_rest packet), cksum_ne_zero _, ?_⟩
  rw [echo_reply_frame_drop]
  simp only [ic_hdr, SrIcmpHdr.toBytes, List.append_assoc]

theorem echo_reply_ip_length (packet : RawFrame) (addr : EtherAddr) :
    ip_length (echo_reply_frame packet addr) = ip_length packet := by
  rw [ip_length, echo_reply_frame, List.append_assoc, ip_hdr_append, ip_length]

/-- The message of the reply is that of the request but for its type and checksum. -/
theorem echo_reply_message {addr : EtherAddr} {x : uint16_t} (hlen : 28 ≤ ip_length packet)
    (hdrop : (echo_reply_frame packet addr).drop (SrEthernetHdr.size + SrIpHdr.size) =
      [0x00, (icmp_hdr packet).icmp_code] ++ (le16 x ++ icmp_rest packet)) :
    icmp_message (echo_reply_frame packet addr) =
      [0x00, (icmp_hdr packet).icmp_code] ++
        (le16 x ++ (icmp_message packet).drop SrIcmpHdr.size) := by
  obtain ⟨n, hn⟩ : ∃ n, ip_length packet - SrIpHdr.size = n + 4 :=
    ⟨ip_length packet - 24, by simp only [SrIpHdr.size]; omega⟩
  have hrest : (icmp_message packet).drop SrIcmpHdr.size = (icmp_rest packet).take n := by
    rw [icmp_message, hn, List.drop_take, List.drop_drop, icmp_rest]
    rfl
  rw [icmp_message, echo_reply_ip_length, hdrop, hn, hrest]
  rfl

theorem echo_reply_padding {addr : EtherAddr} {x : uint16_t} (hlen : 28 ≤ ip_length packet)
    (hdrop : (echo_reply_frame packet addr).drop (SrEthernetHdr.size + SrIpHdr.size) =
      [0x00, (icmp_hdr packet).icmp_code] ++ (le16 x ++ icmp_rest packet)) :
    padding (echo_reply_frame packet addr) = padding packet := by
  obtain ⟨n, hn⟩ : ∃ n, SrEthernetHdr.size + ip_length packet =
      SrEthernetHdr.size + SrIpHdr.size + (n + 4) :=
    ⟨ip_length packet - 24, by simp only [SrIpHdr.size]; omega⟩
  rw [padding, echo_reply_ip_length, hn, ← List.drop_drop, hdrop, padding, hn]
  show (icmp_rest packet).drop n = _
  rw [icmp_rest, List.drop_drop]
  congr 1
  simp only [SrIcmpHdr.size]
  omega

theorem echo_reply_length (packet : RawFrame) (addr : EtherAddr)
    (hlen : SrEthernetHdr.size + SrIpHdr.size + SrIcmpHdr.size ≤ packet.length) :
    (echo_reply_frame packet addr).length = packet.length := by
  obtain ⟨x, -, hdrop⟩ := echo_reply_drop packet addr
  have hlength := congrArg List.length hdrop
  simp only [icmp_rest, List.length_append, List.length_cons, List.length_nil, le16_length,
    List.length_drop, SrEthernetHdr.size, SrIpHdr.size, SrIcmpHdr.size] at hlen hlength
  omega

/-- A message with a checksum that is not zero has something to sum. -/
theorem total_message_pos {x : uint16_t} (hx : x ≠ 0) (a b : uint8_t) (rest : List uint8_t) :
    0 < total ([a, b] ++ (le16 x ++ rest)) := by
  have hword : (swap16 x).toNat ≠ 0 := fun h => hx (swap16_toNat_eq_zero.mp h)
  rw [total_append _ (by simp), total_le16]
  omega

/-- **The reply is right** if the padding adds nothing. -/
theorem ValidRequest.replied (h : ValidRequest sr packet) (hmax : packet.length ≤ cksum_max)
    (hzero : PaddingZero packet) (addr : EtherAddr) :
    EchoReplyTo packet (echo_reply_frame packet addr) := by
  obtain ⟨x, hx, hdrop⟩ := echo_reply_drop packet addr
  have hmessage := echo_reply_message h.shortest hdrop
  have hlen := echo_reply_ip_length packet addr
  have hsum : IcmpSum (echo_reply_frame packet addr) := (checked_echo_reply addr hmax).icmp rfl
  have hheader : HeaderSum (echo_reply_frame packet addr) := by
    rw [echo_reply_frame, List.append_assoc]
    exact headerSum_append _ _ rfl
  have hshortest : 28 ≤ ip_length (echo_reply_frame packet addr) := by
    rw [hlen]
    exact h.shortest
  have hfits : ip_length (echo_reply_frame packet addr) ≤
      (echo_reply_frame packet addr).length - SrEthernetHdr.size := by
    rw [hlen, echo_reply_length packet addr (Nat.le_trans (by decide) h.length)]
    exact h.fits
  have hpos : 0 < total (icmp_message (echo_reply_frame packet addr)) := by
    rw [hmessage]
    exact total_message_pos hx _ _ _
  have hpadding : PaddingZero (echo_reply_frame packet addr) := by
    rw [PaddingZero, hlen, echo_reply_padding h.shortest hdrop]
    exact hzero
  constructor
  · exact ⟨_, by rw [echo_reply_frame, List.append_assoc, ip_hdr_append]; rfl⟩
  · exact hheader
  · exact ⟨x, hmessage⟩
  · exact message_sum_of_icmpSum hshortest hfits hpos hsum hpadding

/-! ### One call -/

/-- The frame that is made is one of the two forms. -/
theorem Made.produced_forms {msg : Message} {ip : uint32_t} {buf : RawFrame} {iface : IfName}
    {M : List Event} (h : Made (.resolve msg ip buf iface) M) :
    ∃ buf', produced_for msg M = [(buf', iface)] ∧
      (buf' = buf ∨ ∃ mac, buf' = set_ether_dhost buf mac) := by
  cases h with
  | sent mac => exact ⟨set_ether_dhost buf mac, by simp [produced_for, produced], .inr ⟨mac, rfl⟩⟩
  | queued req addr => exact ⟨buf, by simp [produced_for, produced], .inl rfl⟩

/-- **An echo request is answered whatever the padding is, exactly if** the padding adds nothing
    to its sum, its header has a checksum, and the route back has an interface. -/
theorem padding_iff (h : ValidRequest sr packet) (hmax : packet.length ≤ cksum_max)
    {rtentry : SrRt}
    (hrt : sr_findLPMentry sr.routing_table (ip_hdr packet).ip_src = some rtentry) (fuel : Nat)
    (s : RouterState) :
    (∃ L, (sr_handlepacket sr heap now fuel packet interface s).2.log = s.log ++ L ∧
        ∃ reply, produced_for .echo_reply L = [(reply, rtentry.interface)] ∧
          EchoReplyTo packet reply) ↔
      (ip_hdr packet).ip_sum ≠ 0 ∧ PaddingZero packet ∧
        (sr_get_interface sr rtentry.interface).isSome := by
  obtain ⟨L, M, hlog, hmade, -, hproduced⟩ := handlepacket_made sr heap now interface h.ether_type
    fuel s
  rw [exists_new_events_iff hlog, hproduced _ rfl]
  by_cases hcond : (ip_hdr packet).ip_sum ≠ 0 ∧ PaddingZero packet
  · rw [h.branch hmax, if_pos hcond] at hmade
    simp only [sr_ip_todo, hrt] at hmade
    cases hifc : sr_get_interface sr rtentry.interface with
    | none =>
      simp only [hifc] at hmade
      have hnone : produced_for .echo_reply M = [] := hmade.produced_other (by simp)
      simp [hnone]
    | some ifc =>
      simp only [hifc] at hmade
      obtain ⟨buf, hforms, hbuf⟩ := hmade.produced_forms
      have hreply := h.replied hmax hcond.2 ifc.addr
      have hanswered : EchoReplyTo packet buf := by
        rcases hbuf with rfl | ⟨mac, rfl⟩
        · exact hreply
        · exact hreply.set_ether_dhost mac
      exact iff_of_true ⟨buf, hforms, hanswered⟩ ⟨hcond.1, hcond.2, rfl⟩
  · rw [h.branch hmax, if_neg hcond] at hmade
    have hnone : produced_for .echo_reply M = [] := hmade.produced_other (by simp [sr_ip_todo])
    constructor
    · intro hreply
      simp [hnone] at hreply
    · exact fun hall => absurd ⟨hall.1, hall.2.1⟩ hcond

namespace Sample

/-- An echo request without data, in a frame that goes on. -/
def padded_ping (padding : List uint8_t) : RawFrame :=
  ip_frame (inet_addr 172 64 3 9) (inet_addr 192 168 2 1) 64 1
    [0x08, 0x00, 0xf7, 0xff, 0x00, 0x00, 0x00, 0x00] ++ padding

/-- The way back. -/
def ping_route : SrRt :=
  ⟨inet_addr 172 64 3 10, inet_addr 172 64 3 10, inet_addr 255 255 255 0, eth 2⟩

theorem padded_ping_routed (padding : List uint8_t) :
    sr_findLPMentry net.routing_table (ip_hdr (padded_ping padding)).ip_src = some ping_route := by
  have hhdr : (ip_hdr (padded_ping padding)).ip_src = inet_addr 172 64 3 9 := by
    rw [padded_ping, ip_frame, List.append_assoc, ip_hdr_append]
  rw [hhdr]
  decide +kernel

/-- With padding that is not zero the request is not answered. -/
theorem padding_counted :
    ValidRequest net (padded_ping [0x00, 0x01]) ∧
      ¬ ∃ L, (sr_handlepacket net mem 10 20 (padded_ping [0x00, 0x01]) (eth 2)
          RouterState.empty).2.log = RouterState.empty.log ++ L ∧
        ∃ reply, produced_for .echo_reply L = [(reply, ping_route.interface)] ∧
          EchoReplyTo (padded_ping [0x00, 0x01]) reply := by
  have hvalid : ValidRequest net (padded_ping [0x00, 0x01]) :=
    ⟨by decide +kernel, by decide +kernel, by decide +kernel, by decide +kernel, by decide +kernel,
      by decide +kernel, ⟨by decide +kernel, by decide +kernel⟩, by decide +kernel,
      by decide +kernel, by decide +kernel, by decide +kernel, by decide +kernel⟩
  refine ⟨hvalid, fun hanswered => ?_⟩
  obtain ⟨L, hlog, reply, hproduced, -⟩ := hanswered
  have hnone : produced_for .echo_reply (sr_handlepacket net mem 10 20 (padded_ping [0x00, 0x01])
      (eth 2) RouterState.empty).2.log = [] := by decide +kernel
  rw [hlog] at hnone
  exact absurd (hproduced.symm.trans hnone) (List.cons_ne_nil _ _)

/-- With the zeros that fill up the shortest Ethernet frame it is. -/
theorem zeros_ignored :
    ∃ L, (sr_handlepacket net mem 10 20 (padded_ping (List.replicate 18 0)) (eth 2)
        RouterState.empty).2.log = RouterState.empty.log ++ L ∧
      ∃ reply, produced_for .echo_reply L = [(reply, ping_route.interface)] ∧
        EchoReplyTo (padded_ping (List.replicate 18 0)) reply := by
  have hvalid : ValidRequest net (padded_ping (List.replicate 18 0)) :=
    ⟨by decide +kernel, by decide +kernel, by decide +kernel, by decide +kernel, by decide +kernel,
      by decide +kernel, ⟨by decide +kernel, by decide +kernel⟩, by decide +kernel,
      by decide +kernel, by decide +kernel, by decide +kernel, by decide +kernel⟩
  exact (padding_iff hvalid (by decide +kernel) (padded_ping_routed _) 20 RouterState.empty).mpr
    ⟨by decide +kernel, by decide +kernel, by decide +kernel⟩

end Sample

end SimpleRouter
