import SimpleRouter.Queue.Produced
import SimpleRouter.Safety.SelfTraffic

/-! # Blacklisted addresses

    `ip_black_list` looks at the header of a packet that comes in, once. What
    is made of the packet is stored, answered and given up much later, and
    never looked at again. So that no address of 10.0.2.0/24 gets through is an
    invariant of everything that is stored.

    * `never_blacklisted`: no frame carries such an address, and none is asked
      for, unless it is our own.
-/

namespace SimpleRouter

open Framework Framework.Bytes RouterState

variable {sr : SrInstance} {heap : Heap} {s : RouterState} {packet frame : RawFrame}
  {interface iface : IfName}

/-- The address is in 10.0.2.0/24: it is written with these three bytes in front. -/
def InBlock (ip : uint32_t) : Prop := (le32 ip).take 3 = [10, 0, 2]

instance (ip : uint32_t) : Decidable (InBlock ip) := inferInstanceAs (Decidable (_ = _))

/-- What the code tests is just that. -/
theorem ip_black_listed_iff (ip : uint32_t) : ip_black_listed ip ↔ InBlock ip := by
  have hmask : (ip &&& inet_addr 255 255 255 0).toNat = ip.toNat % 2 ^ 24 := by
    rw [BitVec.toNat_and]
    exact Nat.and_two_pow_sub_one_eq_mod ip.toNat 24
  have hblock : (inet_addr 10 0 2 0 &&& inet_addr 255 255 255 0).toNat = 10 + 2 * 2 ^ 16 := by
    decide
  have hbytes : (10 : uint8_t).toNat = 10 ∧ (0 : uint8_t).toNat = 0 ∧ (2 : uint8_t).toNat = 2 := by
    decide
  simp only [ip_black_listed, decide_eq_true_eq, InBlock, le32, byteAt, BitVec.toNat_eq, hmask,
    hblock, hbytes, List.take_succ_cons, List.take_zero, List.cons.injEq, and_true,
    BitVec.extractLsb'_toNat, Nat.shiftRight_eq_div_pow]
  omega

/-- The address is not blacklisted, or it is ours. -/
def Allowed (sr : SrInstance) (ip : uint32_t) : Prop := InBlock ip → Own sr ip

instance (ip : uint32_t) : Decidable (Allowed sr ip) := inferInstanceAs (Decidable (_ → _))

/-- Both ends of an IP packet. -/
structure AllowedEnds (sr : SrInstance) (i_hdr : SrIpHdr) : Prop where
  src : Allowed sr i_hdr.ip_src
  dst : Allowed sr i_hdr.ip_dst

theorem Allowed.of_interface {name : IfName} {ifc : SrIf}
    (h : sr_get_interface sr name = some ifc) : Allowed sr ifc.ip :=
  fun _ => ⟨ifc, (sr_get_interface_mem h).1, rfl⟩

/-- What was accepted carries no such address. -/
theorem AllowedEnds.of_accepted {i_hdr : SrIpHdr} (h : ip_black_list i_hdr = false) :
    AllowedEnds sr i_hdr := by
  rw [ip_black_list, Bool.or_eq_false_iff] at h
  obtain ⟨hsrc, hdst⟩ := h
  constructor
  · intro hblock
    rw [← ip_black_listed_iff, hsrc] at hblock
    cases hblock
  · intro hblock
    rw [← ip_black_listed_iff, hdst] at hblock
    cases hblock

/-- An ICMP error goes from an interface to the source of its packet. -/
theorem AllowedEnds.error {name : IfName} {ifc : SrIf} {i_hdr0 : SrIpHdr}
    (hifc : sr_get_interface sr name = some ifc) (h : AllowedEnds sr i_hdr0) (n : Nat) :
    AllowedEnds sr (icmp_error_ip ifc i_hdr0 n) :=
  ⟨.of_interface hifc, h.src⟩

/-- The ends of a frame that is made for a packet. -/
theorem Resolves.allowed {buf : Nat} {msg : Message} {ip : uint32_t}
    (h : Resolves sr heap buf packet interface msg ip frame iface) :
    AllowedEnds sr (ip_hdr frame) := by
  have hpacket : AllowedEnds sr (ip_hdr packet) := .of_accepted h.accepted.2
  cases h with
  | echo_reply hbranch =>
    rw [echo_reply_frame, List.append_assoc, ip_hdr_append]
    exact ⟨hpacket.dst, hpacket.src⟩
  | forward =>
    rw [transit_frame, ip_hdr_append]
    exact ⟨hpacket.src, hpacket.dst⟩
  | error herror hifc =>
    rw [herror.header]
    exact hpacket.error hifc _

/-- What may leave: IP packets between allowed addresses, and requests for them. -/
structure AllowedFrame (sr : SrInstance) (frame : RawFrame) : Prop where
  ip : has_ether_type frame ethertype_ip → AllowedEnds sr (ip_hdr frame)
  arp : has_ether_type frame ethertype_arp → (arp_hdr frame).ar_op = htons arp_op_request →
    Allowed sr (arp_hdr frame).ar_tip

theorem AllowedFrame.of_ip (h : AllowedEnds sr (ip_hdr frame)) (hframe : IpFrame frame) :
    AllowedFrame sr frame where
  ip _ := h
  arp harp := absurd hframe.has_ether_type (not_ip_of_arp harp)

theorem AllowedFrame.set_ether_dhost (h : AllowedEnds sr (ip_hdr frame)) (hframe : IpFrame frame)
    (mac : EtherAddr) : AllowedFrame sr (set_ether_dhost frame mac) :=
  .of_ip (by rwa [ip_hdr_set_ether_dhost]) (hframe.set_ether_dhost mac)

/-- A frame that may wait: the answer to its sender is allowed as well. -/
structure AllowedIp (sr : SrInstance) (frame : RawFrame) : Prop where
  ip_frame : IpFrame frame
  ends : AllowedEnds sr (ip_hdr frame)

variable (sr heap) in
theorem allowed_rules : ProducedRules sr heap (fun _ => True) (Allowed sr)
    (fun _ frame _ => AllowedIp sr frame) (fun _ frame _ => AllowedFrame sr frame) where
  resolve := by
    intro now packet interface buf msg ip frame iface _ hip hres
    have hframe := hres.ip_frame hip
    have hends := hres.allowed
    exact ⟨hres.dst ▸ hends.dst, ⟨hframe, hends⟩, .of_ip hends hframe⟩
  answer := by
    intro buf ip frame iface rtentry ifc req pck hP _ hifc
    have hframe := icmp_t3_frame_ip heap buf ifc 1 frame
    -- the answer goes to the source of the frame, from an interface
    have hends : AllowedEnds sr (ip_hdr (icmp_t3_frame heap buf ifc 1 frame)) := by
      rw [ip_hdr_icmp_t3_frame]
      exact hP.ends.error hifc _
    exact ⟨hP.ends.src, ⟨hframe, hends⟩, .of_ip hends hframe⟩
  known _ _ _ _ mac hP _ := .set_ether_dhost hP.ends hP.ip_frame mac
  release _ _ _ mac _ _ hP := .set_ether_dhost hP.ends hP.ip_frame mac
  ask := by
    intro ip req now rtentry ifc hQ _ _
    constructor
    · exact fun hip => absurd hip (not_ip_of_type (arp_request_frame_type ifc ip))
    · intro _ _
      rwa [arp_hdr_request_frame]
  reply := by
    intro packet interface ifc htype hifc
    constructor
    · exact fun hip => absurd hip (not_ip_of_type ((arp_reply_frame_type ifc).trans htype))
    · intro _ hop
      have hreply : htons arp_op_reply = htons arp_op_request := by rwa [arp_hdr_reply_frame] at hop
      exact absurd hreply (by decide)

/-- **Blacklisted addresses go nowhere**: no IP packet that was sent or stored, even by a step
    that crashes, is from or for an address of 10.0.2.0/24 that is not our own, and none is
    asked for. -/
theorem never_blacklisted (hs : Reachable sr heap System.always s) :
    (∀ r ∈ s.reqs, Allowed sr r.ip ∧ ∀ p ∈ r.packets, AllowedEnds sr (ip_hdr p.buf)) ∧
      ∀ l fuel, ∀ e ∈ (run_label sr heap fuel l s).2.log, ∀ frame, e.frame = some frame →
        AllowedFrame sr frame := by
  have hrules := allowed_rules sr heap
  have hreach := hrules.reachable hs
  refine ⟨fun r hr => ⟨hreach.pending.requests r hr, fun p hp => ?_⟩, fun l fuel e he frame hf => ?_⟩
  · exact (hreach.pending.frames r hr p hp).ends
  · have hproduced := (hrules.run_label (l := l) trivial hreach fuel).log e he
    cases e with
    | sent msg buf iface accepted =>
      obtain rfl := Option.some.inj hf
      exact hproduced.1
    | queued msg req pck =>
      obtain rfl := Option.some.inj hf
      exact hproduced
    | took branch => cases hf
    | destroyed req => cases hf

namespace Sample

/-- A packet that passes the check is answered, and the answer waits; one from a blacklisted
    address is dropped. -/
theorem answer_allowed : ∃ s : RouterState, s.reqs ≠ [] ∧
    (∀ r ∈ s.reqs, Allowed net r.ip ∧ ∀ p ∈ r.packets, AllowedEnds net (ip_hdr p.buf)) ∧
    ∀ l fuel, ∀ e ∈ (run_label net mem fuel l s).2.log, ∀ frame, e.frame = some frame →
      AllowedFrame net frame :=
  ⟨(run 20 [.packet 10 (last_hop_from (inet_addr 172 64 3 9)) (eth 2),
      .packet 11 (last_hop_from (inet_addr 10 0 2 9)) (eth 2)]).2, by decide +kernel,
    never_blacklisted (run_reachable (by decide +kernel))⟩

end Sample

end SimpleRouter
