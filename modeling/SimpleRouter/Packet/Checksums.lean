import SimpleRouter.Packet.Cksum
import SimpleRouter.Queue.Ledger
import SimpleRouter.Queue.Produced

/-! # Checksums

    Every frame that is made gets its checksums as the last fields to be
    written, over bytes in which the checksum is still zero. From then on only
    the destination address is written, and no checksum covers that. So what
    leaves sums up to all ones, at once or after it waited.

    * `headerSum_append`, `icmp_t3_sum`, `icmp_t11_sum`: what is made.
    * `checksums_valid`: every IP frame that leaves has valid checksums.
-/

namespace SimpleRouter

open Framework Framework.Bytes Framework.OnesComplement RouterState

variable {sr : SrInstance} {heap : Heap} {s : RouterState} {packet frame : RawFrame}
  {interface iface : IfName} {msg : Message}

/-- More bytes than there are in a packet: `sr_read_from_server_expect` admits messages of
    10000 bytes. -/
def cksum_max : Nat := 2 ^ 17

theorem cksum_max_le : cksum_max ≤ cksum_capacity := by decide

/-! ### Headers and messages -/

/-- The ten words of the IP header sum up to all ones. -/
def HeaderSum (frame : RawFrame) : Prop :=
  SrEthernetHdr.size + SrIpHdr.size ≤ frame.length ∧
    sum (words ((frame.drop SrEthernetHdr.size).take SrIpHdr.size)) = 0xffff

/-- So do the words from the ICMP header to the end of the frame. -/
def IcmpSum (frame : RawFrame) : Prop :=
  sum (words (frame.drop (SrEthernetHdr.size + SrIpHdr.size))) = 0xffff

/-- The IP packet ends where the frame ends. -/
def IpLen (frame : RawFrame) : Prop :=
  (htons (ip_hdr frame).ip_len).toNat = frame.length - SrEthernetHdr.size

theorem headerSum_append (e_hdr : SrEthernetHdr) {i_hdr : SrIpHdr} (rest : List uint8_t)
    (hzero : i_hdr.ip_sum = 0) :
    HeaderSum (e_hdr.toBytes ++ { i_hdr with ip_sum := cksum i_hdr.toBytes }.toBytes ++ rest) := by
  refine ⟨by simp, ?_⟩
  have hdrop : (e_hdr.toBytes ++ { i_hdr with ip_sum := cksum i_hdr.toBytes }.toBytes ++ rest).drop
      SrEthernetHdr.size = { i_hdr with ip_sum := cksum i_hdr.toBytes }.toBytes ++ rest := by
    rw [List.append_assoc]
    exact List.drop_left' e_hdr.toBytes_length
  rw [hdrop, List.take_left' (SrIpHdr.toBytes_length _)]
  -- the checksum is the sixth word of the header
  have hbytes : ∀ x : uint16_t, { i_hdr with ip_sum := x }.toBytes =
      i_hdr.toBytes.take 10 ++ (le16 x ++ i_hdr.toBytes.drop 12) := fun _ => rfl
  have hself : i_hdr.toBytes = i_hdr.toBytes.take 10 ++ (le16 0 ++ i_hdr.toBytes.drop 12) := by
    rw [← hzero, ← hbytes]
  rw [hbytes]
  exact cksum_fills_in hself (by simp [SrIpHdr.size]) (by rw [SrIpHdr.toBytes_length]; decide)

theorem icmp_t3_sum (code : uint8_t) (data : Vector uint8_t ICMP_DATA_SIZE) :
    sum (words (icmp_t3 code data).toBytes) = 0xffff := by
  have hbytes : ∀ x : uint16_t, { icmp_t3 code data with icmp_sum := x }.toBytes =
      [3, code] ++ (le16 x ++ (le16 0 ++ le16 0 ++ data.toList)) := by
    simp [icmp_t3, SrIcmpT3Hdr.toBytes]
  exact (hbytes _).symm ▸ cksum_fills_in (hbytes 0) (by simp) (by simp; decide)

theorem icmp_t11_sum (data : Vector uint8_t ICMP_DATA_SIZE) :
    sum (words (icmp_t11 data).toBytes) = 0xffff := by
  have hbytes : ∀ x : uint16_t, { icmp_t11 data with icmp_sum := x }.toBytes =
      [11, 0] ++ (le16 x ++ (le32 0 ++ data.toList)) := by
    simp [icmp_t11, SrIcmpT11Hdr.toBytes]
  exact (hbytes _).symm ▸ cksum_fills_in (hbytes 0) (by simp) (by simp; decide)

/-! ### Frames -/

/-- The ICMP messages that the router makes itself. -/
def Message.icmp : Message → Bool
  | .echo_reply => true
  | .port_unreachable => true
  | .time_exceeded => true
  | .net_unreachable => true
  | .host_unreachable _ _ => true
  | _ => false

/-- Those that say that something went wrong. -/
def Message.icmp_error : Message → Bool
  | .echo_reply => false
  | msg => msg.icmp

/-- What is checked of a frame that is sent or stored for `msg`. -/
structure Checked (msg : Message) (frame : RawFrame) : Prop where
  length : SrEthernetHdr.size ≤ frame.length
  header : has_ether_type frame ethertype_ip → HeaderSum frame
  icmp : msg.icmp → IcmpSum frame
  ip_len : msg.icmp_error → IpLen frame

/-- The destination address is in no checksum. -/
theorem set_ether_dhost_sum (mac : EtherAddr) (n : Nat) :
    (set_ether_dhost frame mac).drop (ETHER_ADDR_LEN + n) = frame.drop (ETHER_ADDR_LEN + n) := by
  rw [← List.drop_drop, set_ether_dhost_drop, List.drop_drop]

theorem HeaderSum.set_ether_dhost (h : HeaderSum frame) (mac : EtherAddr) :
    HeaderSum (set_ether_dhost frame mac) := by
  have hlen := set_ether_dhost_length (Nat.le_trans (Nat.le_add_right _ _) h.1) mac
  refine ⟨hlen ▸ h.1, ?_⟩
  have hdrop : (SimpleRouter.set_ether_dhost frame mac).drop SrEthernetHdr.size =
      frame.drop SrEthernetHdr.size := set_ether_dhost_sum mac 8
  rw [hdrop]
  exact h.2

theorem Checked.set_ether_dhost (h : Checked msg frame) (mac : EtherAddr) :
    Checked msg (set_ether_dhost frame mac) where
  length := by
    rw [set_ether_dhost_length h.length]
    exact h.length
  header hip := by
    rw [has_ether_type, set_ether_dhost_length h.length, ether_type_set_ether_dhost] at hip
    exact (h.header hip).set_ether_dhost mac
  icmp hicmp := by
    have hdrop : (SimpleRouter.set_ether_dhost frame mac).drop
        (SrEthernetHdr.size + SrIpHdr.size) = frame.drop (SrEthernetHdr.size + SrIpHdr.size) :=
      set_ether_dhost_sum mac 28
    rw [IcmpSum, hdrop]
    exact h.icmp hicmp
  ip_len herror := by
    rw [IpLen, ip_hdr_set_ether_dhost, set_ether_dhost_length h.length]
    exact h.ip_len herror

theorem echo_reply_frame_drop (packet : RawFrame) (addr : EtherAddr) :
    (echo_reply_frame packet addr).drop (SrEthernetHdr.size + SrIpHdr.size) =
      let ic_hdr : SrIcmpHdr := { icmp_hdr packet with icmp_type := 0x00, icmp_sum := 0 }
      { ic_hdr with icmp_sum := cksum (ic_hdr.toBytes ++ icmp_rest packet) }.toBytes ++
        icmp_rest packet := by
  rw [echo_reply_frame, List.append_assoc]
  exact List.drop_left' (by simp)

theorem checked_echo_reply (addr : EtherAddr) (hlen : packet.length ≤ cksum_max) :
    Checked .echo_reply (echo_reply_frame packet addr) where
  length := by simp [echo_reply_frame]
  header _ := by
    rw [echo_reply_frame, List.append_assoc]
    exact headerSum_append _ _ rfl
  icmp _ := by
    have hbytes : ∀ x : uint16_t,
        { icmp_hdr packet with icmp_type := 0x00, icmp_sum := x }.toBytes ++ icmp_rest packet =
          [0x00, (icmp_hdr packet).icmp_code] ++ (le16 x ++ icmp_rest packet) := by
      simp [SrIcmpHdr.toBytes]
    rw [IcmpSum, echo_reply_frame_drop]
    refine (hbytes _).symm ▸ cksum_fills_in (hbytes 0) (by simp) ?_
    have hmax := cksum_max_le
    have hroom : 4 ≤ cksum_capacity := by decide
    rw [hbytes]
    simp only [icmp_rest, List.length_append, List.length_cons, List.length_nil, le16_length,
      List.length_drop, SrEthernetHdr.size, SrIpHdr.size, SrIcmpHdr.size]
    omega
  ip_len h := by cases h

theorem checked_forward (addr : EtherAddr) : Checked .forward (transit_frame packet addr) where
  length := by simp [transit_frame]
  header _ := headerSum_append _ _ rfl
  icmp h := by cases h
  ip_len h := by cases h

theorem icmp_error_ip_len (ifc : SrIf) (i_hdr0 : SrIpHdr) (n : Nat) :
    htons (icmp_error_ip ifc i_hdr0 n).ip_len = BitVec.ofNat 16 (SrIpHdr.size + n) :=
  swap16_swap16 _

theorem checked_t3 (buf : Nat) (ifc : SrIf) (code : uint8_t) (packet : RawFrame) (msg : Message) :
    Checked msg (icmp_t3_frame heap buf ifc code packet) where
  length := by rw [icmp_t3_frame_length]; decide
  header _ := headerSum_append _ _ rfl
  icmp _ := by
    rw [IcmpSum, icmp_t3_frame, List.drop_left' (by simp)]
    exact icmp_t3_sum _ _
  ip_len _ := by
    rw [IpLen, ip_hdr_icmp_t3_frame, icmp_t3_frame_length, icmp_error_ip_len]
    rfl

theorem checked_t11 (buf : Nat) (ifc : SrIf) (packet : RawFrame) (msg : Message) :
    Checked msg (icmp_t11_frame heap buf ifc packet) where
  length := by rw [icmp_t11_frame_length]; decide
  header _ := headerSum_append _ _ rfl
  icmp _ := by
    rw [IcmpSum, icmp_t11_frame, List.drop_left' (by simp)]
    exact icmp_t11_sum _
  ip_len _ := by
    rw [IpLen, ip_hdr_icmp_t11_frame, icmp_t11_frame_length, icmp_error_ip_len]
    rfl

theorem ErrorReply.checked {buf : Nat} {ifc : SrIf} {branch : IpBranch}
    (h : ErrorReply heap buf packet ifc branch msg frame) : Checked msg frame := by
  cases h with
  | port_unreachable => exact checked_t3 ..
  | time_exceeded => exact checked_t11 ..
  | net_unreachable => exact checked_t3 ..

/-- Every frame that is made for a packet. -/
theorem Resolves.checked {buf : Nat} {ip : uint32_t} (hlen : packet.length ≤ cksum_max)
    (h : Resolves sr heap buf packet interface msg ip frame iface) : Checked msg frame := by
  cases h with
  | echo_reply => exact checked_echo_reply _ hlen
  | forward => exact checked_forward _
  | error herror => exact herror.checked

theorem checked_arp {frame : RawFrame} (hmsg : msg.icmp = false)
    (hlen : SrEthernetHdr.size ≤ frame.length)
    (htype : (SrEthernetHdr.ofBytes frame).ether_type = htons ethertype_arp) :
    Checked msg frame where
  length := hlen
  header hip := absurd hip (not_ip_of_type htype)
  icmp h := by simp [hmsg] at h
  ip_len h := by
    cases msg with
    | echo_reply => cases h
    | _ => simp [Message.icmp_error, hmsg] at h

/-! ### Runs -/

/-- A step with a packet that is not too long. -/
def Label.Admitted : Label → Prop
  | .packet _ packet _ => packet.length ≤ cksum_max
  | _ => True

instance (l : Label) : Decidable l.Admitted :=
  match l with
  | .packet _ packet _ => inferInstanceAs (Decidable (packet.length ≤ cksum_max))
  | .sweep _ => isTrue trivial
  | .timeout _ => isTrue trivial

variable (sr heap) in
theorem checked_rules : ProducedRules sr heap Label.Admitted (fun _ => True)
    (fun _ frame _ => HeaderSum frame) (fun msg frame _ => Checked msg frame) where
  resolve := by
    intro now packet interface buf msg ip frame iface hlen hip hres
    have hframe := hres.ip_frame hip
    have hchecked := hres.checked hlen
    exact ⟨trivial, hchecked.header hframe.has_ether_type, hchecked⟩
  answer := by
    intro buf ip frame iface rtentry ifc req pck _ _ _
    have hframe := icmp_t3_frame_ip heap buf ifc 1 frame
    have hchecked : Checked (.host_unreachable req pck) (icmp_t3_frame heap buf ifc 1 frame) :=
      checked_t3 ..
    exact ⟨trivial, hchecked.header hframe.has_ether_type, hchecked⟩
  known _ _ _ _ mac _ hG := hG.set_ether_dhost mac
  release := by
    intro ip frame iface mac req pck hP
    have hheader := hP.set_ether_dhost mac
    -- of a frame that waited, only the sum of its header is known here
    exact ⟨Nat.le_trans (Nat.le_add_right _ _) hheader.1, fun _ => hheader, fun h => (by cases h),
      fun h => (by cases h)⟩
  ask ip _ _ _ ifc _ _ _ :=
    checked_arp rfl (by simp [arp_request_frame]) (arp_request_frame_type ifc ip)
  reply packet _ ifc htype _ :=
    checked_arp rfl (by simp [arp_reply_frame]) ((arp_reply_frame_type ifc).trans htype)

/-- What a frame that was sent for `msg` was made for: a frame that waited was made for what
    it was stored for. -/
inductive MadeFor (log : List Event) : Message → Message → Prop where
  | at_once {msg : Message} (h : ∀ req pck, msg ≠ .released req pck) : MadeFor log msg msg
  | waited {msg : Message} {req : Nat} {pck : SrPacket} (h : .queued msg req pck ∈ log) :
      MadeFor log (.released req pck.addr) msg

/-- Every frame that was sent was made for something. -/
theorem exists_madeFor {buf : RawFrame} {accepted : Bool} (hledger : Ledger s)
    (he : .sent msg buf iface accepted ∈ s.log) : ∃ made, MadeFor s.log msg made := by
  cases msg with
  | released req pck =>
    obtain ⟨p, hp, rfl, -⟩ := hledger.released _ _ _ _ _ he
    obtain ⟨made, hqueued⟩ := mem_queuedFrames.mp hp
    exact ⟨made, .waited hqueued⟩
  | _ => exact ⟨_, .at_once (by simp)⟩

/-- What was made for `msg` and waited is as it was made. -/
theorem checked_of_madeFor {msg' : Message} {buf : RawFrame} {accepted : Bool}
    (hledger : Ledger s)
    (hproduced : Produced sr (fun _ => True) (fun _ frame _ => HeaderSum frame)
      (fun msg frame _ => Checked msg frame) s)
    (he : .sent msg buf iface accepted ∈ s.log) (hmade : MadeFor s.log msg msg') :
    Checked msg' buf := by
  cases hmade with
  | at_once => exact (hproduced.log _ he).1
  | @waited _ req pck hqueued =>
    obtain ⟨p, hp, haddr, -, mac, rfl⟩ := hledger.released _ _ _ _ _ he
    obtain rfl := (Prod.mk.inj (hledger.frame_eq hp (mem_queuedFrames.mpr ⟨_, hqueued⟩) haddr)).2
    exact Checked.set_ether_dhost (hproduced.log _ hqueued) mac

/-- **Checksums are valid**: every frame that was handed to `sr_send_packet`, even by a step
    that crashes, has a valid IP checksum if it is an IP frame, was made for one message, and
    has a valid ICMP checksum if that is one of our own. -/
theorem checksums_valid (hs : Reachable sr heap (fun _ => Label.Admitted) s) (l : Label)
    (hl : l.Admitted) (fuel : Nat) {msg : Message} {buf : RawFrame} {iface : IfName}
    {accepted : Bool}
    (he : .sent msg buf iface accepted ∈ (run_label sr heap fuel l s).2.log) :
    (has_ether_type buf ethertype_ip → HeaderSum buf) ∧
      (∃ made, MadeFor (run_label sr heap fuel l s).2.log msg made) ∧
      ∀ made, MadeFor (run_label sr heap fuel l s).2.log msg made →
        (made.icmp → IcmpSum buf) ∧ (made.icmp_error → IpLen buf) := by
  have hrules := checked_rules sr heap
  have hledger : Ledger (run_label sr heap fuel l s).2 :=
    (ledger_moves sr heap).run_label trivial
      (Reachable.ledger (System.Reachable.mono (fun _ _ _ => trivial) hs)) fuel
  have hproduced := hrules.run_label hl (hrules.reachable hs) fuel
  refine ⟨(hproduced.log _ he).1.header, exists_madeFor hledger he, fun made hmade => ?_⟩
  have hchecked := checked_of_madeFor hledger hproduced he hmade
  exact ⟨hchecked.icmp, hchecked.ip_len⟩

namespace Sample

/-- An answer that waited is sent, and is checked. -/
theorem answer_released : ∃ (s : RouterState) (msg : Message) (buf : RawFrame),
    (∃ iface accepted, .sent msg buf iface accepted ∈ s.log) ∧
    MadeFor s.log msg .time_exceeded ∧
    (has_ether_type buf ethertype_ip → HeaderSum buf) ∧
      (∃ made, MadeFor s.log msg made) ∧
      ∀ made, MadeFor s.log msg made → (made.icmp → IcmpSum buf) ∧ (made.icmp_error → IpLen buf) := by
  let last_hop := ip_frame (inet_addr 172 64 3 9) (inet_addr 192 168 2 7) 1 17 []
  let ifc : SrIf := ⟨eth 2, mac 2, inet_addr 172 64 3 1⟩
  let labels : List Label := [.packet 10 last_hop (eth 2)]
  let reply : Label := .packet 11 (arp_reply (inet_addr 172 64 3 9) ifc) (eth 2)
  have hreach : Reachable net mem (fun _ => Label.Admitted) (run 20 labels).2 :=
    run_guarded (by decide +kernel) (by decide +kernel)
  let answer : SrPacket := ⟨3, icmp_t11_frame mem 1 ifc last_hop, eth 2⟩
  have hqueued : .queued .time_exceeded 2 answer ∈
      (run_label net mem 20 reply (run 20 labels).2).2.log := by decide +kernel
  have he : .sent (.released 2 answer.addr) (set_ether_dhost answer.buf (mac 9)) (eth 2) true ∈
      (run_label net mem 20 reply (run 20 labels).2).2.log := by decide +kernel
  exact ⟨_, _, _, ⟨_, _, he⟩, .waited hqueued,
    checksums_valid hreach reply (by decide +kernel) 20 he⟩

end Sample

end SimpleRouter
