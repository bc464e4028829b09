import SimpleRouter.Framework.Network
import SimpleRouter.Safety.Interleaving

/-! # Networks of routers

    Routers pass packets on to each other, over links that may lose, reorder or
    repeat frames, and take others from hosts. However they are wired and
    whatever is in their tables, a packet crosses the network as it was sent,
    but for its time to live and its header checksum, and does not go round for
    ever. The two threads of each router overlap in any way.

    * `Crossed`: what is left of a packet after a number of hops.
    * `crossing_rules`: what each router promises.
    * `crosses_networks`: what the network makes of it.
-/

namespace SimpleRouter

open Framework Framework.Bytes RouterState

/-! ### Hops -/

/-- How often a packet can still be passed on. A time to live of 0 wraps around. -/
def hops_left (i_hdr : SrIpHdr) : Nat := (i_hdr.ip_ttl - 1).toNat

/-- What follows the IP header of a frame. -/
def ip_payload (packet : RawFrame) : List uint8_t :=
  packet.drop (SrEthernetHdr.size + SrIpHdr.size)

/-- The frame carries the packet of `origin` after `n` hops. -/
structure Crossed (origin : RawFrame) (n : Nat) (frame : RawFrame) : Prop where
  hops : n + hops_left (ip_hdr frame) = hops_left (ip_hdr origin)
  header : ip_hdr frame = { ip_hdr origin with
    ip_ttl := (ip_hdr frame).ip_ttl, ip_sum := (ip_hdr frame).ip_sum }
  payload : ip_payload frame = ip_payload origin

theorem Crossed.start (origin : RawFrame) : Crossed origin 0 origin :=
  ⟨Nat.zero_add _, rfl, rfl⟩

theorem Crossed.le {origin frame : RawFrame} {n : Nat} (h : Crossed origin n frame) : n ≤ 255 := by
  have hhops := h.hops
  have hlt := ((ip_hdr origin).ip_ttl - 1).isLt
  unfold hops_left at hhops
  omega

theorem Crossed.set_ether_dhost {origin frame : RawFrame} {n : Nat} (h : Crossed origin n frame)
    (mac : EtherAddr) : Crossed origin n (set_ether_dhost frame mac) := by
  have hpayload : ip_payload (SimpleRouter.set_ether_dhost frame mac) = ip_payload frame := by
    have hdrop := congrArg (List.drop 28) (set_ether_dhost_drop frame mac)
    rwa [List.drop_drop, List.drop_drop] at hdrop
  refine ⟨?_, ?_, hpayload.trans h.payload⟩
  · rw [ip_hdr_set_ether_dhost]
    exact h.hops
  · rw [ip_hdr_set_ether_dhost]
    exact h.header

theorem ip_payload_transit_frame (packet : RawFrame) (addr : EtherAddr) :
    ip_payload (transit_frame packet addr) = ip_payload packet := by
  rw [ip_payload, transit_frame]
  exact List.drop_left' (by simp)

theorem hops_left_pred {ttl : uint8_t} (h : ttl ≠ 1) : (ttl - 1 - 1).toNat + 1 = (ttl - 1).toNat := by
  have hne : ttl.toNat ≠ 1 := fun hone => h (BitVec.eq_of_toNat_eq hone)
  have hlt := ttl.isLt
  have hval : (1 : uint8_t).toNat = 1 := rfl
  simp only [BitVec.toNat_sub, hval]
  omega

/-- A packet that is passed on has a hop less to go. -/
theorem Crossed.forward {origin packet : RawFrame} {n : Nat} (h : Crossed origin n packet)
    (httl : (ip_hdr packet).ip_ttl ≠ 1) (addr : EtherAddr) :
    Crossed origin (n + 1) (transit_frame packet addr) := by
  refine ⟨?_, ?_, (ip_payload_transit_frame packet addr).trans h.payload⟩
  · have hpred := hops_left_pred httl
    have hhops := h.hops
    unfold hops_left at hhops ⊢
    rw [transit_frame_ttl]
    omega
  · have hheader := h.header
    rw [transit_frame, ip_hdr_append]
    rw [hheader]

/-- The packet of `origin` has been passed on `n` times, each time by one of the routers. -/
inductive Route (IsRouter : SrInstance → Prop) (origin : RawFrame) : Nat → RawFrame → Prop where
  | start : Route IsRouter origin 0 origin
  /-- A router passes it on, on an interface of its own. -/
  | hop {n : Nat} {packet : RawFrame} {sr : SrInstance} {rtentry : SrRt} {ifc : SrIf}
      (hrest : Route IsRouter origin n packet) (hrouter : IsRouter sr)
      (hbranch : sr_ip_branch sr packet = .forward rtentry)
      (hifc : sr_get_interface sr rtentry.interface = some ifc) :
      Route IsRouter origin (n + 1) (transit_frame packet ifc.addr)
  /-- The destination address is filled in. -/
  | address {n : Nat} {frame : RawFrame} (hrest : Route IsRouter origin n frame)
      (mac : EtherAddr) : Route IsRouter origin n (set_ether_dhost frame mac)

/-! ### What a router sends -/

/-- A packet of the router itself: an ICMP message from one of its addresses. -/
structure OwnPacket (sr : SrInstance) (frame : RawFrame) : Prop where
  src : ∃ ifc ∈ sr.if_list, (ip_hdr frame).ip_src = ifc.ip
  ttl : (ip_hdr frame).ip_ttl = INIT_TTL
  protocol : (ip_hdr frame).ip_p = ip_protocol_icmp

theorem ip_branch_forward_ttl {sr : SrInstance} {packet : RawFrame} {rtentry : SrRt}
    (h : sr_ip_branch sr packet = .forward rtentry) : (ip_hdr packet).ip_ttl ≠ 1 := by
  have hto := (ip_branch_forward h).1
  simp only [sr_ip_branch, hto, Bool.false_eq_true, if_false] at h
  grind

theorem ip_branch_echo {sr : SrInstance} {packet : RawFrame}
    (h : sr_ip_branch sr packet = .echo_request) :
    ip_to_router sr packet = true ∧ (ip_hdr packet).ip_p = ip_protocol_icmp := by
  unfold sr_ip_branch at h
  grind

theorem OwnPacket.icmp_t3_frame {sr : SrInstance} {ifc : SrIf} (hifc : ifc ∈ sr.if_list)
    (heap : Heap) (buf : Nat) (code : uint8_t) (frame : RawFrame) :
    OwnPacket sr (icmp_t3_frame heap buf ifc code frame) := by
  refine ⟨⟨ifc, hifc, ?_⟩, ?_, ?_⟩
  · rw [ip_hdr_icmp_t3_frame, icmp_error_ip_src]
  · rw [ip_hdr_icmp_t3_frame]
    rfl
  · rw [ip_hdr_icmp_t3_frame]
    rfl

theorem ErrorReply.own {sr : SrInstance} {heap : Heap} {buf : Nat} {packet frame : RawFrame}
    {ifc : SrIf} {branch : IpBranch} {msg : Message}
    (h : ErrorReply heap buf packet ifc branch msg frame) (hifc : ifc ∈ sr.if_list) :
    OwnPacket sr frame := by
  have hheader := h.header
  refine ⟨⟨ifc, hifc, ?_⟩, ?_, ?_⟩
  · rw [hheader, icmp_error_ip_src]
  · rw [hheader]
    rfl
  · rw [hheader]
    rfl

theorem OwnPacket.echo_reply_frame {sr : SrInstance} {packet : RawFrame} (addr : EtherAddr)
    (h : sr_ip_branch sr packet = .echo_request) : OwnPacket sr (echo_reply_frame packet addr) := by
  obtain ⟨hto, hicmp⟩ := ip_branch_echo h
  obtain ⟨ifc, hifc, hdst⟩ := List.any_eq_true.mp hto
  refine ⟨⟨ifc, hifc, ?_⟩, ?_, ?_⟩
  · rw [SimpleRouter.echo_reply_frame, List.append_assoc, ip_hdr_append]
    exact of_decide_eq_true hdst
  · rw [SimpleRouter.echo_reply_frame, List.append_assoc, ip_hdr_append]
  · rw [SimpleRouter.echo_reply_frame, List.append_assoc, ip_hdr_append]
    exact hicmp

/-- **On every route** a packet stays the same, and each hop is taken from its time to live. -/
theorem Route.crossed {IsRouter : SrInstance → Prop} {origin frame : RawFrame} {n : Nat}
    (h : Route IsRouter origin n frame) : Crossed origin n frame := by
  induction h with
  | start => exact .start origin
  | hop _ _ hbranch _ ih => exact ih.forward (ip_branch_forward_ttl hbranch) _
  | address _ mac ih => exact ih.set_ether_dhost mac

/-! ### What a router may be sent, and what it sends -/

section crossing
variable {IsRouter : SrInstance → Prop} {Origin : RawFrame → Prop} {sr : SrInstance} {heap : Heap}

/-- The frame has come from some origin, on some route. -/
def FromOrigin (IsRouter : SrInstance → Prop) (Origin : RawFrame → Prop) (frame : RawFrame) :
    Prop :=
  ∃ origin n, Origin origin ∧ Route IsRouter origin n frame

/-- A frame that the next router accepts, with a packet that has come so far. -/
structure Crossing (IsRouter : SrInstance → Prop) (Origin : RawFrame → Prop) (frame : RawFrame) :
    Prop where
  valid : ip_valid frame = true
  origin : FromOrigin IsRouter Origin frame

theorem FromOrigin.start {frame : RawFrame} (h : Origin frame) :
    FromOrigin IsRouter Origin frame :=
  ⟨frame, 0, h, .start⟩

theorem ip_valid_set_ether_dhost {frame : RawFrame} (h : ip_valid frame = true) (mac : EtherAddr) :
    ip_valid (set_ether_dhost frame mac) = true := by
  simp only [ip_valid, Bool.decide_and, Bool.and_eq_true, decide_eq_true_eq] at h ⊢
  rw [ip_hdr_set_ether_dhost]
  refine ⟨?_, h.2⟩
  have hlen : SrEthernetHdr.size ≤ frame.length := by
    have hsize : SrIpHdr.size = 20 := rfl
    omega
  rw [set_ether_dhost_length hlen]
  exact h.1

/-- The code fills in the checksum of a header as it is going to be checked. -/
theorem ip_valid_made (e_hdr : SrEthernetHdr) {i_hdr : SrIpHdr} (rest : List uint8_t)
    (hv : i_hdr.ip_v = 4) (hsum : i_hdr.ip_sum = 0) :
    ip_valid (e_hdr.toBytes ++ { i_hdr with ip_sum := cksum i_hdr.toBytes }.toBytes ++ rest) =
      true := by
  have hzeroed : { i_hdr with ip_sum := 0 } = i_hdr := by
    rw [← hsum]
  unfold ip_valid
  rw [ip_hdr_append]
  refine decide_eq_true ⟨?_, hv, ?_⟩
  · simp only [List.length_append, SrEthernetHdr.toBytes_length, SrIpHdr.toBytes_length]
    omega
  · exact congrArg (fun h : SrIpHdr => cksum h.toBytes) hzeroed.symm

theorem Crossing.set_ether_dhost {frame : RawFrame} (h : Crossing IsRouter Origin frame)
    (mac : EtherAddr) : Crossing IsRouter Origin (set_ether_dhost frame mac) := by
  obtain ⟨origin, n, horigin, hroute⟩ := h.origin
  exact ⟨ip_valid_set_ether_dhost h.valid mac, origin, n, horigin, hroute.address mac⟩

theorem ip_valid_icmp_t3_frame (ifc : SrIf) (buf : Nat) (code : uint8_t) (frame : RawFrame) :
    ip_valid (icmp_t3_frame heap buf ifc code frame) = true :=
  ip_valid_made _ _ rfl rfl

theorem ErrorReply.valid {buf : Nat} {packet frame : RawFrame} {ifc : SrIf} {branch : IpBranch}
    {msg : Message} (h : ErrorReply heap buf packet ifc branch msg frame) :
    ip_valid frame = true := by
  cases h with
  | time_exceeded => exact ip_valid_made _ _ rfl rfl
  | _ => exact ip_valid_icmp_t3_frame ..

/-- **Every frame that is made** for a packet is crossing, or starts to. -/
theorem Resolves.crossing {buf : Nat} {packet frame : RawFrame} {interface iface : IfName}
    {msg : Message} {ip : uint32_t} (hrouter : IsRouter sr)
    (hown : ∀ frame, OwnPacket sr frame → Origin frame)
    (h : Resolves sr heap buf packet interface msg ip frame iface)
    (hpacket : FromOrigin IsRouter Origin packet) : Crossing IsRouter Origin frame := by
  have hv : (ip_hdr packet).ip_v = 4 := by
    have hvalid := h.accepted.1
    simp only [ip_valid, Bool.decide_and, Bool.and_eq_true, decide_eq_true_eq] at hvalid
    exact hvalid.2.1
  cases h with
  | echo_reply hbranch =>
    refine ⟨?_, .start (hown _ (.echo_reply_frame _ hbranch))⟩
    rw [echo_reply_frame, List.append_assoc]
    exact ip_valid_made _ _ hv rfl
  | forward hbranch hifc =>
    obtain ⟨origin, n, horigin, hroute⟩ := hpacket
    exact ⟨ip_valid_made _ _ hv rfl, origin, n + 1, horigin, hroute.hop hrouter hbranch hifc⟩
  | error herror hifc =>
    exact ⟨herror.valid, .start (hown _ (herror.own (sr_get_interface_mem hifc).1))⟩

/-- An IP packet that comes in is of some origin. -/
def Label.Expected (IsRouter : SrInstance → Prop) (Origin : RawFrame → Prop) : Label → Prop
  | .packet _ frame _ => has_ether_type frame ethertype_ip → FromOrigin IsRouter Origin frame
  | _ => True

/-- **What a router promises**: the packets that it sends or keeps have come from an origin,
    as long as those that it takes have. -/
theorem crossing_rules (hrouter : IsRouter sr)
    (hown : ∀ frame, OwnPacket sr frame → Origin frame) :
    ProducedRules sr heap (Label.Expected IsRouter Origin) (fun _ => True)
      (fun _ frame _ => Crossing IsRouter Origin frame)
      (fun _ frame _ => has_ether_type frame ethertype_ip → Crossing IsRouter Origin frame) where
  resolve := by
    intro now packet interface buf msg ip frame iface hexpected hip hres
    have hcrossing := hres.crossing hrouter hown (hexpected hip)
    exact ⟨trivial, hcrossing, fun _ => hcrossing⟩
  answer := by
    intro buf ip frame iface rtentry ifc req pck hP _ hifc
    have hmem := (sr_get_interface_mem hifc).1
    have hcrossing : Crossing IsRouter Origin (icmp_t3_frame heap buf ifc 1 frame) :=
      ⟨ip_valid_icmp_t3_frame .., .start (hown _ (.icmp_t3_frame hmem ..))⟩
    exact ⟨trivial, hcrossing, fun _ => hcrossing⟩
  known _ _ _ _ mac hP _ := fun _ => hP.set_ether_dhost mac
  release _ _ _ mac _ _ hP := fun _ => hP.set_ether_dhost mac
  ask := by
    intro ip req now rtentry ifc _ _ _ hip
    exact absurd hip (not_ip_of_type (arp_request_frame_type ifc ip))
  reply := by
    intro packet interface ifc htype _ hip
    exact absurd hip (not_ip_of_type ((arp_reply_frame_type ifc).trans htype))

end crossing

/-! ### The network -/

/-- Routers with their tables, their wires, and the frames that hosts may put on them. -/
structure Topology (Name : Type) where
  sr : Name → SrInstance
  heap : Name → Heap
  wired : Name → IfName → Name → IfName → Prop
  host : Name → IfName → RawFrame → Prop

/-- A frame with the interface it comes in on or goes out of. -/
abbrev OnWire := RawFrame × IfName

/-- The routers of a topology, each with its two threads, which may overlap. -/
def Topology.network {Name : Type} (topo : Topology Name) :
    Network Name Overlap ThreadLabel OnWire OnWire where
  party := fun i => overlapping (topo.sr i) (topo.heap i)
  takes := fun l x => l = .receive x.1 x.2
  sent := fun st y => ∃ msg, .sent msg y.1 y.2 true ∈ st.router.log
  link := fun j y i x => x.1 = y.1 ∧ topo.wired j y.2 i x.2
  outside := fun i x => topo.host i x.2 x.1

section networks
variable {Name : Type} {topo : Topology Name} {st : Name → Overlap}

/-- Where a packet of the network has come from. -/
inductive Topology.Source (topo : Topology Name) (origin : RawFrame) : Prop where
  | host {i : Name} {iface : IfName} (h : topo.host i iface origin)
  | router {i : Name} (h : OwnPacket (topo.sr i) origin)

def Topology.IsRouter (topo : Topology Name) (sr : SrInstance) : Prop := ∃ i, topo.sr i = sr

/-- An IP frame that comes to a router has a packet of the network. -/
def Topology.Expects (topo : Topology Name) (x : OnWire) : Prop :=
  has_ether_type x.1 ethertype_ip → FromOrigin topo.IsRouter topo.Source x.1

/-- And so has one that leaves a router, which the next one accepts. -/
def Topology.Promises (topo : Topology Name) (y : OnWire) : Prop :=
  has_ether_type y.1 ethertype_ip → Crossing topo.IsRouter topo.Source y.1

theorem Topology.party_promises (topo : Topology Name) (i : Name) {st : Overlap}
    (hst : (topo.network.party i).Reachable (topo.network.Takes topo.Expects) st)
    {y : OnWire} (hy : topo.network.sent st y) : topo.Promises y := by
  obtain ⟨msg, hsent⟩ := hy
  have hrules : ProducedRules (topo.sr i) (topo.heap i)
      (Label.Expected topo.IsRouter topo.Source) _ _ _ :=
    crossing_rules ⟨i, rfl⟩ fun _ h => .router h
  have hallowed : (overlapping (topo.sr i) (topo.heap i)).Reachable
      (fun _ l => l.Allowed (Label.Expected topo.IsRouter topo.Source)) st := by
    apply System.Reachable.mono ?_ hst
    intro st l htakes
    cases l with
    | receive packet interface => exact fun _ => htakes (packet, interface) rfl
    | resume now => trivial
    | timeout now => trivial
  have hproduced := (hrules.overlaps.reachable ⟨.empty, by simp [RouterState.empty]⟩ hallowed).1
  exact (hproduced.produced.log _ hsent).1

theorem Topology.contract (topo : Topology Name) :
    Network.Contract topo.network (fun _ => topo.Expects) (fun _ => topo.Promises) where
  outside i x hhost := fun _ => .start (.host hhost)
  link j y i x hpromise hwire := by
    rw [Topology.Expects, hwire.1]
    exact fun hip => (hpromise hip).origin
  party i st hst y hy := topo.party_promises i hst hy

/-- **Packets cross networks as they were sent.** However the routers are wired, whatever is
    in their tables, whatever the hosts send and however the threads of each overlap, every IP
    frame that a router sends is accepted by the next one. Its packet is that of a host or of a
    router, but for its time to live and header checksum, and has been passed on 255 times at
    most. -/
theorem crosses_networks (hst : topo.network.system.Reachable System.always st) {i : Name}
    {msg : Message} {frame : RawFrame} {iface : IfName}
    (hsent : .sent msg frame iface true ∈ (st i).router.log) (hip : has_ether_type frame ethertype_ip) :
    ip_valid frame = true ∧ ∃ origin n, topo.Source origin ∧
      Route topo.IsRouter origin n frame ∧ Crossed origin n frame ∧ n ≤ 255 := by
  have hpromised : topo.Promises (frame, iface) := topo.contract.kept hst ⟨msg, hsent⟩
  obtain ⟨origin, n, horigin, hroute⟩ := (hpromised hip).origin
  exact ⟨(hpromised hip).valid, origin, n, horigin, hroute, hroute.crossed, hroute.crossed.le⟩

end networks

namespace Sample

/-- Two routers with the same tables in a ring: where each sends packets for 192.168.2.0/24, the
    other takes them in. A host sends one such packet, and the others know its address. -/
def ring : Topology Bool where
  sr := fun _ => net
  heap := fun _ => mem
  wired := fun j iface i interface => j ≠ i ∧ iface = eth 1 ∧ interface = eth 2
  host := fun _ interface frame => (interface = eth 2 ∧ frame = to_lost_host) ∨
    (interface = eth 1 ∧
      frame = arp_reply (inet_addr 192 168 2 7) ⟨eth 1, mac 1, inet_addr 192 168 2 1⟩)

/-- What a router of the ring can take, with the messages under which it was sent. -/
def on_ring (st : Bool → Overlap) (i : Bool) : ThreadLabel → Prop
  | .receive frame interface => ring.host i interface frame ∨ interface = eth 2 ∧
      ∃ msg ∈ [.forward, .released 2 3], .sent msg frame (eth 1) true ∈ (st !i).router.log
  | _ => True

instance (st : Bool → Overlap) (i : Bool) (l : ThreadLabel) : Decidable (on_ring st i l) :=
  match l with
  | .receive _ _ => inferInstanceAs (Decidable ((_ ∨ _) ∨ _ ∧ ∃ msg ∈ _, _))
  | .resume _ => isTrue trivial
  | .timeout _ => isTrue trivial

def pass_round : List (Bool × ThreadLabel) → (Bool → Overlap) → Option (Bool → Overlap)
  | [], st => some st
  | (i, l) :: labels, st =>
    if on_ring st i l then
      (overlap [l] (st i)).bind fun t => pass_round labels (Function.update st i t)
    else none

theorem pass_round_reachable {labels : List (Bool × ThreadLabel)} {st st' : Bool → Overlap}
    (hst : ring.network.system.Reachable System.always st) (h : pass_round labels st = some st') :
    ring.network.system.Reachable System.always st' := by
  induction labels generalizing st with
  | nil => exact Option.some.inj h ▸ hst
  | cons step labels ih =>
    obtain ⟨i, l⟩ := step
    rw [pass_round] at h
    split at h
    · next hoffered =>
      obtain ⟨t, ht, hrest⟩ := Option.bind_eq_some_iff.mp h
      refine ih (.step (l := (i, l)) hst trivial ⟨?_, ?_, ?_⟩) hrest
      · rintro ⟨frame, interface⟩ htakes
        obtain rfl : l = .receive frame interface := htakes
        rcases hoffered with hhost | ⟨rfl, msg, -, hsent⟩
        · exact .inl hhost
        · exact .inr ⟨!i, (frame, eth 1), ⟨msg, hsent⟩, rfl, by simp, rfl, rfl⟩
      · rw [Function.update_self]
        exact overlap_one ht
      · exact fun j hj => Function.update_of_ne hj _ _
    · cases h

/-- The packet of the host as the one router passes it on, and then as the other does. -/
def passed_on : RawFrame := set_ether_dhost (transit_frame to_lost_host (mac 1)) (mac 9)

def passed_again : RawFrame := set_ether_dhost (transit_frame passed_on (mac 1)) (mac 9)

def ring_labels : List (Bool × ThreadLabel) :=
  let reply := arp_reply (inet_addr 192 168 2 7) ⟨eth 1, mac 1, inet_addr 192 168 2 1⟩
  (store_and_ask 10).map (false, ·) ++ [(false, .receive reply (eth 1)),
    (false, .resume 11), (false, .resume 11), (false, .resume 11),
    (true, .receive reply (eth 1)), (true, .resume 11), (true, .receive passed_on (eth 2)),
    (true, .resume 12)]

def has_passed (st : Bool → Overlap) : Bool :=
  .sent .forward passed_again (eth 1) true ∈ (st true).router.log

theorem ring_passed : ∃ st, ring.network.system.Reachable System.always st ∧
    .sent .forward passed_again (eth 1) true ∈ (st true).router.log := by
  have hround : (pass_round ring_labels fun _ => .empty).any has_passed =
      true := by
    decide +kernel
  obtain ⟨st, hst, hsent⟩ := (Option.any_eq_true _ _).mp hround
  exact ⟨st, pass_round_reachable (.init fun _ => rfl) hst, of_decide_eq_true hsent⟩

theorem round_the_ring : (ip_hdr passed_again).ip_ttl = 62 ∧
    ip_valid passed_again = true ∧ ∃ origin n, ring.Source origin ∧
      Route ring.IsRouter origin n passed_again ∧ Crossed origin n passed_again ∧ n ≤ 255 := by
  obtain ⟨st, hst, hsent⟩ := ring_passed
  exact ⟨by decide +kernel, crosses_networks hst hsent (by decide +kernel)⟩

end Sample

end SimpleRouter
