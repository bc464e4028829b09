import SimpleRouter.Framework.System
import SimpleRouter.Model.Arpcache

/-! # Packet handling (`sr_router.c`)

    `sr_handlepacket` up to its first use of the ARP cache is a function of the
    frame and the tables: `sr_ip_branch` decides which way an IP packet goes,
    and `sr_handlepacket_todo` does the work of each branch and says what is
    left to do with the cache. `sr_handlepacket` then does it.
-/

namespace SimpleRouter

open Framework Framework.Bytes

/-- An address is in 10.0.2.0/24. -/
def ip_black_listed (ip : uint32_t) : Bool :=
  let mask_addr := inet_addr 255 255 255 0
  let block_addr := inet_addr 10 0 2 0 &&& mask_addr
  ip &&& mask_addr = block_addr

def ip_black_list (iph : SrIpHdr) : Bool :=
  ip_black_listed iph.ip_src || ip_black_listed iph.ip_dst

/-! ### Deciding -/

/-- The ICMP header of a frame. -/
def icmp_hdr (packet : RawFrame) : SrIcmpHdr :=
  SrIcmpHdr.ofBytes (packet.drop (SrEthernetHdr.size + SrIpHdr.size))

/-- What follows the ICMP header of a frame. -/
def icmp_rest (packet : RawFrame) : List uint8_t :=
  packet.drop (SrEthernetHdr.size + SrIpHdr.size + SrIcmpHdr.size)

/-- The validation of an IP packet: its length, its version and the checksum of
    its header. -/
def ip_valid (packet : RawFrame) : Bool :=
  let len_r := packet.length - SrEthernetHdr.size
  let i_hdr0 := ip_hdr packet
  SrIpHdr.size ≤ len_r ∧ i_hdr0.ip_v = 4 ∧
    i_hdr0.ip_sum = cksum { i_hdr0 with ip_sum := 0 }.toBytes

/-- The packet is for one of our interfaces. -/
def ip_to_router (sr : SrInstance) (packet : RawFrame) : Bool :=
  sr.if_list.any fun ifc => (ip_hdr packet).ip_dst = ifc.ip

/-- Which way an IP packet goes. -/
def sr_ip_branch (sr : SrInstance) (packet : RawFrame) : IpBranch :=
  let i_hdr0 := ip_hdr packet
  let len_r := packet.length - SrEthernetHdr.size - SrIpHdr.size
  if !ip_valid packet then .drop
  else if ip_black_list i_hdr0 then .drop
  else if ip_to_router sr packet then
    -- destined to router interface
    if i_hdr0.ip_p = ip_protocol_icmp then
      -- only echo requests are answered
      if len_r < SrIcmpHdr.size then .drop
      else if (icmp_hdr packet).icmp_type = 0x08 then
        if (icmp_hdr packet).icmp_sum ≠
            cksum ({ icmp_hdr packet with icmp_sum := 0 }.toBytes ++ icmp_rest packet) then .drop
        else .echo_request
      else .drop
    else if i_hdr0.ip_p = ip_protocol_tcp ∨ i_hdr0.ip_p = ip_protocol_udp then
      -- the error quotes this much of the packet
      if len_r + SrIpHdr.size < ICMP_DATA_SIZE then .drop
      else .port_unreachable
    else .drop
  else
    -- destined elsewhere, forward
    match sr_findLPMentry sr.routing_table i_hdr0.ip_dst with
    | some rtentry =>
      -- a TTL of 0 is not tested for
      if i_hdr0.ip_ttl = 1 then .time_exceeded
      else .forward rtentry
    | none => .net_unreachable

/-! ### Building -/

/-- What is left to do once a packet has been looked at. -/
inductive Todo where
  | nothing
  | crash (f : Fault)
  /-- Send `buf` out of `iface`. -/
  | reply (buf : RawFrame) (iface : IfName)
  /-- Send `buf` out of `iface` to the address of `ip`, once that is known. -/
  | resolve (msg : Message) (ip : uint32_t) (buf : RawFrame) (iface : IfName)
  /-- Learn a mapping and release what waits for it. -/
  | learn (mac : EtherAddr) (ip : uint32_t)
  deriving DecidableEq

/-- Turn an echo request into its reply, in place. -/
def echo_reply_frame (packet : RawFrame) (addr : EtherAddr) : RawFrame :=
  let i_hdr0 := ip_hdr packet
  let i_hdr : SrIpHdr :=
    { i_hdr0 with
      ip_ttl := INIT_TTL
      ip_src := i_hdr0.ip_dst
      ip_dst := i_hdr0.ip_src
      ip_sum := 0 }
  let ic_hdr : SrIcmpHdr := { icmp_hdr packet with icmp_type := 0x00, icmp_sum := 0 }
  { SrEthernetHdr.ofBytes packet with ether_shost := addr }.toBytes ++
    { i_hdr with ip_sum := cksum i_hdr.toBytes }.toBytes ++
    { ic_hdr with icmp_sum := cksum (ic_hdr.toBytes ++ icmp_rest packet) }.toBytes ++
    icmp_rest packet

/-- The frame as it is passed on: TTL and checksum updated, our address as its
    source. -/
def transit_frame (packet : RawFrame) (addr : EtherAddr) : RawFrame :=
  let i_hdr0 := ip_hdr packet
  let i_hdr : SrIpHdr := { i_hdr0 with ip_ttl := i_hdr0.ip_ttl - 1, ip_sum := 0 }
  { SrEthernetHdr.ofBytes packet with ether_shost := addr }.toBytes ++
    { i_hdr with ip_sum := cksum i_hdr.toBytes }.toBytes ++
    packet.drop (SrEthernetHdr.size + SrIpHdr.size)

/-- An ICMP error is sent back out of the interface the packet came in on. -/
def answer_error (sr : SrInstance) (msg : Message) (packet : RawFrame) (interface : IfName)
    (frame : SrIf → RawFrame) : Todo :=
  match sr_get_interface sr interface with
  | none => .crash .null_interface
  | some ifc => .resolve msg (ip_hdr packet).ip_src (frame ifc) interface

/-- The work of each way an IP packet can go; `buf` is the fresh buffer. -/
def sr_ip_todo (sr : SrInstance) (heap : Heap) (buf : Nat) (packet : RawFrame)
    (interface : IfName) : IpBranch → Todo
  | .drop => .nothing
  | .echo_request =>
    let ipaddr := (ip_hdr packet).ip_src
    match sr_findLPMentry sr.routing_table ipaddr with
    -- no route back to the sender
    | none => .nothing
    | some rtentry =>
      match sr_get_interface sr rtentry.interface with
      | none => .crash .null_interface
      | some ifc =>
        .resolve .echo_reply ipaddr (echo_reply_frame packet ifc.addr) rtentry.interface
  | .port_unreachable =>
    answer_error sr .port_unreachable packet interface
      fun ifc => icmp_t3_frame heap buf ifc 3 packet
  | .time_exceeded =>
    answer_error sr .time_exceeded packet interface
      fun ifc => icmp_t11_frame heap buf ifc packet
  | .forward rtentry =>
    match sr_get_interface sr rtentry.interface with
    | none => .crash .null_interface
    | some ifc =>
      .resolve .forward (ip_hdr packet).ip_dst (transit_frame packet ifc.addr) rtentry.interface
  | .net_unreachable =>
    answer_error sr .net_unreachable packet interface
      fun ifc => icmp_t3_frame heap buf ifc 0 packet

/-- Turn an ARP request into its reply, in place. -/
def arp_reply_frame (packet : RawFrame) (ifc : SrIf) : RawFrame :=
  let e_hdr0 := SrEthernetHdr.ofBytes packet
  let a_hdr0 := SrArpHdr.ofBytes (packet.drop SrEthernetHdr.size)
  { e_hdr0 with ether_dhost := e_hdr0.ether_shost, ether_shost := ifc.addr }.toBytes ++
    { a_hdr0 with
      ar_op := htons arp_op_reply
      ar_tip := a_hdr0.ar_sip
      ar_sip := ifc.ip
      ar_tha := a_hdr0.ar_sha
      ar_sha := ifc.addr }.toBytes ++
    packet.drop (SrEthernetHdr.size + SrArpHdr.size)

def sr_arp_todo (sr : SrInstance) (packet : RawFrame) (interface : IfName) : Todo :=
  let a_hdr0 := SrArpHdr.ofBytes (packet.drop SrEthernetHdr.size)
  if packet.length - SrEthernetHdr.size < SrArpHdr.size then .nothing
  else
    match sr_get_interface sr interface with
    | none => .crash .null_interface
    | some ifc =>
      if a_hdr0.ar_tip = ifc.ip then
        if a_hdr0.ar_op = htons arp_op_request then .reply (arp_reply_frame packet ifc) interface
        -- a mapping is learned whether or not it was asked for
        else if a_hdr0.ar_op = htons arp_op_reply then .learn a_hdr0.ar_sha a_hdr0.ar_sip
        else .nothing
      else .nothing

/-- `sr_handlepacket` up to its first use of the ARP cache. -/
def sr_handlepacket_todo (sr : SrInstance) (heap : Heap) (buf : Nat) (packet : RawFrame)
    (interface : IfName) : Todo :=
  if packet.length < SrEthernetHdr.size then .nothing
  else if (SrEthernetHdr.ofBytes packet).ether_type = htons ethertype_ip then
    sr_ip_todo sr heap buf packet interface (sr_ip_branch sr packet)
  else if (SrEthernetHdr.ofBytes packet).ether_type = htons ethertype_arp then
    sr_arp_todo sr packet interface
  else .nothing

/-! ### Doing -/

/-- Send the frames that waited on `arpreq` to `mac`, and free it. -/
def release_packets (sr : SrInstance) (mac : EtherAddr) (arpreq : SrArpreq) : Router Unit := do
  Prog.forEach arpreq.packets fun en_pck =>
    sr_send_packet sr (.released arpreq.addr en_pck.addr) (set_ether_dhost en_pck.buf mac)
      en_pck.iface
  sr_arpreq_destroy arpreq.addr

/-- `sr_handlepacket` from its first use of the ARP cache on. -/
def sr_handlepacket_rest (sr : SrInstance) (heap : Heap) (now : time_t) (fuel : Nat) :
    Todo → Router Unit
  | .nothing => pure ()
  | .crash f => Prog.fail f
  | .reply buf iface => sr_send_packet sr .arp_reply buf iface
  | .resolve msg ip buf iface =>
    send_or_queue sr (sr_arpcache_handle_arpreq sr heap now fuel) msg ip buf iface
  | .learn mac ip => do
    -- the frames that wait are sent by the caller, not by `sr_arpcache_insert`
    let arpreq ← sr_arpcache_insert mac ip now
    match arpreq with
    | none => pure ()
    | some arpreq => release_packets sr mac arpreq

def sr_handlepacket (sr : SrInstance) (heap : Heap) (now : time_t) (fuel : Nat)
    (packet : RawFrame) (interface : IfName) : Router Unit := do
  let buf ← malloc
  Prog.modify fun s =>
    if has_ether_type packet ethertype_ip then s.emit (.took (sr_ip_branch sr packet)) else s
  sr_handlepacket_rest sr heap now fuel (sr_handlepacket_todo sr heap buf packet interface)

/-! ### Runs -/

/-- What can happen to a router: a packet comes in, its request queue is
    swept, or its timeout thread makes a pass. -/
inductive Label where
  | packet (now : time_t) (packet : RawFrame) (interface : IfName)
  | sweep (now : time_t)
  | timeout (now : time_t)
  deriving DecidableEq

def run_label (sr : SrInstance) (heap : Heap) (fuel : Nat) : Label → Router Unit
  | .packet now packet interface => sr_handlepacket sr heap now fuel packet interface
  | .sweep now => sr_arpcache_sweepreqs sr heap now fuel
  | .timeout now => sr_arpcache_timeout sr heap now fuel

/-- The router as a transition system: a step is a call that returns. -/
def router (sr : SrInstance) (heap : Heap) : System RouterState Label where
  init := fun s => s = RouterState.empty
  step := fun s l s' => ∃ fuel, run_label sr heap fuel l s = (.returned (), s')

/-- A state of a run whose steps all satisfy `guard`. -/
abbrev Reachable (sr : SrInstance) (heap : Heap) (guard : RouterState → Label → Prop)
    (s : RouterState) : Prop := (router sr heap).Reachable guard s

end SimpleRouter
