import SimpleRouter.Model.State
import SimpleRouter.Model.Checksum

/-! # The ARP cache and its request queue (`sr_arpcache.c`)

    `sr_arpcache_handle_arpreq` and `sr_arpcache_queuereq` call each other
    through the host-unreachable replies of an expired request, so they carry
    fuel. The clock is read once for a whole packet or sweep.
-/

namespace SimpleRouter

open Framework Framework.Bytes

/-! ### Entries -/

/-- The last valid entry for `ip`. -/
def sr_arpcache_lookup (cache : SrArpcache) (ip : uint32_t) : Option SrArpentry :=
  cache.entries.toList.foldl
    (fun entry e => if e.valid ∧ e.ip = ip then some e else entry) none

/-- The second half of `sr_arpcache_insert`: fill the first free slot, if there is one. -/
def sr_arpcache_fill (entries : Vector SrArpentry SR_ARPCACHE_SZ)
    (mac : EtherAddr) (ip : uint32_t) (now : time_t) : Vector SrArpentry SR_ARPCACHE_SZ :=
  match entries.findFinIdx? fun e => !e.valid with
  | some i => entries.set i ⟨mac, ip, now, true⟩
  -- a full table learns nothing
  | none => entries

/-- The first half of a pass of `sr_arpcache_timeout`. -/
def sr_arpcache_expire (entries : Vector SrArpentry SR_ARPCACHE_SZ) (now : time_t) :
    Vector SrArpentry SR_ARPCACHE_SZ :=
  entries.map fun e =>
    if e.valid ∧ now - e.added > SR_ARPCACHE_TO then { e with valid := false } else e

/-! ### Sending (`sr_vns_comm.c`) -/

def sr_ether_addrs_match_interface (sr : SrInstance) (buf : RawFrame) (name : IfName) : Bool :=
  match sr_get_interface sr name with
  | none => false
  | some iface => (SrEthernetHdr.ofBytes buf).ether_shost = iface.addr

/-- A frame goes out if it has an Ethernet header with the interface's address
    as its source. -/
def sr_send_packet (sr : SrInstance) (msg : Message) (buf : RawFrame) (iface : IfName) :
    Router Unit :=
  Prog.modify fun s => s.emit (.sent msg buf iface
    (decide (SrEthernetHdr.size ≤ buf.length) && sr_ether_addrs_match_interface sr buf iface))

/-- `memcpy` over `ether_dhost`. -/
def set_ether_dhost (buf : RawFrame) (mac : EtherAddr) : RawFrame := mac.toList ++ buf.drop 6

/-! ### The request queue -/

/-- Store a frame on the request for `ip`, which is created if there is none. -/
def sr_arpcache_queuereq (msg : Message) (ip : uint32_t) (packet : RawFrame) (iface : IfName) :
    Router Nat := do
  let s ← Prog.read
  let req ← match s.reqFor ip with
    | some req => pure req.addr
    | none => do
      -- `calloc`: nothing was sent for it so far
      Prog.modify (·.appendReq ip)
      pure s.brk
  -- `if (packet && packet_len && iface)`
  if packet.length ≠ 0 then
    Prog.modify (·.pushPacket msg req packet iface)
  pure req

/-- Take the request for `ip` off the queue and learn the mapping. -/
def sr_arpcache_insert (mac : EtherAddr) (ip : uint32_t) (now : time_t) :
    Router (Option SrArpreq) := do
  let s ← Prog.read
  let req := s.reqFor ip
  -- unlinked, but not freed: the caller sends its frames and destroys it
  Prog.modify fun s => match req with
    | some req =>
      { s.setRequests (s.cache.requests.eraseP fun r => r.ip = ip) with
        detached := req :: s.detached }
    | none => s
  Prog.modify fun s => s.setEntries (sr_arpcache_fill s.cache.entries mac ip now)
  pure req

/-- Unlink the request if it is on the queue, and free it. -/
def sr_arpreq_destroy (req : Nat) : Router Unit := do
  let s ← Prog.read
  if (s.reqAt req).isSome then
    Prog.modify fun s =>
      (s.setRequests (s.cache.requests.eraseP fun r => r.addr = req)).emit (.destroyed req)
  -- not on the queue any more, as `sr_arpcache_insert` took it off
  else if s.detached.any fun r => r.addr = req then
    Prog.modify fun s =>
      ({ s with detached := s.detached.eraseP fun r => r.addr = req }).emit (.destroyed req)
  else
    Prog.fail .double_free

/-- Look `ip` up: send the frame to its address, or store it for `ip` and see to
    the request. This is the end of every branch that sends an IP frame. -/
def send_or_queue (sr : SrInstance) (handle_arpreq : Nat → Router Unit)
    (msg : Message) (ip : uint32_t) (buf : RawFrame) (iface : IfName) : Router Unit := do
  let s ← Prog.read
  match sr_arpcache_lookup s.cache ip with
  | some arpentry => sr_send_packet sr msg (set_ether_dhost buf arpentry.mac) iface
  | none => do
    let arpreq ← sr_arpcache_queuereq msg ip buf iface
    handle_arpreq arpreq

/-! ### ICMP errors

    Four places build an ICMP error field by field in a fresh buffer; they
    differ in the type, the code and the interface they take the source from.
-/

/-- The address of a fresh block. -/
def malloc : Router Nat := do
  let s ← Prog.read
  Prog.modify (·.alloc)
  pure s.brk

/-- `memcpy(data, i_hdr0, ICMP_DATA_SIZE)`, where `i_hdr0` lies at index 14 of
    `frame`: bytes that the frame does not have are those that follow it. -/
def icmp_data (heap : Heap) (buf : Nat) (frame : RawFrame) : Vector uint8_t ICMP_DATA_SIZE :=
  Vector.ofFn fun i => (frame.drop SrEthernetHdr.size).getD i (heap.beyond buf i)

/-- The destination of the fresh buffer is whatever was there. -/
def icmp_error_ethernet (heap : Heap) (buf : Nat) (ifc : SrIf) : SrEthernetHdr where
  ether_dhost := Vector.ofFn fun i => heap.fresh buf i
  ether_shost := ifc.addr
  ether_type := htons ethertype_ip

def icmp_error_ip (ifc : SrIf) (i_hdr0 : SrIpHdr) (icmp_size : Nat) : SrIpHdr :=
  let i_hdr : SrIpHdr :=
    { ip_hl := BitVec.ofNat 4 (SrIpHdr.size / 4)
      ip_v := 4
      ip_tos := 0
      ip_len := htons (BitVec.ofNat 16 (SrIpHdr.size + icmp_size))
      ip_id := i_hdr0.ip_id
      ip_off := htons IP_DF
      ip_ttl := INIT_TTL
      ip_p := ip_protocol_icmp
      ip_src := ifc.ip
      ip_dst := i_hdr0.ip_src
      ip_sum := 0 }
  { i_hdr with ip_sum := cksum i_hdr.toBytes }

def icmp_t3 (code : uint8_t) (data : Vector uint8_t ICMP_DATA_SIZE) : SrIcmpT3Hdr :=
  let ict3_hdr : SrIcmpT3Hdr :=
    { icmp_type := 3, icmp_code := code, unused := 0, next_mtu := 0, data := data, icmp_sum := 0 }
  { ict3_hdr with icmp_sum := cksum ict3_hdr.toBytes }

def icmp_t11 (data : Vector uint8_t ICMP_DATA_SIZE) : SrIcmpT11Hdr :=
  let ict11_hdr : SrIcmpT11Hdr :=
    { icmp_type := 11, icmp_code := 0, unused := 0, data := data, icmp_sum := 0 }
  { ict11_hdr with icmp_sum := cksum ict11_hdr.toBytes }

/-- A type 3 message about `frame`, from `ifc` to the source of `frame`. -/
def icmp_t3_frame (heap : Heap) (buf : Nat) (ifc : SrIf) (code : uint8_t) (frame : RawFrame) :
    RawFrame :=
  (icmp_error_ethernet heap buf ifc).toBytes ++
    (icmp_error_ip ifc (ip_hdr frame) SrIcmpT3Hdr.size).toBytes ++
    (icmp_t3 code (icmp_data heap buf frame)).toBytes

/-- A type 11 message about `frame`, from `ifc` to the source of `frame`. -/
def icmp_t11_frame (heap : Heap) (buf : Nat) (ifc : SrIf) (frame : RawFrame) : RawFrame :=
  (icmp_error_ethernet heap buf ifc).toBytes ++
    (icmp_error_ip ifc (ip_hdr frame) SrIcmpT11Hdr.size).toBytes ++
    (icmp_t11 (icmp_data heap buf frame)).toBytes

/-! ### Handling a request -/

/-- The ARP request that is broadcast for `ip` on `ifc`. -/
def arp_request_frame (ifc : SrIf) (ip : uint32_t) : RawFrame :=
  let e_hdr : SrEthernetHdr :=
    { ether_dhost := Vector.replicate 6 0xff
      ether_shost := ifc.addr
      ether_type := htons ethertype_arp }
  let a_hdr : SrArpHdr :=
    { ar_hrd := htons arp_hrd_ethernet
      ar_pro := htons ethertype_ip
      ar_hln := BitVec.ofNat 8 ETHER_ADDR_LEN
      ar_pln := 4
      ar_op := htons arp_op_request
      ar_sha := ifc.addr
      ar_sip := ifc.ip
      ar_tha := Vector.replicate 6 0xff
      ar_tip := ip }
  e_hdr.toBytes ++ a_hdr.toBytes

/-- The `else` part of `sr_arpcache_handle_arpreq`: ask once more. -/
def send_arp_request (sr : SrInstance) (now : time_t) (req : SrArpreq) : Router Unit :=
  match sr_findLPMentry sr.routing_table req.ip with
  -- `rtentry->interface`, with no test before it
  | none => Prog.fail .null_rtentry
  | some rtentry =>
    match sr_get_interface sr rtentry.interface with
    | none => Prog.fail .null_interface
    | some ifc => do
      Prog.modify (·.updateReq req.addr fun r =>
        { r with sent := now, times_sent := r.times_sent + 1 })
      sr_send_packet sr (.arp_request req.addr now) (arp_request_frame ifc req.ip) ifc.name

/-- Tell the sender of `pck`, a frame waiting on the expired request `req`, that
    its destination cannot be reached. -/
def answer_sender (sr : SrInstance) (heap : Heap) (handle_arpreq : Nat → Router Unit)
    (req : Nat) (pck : SrPacket) : Router Unit := do
  let i_hdr0 := ip_hdr pck.buf
  let buf ← malloc
  match sr_findLPMentry sr.routing_table i_hdr0.ip_src with
  -- no route back: the frame is dropped without an answer
  | none => pure ()
  | some rtentry =>
    match sr_get_interface sr rtentry.interface with
    | none => Prog.fail .null_interface
    | some ifc =>
      send_or_queue sr handle_arpreq (.host_unreachable req pck.addr) i_hdr0.ip_src
        (icmp_t3_frame heap buf ifc 1 pck.buf) rtentry.interface

/-- The body of the loop of `sr_arpcache_handle_arpreq` over the frames waiting
    on an expired request. -/
def discard_packet (sr : SrInstance) (heap : Heap) (handle_arpreq : Nat → Router Unit)
    (req : Nat) (pck : SrPacket) : Router Unit := do
  answer_sender sr heap handle_arpreq req pck
  -- `pck = pck->next` reads the frame again, which is gone if the nested call freed the request
  let s ← Prog.read
  if (s.reqAt req).isSome then pure () else Prog.fail .freed_request

/-- Frames are only ever put in front of a request's list, so the frames that
    the loop visits are those of the list it started from. -/
def sr_arpcache_handle_arpreq (sr : SrInstance) (heap : Heap) (now : time_t) :
    Nat → Nat → Router Unit
  | 0, _ => Prog.exhaust
  | fuel + 1, req => do
    let s ← Prog.read
    match s.reqAt req with
    -- `req->sent` of a request that was freed
    | none => Prog.fail .freed_request
    | some r =>
      if now - r.sent > 1 then
        -- 5 failures accumulated, discard
        if r.times_sent ≥ 5 then do
          Prog.forEach r.packets
            (discard_packet sr heap (sr_arpcache_handle_arpreq sr heap now fuel) req)
          sr_arpreq_destroy req
        else
          send_arp_request sr now r
      else
        pure ()

/-! ### Sweeping -/

/-- `req->next`, for a request on the queue. -/
def next_request (requests : List SrArpreq) (req : Nat) : Option Nat :=
  ((requests.dropWhile fun r => r.addr ≠ req).drop 1).head?.map (·.addr)

/-- The loop of `sr_arpcache_sweepreqs` from `req` on. -/
def sweep_from (sr : SrInstance) (heap : Heap) (now : time_t) : Nat → Option Nat → Router Unit
  | _, none => pure ()
  | 0, some _ => Prog.exhaust
  | fuel + 1, some req => do
    let s ← Prog.read
    if (s.reqAt req).isSome then do
      -- `next = req->next` comes before the call, which may free what it points to
      let next := next_request s.cache.requests req
      sr_arpcache_handle_arpreq sr heap now fuel req
      sweep_from sr heap now fuel next
    else
      Prog.fail .freed_request

def sr_arpcache_sweepreqs (sr : SrInstance) (heap : Heap) (now : time_t) (fuel : Nat) :
    Router Unit := do
  let s ← Prog.read
  sweep_from sr heap now fuel (s.cache.requests.head?.map (·.addr))

/-- One pass of the loop of `sr_arpcache_timeout`. -/
def sr_arpcache_timeout (sr : SrInstance) (heap : Heap) (now : time_t) (fuel : Nat) :
    Router Unit := do
  Prog.modify fun s => s.setEntries (sr_arpcache_expire s.cache.entries now)
  sr_arpcache_sweepreqs sr heap now fuel

end SimpleRouter
