import SimpleRouter.Model.Threads

/-! # Threads that overlap

    `sr_handlepacket` calls `sr_arpcache_handle_arpreq` without the mutex, so a
    pass of the timeout thread can come at any point of that call, and the call
    can go on in the middle of a pass. Here the calls of both threads are taken
    apart where they use what is shared: a step is one section under the mutex,
    or one access to a request without it, with what follows up to the next.
    What is left to do of a call, and of those nested in it, is a list of
    `CallPart`s.

    The timeout thread holds the mutex for a whole pass. Until that ends, the
    packet thread goes on only as far as it does not need the mutex.
-/

namespace SimpleRouter

open Framework

/-! ### The calls, in parts -/

/-- A part of `sr_arpcache_sweepreqs` or of `sr_arpcache_handle_arpreq`. -/
inductive CallPart where
  /-- The loop of `sr_arpcache_sweepreqs`, from `req` on. -/
  | sweep (req : Option Nat)
  /-- `difftime(curtime, req->sent) > 1.0`. -/
  | test (req : Nat)
  /-- `req->times_sent >= 5`. -/
  | tries (req : Nat) (curtime : time_t)
  /-- `pck = req->packets`. -/
  | frames (req : Nat)
  /-- The answer to the sender of `pck` is built. -/
  | answer (req : Nat) (pck : SrPacket)
  | lookup (msg : Message) (ip : uint32_t) (buf : RawFrame) (iface : IfName)
  | queuereq (msg : Message) (ip : uint32_t) (buf : RawFrame) (iface : IfName)
  /-- `pck = pck->next`. -/
  | next (req : Nat)
  | destroy (req : Nat)
  /-- `req->ip`: the broadcast is built. -/
  | ask (req : Nat) (curtime : time_t)
  /-- `req->sent = curtime`. -/
  | sent (req : Nat) (curtime : time_t) (ip : uint32_t) (ifc : SrIf)
  /-- `req->times_sent++`: it is read. -/
  | count (req : Nat) (curtime : time_t) (ip : uint32_t) (ifc : SrIf)
  /-- It is written, and the broadcast is sent. -/
  | counted (req : Nat) (times_sent : Nat) (curtime : time_t) (ip : uint32_t) (ifc : SrIf)
  deriving DecidableEq

/-- The part is under the mutex. -/
def CallPart.locks : CallPart → Bool
  | .lookup .. => true
  | .queuereq .. => true
  | .destroy _ => true
  | _ => false

/-- The request at `req`, which must not have been freed. -/
def live_request (req : Nat) : Router SrArpreq := do
  let s ← Prog.read
  match s.reqAt req with
  | none => Prog.fail .freed_request
  | some r => pure r

/-- One part of a call, and what it leaves to do before all that was left. -/
def CallPart.run (sr : SrInstance) (heap : Heap) (now : time_t) : CallPart → Router (List CallPart)
  | .sweep none => pure []
  | .sweep (some req) => do
    let _ ← live_request req
    let s ← Prog.read
    -- `next = req->next` comes before the call
    pure [.test req, .sweep (next_request s.cache.requests req)]
  | .test req => do
    let r ← live_request req
    if now - r.sent > 1 then pure [.tries req now] else pure []
  | .tries req curtime => do
    let r ← live_request req
    if r.times_sent ≥ 5 then pure [.frames req] else pure [.ask req curtime]
  | .frames req => do
    let r ← live_request req
    -- frames are only ever put in front of those that the loop visits
    pure (r.packets.flatMap (fun pck => [.answer req pck, .next req]) ++ [.destroy req])
  | .answer req pck => do
    let _ ← live_request req
    let i_hdr0 := ip_hdr pck.buf
    let buf ← malloc
    match sr_findLPMentry sr.routing_table i_hdr0.ip_src with
    | none => pure []
    | some rtentry =>
      match sr_get_interface sr rtentry.interface with
      | none => Prog.fail .null_interface
      | some ifc =>
        pure [.lookup (.host_unreachable req pck.addr) i_hdr0.ip_src
          (icmp_t3_frame heap buf ifc 1 pck.buf) rtentry.interface]
  | .lookup msg ip buf iface => do
    let s ← Prog.read
    match sr_arpcache_lookup s.cache ip with
    | some entry => do
      sr_send_packet sr msg (set_ether_dhost buf entry.mac) iface
      pure []
    | none => pure [.queuereq msg ip buf iface]
  | .queuereq msg ip buf iface => do
    let arpreq ← sr_arpcache_queuereq msg ip buf iface
    -- the request that was returned is handled in its turn
    pure [.test arpreq]
  | .next req => do
    let _ ← live_request req
    pure []
  | .destroy req => do
    sr_arpreq_destroy req
    pure []
  | .ask req curtime => do
    let r ← live_request req
    match sr_findLPMentry sr.routing_table r.ip with
    | none => Prog.fail .null_rtentry
    | some rtentry =>
      match sr_get_interface sr rtentry.interface with
      | none => Prog.fail .null_interface
      | some ifc => pure [.sent req curtime r.ip ifc]
  | .sent req curtime ip ifc => do
    let _ ← live_request req
    Prog.modify (·.updateReq req fun r => { r with sent := curtime })
    pure [.count req curtime ip ifc]
  | .count req curtime ip ifc => do
    let r ← live_request req
    pure [.counted req (r.times_sent + 1) curtime ip ifc]
  | .counted req times_sent curtime ip ifc => do
    let _ ← live_request req
    Prog.modify (·.updateReq req fun r => { r with times_sent := times_sent })
    sr_send_packet sr (.arp_request req curtime) (arp_request_frame ifc ip) ifc.name
    pure []

/-! ### The two threads -/

/-- Where the packet thread is: at a section, or inside of the call of
    `sr_arpcache_handle_arpreq`, with these parts left. -/
inductive Point where
  | outside (phase : Phase)
  | inside (calls : List CallPart)
  deriving DecidableEq

/-- The next section is under the mutex. Frames are received and released without it. -/
def Phase.locks : Phase → Bool
  | .looking .. => true
  | .missed .. => true
  | .learning .. => true
  | .destroying _ => true
  | _ => false

/-- The packet thread needs the mutex to go on. -/
def Point.locks : Point → Bool
  | .outside phase => phase.locks
  | .inside (call :: _) => call.locks
  | .inside [] => false

/-- The next section of the packet thread, or the next part of its call. -/
def next_point (sr : SrInstance) (heap : Heap) (now : time_t) : Point → Router Point
  | .outside (.holding arpreq) => pure (.inside [.test arpreq])
  | .outside phase => do
    -- no other section handles requests, so none needs fuel
    let phase' ← next_section sr heap now 0 phase
    pure (.outside phase')
  | .inside [] => pure (.outside .idle)
  | .inside (call :: calls) => do
    let more ← call.run sr heap now
    pure (.inside (more ++ calls))

/-- The timeout thread takes the mutex for a pass, or goes on with one. -/
def next_pass (sr : SrInstance) (heap : Heap) (now : time_t) : List CallPart → Router (List CallPart)
  | [] => do
    Prog.modify fun s => s.setEntries (sr_arpcache_expire s.cache.entries now)
    let s ← Prog.read
    pure [.sweep (s.cache.requests.head?.map (·.addr))]
  | call :: calls => do
    let more ← call.run sr heap now
    pure (more ++ calls)

/-- The cache, where the packet thread is, and what is left of a pass, if one is being made. -/
structure Overlap where
  router : RouterState
  point : Point
  pass : List CallPart
  deriving DecidableEq

def Overlap.empty : Overlap := ⟨.empty, .outside .idle, []⟩

/-- The step of a thread that is ready for it. -/
def overlap_step (sr : SrInstance) (heap : Heap) (st : Overlap) :
    ThreadLabel → Option (Router (Point × List CallPart))
  | .receive packet interface =>
    if st.point = .outside .idle then some do
      let phase ← receive sr heap packet interface
      pure (.outside phase, st.pass)
    else none
  | .resume now =>
    -- the packet thread waits for the mutex until the pass ends
    if st.point = .outside .idle ∨ st.point.locks ∧ st.pass ≠ [] then none
    else some do
      let point ← next_point sr heap now st.point
      pure (point, st.pass)
  | .timeout now => some do
    let pass ← next_pass sr heap now st.pass
    pure (st.point, pass)

/-- The two threads as a transition system, with nothing left out between the accesses that
    they make to what they share. -/
def overlapping (sr : SrInstance) (heap : Heap) : System Overlap ThreadLabel where
  init := fun st => st = .empty
  step := fun st l st' => ∃ m, overlap_step sr heap st l = some m ∧
    m st.router = (.returned (st'.point, st'.pass), st'.router)

end SimpleRouter
