import SimpleRouter.Model.Router

/-! # The packet thread and the timeout thread

    The cache is shared between the thread that handles packets and the one
    that runs `sr_arpcache_timeout`. Each section under the cache's mutex is one
    step; a pass of the timeout thread is one step as a whole. The packet thread
    holds no lock between its sections, and what it carries from one to the next
    is its `Phase`.

    One step is coarser than the locks are. `sr_arpcache_handle_arpreq` takes
    the mutex only inside of the calls that it makes, and `sr_handlepacket` calls
    it without; here the packet thread's whole call is one step. So the schedules
    of `threads` are those in which no pass overlaps that call. A pass between
    its test and its update, or between the answers of its loop, is not among
    them, and what is shown of `threads` is not shown of such schedules. Those
    are the ones of `overlapping`, which takes the call apart.
-/

namespace SimpleRouter

open Framework

/-- Where the packet thread is in `sr_handlepacket`. -/
inductive Phase where
  | idle
  /-- Before `sr_arpcache_lookup`. -/
  | looking (msg : Message) (ip : uint32_t) (buf : RawFrame) (iface : IfName)
  /-- Before `sr_arpcache_queuereq`. -/
  | missed (msg : Message) (ip : uint32_t) (buf : RawFrame) (iface : IfName)
  /-- Before the call of `sr_arpcache_handle_arpreq`, which is one step, with the request that
      was returned. -/
  | holding (arpreq : Nat)
  /-- Before `sr_arpcache_insert`. -/
  | learning (mac : EtherAddr) (ip : uint32_t)
  /-- Before the loop that sends the frames of a request that was taken off the queue. -/
  | releasing (mac : EtherAddr) (arpreq : SrArpreq)
  /-- Before `sr_arpreq_destroy`. -/
  | destroying (arpreq : Nat)
  deriving DecidableEq

/-- `sr_handlepacket` before it locks the cache for the first time. -/
def receive (sr : SrInstance) (heap : Heap) (packet : RawFrame) (interface : IfName) :
    Router Phase := do
  let buf ← malloc
  Prog.modify fun s =>
    if has_ether_type packet ethertype_ip then s.emit (.took (sr_ip_branch sr packet)) else s
  match sr_handlepacket_todo sr heap buf packet interface with
  | .nothing => pure .idle
  | .crash f => Prog.fail f
  | .reply buf iface => do
    sr_send_packet sr .arp_reply buf iface
    pure .idle
  | .resolve msg ip buf iface => pure (.looking msg ip buf iface)
  | .learn mac ip => pure (.learning mac ip)

/-- The next step of the packet thread: a section under the mutex and what follows it, or, in
    phase `holding`, the whole call of `sr_arpcache_handle_arpreq`, although that is unlocked. -/
def next_section (sr : SrInstance) (heap : Heap) (now : time_t) (fuel : Nat) :
    Phase → Router Phase
  | .idle => pure .idle
  | .looking msg ip buf iface => do
    let s ← Prog.read
    match sr_arpcache_lookup s.cache ip with
    | some arpentry => do
      sr_send_packet sr msg (set_ether_dhost buf arpentry.mac) iface
      pure .idle
    | none => pure (.missed msg ip buf iface)
  | .missed msg ip buf iface => do
    let arpreq ← sr_arpcache_queuereq msg ip buf iface
    pure (.holding arpreq)
  -- no lock is held here: schedules with a pass in the middle of the call are left out
  | .holding arpreq => do
    sr_arpcache_handle_arpreq sr heap now fuel arpreq
    pure .idle
  | .learning mac ip => do
    let arpreq ← sr_arpcache_insert mac ip now
    match arpreq with
    | none => pure .idle
    | some arpreq => pure (.releasing mac arpreq)
  | .releasing mac arpreq => do
    Prog.forEach arpreq.packets fun en_pck =>
      sr_send_packet sr (.released arpreq.addr en_pck.addr) (set_ether_dhost en_pck.buf mac)
        en_pck.iface
    pure (.destroying arpreq.addr)
  | .destroying arpreq => do
    sr_arpreq_destroy arpreq
    pure .idle

/-- A step of one of the threads. -/
inductive ThreadLabel where
  /-- The packet thread takes the next packet. -/
  | receive (packet : RawFrame) (interface : IfName)
  /-- The packet thread runs its next section. -/
  | resume (now : time_t)
  /-- The timeout thread makes a pass. -/
  | timeout (now : time_t)
  deriving DecidableEq

/-- The cache, and where the packet thread is. -/
abbrev Threads : Type := RouterState × Phase

/-- The step of a thread that is ready for it. -/
def thread_section (sr : SrInstance) (heap : Heap) (fuel : Nat) :
    ThreadLabel → Phase → Option (Router Phase)
  | .receive packet interface, .idle => some (receive sr heap packet interface)
  | .receive _ _, _ => none
  | .resume _, .idle => none
  | .resume now, phase => some (next_section sr heap now fuel phase)
  -- the packet thread keeps what it holds, even if the pass frees it
  | .timeout now, phase => some do
    sr_arpcache_timeout sr heap now fuel
    pure phase

/-- The two threads as a transition system: a step is a section that returns. No pass overlaps
    the packet thread's call of `sr_arpcache_handle_arpreq`. -/
def threads (sr : SrInstance) (heap : Heap) : System Threads ThreadLabel where
  init := fun st => st = (RouterState.empty, .idle)
  step := fun st l st' => ∃ fuel m, thread_section sr heap fuel l st.2 = some m ∧
    m st.1 = (.returned st'.2, st'.1)

/-! ### One thread alone -/

/-- The sections of the packet thread until it is idle again, with nothing in between. -/
def run_sections (sr : SrInstance) (heap : Heap) (now : time_t) (fuel : Nat) :
    Nat → Phase → Router Unit
  | _, .idle => pure ()
  | 0, _ => Prog.exhaust
  | n + 1, phase => do
    let phase' ← next_section sr heap now fuel phase
    run_sections sr heap now fuel n phase'

end SimpleRouter
