import SimpleRouter.Framework.Prog
import SimpleRouter.Model.Tables

/-! # The state of a running router

    The ARP cache of `sr_arpcache.h`, the heap as far as the program depends
    on it, and a log of what was sent, queued and freed. The log and the
    addresses are ghosts: no definition of the code reads the log, and
    addresses are only compared for equality, as pointers are.
-/

namespace SimpleRouter

open Framework

/-! ### The ARP cache -/

abbrev SR_ARPCACHE_SZ : Nat := 100
abbrev SR_ARPCACHE_TO : Int := 15

/-- A frame waiting on a request. Its `len` is the length of `buf`. -/
structure SrPacket where
  addr : Nat
  buf : RawFrame
  iface : IfName
  deriving DecidableEq

structure SrArpentry where
  mac : EtherAddr
  ip : uint32_t
  added : time_t
  valid : Bool
  deriving DecidableEq

/-- A pending ARP request, at its address. -/
structure SrArpreq where
  addr : Nat
  ip : uint32_t
  sent : time_t
  times_sent : Nat
  packets : List SrPacket
  deriving DecidableEq

structure SrArpcache where
  entries : Vector SrArpentry SR_ARPCACHE_SZ
  requests : List SrArpreq
  deriving DecidableEq

/-! ### The log -/

/-- What a frame was made for. -/
inductive Message where
  | echo_reply
  | port_unreachable
  | time_exceeded
  | forward
  | net_unreachable
  /-- The answer to the sender of frame `pck`, waiting on request `req`. -/
  | host_unreachable (req pck : Nat)
  | arp_reply
  /-- A broadcast for request `req`. -/
  | arp_request (req : Nat) (sent : time_t)
  /-- Frame `pck`, released by the reply to request `req`. -/
  | released (req pck : Nat)
  deriving DecidableEq

/-- The ways an IP packet can go in `sr_handlepacket`. -/
inductive IpBranch where
  | drop
  | echo_request
  | port_unreachable
  | forward (rtentry : SrRt)
  | time_exceeded
  | net_unreachable
  deriving DecidableEq

inductive Event where
  /-- An IP packet went this way. -/
  | took (branch : IpBranch)
  /-- A call of `sr_send_packet`, and whether it passed the sender's checks. -/
  | sent (msg : Message) (buf : RawFrame) (iface : IfName) (accepted : Bool)
  /-- A frame was stored on request `req`. -/
  | queued (msg : Message) (req : Nat) (pck : SrPacket)
  /-- Request `req` was freed with its frames. -/
  | destroyed (req : Nat)
  deriving DecidableEq

/-! ### The state -/

/-- What the program finds in memory that it did not write: `fresh a i` is
    byte `i` of the block that `malloc` returns at `a`, and `beyond a i` is the
    byte at index `i` of the buffer quoted into block `a`, when the buffer is
    too short to have one. -/
structure Heap where
  fresh : Nat → Nat → uint8_t
  beyond : Nat → Nat → uint8_t

structure RouterState where
  cache : SrArpcache
  /-- Requests taken off the queue and not freed yet. -/
  detached : List SrArpreq
  /-- The next address that `malloc` returns. -/
  brk : Nat
  log : List Event
  deriving DecidableEq

/-- `sr_arpcache_init`: no valid entry, no request. -/
def RouterState.empty : RouterState where
  cache :=
    { entries := Vector.replicate SR_ARPCACHE_SZ ⟨Vector.replicate 6 0, 0, 0, false⟩
      requests := [] }
  detached := []
  brk := 1
  log := []

/-- The faults of the program. -/
inductive Fault where
  /-- `rtentry->interface` with `rtentry == NULL`. -/
  | null_rtentry
  /-- A member of `ifc` with `ifc == NULL`. -/
  | null_interface
  /-- A request is used after it was destroyed. -/
  | freed_request
  /-- A request is destroyed again. -/
  | double_free
  deriving DecidableEq, Repr

/-- A request is used that is not there any more. -/
def StaleRequest (f : Fault) : Prop := f = .freed_request ∨ f = .double_free

/-- A part of the program, acting on the router's state. -/
abbrev Router (α : Type) := Prog Fault RouterState α

namespace RouterState

variable (s : RouterState)

def emit (e : Event) : RouterState := { s with log := s.log ++ [e] }

/-- A block is allocated at `s.brk`. -/
def alloc : RouterState := { s with brk := s.brk + 1 }

def setRequests (reqs : List SrArpreq) : RouterState :=
  { s with cache := { s.cache with requests := reqs } }

def setEntries (entries : Vector SrArpentry SR_ARPCACHE_SZ) : RouterState :=
  { s with cache := { s.cache with entries := entries } }

/-- Write to the request at `req`. -/
def updateReq (req : Nat) (f : SrArpreq → SrArpreq) : RouterState :=
  s.setRequests (s.cache.requests.map fun r => if r.addr = req then f r else r)

/-- Put a new request for `ip` at the end of the queue. -/
def appendReq (ip : uint32_t) : RouterState :=
  (s.setRequests (s.cache.requests ++ [⟨s.brk, ip, 0, 0, []⟩])).alloc

/-- Put a frame in front of the frames of `req`. -/
def pushPacket (msg : Message) (req : Nat) (buf : RawFrame) (iface : IfName) : RouterState :=
  ((s.updateReq req fun r => { r with packets := ⟨s.brk, buf, iface⟩ :: r.packets }).alloc).emit
    (.queued msg req ⟨s.brk, buf, iface⟩)

/-- The request at `req`, if it is on the queue. -/
def reqAt (req : Nat) : Option SrArpreq := s.cache.requests.find? fun r => r.addr = req

/-- The first request for `ip` on the queue. -/
def reqFor (ip : uint32_t) : Option SrArpreq := s.cache.requests.find? fun r => r.ip = ip

end RouterState

end SimpleRouter
