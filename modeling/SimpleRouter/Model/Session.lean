import SimpleRouter.Model.Comm
import SimpleRouter.Model.Hwinfo

/-! # A session with the server (`sr_vns_comm.c`, `sr_main.c`)

    The second half of `sr_read_from_server_expect` carries out the command of
    a message, and the main loop calls it for as long as it returns 1. The
    frames that it hands on are logged with the tables of the moment; no
    definition of the code reads this log.
-/

namespace SimpleRouter

open Framework Framework.Bytes

/-! ### The state -/

/-- A frame is handed to the filter, or to the router. -/
inductive Call where
  | sr_arp_req_not_for_us (packet : RawFrame) (interface : IfName)
  | sr_handlepacket (sr : SrInstance) (packet : RawFrame) (interface : IfName)
  deriving DecidableEq

structure Session where
  sr : SrInstance
  router : RouterState
  calls : List Call
  deriving DecidableEq

inductive SessionFault where
  /-- `assert(iface)` in `sr_arp_req_not_for_us`. -/
  | no_interface
  /-- `assert(sr->if_list)` in `sr_set_ether_addr` and `sr_set_ether_ip`. -/
  | empty_if_list
  | router (f : Fault)
  deriving DecidableEq, Repr

/-- A part of the main thread. -/
abbrev Main (α : Type) := Prog SessionFault Session α

namespace Session

variable (s : Session)

def setSr (sr : SrInstance) : Session := { s with sr := sr }

def setRouter (router : RouterState) : Session := { s with router := router }

def logCall (call : Call) : Session := { s with calls := s.calls ++ [call] }

end Session

/-- What carrying out a command depends on besides the message. -/
structure Surroundings where
  /-- The bytes at and behind the end of the message, by their offset in it. -/
  behind : Nat → uint8_t
  /-- Files can be opened and read, and replies sent. -/
  succeeds : Bool
  now : time_t
  fuel : Nat

/-! ### Messages -/

/-- The first `n` bytes at a message, of which it need not have so many. -/
def bytes_at (behind : Nat → uint8_t) (buf : List uint8_t) (n : Nat) : List uint8_t :=
  (List.range n).map fun i => buf.getD i (behind i)

theorem bytes_at_take {behind : Nat → uint8_t} {buf : List uint8_t} {n k : Nat} (hn : k ≤ n)
    (h : k ≤ buf.length) : (bytes_at behind buf n).take k = buf.take k := by
  rw [bytes_at, ← List.map_take, List.take_range, Nat.min_eq_left hn, take_eq_map_u8 buf h]
  apply List.map_congr_left
  intro i hi
  have hlt : i < buf.length := Nat.lt_of_lt_of_le (List.mem_range.mp hi) h
  simp [u8, hlt]

/-- Nothing from behind the message is read where the message goes on. -/
theorem bytes_at_eq {behind : Nat → uint8_t} {buf : List uint8_t} {n : Nat} (h : n ≤ buf.length) :
    bytes_at behind buf n = buf.take n := by
  have hlength : (bytes_at behind buf n).length = n := by simp [bytes_at]
  rw [← bytes_at_take (Nat.le_refl n) h, List.take_of_length_le (Nat.le_of_eq hlength)]

/-- `command`. -/
def message_command (env : Surroundings) (buf : List uint8_t) : uint32_t :=
  ntohl (u32 (bytes_at env.behind buf c_base_size) 4)

/-- `buf + sizeof(c_base)`, as far as names are compared. -/
def message_interface (env : Surroundings) (buf : List uint8_t) : IfName :=
  IfName.ofChars ((bytes_at env.behind buf (c_base_size + sr_IFACE_NAMELEN)).drop c_base_size)

/-- `buf + sizeof(c_packet_header)`, in the length that is passed with it. -/
def message_packet (env : Surroundings) (buf : List uint8_t) : RawFrame :=
  (bytes_at env.behind buf
    (c_packet_header_size + (packet_len (message_length buf)).toNat)).drop c_packet_header_size

/-- The entries that are counted, with the header in front. -/
def message_hwinfo (env : Surroundings) (buf : List uint8_t) : List uint8_t :=
  bytes_at env.behind buf
    (c_base_size + (num_entries (message_length buf)).toNat * c_hw_entry_size)

/-! ### Commands -/

/-- The call of `sr_handlepacket`. -/
def pass_to_router (heap : Heap) (env : Surroundings) (packet : RawFrame) (interface : IfName) :
    Main Unit := do
  let s ← Prog.read
  Prog.modify fun s => s.logCall (.sr_handlepacket s.sr packet interface)
  Prog.within Session.router (fun router s => s.setRouter router) SessionFault.router
    (sr_handlepacket s.sr heap env.now env.fuel packet interface)

/-- `case VNSPACKET` -/
def run_packet (heap : Heap) (env : Surroundings) (packet : RawFrame) (interface : IfName) :
    Main Int := do
  let s ← Prog.read
  Prog.modify fun s => s.logCall (.sr_arp_req_not_for_us packet interface)
  match sr_arp_req_not_for_us s.sr packet interface with
  | none => Prog.fail .no_interface
  | some true => pure 1
  | some false => do
    pass_to_router heap env packet interface
    pure 1

/-- `case VNSHWINFO` -/
def run_hwinfo (heap : Heap) (hwinfo : List uint8_t) : Main Int := do
  let s ← Prog.read
  match sr_handle_hwinfo heap s.router.brk s.sr hwinfo with
  | none => Prog.fail .empty_if_list
  | some (sr, n) => do
    Prog.modify fun s =>
      (s.setSr sr).setRouter { s.router with brk := s.router.brk + n.toNat }
    -- "Routing table not consistent with hardware"
    if sr_verify_routing_table sr ≠ 0 then pure (-1) else pure 1

/-- The second half of `sr_read_from_server_expect`, with what it returns. -/
def run_command (heap : Heap) (env : Surroundings) (expected_cmd : uint32_t)
    (buf : List uint8_t) : Main Int :=
  let command := message_command env buf
  if expected_cmd ≠ 0 ∧ command ≠ expected_cmd ∧ command ≠ VNSCLOSE then pure (-1)
  else if command = VNSPACKET then
    run_packet heap env (message_packet env buf) (message_interface env buf)
  else if command = VNSCLOSE then pure 0
  else if command = VNSHWINFO then run_hwinfo heap (message_hwinfo env buf)
  else if command = VNS_RTABLE ∨ command = VNS_AUTH_REQUEST then
    -- the one writes a file, the other reads one and sends a reply
    pure (if env.succeeds then 1 else -1)
  else if command = VNS_AUTH_STATUS then
    -- `status->auth_ok`
    pure (if u8 (bytes_at env.behind buf c_auth_status_size) c_base_size ≠ 0 then 1 else -1)
  else pure 1

/-- `sr_read_from_server`, where the reader has fuel for `reads` calls in either loop. -/
def sr_read_from_server (heap : Heap) (env : Surroundings) (reads : Nat) :
    Prog SessionFault (Session × Socket) Int := fun st =>
  match read_command reads st.2 with
  | none => (.exhausted, st)
  | some (none, src) => (.returned (-1), (st.1, src))
  | some (some buf, src) =>
    ((run_command heap env 0 buf st.1).1, ((run_command heap env 0 buf st.1).2, src))

/-! ### Runs -/

/-- What can happen in the main loop: a message is carried out, or the other thread makes a
    pass. -/
inductive SessionLabel where
  | message (env : Surroundings) (buf : List uint8_t)
  | timeout (now : time_t)

/-- The main loop, which goes on after a message while 1 is returned, with any routing table
    loaded. There are no interfaces yet. -/
def session (heap : Heap) : System Session SessionLabel where
  init := fun s => ∃ routing_table, s = ⟨⟨[], routing_table⟩, RouterState.empty, []⟩
  step := fun s l s' =>
    match l with
    | .message env buf => run_command heap env 0 buf s = (.returned 1, s')
    | .timeout now => ∃ fuel router,
        sr_arpcache_timeout s.sr heap now fuel s.router = (.returned (), router) ∧
          s' = s.setRouter router

end SimpleRouter
