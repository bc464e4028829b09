import Mathlib.Data.List.ModifyLast
import SimpleRouter.Model.Vns

/-! # Hardware information (`sr_vns_comm.c`, `sr_if.c`)

    The server describes the router's interfaces in one message, a row of
    key-value entries. A name adds an interface to the list, and what follows
    is stored in the last interface there is.
-/

namespace SimpleRouter

open Framework Framework.Bytes

/-! ### Entries (`vnscommand.h`) -/

def HWINTERFACE : uint32_t := 1
def HWETHER : uint32_t := 32
def HWETHIP : uint32_t := 64

/-- An entry, with its key as it is sent. -/
structure CHwEntry where
  mKey : uint32_t
  value : Vector uint8_t 32
  deriving DecidableEq

namespace CHwEntry

def ofBytes (b : List uint8_t) : CHwEntry where
  mKey := u32 b 0
  value := array 32 b 4

def toBytes (entry : CHwEntry) : List uint8_t := le32 entry.mKey ++ entry.value.toList

/-- The key that the code switches on. -/
def key (entry : CHwEntry) : uint32_t := ntohl entry.mKey

/-- `value`, read as an Ethernet address. -/
def ether (entry : CHwEntry) : EtherAddr := array 6 entry.value.toList 0

/-- `value`, read as an IP address. -/
def ethip (entry : CHwEntry) : uint32_t := u32 entry.value.toList 0

end CHwEntry

/-- `hwinfo->mHWInfo[i]`. -/
def mHWInfo (hwinfo : List uint8_t) (i : Nat) : CHwEntry :=
  CHwEntry.ofBytes (hwinfo.drop (c_base_size + i * c_hw_entry_size))

/-! ### The interface list (`sr_if.c`) -/

/-- A node that `malloc` returns at `a`, with a name in it. Nothing else is written. -/
def SrIf.fresh (heap : Heap) (a : Nat) (name : IfName) : SrIf where
  name := name
  addr := Vector.ofFn fun k => heap.fresh a (sr_IFACE_NAMELEN + k)
  -- two bytes of padding come before the word
  ip := heap.fresh a (sr_IFACE_NAMELEN + 11) ++ heap.fresh a (sr_IFACE_NAMELEN + 10) ++
    heap.fresh a (sr_IFACE_NAMELEN + 9) ++ heap.fresh a (sr_IFACE_NAMELEN + 8)

def sr_add_interface (heap : Heap) (a : Nat) (sr : SrInstance) (name : List uint8_t) :
    SrInstance :=
  { sr with if_list := sr.if_list ++ [SrIf.fresh heap a (IfName.ofChars name)] }

/-- `sr_set_ether_addr`; `none` is a failed assertion. -/
def sr_set_ether_addr (sr : SrInstance) (addr : EtherAddr) : Option SrInstance :=
  if sr.if_list = [] then none
  else
    some { sr with
      if_list := sr.if_list.modifyLast fun if_walker => { if_walker with addr := addr } }

/-- `sr_set_ether_ip`; `none` is a failed assertion. -/
def sr_set_ether_ip (sr : SrInstance) (ip_nbo : uint32_t) : Option SrInstance :=
  if sr.if_list = [] then none
  else
    some { sr with
      if_list := sr.if_list.modifyLast fun if_walker => { if_walker with ip := ip_nbo } }

/-! ### The message (`sr_vns_comm.c`) -/

/-- One round of the loop; an interface that is added lies at `a`. -/
def sr_handle_hw_entry (heap : Heap) (a : Nat) (sr : SrInstance) (entry : CHwEntry) :
    Option SrInstance :=
  if entry.key = HWINTERFACE then some (sr_add_interface heap a sr entry.value.toList)
  else if entry.key = HWETHIP then sr_set_ether_ip sr entry.ethip
  else if entry.key = HWETHER then sr_set_ether_addr sr entry.ether
  -- `HWFIXEDIP`, `HWSPEED`, `HWSUBNET` and `HWMASK` are passed over, other keys printed
  else some sr

/-- `for ( i=0; i<num_entries; i++ )`, from `i` on with `n` rounds to go. Every round has an
    address of its own for what it allocates. -/
def sr_handle_hwinfo_loop (heap : Heap) (brk : Nat) (hwinfo : List uint8_t) (i : Nat) :
    Nat → SrInstance → Option SrInstance
  | 0, sr => some sr
  | n + 1, sr => do
    let sr ← sr_handle_hw_entry heap (brk + i) sr (mHWInfo hwinfo i)
    sr_handle_hwinfo_loop heap brk hwinfo (i + 1) n sr

/-- `sr_handle_hwinfo`, with what it returns; `none` is a failed assertion. -/
def sr_handle_hwinfo (heap : Heap) (brk : Nat) (sr : SrInstance) (hwinfo : List uint8_t) :
    Option (SrInstance × Int) := do
  let n := num_entries (ntohl (u32 hwinfo 0))
  let sr ← sr_handle_hwinfo_loop heap brk hwinfo 0 n.toNat sr
  pure (sr, n)

end SimpleRouter
