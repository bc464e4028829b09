import SimpleRouter.Model.Protocol

/-! # Interfaces and routes (`sr_if.c`, `sr_rt.c`, `sr_main.c`, `sr_router.c`)

    The interface list and the routing table. Handling packets and sweeping
    the ARP queue only read them, so an `SrInstance` holds these two and the
    ARP cache is kept apart, as the state.
-/

namespace SimpleRouter

/-- An interface name. Every use of a name in the program looks at no more than
    its first `sr_IFACE_NAMELEN` bytes, up to the terminator (`strncmp`,
    `strncpy`), and these are what is kept here: two names are equal exactly
    when `strncmp` says so. -/
structure IfName where
  chars : List uint8_t
  fits : chars.length ≤ sr_IFACE_NAMELEN
  unterminated : 0 ∉ chars
  deriving DecidableEq

/-- `strncpy` into, or `strncmp` against, a `char[sr_IFACE_NAMELEN]`. -/
def IfName.ofChars (s : List uint8_t) : IfName where
  chars := (s.take sr_IFACE_NAMELEN).takeWhile (· ≠ 0)
  fits := by
    apply Nat.le_trans (List.takeWhile_sublist _).length_le
    rw [List.length_take]
    exact Nat.min_le_left _ _
  unterminated := by
    intro h
    have hall := List.all_eq_true.mp List.all_takeWhile _ h
    simp at hall

/-- Node of the interface list. -/
structure SrIf where
  name : IfName
  addr : EtherAddr
  ip : uint32_t
  deriving DecidableEq

/-- Node of the routing table. -/
structure SrRt where
  dest : uint32_t
  gw : uint32_t
  mask : uint32_t
  interface : IfName
  deriving DecidableEq

/-- A router: its interfaces and its routes. -/
structure SrInstance where
  if_list : List SrIf
  routing_table : List SrRt
  deriving DecidableEq

def sr_get_interface (sr : SrInstance) (name : IfName) : Option SrIf :=
  sr.if_list.find? fun if_walker => if_walker.name = name

/-- The number of routes whose interface does not exist, or 999 when one of the
    two lists is empty. -/
def sr_verify_routing_table (sr : SrInstance) : Nat :=
  if sr.if_list = [] ∨ sr.routing_table = [] then 999
  else sr.routing_table.countP fun rt_walker =>
    sr.if_list.all fun if_walker => if_walker.name ≠ rt_walker.interface

/-- The scan of `sr_findLPMentry`, with the best entry so far and its mask. -/
def sr_findLPMentry_scan (ip_dst : uint32_t) :
    List SrRt → Option SrRt → uint32_t → Option SrRt
  | [], lpmentry, _ => lpmentry
  | entry :: rest, lpmentry, lpmmask =>
    let mask := ntohl entry.mask
    if ip_dst &&& mask = ntohl entry.dest &&& mask ∧ mask > lpmmask then
      sr_findLPMentry_scan ip_dst rest (some entry) mask
    else
      sr_findLPMentry_scan ip_dst rest lpmentry lpmmask

def sr_findLPMentry (rtable : List SrRt) (ip_dst : uint32_t) : Option SrRt :=
  sr_findLPMentry_scan (ntohl ip_dst) rtable none 0

/-! ### Interfaces that exist -/

theorem sr_get_interface_mem {sr : SrInstance} {name : IfName} {ifc : SrIf}
    (h : sr_get_interface sr name = some ifc) : ifc ∈ sr.if_list ∧ ifc.name = name := by
  refine ⟨List.mem_of_find?_eq_some h, ?_⟩
  simpa using List.find?_some h

/-- After a successful verification every route names an interface. -/
theorem sr_get_interface_of_verify {sr : SrInstance} (hv : sr_verify_routing_table sr = 0)
    {rt : SrRt} (hrt : rt ∈ sr.routing_table) : ∃ ifc, sr_get_interface sr rt.interface = some ifc := by
  rw [sr_verify_routing_table] at hv
  split at hv
  · simp at hv
  · have hall := List.countP_eq_zero.mp hv rt hrt
    obtain ⟨ifc, hmem, hname⟩ : ∃ ifc ∈ sr.if_list, ifc.name = rt.interface := by simpa using hall
    apply Option.isSome_iff_exists.mp
    exact List.find?_isSome.mpr ⟨ifc, hmem, by simpa using hname⟩

end SimpleRouter
