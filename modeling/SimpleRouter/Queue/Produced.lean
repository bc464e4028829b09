import SimpleRouter.Queue.Moves
import SimpleRouter.Queue.Pending

/-! # What is sent and stored

    A frame that leaves was made for a packet, for a request or for the sender
    of a frame that was given up, and some of them wait on a request first.
    `Produced Q P G` says that pending requests and frames satisfy `Q` and `P`,
    and that everything that was ever sent or stored satisfies `G`.

    * `ProducedRules`: what it takes at each place where a frame is made.
    * `ProducedRules.run_label`: then every step keeps it, however it ends.
-/

namespace SimpleRouter

open Framework Framework.Prog RouterState

/-! ### The invariant -/

/-- What the event sends or stores satisfies `G`, and was checked by the sender. -/
def Event.Produces (sr : SrInstance) (G : Message → RawFrame → IfName → Prop) : Event → Prop
  | .sent msg buf iface accepted => G msg buf iface ∧ accepted = accepts sr buf iface
  | .queued msg _ pck => G msg pck.buf pck.iface
  | _ => True

structure Produced (sr : SrInstance) (Q : uint32_t → Prop)
    (P : uint32_t → RawFrame → IfName → Prop) (G : Message → RawFrame → IfName → Prop)
    (s : RouterState) : Prop where
  pending : Pending Q P s
  log : ∀ e ∈ s.log, e.Produces sr G

variable {sr : SrInstance} {heap : Heap} {now : time_t} {s : RouterState} {Q : uint32_t → Prop}
  {P : uint32_t → RawFrame → IfName → Prop} {G : Message → RawFrame → IfName → Prop}

theorem Pending.release (h : Pending Q P s) (sr : SrInstance) (mac : EtherAddr) (ip : uint32_t)
    (now : time_t) : Pending Q P (s.release sr mac ip now) := by
  refine h.of_subset (h.wellFormed.release sr mac ip now) ?_
  rw [release_reqs]
  exact List.eraseP_subset

namespace Produced

theorem empty : Produced sr Q P G RouterState.empty where
  pending := .empty
  log e he := by cases he

theorem emit (h : Produced sr Q P G s) {e : Event} (he : e.Produces sr G) :
    Produced sr Q P G (s.emit e) where
  pending := h.pending.emit e
  log := List.forall_mem_append.mpr ⟨h.log, by simpa using he⟩

theorem alloc (h : Produced sr Q P G s) : Produced sr Q P G s.alloc := ⟨h.pending.alloc, h.log⟩

theorem send (h : Produced sr Q P G s) {msg : Message} {buf : RawFrame} {iface : IfName}
    (hG : G msg buf iface) : Produced sr Q P G (s.send sr msg buf iface) :=
  h.emit ⟨hG, rfl⟩

theorem queuePacket (h : Produced sr Q P G s) {msg : Message} {ip : uint32_t} {buf : RawFrame}
    {iface : IfName} (hQ : Q ip) (hP : P ip buf iface) (hG : G msg buf iface) :
    Produced sr Q P G (s.queuePacket msg ip buf iface) where
  pending := h.pending.queuePacket hQ hP
  log := by
    rw [queuePacket_log]
    exact List.forall_mem_append.mpr ⟨h.log, List.forall_mem_singleton.mpr hG⟩

theorem release (h : Produced sr Q P G s) (mac : EtherAddr) (ip : uint32_t) (now : time_t)
    (hG : ∀ frame iface req pck, P ip frame iface →
      G (.released req pck) (set_ether_dhost frame mac) iface) :
    Produced sr Q P G (s.release sr mac ip now) where
  pending := h.pending.release sr mac ip now
  log := by
    obtain ⟨L, hlog, hL⟩ := release_logs sr s mac ip now
    rw [hlog]
    refine List.forall_mem_append.mpr ⟨h.log, fun e he => ?_⟩
    cases hL e he with
    | @sent r p hr hp =>
      obtain ⟨hmem, hip⟩ := reqFor_some hr
      exact ⟨hG _ _ _ _ (hip ▸ h.pending.frames r hmem p hp), rfl⟩
    | destroyed => trivial

end Produced

/-! ### Keeping it -/

/-- What an invariant of this form has to survive, at each place where a frame is made
    or a destination address is filled in. -/
structure ProducedRules (sr : SrInstance) (heap : Heap) (guard : Label → Prop)
    (Q : uint32_t → Prop) (P : uint32_t → RawFrame → IfName → Prop)
    (G : Message → RawFrame → IfName → Prop) : Prop where
  /-- A frame is made for an IP packet. -/
  resolve : ∀ now packet interface buf msg ip frame iface,
    guard (.packet now packet interface) → has_ether_type packet ethertype_ip →
    Resolves sr heap buf packet interface msg ip frame iface →
    Q ip ∧ P ip frame iface ∧ G msg frame iface
  /-- The sender of a stored frame is answered. -/
  answer : ∀ buf ip frame iface rtentry ifc req pck, P ip frame iface →
    sr_findLPMentry sr.routing_table (ip_hdr frame).ip_src = some rtentry →
    sr_get_interface sr rtentry.interface = some ifc →
    Q (ip_hdr frame).ip_src ∧
      P (ip_hdr frame).ip_src (icmp_t3_frame heap buf ifc 1 frame) rtentry.interface ∧
      G (.host_unreachable req pck) (icmp_t3_frame heap buf ifc 1 frame) rtentry.interface
  /-- A frame is sent to a known address. -/
  known : ∀ ip msg frame iface mac, P ip frame iface → G msg frame iface →
    G msg (set_ether_dhost frame mac) iface
  /-- A frame that waited is sent. -/
  release : ∀ ip frame iface mac req pck, P ip frame iface →
    G (.released req pck) (set_ether_dhost frame mac) iface
  /-- A request is broadcast. -/
  ask : ∀ ip req now rtentry ifc, Q ip → sr_findLPMentry sr.routing_table ip = some rtentry →
    sr_get_interface sr rtentry.interface = some ifc →
    G (.arp_request req now) (arp_request_frame ifc ip) ifc.name
  /-- An ARP request is replied to. -/
  reply : ∀ packet interface ifc,
    (SrEthernetHdr.ofBytes packet).ether_type = htons ethertype_arp →
    sr_get_interface sr interface = some ifc →
    G .arp_reply (arp_reply_frame packet ifc) interface

namespace ProducedRules

variable {guard : Label → Prop} (h : ProducedRules sr heap guard Q P G)
include h

theorem moves : MoveRules sr heap guard (Produced sr Q P G) where
  wellFormed _ hs := hs.pending.wellFormed
  alloc _ hs := hs.alloc
  release _ mac ip now hs := hs.release mac ip now fun _ _ _ _ hP => h.release _ _ _ _ _ _ hP
  expire _ _ hs := ⟨hs.pending.setEntries _, hs.log⟩
  move l s s' hl hs hmove := by
    cases hmove with
    | alloc => exact hs.alloc
    | took => exact hs.emit trivial
    | replied hlabel htype hifc => exact hs.send (h.reply _ _ _ htype hifc)
    | sent hlabel hip hres =>
      obtain ⟨-, hP, hG⟩ := h.resolve _ _ _ _ _ _ _ _ (hlabel ▸ hl) hip hres
      exact hs.send (h.known _ _ _ _ _ hP hG)
    | stored hlabel hip hres =>
      obtain ⟨hQ, hP, hG⟩ := h.resolve _ _ _ _ _ _ _ _ (hlabel ▸ hl) hip hres
      exact hs.queuePacket hQ hP hG
    | @asked r rtentry ifc hr _ _ hrt hifc =>
      have hasked : Produced sr Q P G (s.askReq l.now r) := ⟨hs.pending.askReq l.now r, hs.log⟩
      exact hasked.send (h.ask _ _ _ _ _ (hs.pending.requests r hr) hrt hifc)
    | @answered r pck rtentry ifc entry hr _ hpck hrt hifc =>
      obtain ⟨-, hP, hG⟩ := h.answer s.brk _ _ _ _ _ r.addr pck.addr
        (hs.pending.frames r hr pck hpck) hrt hifc
      exact hs.alloc.send (h.known _ _ _ _ _ hP hG)
    | @answer_stored r pck rtentry ifc hr _ hpck hrt hifc =>
      obtain ⟨hQ, hP, hG⟩ := h.answer s.brk _ _ _ _ _ r.addr pck.addr
        (hs.pending.frames r hr pck hpck) hrt hifc
      exact hs.alloc.queuePacket hQ hP hG
    | discarded =>
      exact ⟨hs.pending.destroyReq _, List.forall_mem_append.mpr ⟨hs.log, by simp [Event.Produces]⟩⟩

/-- **Every step** that the guard allows keeps it, however it ends. -/
theorem run_label {l : Label} (hl : guard l) (hs : Produced sr Q P G s) (fuel : Nat) :
    Produced sr Q P G (run_label sr heap fuel l s).2 :=
  h.moves.run_label hl hs fuel

theorem reachable (hs : Reachable sr heap (fun _ => guard) s) : Produced sr Q P G s :=
  h.moves.reachable .empty hs

end ProducedRules

end SimpleRouter
