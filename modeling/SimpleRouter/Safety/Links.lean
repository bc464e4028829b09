import SimpleRouter.Queue.Pending

/-! # The link that a frame waits for

    A stored frame remembers the interface it will leave by, chosen when it was
    stored; the ARP requests for it are broadcast on the interface of the route
    to the request's IP. The two are the same for frames that are passed on, for
    echo replies and for host-unreachable messages. Other ICMP errors leave by
    the interface that their packet came in on.

    * `frames_on_link`: frames wait for the link they will use, in runs where
      the packets that errors answer came in on the route back.
-/

namespace SimpleRouter

open Framework Framework.Prog RouterState

variable {sr : SrInstance} {heap : Heap} {s : RouterState}

/-- `iface` is the interface of the route to `ip`. -/
def OnRoute (sr : SrInstance) (ip : uint32_t) (iface : IfName) : Prop :=
  ∃ rtentry, sr_findLPMentry sr.routing_table ip = some rtentry ∧ iface = rtentry.interface

/-- If a packet is answered with an ICMP error that has to wait, it came in on the
    interface of the route back to its source. -/
def ErrorsOnRoute (sr : SrInstance) (c : SrArpcache) : Label → Prop
  | .packet _ packet interface =>
    has_ether_type packet ethertype_ip → (sr_ip_branch sr packet).is_error →
      sr_arpcache_lookup c (ip_hdr packet).ip_src = none →
      OnRoute sr (ip_hdr packet).ip_src interface
  | _ => True

instance (ip : uint32_t) (iface : IfName) : Decidable (OnRoute sr ip iface) :=
  decidable_of_iff (∃ rtentry ∈ sr_findLPMentry sr.routing_table ip, iface = rtentry.interface)
    Iff.rfl

instance (c : SrArpcache) : (l : Label) → Decidable (ErrorsOnRoute sr c l)
  | .packet _ _ _ => inferInstanceAs (Decidable (_ → _))
  | .sweep _ => .isTrue trivial
  | .timeout _ => .isTrue trivial

theorem on_route_rules :
    PendingRules sr heap (ErrorsOnRoute sr) (fun _ => True) (fun ip _ iface => OnRoute sr ip iface)
      fun _ => True where
  exhausted := trivial
  stale _ _ := trivial
  null_rtentry _ _ _ := trivial
  null_interface _ _ _ _ := trivial
  answer _ _ rtentry _ hrt _ := ⟨trivial, rtentry, hrt, rfl⟩
  crash _ _ _ _ _ _ _ _ := trivial
  resolve c now packet interface buf msg ip frame iface herrors hip hres hl := by
    refine ⟨trivial, ?_⟩
    cases hres with
    | echo_reply _ hrt => exact ⟨_, hrt, rfl⟩
    | forward hbranch => exact ⟨_, (ip_branch_forward hbranch).2, rfl⟩
    | error herror => exact herrors hip herror.is_error hl

/-- **Frames wait for the link they will use**, in any run in which ICMP errors that
    have to wait answer packets from the route back: the interface of a stored frame is
    that of the route to the request's IP, and every broadcast for it goes there. -/
theorem frames_on_link (hs : Reachable sr heap (fun s l => ErrorsOnRoute sr s.cache l) s)
    {r : SrArpreq} (hr : r ∈ s.reqs) {p : SrPacket} (hp : p ∈ r.packets) :
    (∃ rtentry, sr_findLPMentry sr.routing_table r.ip = some rtentry ∧
      p.iface = rtentry.interface) ∧
    ∀ now s', send_arp_request sr now r s = (.returned (), s') → ∃ buf accepted,
      s'.log = s.log ++ [.sent (.arp_request r.addr now) buf p.iface accepted] := by
  obtain ⟨rtentry, hrt, hiface⟩ := on_route_rules.reachable hs |>.frames r hr p hp
  refine ⟨⟨rtentry, hrt, hiface⟩, fun now s' hrun => ?_⟩
  obtain ⟨rtentry', ifc, accepted, hrt', hifc, rfl⟩ := send_arp_request_returned hrun
  obtain rfl := Option.some.inj (hrt.symm.trans hrt')
  exact ⟨_, accepted, by rw [hiface, ← (sr_get_interface_mem hifc).2]; rfl⟩

namespace Sample

/-- A packet on its last hop from 172.64.3.9, whose route is on `eth2`. -/
def last_hop_on (n : uint8_t) : Label :=
  .packet 10 (ip_frame (inet_addr 172 64 3 9) (inet_addr 192 168 2 7) 1 17 []) (eth n)

/-- If it comes in on another interface, the answer waits there for a mapping that is
    asked for on `eth2`. -/
theorem other_link_asked : ∃ s, Reachable net mem System.always s ∧
    ∃ r ∈ s.reqs, ∃ p ∈ r.packets, p.iface = eth 1 ∧ OnRoute net r.ip (eth 2) ∧
      ¬ OnRoute net r.ip p.iface := by
  refine ⟨(run 20 [last_hop_on 1]).2, run_reachable (by decide +kernel), ?_⟩
  decide +kernel

/-- If it comes in on `eth2`, the answer waits there as well. -/
theorem same_link_asked : ∃ s : RouterState, ∃ r ∈ s.reqs, ∃ p ∈ r.packets,
    ∃ rtentry, sr_findLPMentry net.routing_table r.ip = some rtentry ∧
      p.iface = rtentry.interface := by
  have hrun : ErrorsOnRoute net RouterState.empty.cache (last_hop_on 2) ∧
      (run_label net mem 20 (last_hop_on 2) RouterState.empty).1 = .returned () ∧
      ∃ r ∈ (run_label net mem 20 (last_hop_on 2) RouterState.empty).2.reqs, r.packets ≠ [] := by
    decide +kernel
  obtain ⟨hguard, hret, r, hr, hne⟩ := hrun
  obtain ⟨p, hp⟩ := List.exists_mem_of_ne_nil _ hne
  exact ⟨_, r, hr, p, hp,
    (frames_on_link (.step (.init rfl) hguard ⟨20, Prod.ext hret rfl⟩) hr hp).1⟩

end Sample

end SimpleRouter
