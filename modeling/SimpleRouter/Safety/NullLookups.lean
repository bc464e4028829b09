import SimpleRouter.Packet.LongestMatch
import SimpleRouter.Queue.Pending

/-! # Lookups that find nothing

    `sr_arpcache_handle_arpreq` looks up the route to the IP of a request and
    the interface of that route, and uses both without a test. So every pending
    request has to be for a routed IP. Frames are stored for an IP whose route
    was just looked up, except for ICMP errors: those are stored for the source
    of the packet that they answer, wherever it is.

    * `null_never_dereferenced`: no lookup that is used finds nothing, in runs
      where the errors go to routed or known addresses.
-/

namespace SimpleRouter

open Framework Framework.Prog RouterState

variable {sr : SrInstance} {heap : Heap} {now : time_t} {s : RouterState}

/-- No program ends by using a lookup that found nothing. -/
def NoNull (end_of_run : Option Fault) : Prop :=
  end_of_run ≠ some .null_rtentry ∧ end_of_run ≠ some .null_interface

theorem NoNull.stale {f : Fault} (h : StaleRequest f) : NoNull (some f) := by
  rcases h with rfl | rfl <;> simp [NoNull]

/-- A packet comes in on one of our interfaces, and if it is answered with an ICMP error
    then its source is routed or in the ARP cache. -/
def ErrorsRouted (sr : SrInstance) (c : SrArpcache) : Label → Prop
  | .packet _ packet interface => (sr_get_interface sr interface).isSome ∧
      (has_ether_type packet ethertype_ip → (sr_ip_branch sr packet).is_error →
        Routed sr (ip_hdr packet).ip_src ∨
          (sr_arpcache_lookup c (ip_hdr packet).ip_src).isSome)
  | _ => True

instance (c : SrArpcache) : (l : Label) → Decidable (ErrorsRouted sr c l)
  | .packet _ _ _ => inferInstanceAs (Decidable (_ ∧ _))
  | .sweep _ => .isTrue trivial
  | .timeout _ => .isTrue trivial

/-- Looking at a packet uses no lookup that found nothing. -/
theorem todo_not_crash (hv : sr_verify_routing_table sr = 0) {buf : Nat} {packet : RawFrame}
    {interface : IfName} (hifc : (sr_get_interface sr interface).isSome) (f : Fault) :
    sr_handlepacket_todo sr heap buf packet interface ≠ .crash f := by
  obtain ⟨ifc, hifc⟩ := Option.isSome_iff_exists.mp hifc
  have herror : ∀ msg frame, answer_error sr msg packet interface frame ≠ .crash f := by
    intro msg frame
    simp [answer_error, hifc]
  -- each branch looks up the interface of a route, or the one the packet came in on
  unfold sr_handlepacket_todo
  split
  · simp
  · split
    · cases hbranch : sr_ip_branch sr packet with
      | drop => simp [sr_ip_todo]
      | echo_request =>
        rw [sr_ip_todo]
        cases hrt : sr_findLPMentry sr.routing_table (ip_hdr packet).ip_src with
        | none => simp
        | some rtentry =>
          obtain ⟨ifc', hifc'⟩ := sr_get_interface_of_verify hv (sr_findLPMentry_mem hrt)
          simp [hifc']
      | forward rtentry =>
        obtain ⟨-, hrt⟩ := ip_branch_forward hbranch
        obtain ⟨ifc', hifc'⟩ := sr_get_interface_of_verify hv (sr_findLPMentry_mem hrt)
        simp [sr_ip_todo, hifc']
      | port_unreachable => exact herror _ _
      | time_exceeded => exact herror _ _
      | net_unreachable => exact herror _ _
    · split
      · unfold sr_arp_todo
        simp only [hifc]
        repeat' split
        all_goals simp
      · simp

/-- What is stored is for a routed IP. -/
theorem Resolves.routed {buf : Nat} {packet frame : RawFrame} {interface iface : IfName}
    {msg : Message} {ip : uint32_t} (h : Resolves sr heap buf packet interface msg ip frame iface)
    (herror : (sr_ip_branch sr packet).is_error → ip = (ip_hdr packet).ip_src → Routed sr ip) :
    Routed sr ip := by
  cases h with
  | echo_reply _ hrt => exact .of_some hrt
  | forward hbranch => exact .of_some (ip_branch_forward hbranch).2
  | error h => exact herror h.is_error rfl

theorem routed_rules (hv : sr_verify_routing_table sr = 0) :
    PendingRules sr heap (ErrorsRouted sr) (Routed sr) (fun _ _ _ => True) NoNull where
  exhausted := by simp [NoNull]
  stale _ hf := .stale hf
  null_rtentry ip hip hrt := by simp [Routed, hrt] at hip
  null_interface _ rtentry hrt hifc := by
    obtain ⟨ifc, hifc'⟩ := sr_get_interface_of_verify hv (sr_findLPMentry_mem hrt)
    simp [hifc] at hifc'
  answer _ _ rtentry _ hrt _ := ⟨.of_some hrt, trivial⟩
  crash _ _ _ _ _ f hguard htodo := absurd htodo (todo_not_crash hv hguard.1 f)
  resolve := by
    intro c now packet interface buf msg ip frame iface h hip hres hl
    obtain ⟨-, herrors⟩ := h
    refine ⟨hres.routed ?_, trivial⟩
    rintro herror rfl
    exact (herrors hip herror).resolve_right (by simp [hl])

/-- **No lookup that finds nothing is used**, in any run with a verified routing table
    in which every ICMP error goes to an address that is routed or in the ARP cache:
    pending requests are for routed IPs, and no further step crashes so. -/
theorem null_never_dereferenced (hv : sr_verify_routing_table sr = 0)
    (hs : Reachable sr heap (fun s l => ErrorsRouted sr s.cache l) s) :
    (∀ r ∈ s.reqs, (sr_findLPMentry sr.routing_table r.ip).isSome) ∧
      ∀ l, ErrorsRouted sr s.cache l → ∀ fuel f s',
        run_label sr heap fuel l s = (.fault f, s') → f ≠ .null_rtentry ∧ f ≠ .null_interface := by
  have hpending := (routed_rules hv).reachable hs
  refine ⟨hpending.requests, fun l hl fuel f s' hrun => ?_⟩
  simpa [NoNull] using ((routed_rules hv).run_label fuel l).faulted ⟨hpending, hl⟩ hrun

namespace Sample

/-- A packet on its last hop. -/
def last_hop (ip_src : uint32_t) : Label :=
  .packet 10 (ip_frame ip_src (inet_addr 192 168 2 7) 1 17 []) (eth 2)

/-- From an address without a route, it makes the router use a route that is not there. -/
theorem from_nowhere_crashes : sr_verify_routing_table net = 0 ∧
    (sr_get_interface net (eth 2)).isSome ∧
    (run_label net mem 20 (last_hop (inet_addr 8 8 8 8)) RouterState.empty).1 =
      .fault .null_rtentry := by
  decide +kernel

/-- From a routed address, it is answered with an error that waits for ARP. -/
theorem from_neighbour_safe : ∃ s, s.reqs ≠ [] ∧
    (∀ r ∈ s.reqs, (sr_findLPMentry net.routing_table r.ip).isSome) ∧
    ∀ l, ErrorsRouted net s.cache l → ∀ fuel f s', run_label net mem fuel l s = (.fault f, s') →
      f ≠ .null_rtentry ∧ f ≠ .null_interface := by
  have hrun : ErrorsRouted net RouterState.empty.cache (last_hop (inet_addr 172 64 3 9)) ∧
      (run_label net mem 20 (last_hop (inet_addr 172 64 3 9)) RouterState.empty).1 =
        .returned () ∧
      (run_label net mem 20 (last_hop (inet_addr 172 64 3 9)) RouterState.empty).2.reqs ≠ [] := by
    decide +kernel
  obtain ⟨hguard, hret, hne⟩ := hrun
  exact ⟨_, hne, null_never_dereferenced (by decide +kernel)
    (.step (.init rfl) hguard ⟨20, Prod.ext hret rfl⟩)⟩

end Sample

end SimpleRouter
