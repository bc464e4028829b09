import SimpleRouter.Queue.Rules

/-! # What is pending

    `Pending Q P` says that each pending request is for an IP in `Q` and that
    each frame stored on it, with its interface, satisfies `P` for that IP.
    Requests and frames come in through `sr_arpcache_queuereq` only, so that is
    where an invariant of this form has to be established.

    * `PendingRules`: what it takes, with what is to be shown of crashes.
    * `PendingRules.run_label`: then every step keeps the invariant.
    * `PendingRules.reachable`: and every state of every guarded run has it.
-/

namespace SimpleRouter

open Framework Framework.Prog RouterState

/-! ### The invariant -/

/-- What holds of the pending requests and of the frames stored on them, on a queue
    that has its shape. -/
structure Pending (Q : uint32_t → Prop) (P : uint32_t → RawFrame → IfName → Prop)
    (s : RouterState) : Prop where
  wellFormed : WellFormed s
  requests : ∀ r ∈ s.reqs, Q r.ip
  frames : ∀ r ∈ s.reqs, ∀ p ∈ r.packets, P r.ip p.buf p.iface

namespace Pending

variable {Q : uint32_t → Prop} {P : uint32_t → RawFrame → IfName → Prop} {s t : RouterState}
  {now : time_t}

theorem empty : Pending Q P RouterState.empty where
  wellFormed := .empty
  requests r hr := by cases hr
  frames r hr := by cases hr

/-- Requests may go. -/
theorem of_subset (h : Pending Q P s) (ht : WellFormed t) (hsub : t.reqs ⊆ s.reqs) :
    Pending Q P t :=
  ⟨ht, fun r hr => h.requests r (hsub hr), fun r hr => h.frames r (hsub hr)⟩

theorem emit (h : Pending Q P s) (e : Event) : Pending Q P (s.emit e) :=
  h.of_subset (h.wellFormed.emit e) (List.Subset.refl s.reqs)

theorem alloc (h : Pending Q P s) : Pending Q P s.alloc :=
  h.of_subset h.wellFormed.alloc (List.Subset.refl s.reqs)

theorem setEntries (h : Pending Q P s) (entries : Vector SrArpentry SR_ARPCACHE_SZ) :
    Pending Q P (s.setEntries entries) :=
  h.of_subset (h.wellFormed.setEntries entries) (List.Subset.refl s.reqs)

theorem destroyReq (h : Pending Q P s) (req : Nat) : Pending Q P (s.destroyReq req) :=
  h.of_subset (h.wellFormed.destroyReq req) (List.eraseP_subset (l := s.reqs))

theorem destroyDetached (h : Pending Q P s) (req : Nat) : Pending Q P (s.destroyDetached req) :=
  h.of_subset (h.wellFormed.destroyDetached req) (List.Subset.refl s.reqs)

theorem learnFor (h : Pending Q P s) (mac : EtherAddr) (ip : uint32_t) :
    Pending Q P (s.learnFor mac ip now) := by
  apply h.of_subset (h.wellFormed.learnFor mac ip)
  unfold RouterState.learnFor
  cases s.reqFor ip with
  | none => exact List.Subset.refl s.reqs
  | some r => exact List.eraseP_subset (l := s.reqs)

theorem marked (h : Pending Q P s) {req : Nat} {f : SrArpreq → SrArpreq} (hf : Marks f) :
    Pending Q P (s.updateReq req f) where
  wellFormed := h.wellFormed.marked hf
  requests r' hr' := by
    obtain ⟨r, hr, -, hip, -⟩ := mem_marked hf hr'
    rw [hip]
    exact h.requests r hr
  frames r' hr' := by
    obtain ⟨r, hr, -, hip, hpackets⟩ := mem_marked hf hr'
    rw [hip, hpackets]
    exact h.frames r hr

theorem askReq (h : Pending Q P s) (now : time_t) (r : SrArpreq) : Pending Q P (s.askReq now r) :=
  h.marked (marks_asked now)

theorem queuePacket (h : Pending Q P s) {msg : Message} {ip : uint32_t} {buf : RawFrame}
    {iface : IfName} (hQ : Q ip) (hP : P ip buf iface) :
    Pending Q P (s.queuePacket msg ip buf iface) where
  wellFormed := h.wellFormed.queuePacket ..
  requests r' hr' := by
    rcases mem_queuePacket h.wellFormed hr' with hr' | ⟨r, addr, -, hip, rfl⟩
    · exact h.requests r' hr'
    · rwa [hip]
  frames r' hr' := by
    rcases mem_queuePacket h.wellFormed hr' with hr' | ⟨r, addr, hr, hip, rfl⟩
    · exact h.frames r' hr'
    · refine List.forall_mem_cons.mpr ⟨by rwa [hip], ?_⟩
      rcases hr with hr | rfl
      · exact h.frames r hr
      · simp

end Pending

/-! ### Keeping it -/

/-- What an invariant of this form has to survive. `guard` is a condition on the steps
    of a run, and `E` is what is to be shown of a step that crashes or does not come
    back. -/
structure PendingRules (sr : SrInstance) (heap : Heap) (guard : SrArpcache → Label → Prop)
    (Q : uint32_t → Prop) (P : uint32_t → RawFrame → IfName → Prop) (E : Option Fault → Prop) :
    Prop where
  exhausted : E none
  stale : ∀ f, StaleRequest f → E (some f)
  /-- There is no route to a pending request's IP. -/
  null_rtentry : ∀ ip, Q ip → sr_findLPMentry sr.routing_table ip = none →
    E (some .null_rtentry)
  /-- A route is over an interface that does not exist. -/
  null_interface : ∀ ip rtentry, sr_findLPMentry sr.routing_table ip = some rtentry →
    sr_get_interface sr rtentry.interface = none → E (some .null_interface)
  /-- The sender of a discarded frame is answered. -/
  answer : ∀ buf p rtentry ifc, sr_findLPMentry sr.routing_table (source p) = some rtentry →
    sr_get_interface sr rtentry.interface = some ifc →
    Q (source p) ∧ P (source p) (icmp_t3_frame heap buf ifc 1 p.buf) rtentry.interface
  crash : ∀ c now packet interface buf f, guard c (.packet now packet interface) →
    sr_handlepacket_todo sr heap buf packet interface = .crash f → E (some f)
  /-- A frame for a packet is stored. -/
  resolve : ∀ c now packet interface buf msg ip frame iface,
    guard c (.packet now packet interface) → has_ether_type packet ethertype_ip →
    Resolves sr heap buf packet interface msg ip frame iface →
    sr_arpcache_lookup c ip = none → Q ip ∧ P ip frame iface

namespace PendingRules

variable {sr : SrInstance} {heap : Heap} {guard : SrArpcache → Label → Prop}
  {Q : uint32_t → Prop} {P : uint32_t → RawFrame → IfName → Prop} {E : Option Fault → Prop}

theorem send (msg : Message) (buf : RawFrame) (iface : IfName) : Triple (Pending Q P)
    (sr_send_packet sr msg buf iface) (fun _ => Pending Q P) fun o _ => E o :=
  triple_modify fun _ h => h.emit _

variable (h : PendingRules sr heap guard Q P E)
include h

theorem destroy (req : Nat) : Triple (Pending Q P) (sr_arpreq_destroy req)
    (fun _ => Pending Q P) fun o _ => E o :=
  triple_destroy (fun _ hs => hs.destroyReq req) (fun _ hs => hs.destroyDetached req)
    fun _ _ => h.stale _ (.inr rfl)

theorem handle_premises (now : time_t) :
    HandlePremises sr heap now (Pending Q P) (fun _ => True) fun o _ => E o where
  exhausted _ _ := h.exhausted
  stale _ f hf _ := h.stale f hf
  ask s r hs hr _ := by
    rintro s rfl
    rw [send_arp_request_eq]
    cases hrt : sr_findLPMentry sr.routing_table r.ip with
    | none => exact h.null_rtentry r.ip (hs.requests r hr) hrt
    | some rtentry =>
      cases hifc : sr_get_interface sr rtentry.interface with
      | none =>
        simp only [hifc]
        exact h.null_interface r.ip rtentry hrt hifc
      | some ifc =>
        simp only [hifc]
        exact (hs.askReq now r).emit _
  pending _ _ _ _ _ _ _ := trivial
  alloc _ hs := hs.alloc
  no_interface _ p rtentry _ _ hrt hifc := h.null_interface (source p) rtentry hrt hifc
  answer _ _ _ _ _ _ _ _ _ _ _ := send _ _ _
  queue _ _ p rtentry ifc hs _ hrt hifc _ := by
    obtain ⟨hQ, hP⟩ := h.answer _ p rtentry ifc hrt hifc
    exact hs.alloc.queuePacket hQ hP
  destroy := h.destroy

theorem packet_premises (now : time_t) (packet : RawFrame) (interface : IfName) :
    PacketPremises sr heap now packet interface
      (fun s => Pending Q P s ∧ guard s.cache (.packet now packet interface)) (Pending Q P)
      fun o _ => E o where
  alloc s hs := ⟨hs.1.alloc, hs.2⟩
  took s _ hs := ⟨hs.1.emit _, hs.2⟩
  done s hs := hs.1
  crash s f hs := fun ⟨buf, htodo⟩ => h.crash _ _ _ _ buf f hs.2 htodo
  reply _ _ _ := (send _ _ _).pre fun _ hs => hs.1
  hit _ _ _ _ _ _ _ _ := (send _ _ _).pre fun _ hs => hs.1
  miss := by
    intro s buf msg ip frame iface hboth hip hres hl fuel
    obtain ⟨hs, hguard⟩ := hboth
    obtain ⟨hQ, hP⟩ := h.resolve _ _ _ _ _ _ _ _ _ hguard hip hres hl
    apply ((h.handle_premises now).triple fuel _).pre
    rintro t rfl
    exact hs.queuePacket hQ hP
  learn s mac ip hs := hs.1.learnFor mac ip
  release _ _ _ _ _ _ _ := send _ _ _
  destroy := h.destroy

/-- **Every step** that the guard allows keeps the invariant. -/
theorem run_label (fuel : Nat) (l : Label) :
    Triple (fun s => Pending Q P s ∧ guard s.cache l) (run_label sr heap fuel l)
      (fun _ => Pending Q P) fun o _ => E o := by
  have hsweep : ∀ now, Triple (Pending Q P) (sr_arpcache_sweepreqs sr heap now fuel)
      (fun _ => Pending Q P) fun o _ => E o := fun now =>
    triple_sweep (h.handle_premises now).triple (fun _ _ => h.exhausted)
      fun _ _ => h.stale _ (.inl rfl)
  cases l with
  | sweep now => exact (hsweep now).pre fun s hs => hs.1
  | timeout now => exact triple_timeout (hsweep now) fun s hs => hs.1.setEntries _
  | packet now packet interface => exact (h.packet_premises now packet interface).triple fuel

theorem reachable {s : RouterState} (hs : Reachable sr heap (fun s l => guard s.cache l) s) :
    Pending Q P s := by
  refine System.Reachable.invariant ?_ ?_ hs
  · rintro s rfl
    exact .empty
  · intro s l s' hs hl hstep
    obtain ⟨fuel, hrun⟩ := hstep
    exact (h.run_label fuel l).returned ⟨hs, hl⟩ hrun

end PendingRules

end SimpleRouter
