import SimpleRouter.Packet.LongestMatch
import SimpleRouter.Queue.Discarding
import SimpleRouter.Queue.Pending

/-! # IP traffic to the router itself

    Frames that are passed on are not for the router, but answers go wherever
    their packet says it came from, and the router's own ICMP errors have a
    sender too: the router. If one of them is given up, the router is told that
    the host cannot be reached.

    * `QuietSource`: answering a sender does not answer the router.
    * `never_to_itself`: no IP traffic goes to the router, in runs where the
      packets that are answered and the frames that are given up do not come
      from it.
-/

namespace SimpleRouter

open Framework Framework.Bytes Framework.Prog RouterState

variable {sr : SrInstance} {heap : Heap} {now : time_t} {s₀ s t : RouterState}

/-! ### Addresses of the router -/

/-- `ip` is the address of one of our interfaces. -/
def Own (sr : SrInstance) (ip : uint32_t) : Prop := ∃ ifc ∈ sr.if_list, ip = ifc.ip

instance (ip : uint32_t) : Decidable (Own sr ip) :=
  inferInstanceAs (Decidable (∃ ifc ∈ sr.if_list, ip = ifc.ip))

theorem ip_to_router_iff {packet : RawFrame} :
    ip_to_router sr packet ↔ Own sr (ip_hdr packet).ip_dst := by
  simp [ip_to_router, Own]

/-- The frame that an event sends or stores. -/
def Event.frame : Event → Option RawFrame
  | .sent _ buf _ _ => some buf
  | .queued _ _ pck => some pck.buf
  | _ => none

/-- The event sends or stores no IP packet for the router. -/
def NotToSelf (sr : SrInstance) (e : Event) : Prop :=
  ∀ frame, e.frame = some frame → has_ether_type frame ethertype_ip →
    ¬ Own sr (ip_hdr frame).ip_dst

theorem NotToSelf.of_dst {e : Event} {frame : RawFrame} (he : e.frame = some frame)
    (hdst : ¬ Own sr (ip_hdr frame).ip_dst) : NotToSelf sr e := by
  intro frame' he' _
  rwa [← Option.some.inj (he.symm.trans he')]

/-- ARP frames are no IP packets. -/
theorem NotToSelf.of_arp {e : Event} {frame : RawFrame} (he : e.frame = some frame)
    (htype : (SrEthernetHdr.ofBytes frame).ether_type = htons ethertype_arp) : NotToSelf sr e := by
  intro frame' he' hip
  obtain rfl := Option.some.inj (he.symm.trans he')
  simp only [has_ether_type, htype, Bool.decide_and, Bool.and_eq_true, decide_eq_true_eq] at hip
  exact absurd hip.2 (by decide)

/-! ### The invariant -/

/-- No request asks for one of our addresses, frames are stored for the address they go
    to, and no IP packet for one of our addresses was sent or stored. -/
structure SelfFree (sr : SrInstance) (s : RouterState) : Prop where
  pending : Pending (fun ip => ¬ Own sr ip) (fun ip frame _ => (ip_hdr frame).ip_dst = ip) s
  log : ∀ e ∈ s.log, NotToSelf sr e

namespace SelfFree

theorem empty : SelfFree sr RouterState.empty where
  pending := .empty
  log e he := by cases he

theorem emit (h : SelfFree sr s) {e : Event} (he : NotToSelf sr e) : SelfFree sr (s.emit e) where
  pending := h.pending.emit e
  log := List.forall_mem_append.mpr ⟨h.log, by simpa using he⟩

theorem alloc (h : SelfFree sr s) : SelfFree sr s.alloc := ⟨h.pending.alloc, h.log⟩

theorem destroyReq (h : SelfFree sr s) (req : Nat) : SelfFree sr (s.destroyReq req) where
  pending := h.pending.destroyReq req
  log := List.forall_mem_append.mpr ⟨h.log, by simp [NotToSelf, Event.frame]⟩

theorem destroyDetached (h : SelfFree sr s) (req : Nat) : SelfFree sr (s.destroyDetached req) where
  pending := h.pending.destroyDetached req
  log := List.forall_mem_append.mpr ⟨h.log, by simp [NotToSelf, Event.frame]⟩

theorem queuePacket (h : SelfFree sr s) {msg : Message} {ip : uint32_t} {buf : RawFrame}
    {iface : IfName} (hip : ¬ Own sr ip) (hdst : (ip_hdr buf).ip_dst = ip) :
    SelfFree sr (s.queuePacket msg ip buf iface) where
  pending := h.pending.queuePacket hip hdst
  log := by
    rw [queuePacket_log]
    refine List.forall_mem_append.mpr ⟨h.log, ?_⟩
    simpa using NotToSelf.of_dst (e := .queued msg _ ⟨_, buf, iface⟩) rfl (by rwa [hdst])

end SelfFree

/-! ### Quiet queues -/

/-- Giving up a frame from `y` tells the router nothing: if `y` is answered, it is not one
    of our addresses, and the answer, which comes from one, is not given up in turn and
    answered itself. -/
def QuietSource (sr : SrInstance) (now : time_t) (s : RouterState) (y : uint32_t) : Prop :=
  Routed sr y → ¬ Own sr y ∧ (Chased sr now s y → ∀ a ∈ reply_ip sr y, ¬ Routed sr a)

/-- All frames that are waiting on expired requests come from such sources. -/
def Quiet (sr : SrInstance) (now : time_t) (s : RouterState) : Prop :=
  ∀ r ∈ s.reqs, Expired now r → ∀ p ∈ r.packets, QuietSource sr now s (source p)

instance (y : uint32_t) : Decidable (QuietSource sr now s y) :=
  inferInstanceAs (Decidable (_ → _ ∧ (_ → _)))

instance : Decidable (Quiet sr now s) :=
  inferInstanceAs (Decidable (∀ r ∈ s.reqs, Expired now r → ∀ p ∈ r.packets, _))

/-- The queue was quiet in `s₀`, and what was handled since has not changed that. -/
structure QuietSince (sr : SrInstance) (now : time_t) (s₀ s : RouterState) : Prop where
  waiting : ∀ x y, Waiting now s x y → QuietSource sr now s₀ y
  chased : ∀ y, Chased sr now s y → Chased sr now s₀ y

namespace QuietSince

theorem start (h : Quiet sr now s) : QuietSince sr now s s where
  waiting := by
    intro x y hwait
    obtain ⟨r, hr, -, hexp, p, hp, rfl⟩ := hwait
    exact h r hr hexp p hp
  chased _ h := h

theorem of_expired (h : QuietSince sr now s₀ s) (hentries : t.cache.entries = s.cache.entries)
    (hreqs : ∀ r ∈ t.reqs, Expired now r → r ∈ s.reqs) : QuietSince sr now s₀ t where
  waiting := by
    intro x y hwait
    obtain ⟨r, hr, hip, hexp, hp⟩ := hwait
    exact h.waiting x y ⟨r, hreqs r hr hexp, hip, hexp, hp⟩
  chased := by
    intro y hchased
    obtain ⟨hrt, hl, r, hr, hip, hexp⟩ := hchased
    refine h.chased y ⟨hrt, ?_, r, hreqs r hr hexp, hip, hexp⟩
    rwa [sr_arpcache_lookup, ← hentries]

theorem of_same_cache (h : QuietSince sr now s₀ s) (hcache : t.cache = s.cache) :
    QuietSince sr now s₀ t :=
  h.of_expired (by rw [hcache]) fun r hr _ => by rwa [reqs, hcache] at hr

theorem askReq (h : QuietSince sr now s₀ s) (r : SrArpreq) :
    QuietSince sr now s₀ (s.askReq now r) := by
  refine h.of_expired rfl fun r' hr' hexp => ?_
  obtain ⟨r₀, hr₀, rfl⟩ := mem_updateReq.mp hr'
  by_cases haddr : r₀.addr = r.addr
  · rw [if_pos haddr] at hexp
    exact absurd hexp (not_expired_asked r₀)
  · rwa [if_neg haddr]

theorem destroyReq (h : QuietSince sr now s₀ s) (req : Nat) :
    QuietSince sr now s₀ (s.destroyReq req) :=
  h.of_expired rfl fun _ hr _ => List.mem_of_mem_eraseP hr

theorem queuePacket (h : QuietSince sr now s₀ s) (hs : WellFormed s) {msg : Message}
    {ip : uint32_t} {buf : RawFrame} {iface : IfName}
    (hnew : ExpiredFor now s ip → QuietSource sr now s₀ (ip_hdr buf).ip_src) :
    QuietSince sr now s₀ (s.queuePacket msg ip buf iface) := by
  constructor
  · intro x y hw
    rcases waiting_queuePacket hs hw with hw | ⟨-, hexp, rfl⟩
    · exact h.waiting x y hw
    · exact hnew hexp
  · intro y hchased
    obtain ⟨hrt, hl, hexp⟩ := hchased
    refine h.chased y ⟨hrt, ?_, expiredFor_queuePacket hs hexp⟩
    rwa [sr_arpcache_lookup, queuePacket_entries] at hl

end QuietSince

/-! ### Every part of the program keeps it -/

/-- What handling requests keeps from a quiet state `s₀` on. -/
def SelfFreeSince (sr : SrInstance) (now : time_t) (s₀ s : RouterState) : Prop :=
  SelfFree sr s ∧ QuietSince sr now s₀ s

theorem ask_self_free {r : SrArpreq} (hs : SelfFree sr s) :
    Triple (· = s) (send_arp_request sr now r) (fun _ s' => SelfFree sr s' ∧
      ∀ s₀, QuietSince sr now s₀ s → QuietSince sr now s₀ s') (fun _ s' => s' = s) := by
  rintro s rfl
  rw [send_arp_request_eq]
  cases sr_findLPMentry sr.routing_table r.ip with
  | none => rfl
  | some rtentry =>
    cases hifc : sr_get_interface sr rtentry.interface with
    | none => simp only [hifc]
    | some ifc =>
      simp only [hifc]
      have hasked : SelfFree sr (s.askReq now r) := ⟨hs.pending.askReq now r, hs.log⟩
      exact ⟨hasked.emit (.of_arp rfl (arp_request_frame_type ifc r.ip)),
        fun s₀ hquiet => (hquiet.askReq r).of_same_cache rfl⟩

theorem self_free_premises (s₀ : RouterState) :
    HandlePremises sr heap now (SelfFreeSince sr now s₀)
      (fun p => QuietSource sr now s₀ (source p)) (fun _ => SelfFree sr) where
  exhausted _ hs := hs.1
  stale _ _ _ hs := hs.1
  ask s r hs hr _ := (ask_self_free hs.1).weaken (fun _ h => h)
    (fun _ _ h => ⟨h.1, h.2 s₀ hs.2⟩) (fun _ _ h => h ▸ hs.1)
  pending s r hs hr hexp p hp := hs.2.waiting r.ip (source p) ⟨r, hr, rfl, hexp, p, hp, rfl⟩
  alloc _ hs := ⟨hs.1.alloc, hs.2.of_same_cache rfl⟩
  no_interface _ _ _ hs _ _ _ := hs.1
  answer s req p rtentry ifc entry _ hquiet hrt _ _ := by
    obtain ⟨hown, -⟩ := hquiet (.of_some hrt)
    refine triple_modify fun t ht => ⟨ht.1.emit (.of_dst rfl ?_), ht.2.of_same_cache rfl⟩
    simpa [source] using hown
  queue s req p rtentry ifc hs hquiet hrt hifc hl := by
    have hrouted : Routed sr (source p) := .of_some hrt
    obtain ⟨hown, hchase⟩ := hquiet hrouted
    refine ⟨hs.1.alloc.queuePacket hown (by simp [source]), ?_⟩
    apply (hs.2.of_same_cache (t := s.alloc) rfl).queuePacket hs.1.pending.wellFormed.alloc
    -- the answer comes from our address towards its receiver, which then is not routed
    intro hexp ha
    exact absurd ha (hchase (hs.2.chased _ ⟨hrouted, hl, hexp⟩) _ (by simp [reply_ip_eq hrt hifc]))
  destroy req := triple_destroy (fun _ hs => ⟨hs.1.destroyReq req, hs.2.destroyReq req⟩)
    (fun _ hs => ⟨hs.1.destroyDetached req, hs.2.of_same_cache rfl⟩) fun _ hs => hs.1

/-- A step tells the router nothing: no packet that is answered comes from it, and
    neither do frames that are given up, on a queue that expired requests are handled
    on. -/
def NotFromSelf (sr : SrInstance) (heap : Heap) (s : RouterState) : Label → Prop
  | .packet now packet interface => has_ether_type packet ethertype_ip →
      ∀ buf msg ip frame iface, Resolves sr heap buf packet interface msg ip frame iface →
        (msg ≠ .forward → ¬ Own sr (ip_hdr packet).ip_src) ∧
        (sr_arpcache_lookup s.cache ip = none → ExpiredFor now s ip →
          Quiet sr now s ∧ QuietSource sr now s (ip_hdr frame).ip_src)
  | .sweep now => Quiet sr now s
  | .timeout now => Quiet sr now (s.setEntries (sr_arpcache_expire s.cache.entries now))

/-- No frame for a packet goes to us. -/
theorem Resolves.not_own {buf : Nat} {packet frame : RawFrame} {interface iface : IfName}
    {msg : Message} {ip : uint32_t} (h : Resolves sr heap buf packet interface msg ip frame iface)
    (hanswer : msg ≠ .forward → ¬ Own sr (ip_hdr packet).ip_src) : ¬ Own sr ip := by
  cases h with
  | echo_reply => exact hanswer (by simp)
  | forward hbranch =>
    rw [← ip_to_router_iff, (ip_branch_forward hbranch).1]
    simp
  | error herror => exact hanswer herror.not_forward

theorem send_self_free {msg : Message} {buf : RawFrame} {iface : IfName}
    (h : ∀ accepted, NotToSelf sr (.sent msg buf iface accepted)) :
    Prog.Keeps (SelfFree sr) (sr_send_packet sr msg buf iface) :=
  triple_modify fun _ hs => hs.emit fun frame he => h _ frame he

theorem handle_self_free (s₀ : RouterState) (fuel req : Nat) :
    Triple (SelfFreeSince sr now s₀) (sr_arpcache_handle_arpreq sr heap now fuel req)
      (fun _ => SelfFree sr) (fun _ => SelfFree sr) :=
  ((self_free_premises s₀).triple fuel req).weaken (fun _ h => h) (fun _ _ h => h.1)
    fun _ _ h => h

/-- A frame is stored, and its request handled. -/
theorem miss_self_free (s₀ : RouterState) (hs : SelfFree sr s) {msg : Message} {ip : uint32_t} {buf : RawFrame}
    {iface : IfName} (hip : ¬ Own sr ip) (hdst : (ip_hdr buf).ip_dst = ip)
    (hquiet : ExpiredFor now s ip →
      QuietSince sr now s₀ s ∧ QuietSource sr now s₀ (ip_hdr buf).ip_src) (fuel : Nat) :
    Triple (· = s.queuePacket msg ip buf iface)
      (sr_arpcache_handle_arpreq sr heap now fuel (s.queueTarget ip)) (fun _ => SelfFree sr)
      (fun _ => SelfFree sr) := by
  have hwf := hs.pending.wellFormed
  have ht : SelfFree sr (s.queuePacket msg ip buf iface) := hs.queuePacket hip hdst
  by_cases hexp : ExpiredFor now s ip
  · obtain ⟨hsince, hnew⟩ := hquiet hexp
    apply (handle_self_free s₀ fuel _).pre
    rintro t rfl
    exact ⟨ht, hsince.queuePacket hwf fun _ => hnew⟩
  · refine triple_handle_unexpired (fun r hr hexp' => hexp ?_) ht ht ht (fun r _ _ => ?_) fuel
    · exact expiredFor_queuePacket hwf ⟨r, (reqAt_some hr).1, queuePacket_target hwf hr, hexp'⟩
    · exact (ask_self_free ht).weaken (fun _ h => h) (fun _ _ h => h.1) (fun _ _ h => h ▸ ht)

theorem self_free_packet {packet : RawFrame} {interface : IfName}
    (hguard : NotFromSelf sr heap s₀ (.packet now packet interface)) :
    PacketPremises sr heap now packet interface (fun s => SelfFree sr s ∧ s.cache = s₀.cache)
      (SelfFree sr) (fun _ => SelfFree sr) where
  alloc s hs := ⟨hs.1.alloc, hs.2⟩
  took s branch hs := ⟨hs.1.emit (by simp [NotToSelf, Event.frame]), hs.2⟩
  done s hs := hs.1
  crash s f hs _ := hs.1
  reply := by
    intro frame iface hreply
    obtain ⟨buf, htodo⟩ := hreply
    obtain ⟨htype, ifc, -, -, rfl⟩ := todo_reply htodo
    have harp := (arp_reply_frame_type ifc).trans htype
    exact (send_self_free fun _ => .of_arp rfl harp).pre fun _ h => h.1
  hit buf msg ip frame iface mac hip hres := by
    obtain ⟨hanswer, -⟩ := hguard hip buf msg ip frame iface hres
    refine (send_self_free fun _ => .of_dst rfl ?_).pre fun _ h => h.1
    rw [ip_hdr_set_ether_dhost, hres.dst]
    exact hres.not_own hanswer
  miss := by
    intro s buf msg ip frame iface h hip hres hl
    obtain ⟨hs, hcache⟩ := h
    obtain ⟨hanswer, hquiet⟩ := hguard hip buf msg ip frame iface hres
    -- what the guard says of `s₀` holds of `s`, as their caches are the same
    apply miss_self_free s₀ hs (hres.not_own hanswer) hres.dst
    intro h
    obtain ⟨r, hr, hexp⟩ := h
    obtain ⟨hall, hnew⟩ := hquiet (hcache ▸ hl) ⟨r, by rwa [reqs, ← hcache], hexp⟩
    exact ⟨(QuietSince.start hall).of_same_cache hcache, hnew⟩
  learn s mac ip hs := by
    refine ⟨hs.1.pending.learnFor mac ip, ?_⟩
    have hlog : (s.learnFor mac ip now).log = s.log := by
      unfold RouterState.learnFor
      cases s.reqFor ip <;> rfl
    rw [hlog]
    exact hs.1.log
  release s r mac hs hr p hp := by
    refine send_self_free fun _ => .of_dst rfl ?_
    rw [ip_hdr_set_ether_dhost, hs.1.pending.frames r hr p hp]
    exact hs.1.pending.requests r hr
  destroy req := triple_destroy (fun _ hs => hs.destroyReq req)
    (fun _ hs => hs.destroyDetached req) fun _ hs => hs

theorem sweep_self_free (fuel : Nat) :
    Triple (fun s => SelfFree sr s ∧ Quiet sr now s) (sr_arpcache_sweepreqs sr heap now fuel)
      (fun _ => SelfFree sr) (fun _ => SelfFree sr) := by
  intro s hs
  have hsweep : Triple (SelfFreeSince sr now s) (sr_arpcache_sweepreqs sr heap now fuel)
      (fun _ => SelfFreeSince sr now s) (fun _ => SelfFree sr) :=
    triple_sweep (self_free_premises s).triple (fun _ h => h.1) fun _ h => h.1
  exact hsweep.weaken (fun _ h => h) (fun _ _ h => h.1) (fun _ _ h => h) s ⟨hs.1, .start hs.2⟩

/-- **One step** that tells the router nothing addresses nothing to it. -/
theorem run_label_self_free (fuel : Nat) (l : Label) :
    Triple (fun s => SelfFree sr s ∧ NotFromSelf sr heap s l) (run_label sr heap fuel l)
      (fun _ => SelfFree sr) (fun _ => SelfFree sr) := by
  cases l with
  | sweep now => exact sweep_self_free fuel
  | timeout now =>
    refine triple_bind (triple_modify fun s hs => ?_) fun _ => sweep_self_free fuel
    exact ⟨⟨hs.1.pending.setEntries _, hs.1.log⟩, hs.2⟩
  | packet now packet interface =>
    intro s hs
    exact (self_free_packet hs.2).triple fuel s ⟨hs.1, rfl⟩

theorem Reachable.selfFree (hs : Reachable sr heap (NotFromSelf sr heap) s) : SelfFree sr s := by
  refine System.Reachable.invariant ?_ ?_ hs
  · rintro s rfl
    exact .empty
  · intro s l s' hs hl h
    obtain ⟨fuel, hrun⟩ := h
    exact (run_label_self_free fuel l).returned ⟨hs, hl⟩ hrun

/-- **The router addresses no IP traffic to itself** in runs whose steps tell it nothing:
    no pending request asks for one of its addresses, no frame for one is stored, and
    none was sent, even by a step that crashes or does not come back. -/
theorem never_to_itself (hs : Reachable sr heap (NotFromSelf sr heap) s) :
    (∀ r ∈ s.reqs, ¬ Own sr r.ip ∧ ∀ p ∈ r.packets, ¬ Own sr (ip_hdr p.buf).ip_dst) ∧
      ∀ l, NotFromSelf sr heap s l → ∀ fuel, ∀ e ∈ (run_label sr heap fuel l s).2.log,
        NotToSelf sr e := by
  have hfree := Reachable.selfFree hs
  refine ⟨fun r hr => ⟨hfree.pending.requests r hr, fun p hp => ?_⟩, fun l hl fuel => ?_⟩
  · rw [hfree.pending.frames r hr p hp]
    exact hfree.pending.requests r hr
  · exact ((run_label_self_free fuel l).left ⟨hfree, hl⟩).log

namespace Sample

/-- A packet on its last hop that comes from us, and one that does not. -/
def last_hop_from (ip_src : uint32_t) : RawFrame :=
  ip_frame ip_src (inet_addr 192 168 2 7) 1 17 []

/-- The first is answered to ourselves; the answer to the second, if it is given up, is
    answered to ourselves. -/
theorem own_traffic :
    (∃ s, Reachable net mem System.always s ∧
      s = (run 20 [.packet 10 (last_hop_from (inet_addr 172 64 3 1)) (eth 2)]).2 ∧
      ∃ r ∈ s.reqs, Own net r.ip ∧ ∃ p ∈ r.packets, Own net (ip_hdr p.buf).ip_dst) ∧
    ∃ s, Reachable net mem System.always s ∧
      s = (run 20 [.packet 10 (last_hop_from (inet_addr 172 64 3 9)) (eth 2), .sweep 12, .sweep 14,
        .sweep 16, .sweep 18, .sweep 20]).2 ∧
      ∃ r ∈ s.reqs, Own net r.ip ∧ ∃ p ∈ r.packets, Own net (ip_hdr p.buf).ip_dst := by
  refine ⟨⟨_, run_reachable ?_, rfl, ?_⟩, ⟨_, run_reachable ?_, rfl, ?_⟩⟩
  all_goals decide +kernel

/-- As long as it is not given up, nothing goes to us. -/
theorem others_traffic : ∃ s, s.reqs ≠ [] ∧
    (∀ r ∈ s.reqs, ¬ Own net r.ip ∧ ∀ p ∈ r.packets, ¬ Own net (ip_hdr p.buf).ip_dst) ∧
    ∀ l, NotFromSelf net mem s l → ∀ fuel, ∀ e ∈ (run_label net mem fuel l s).2.log,
      NotToSelf net e := by
  have hguard : NotFromSelf net mem RouterState.empty
      (.packet 10 (last_hop_from (inet_addr 172 64 3 9)) (eth 2)) := by
    intro _ buf msg ip frame iface _
    refine ⟨fun _ => by decide +kernel, fun _ hexp => ?_⟩
    obtain ⟨r, hr, -⟩ := hexp
    cases hr
  have hrun : (run_label net mem 20 (.packet 10 (last_hop_from (inet_addr 172 64 3 9)) (eth 2))
      RouterState.empty).1 = .returned () ∧
    (run_label net mem 20 (.packet 10 (last_hop_from (inet_addr 172 64 3 9)) (eth 2))
      RouterState.empty).2.reqs ≠ [] := by decide +kernel
  exact ⟨_, hrun.2, never_to_itself (.step (.init rfl) hguard ⟨20, Prod.ext hrun.1 rfl⟩)⟩

end Sample

end SimpleRouter
