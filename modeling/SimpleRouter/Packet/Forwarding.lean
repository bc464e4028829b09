import SimpleRouter.Packet.LongestMatch
import SimpleRouter.Queue.Rules

/-! # What becomes of an IP packet

    Handling an IP packet logs the branch it takes, then at most one frame that
    is made for it, and then only what handling an ARP request can produce. So
    what a packet leads to can be read off its branch.

    * `handlepacket_log`: the log of one call, however it ends.
    * `ttl_decreases_iff`: when forwarding takes one from the time to live.
    * `net_unreachable_iff`: when only uncovered destinations are unreachable.
-/

namespace SimpleRouter

open Framework Framework.Prog Framework.Bytes RouterState

variable {sr : SrInstance} {heap : Heap} {now : time_t} {packet : RawFrame} {interface : IfName}

/-! ### What handling requests logs -/

/-- The messages that handling a request leads to. -/
def Message.ofHandling : Message → Bool
  | .host_unreachable _ _ => true
  | .arp_request _ _ => true
  | _ => false

/-- The events that handling a request leads to. -/
def Event.ofHandling : Event → Bool
  | .took _ => false
  | .sent msg _ _ _ => msg.ofHandling
  | .queued msg _ _ => msg.ofHandling
  | .destroyed _ => true

/-- From `s` on, only such events were logged. -/
def LogsHandling (s s' : RouterState) : Prop :=
  ∃ H, s'.log = s.log ++ H ∧ ∀ e ∈ H, e.ofHandling

theorem LogsHandling.refl (s : RouterState) : LogsHandling s s := ⟨[], by simp, by simp⟩

theorem LogsHandling.emit {s t t' : RouterState} {e : Event} (h : LogsHandling s t)
    (hlog : t'.log = t.log ++ [e]) (he : e.ofHandling) : LogsHandling s t' := by
  obtain ⟨H, htlog, hH⟩ := h
  refine ⟨H ++ [e], by rw [hlog, htlog, List.append_assoc], fun e' he' => ?_⟩
  rcases List.mem_append.mp he' with he' | he'
  · exact hH e' he'
  · rwa [List.mem_singleton.mp he']

theorem logsHandling_premises (s : RouterState) :
    HandlePremises sr heap now (LogsHandling s) (fun _ => True) (fun _ => LogsHandling s) where
  exhausted _ h := h
  stale _ _ _ h := h
  ask t r h _ _ := by
    rintro t rfl
    rw [send_arp_request_eq]
    cases sr_findLPMentry sr.routing_table r.ip with
    | none => exact h
    | some rtentry =>
      cases hifc : sr_get_interface sr rtentry.interface with
      | none => simp only [hifc]; exact h
      | some ifc => simp only [hifc]; exact h.emit rfl rfl
  pending _ _ _ _ _ _ _ := trivial
  alloc _ h := h
  no_interface _ _ _ h _ _ _ := h
  answer _ _ _ _ _ _ _ _ _ _ _ := triple_modify fun _ h => h.emit rfl rfl
  queue _ _ _ _ _ h _ _ _ _ := h.emit (queuePacket_log ..) rfl
  destroy _ := triple_destroy (fun _ h => h.emit rfl rfl) (fun _ h => h.emit rfl rfl) fun _ h => h

variable (sr heap now) in
theorem handle_logs (fuel req : Nat) (s : RouterState) :
    LogsHandling s (sr_arpcache_handle_arpreq sr heap now fuel req s).2 :=
  keeps_iff.mp ((logsHandling_premises s).triple fuel req) s (LogsHandling.refl s)

/-- Handling requests produces none of the frames that packets are answered with. -/
theorem produced_for_ofHandling {msg : Message} (hmsg : msg.ofHandling = false) {H : List Event}
    (hH : ∀ e ∈ H, e.ofHandling) : produced_for msg H = [] := by
  rw [produced_for, List.filterMap_filterMap, List.filterMap_eq_nil_iff]
  intro e he
  have hof := hH e he
  cases e with
  | took branch => rfl
  | destroyed req => rfl
  | queued msg' req pck =>
    have hne : msg' ≠ msg := fun h => by simp [Event.ofHandling, h, hmsg] at hof
    simp [produced, hne]
  | sent msg' buf iface accepted =>
    have hne : msg' ≠ msg := fun h => by simp [Event.ofHandling, h, hmsg] at hof
    cases accepted <;> simp [produced, hne]

/-! ### The log of one call -/

/-- The frame that is made for what is left to do, sent or stored. -/
inductive Made : Todo → List Event → Prop where
  | nothing : Made .nothing []
  | crash {f : Fault} : Made (.crash f) []
  | sent {msg : Message} {ip : uint32_t} {buf : RawFrame} {iface : IfName} (mac : EtherAddr) :
      Made (.resolve msg ip buf iface) [.sent msg (set_ether_dhost buf mac) iface true]
  | queued {msg : Message} {ip : uint32_t} {buf : RawFrame} {iface : IfName} (req addr : Nat) :
      Made (.resolve msg ip buf iface) [.queued msg req ⟨addr, buf, iface⟩]

theorem handlepacket_ip (hip : has_ether_type packet ethertype_ip) (fuel : Nat) (s : RouterState) :
    sr_handlepacket sr heap now fuel packet interface s =
      sr_handlepacket_rest sr heap now fuel
        (sr_ip_todo sr heap s.brk packet interface (sr_ip_branch sr packet))
        (s.alloc.emit (.took (sr_ip_branch sr packet))) := by
  obtain ⟨hlen, htype⟩ : SrEthernetHdr.size ≤ packet.length ∧
      (SrEthernetHdr.ofBytes packet).ether_type = htons ethertype_ip := by
    simpa [has_ether_type] using hip
  have htodo : sr_handlepacket_todo sr heap s.brk packet interface =
      sr_ip_todo sr heap s.brk packet interface (sr_ip_branch sr packet) := by
    rw [sr_handlepacket_todo, if_neg (by omega), if_pos htype]
  rw [sr_handlepacket, bind_of_returned (malloc_apply s), modify_bind, if_pos hip, htodo]

variable (sr heap now interface) in
/-- **The log of a call for an IP packet**, however it ends. -/
theorem handlepacket_log (hip : has_ether_type packet ethertype_ip) (fuel : Nat)
    (s : RouterState) :
    ∃ M H, (sr_handlepacket sr heap now fuel packet interface s).2.log =
        s.log ++ .took (sr_ip_branch sr packet) :: (M ++ H) ∧
      Made (sr_ip_todo sr heap s.brk packet interface (sr_ip_branch sr packet)) M ∧
      ∀ e ∈ H, e.ofHandling := by
  rw [handlepacket_ip hip]
  rcases ip_todo_cases sr heap s.brk packet interface (sr_ip_branch sr packet) with
    htodo | ⟨f, htodo⟩ | ⟨msg, ip, buf, iface, htodo⟩
  · rw [htodo]
    exact ⟨[], [], rfl, .nothing, by simp⟩
  · rw [htodo]
    exact ⟨[], [], rfl, .crash, by simp⟩
  · have hres := ip_todo_resolve htodo
    rw [htodo, sr_handlepacket_rest]
    let s₁ := s.alloc.emit (.took (sr_ip_branch sr packet))
    cases hl : sr_arpcache_lookup s₁.cache ip with
    | some entry =>
      obtain ⟨ifc, hifc, hshost, hlen⟩ := hres.shost
      refine ⟨_, [], ?_, .sent entry.mac, by simp⟩
      rw [send_or_queue_hit hl, sr_send_packet_apply, send_accepted hifc
        (by rwa [set_ether_dhost_length hlen]) (by rw [ether_shost_set_ether_dhost, hshost])]
      simp [s₁]
    | none =>
      obtain ⟨H, hlog, hH⟩ := handle_logs sr heap now fuel
        (s₁.queueTarget ip) (s₁.queuePacket msg ip buf iface)
      refine ⟨_, H, ?_, .queued (s₁.queueTarget ip) (s₁.queueReady ip).brk, hH⟩
      rw [send_or_queue_miss hres.length hl, hlog, queuePacket_log]
      simp [s₁]

/-! ### Frames in transit -/

/-- An IP packet that is accepted and for somewhere else. -/
structure InTransit (sr : SrInstance) (packet : RawFrame) : Prop where
  ip : has_ether_type packet ethertype_ip
  valid : ip_valid packet
  allowed : ip_black_list (ip_hdr packet) = false
  elsewhere : ip_to_router sr packet = false

instance (sr : SrInstance) (packet : RawFrame) : Decidable (InTransit sr packet) :=
  decidable_of_iff (has_ether_type packet ethertype_ip ∧ ip_valid packet ∧
      ip_black_list (ip_hdr packet) = false ∧ ip_to_router sr packet = false)
    ⟨fun ⟨h₁, h₂, h₃, h₄⟩ => ⟨h₁, h₂, h₃, h₄⟩, fun ⟨h₁, h₂, h₃, h₄⟩ => ⟨h₁, h₂, h₃, h₄⟩⟩

theorem InTransit.branch (h : InTransit sr packet) :
    sr_ip_branch sr packet =
      match sr_findLPMentry sr.routing_table (ip_hdr packet).ip_dst with
      | some rtentry =>
        if (ip_hdr packet).ip_ttl = 1 then .time_exceeded else .forward rtentry
      | none => .net_unreachable := by
  cases hrt : sr_findLPMentry sr.routing_table (ip_hdr packet).ip_dst with
  | none => simp [sr_ip_branch, h.valid, h.allowed, h.elsewhere, hrt]
  | some rtentry => simp [sr_ip_branch, h.valid, h.allowed, h.elsewhere, hrt]

/-! ### The frames of one call -/

theorem Made.not_took {todo : Todo} {M : List Event} (h : Made todo M) {branch : IpBranch} :
    .took branch ∉ M := by
  cases h <;> simp

theorem Made.produced_other {todo : Todo} {M : List Event} (h : Made todo M) {msg : Message}
    (hne : ∀ ip buf iface, todo ≠ .resolve msg ip buf iface) : produced_for msg M = [] := by
  cases h with
  | nothing => rfl
  | crash => rfl
  | @sent msg' ip buf iface mac =>
    have hmsg : msg' ≠ msg := fun he => hne ip buf iface (by rw [he])
    simp [produced_for, produced, hmsg]
  | @queued msg' ip buf iface req addr =>
    have hmsg : msg' ≠ msg := fun he => hne ip buf iface (by rw [he])
    simp [produced_for, produced, hmsg]

/-- An error that is sent back makes a frame for itself only. -/
theorem Made.produced_other_error (msg : Message) {msg' : Message} {f : SrIf → RawFrame} {M : List Event}
    (h : Made (answer_error sr msg' packet interface f) M) (hne : msg' ≠ msg) :
    produced_for msg M = [] :=
  h.produced_other fun _ _ _ he => hne (answer_error_resolve he).1

theorem Made.produced_resolve {msg : Message} {ip : uint32_t} {buf : RawFrame} {iface : IfName}
    {M : List Event} (h : Made (.resolve msg ip buf iface) M) :
    ∃ buf', produced_for msg M = [(buf', iface)] ∧ ip_hdr buf' = ip_hdr buf ∧
      icmp_hdr buf' = icmp_hdr buf := by
  cases h with
  | sent mac => exact ⟨set_ether_dhost buf mac, by simp [produced_for, produced], by simp, by simp⟩
  | queued req addr => exact ⟨buf, by simp [produced_for, produced], rfl, rfl⟩

variable (sr heap now interface) in
/-- **The frames of a call for an IP packet** are the one that its branch makes. -/
theorem handlepacket_made (hip : has_ether_type packet ethertype_ip) (fuel : Nat)
    (s : RouterState) :
    ∃ L M, (sr_handlepacket sr heap now fuel packet interface s).2.log = s.log ++ L ∧
      Made (sr_ip_todo sr heap s.brk packet interface (sr_ip_branch sr packet)) M ∧
      (∀ branch, .took branch ∈ L ↔ branch = sr_ip_branch sr packet) ∧
      ∀ msg : Message, msg.ofHandling = false → produced_for msg L = produced_for msg M := by
  obtain ⟨M, H, hlog, hmade, hH⟩ := handlepacket_log sr heap now
    interface hip fuel s
  refine ⟨_, M, hlog, hmade, fun branch => ?_, fun msg hmsg => ?_⟩
  · have hM : .took branch ∉ M := hmade.not_took
    have hH' : .took branch ∉ H := fun h => by simpa [Event.ofHandling] using hH _ h
    simp [hM, hH']
  · show produced_for msg (M ++ H) = _
    rw [produced_for_append, produced_for_ofHandling hmsg hH, List.append_nil]

/-- The interface that a routed packet, or the answer to it, leaves by. -/
def way_out (packet : RawFrame) (interface : IfName) (rtentry : SrRt) : IfName :=
  if (ip_hdr packet).ip_ttl = 1 then interface else rtentry.interface

/-- What is made for a routed packet in transit. -/
inductive TransitMade (sr : SrInstance) (packet : RawFrame) (interface : IfName) (rtentry : SrRt)
    (M : List Event) : Prop where
  | lost (hifc : sr_get_interface sr (way_out packet interface rtentry) = none)
      (hforward : produced_for .forward M = []) (hexceeded : produced_for .time_exceeded M = [])
  | exceeded (httl : (ip_hdr packet).ip_ttl = 1) (hifc : (sr_get_interface sr interface).isSome)
      {buf : RawFrame} (hforward : produced_for .forward M = [])
      (hexceeded : produced_for .time_exceeded M = [(buf, interface)])
      (hdst : (ip_hdr buf).ip_dst = (ip_hdr packet).ip_src)
      (htype : (icmp_hdr buf).icmp_type = 11 ∧ (icmp_hdr buf).icmp_code = 0)
  | forwarded (httl : (ip_hdr packet).ip_ttl ≠ 1)
      (hifc : (sr_get_interface sr rtentry.interface).isSome)
      {buf : RawFrame} (hforward : produced_for .forward M = [(buf, rtentry.interface)])
      (hexceeded : produced_for .time_exceeded M = [])
      (hcopy : (ip_hdr buf).ip_ttl = (ip_hdr packet).ip_ttl - 1)

theorem InTransit.made (h : InTransit sr packet) {rtentry : SrRt}
    (hrt : sr_findLPMentry sr.routing_table (ip_hdr packet).ip_dst = some rtentry) {buf : Nat}
    {M : List Event}
    (hmade : Made (sr_ip_todo sr heap buf packet interface (sr_ip_branch sr packet)) M) :
    TransitMade sr packet interface rtentry M := by
  simp only [h.branch, hrt] at hmade
  -- on the last hop the way out is the way in
  by_cases httl : (ip_hdr packet).ip_ttl = 1
  · simp only [if_pos httl, sr_ip_todo, answer_error] at hmade
    cases hifc : sr_get_interface sr interface with
    | none =>
      simp only [hifc] at hmade
      exact .lost (by rw [way_out, if_pos httl, hifc]) (hmade.produced_other (by simp))
        (hmade.produced_other (by simp))
    | some ifc =>
      simp only [hifc] at hmade
      obtain ⟨buf', hexceeded, hip, hicmp⟩ := hmade.produced_resolve
      refine .exceeded httl (by simp [hifc]) (hmade.produced_other (by simp)) hexceeded ?_ ?_
      · rw [hip, ip_hdr_icmp_t11_frame, icmp_error_ip_dst]
      · rw [hicmp]
        exact icmp_hdr_icmp_t11_frame heap buf ifc packet
  · simp only [if_neg httl, sr_ip_todo] at hmade
    cases hifc : sr_get_interface sr rtentry.interface with
    | none =>
      simp only [hifc] at hmade
      exact .lost (by rw [way_out, if_neg httl, hifc]) (hmade.produced_other (by simp))
        (hmade.produced_other (by simp))
    | some ifc =>
      simp only [hifc] at hmade
      obtain ⟨buf', hforward, hip, -⟩ := hmade.produced_resolve
      refine .forwarded httl (by simp [hifc]) hforward (hmade.produced_other (by simp)) ?_
      rw [hip, transit_frame_ttl]

/-! ### Time to live -/

/-- What the events `L` of a call say about the time to live of `packet`. -/
structure TtlDecreases (sr : SrInstance) (packet : RawFrame) (L : List Event) : Prop where
  /-- A copy that is passed on has one hop less. -/
  copy : ∀ x ∈ produced_for .forward L, 2 ≤ (ip_hdr packet).ip_ttl.toNat ∧
    (ip_hdr x.1).ip_ttl.toNat = (ip_hdr packet).ip_ttl.toNat - 1
  /-- A packet without hops left is answered instead. -/
  expired : (sr_findLPMentry sr.routing_table (ip_hdr packet).ip_dst).isSome →
    (ip_hdr packet).ip_ttl.toNat ≤ 1 →
    produced_for .forward L = [] ∧ ∃ buf iface, produced_for .time_exceeded L = [(buf, iface)] ∧
      (ip_hdr buf).ip_dst = (ip_hdr packet).ip_src ∧ (icmp_hdr buf).icmp_type = 11 ∧
      (icmp_hdr buf).icmp_code = 0

theorem TtlDecreases.congr {L M : List Event}
    (hforward : produced_for .forward L = produced_for .forward M)
    (hexceeded : produced_for .time_exceeded L = produced_for .time_exceeded M) :
    TtlDecreases sr packet L ↔ TtlDecreases sr packet M := by
  constructor <;> intro ⟨hcopy, hexpired⟩
  · exact ⟨hforward ▸ hcopy, hforward ▸ hexceeded ▸ hexpired⟩
  · exact ⟨hforward ▸ hcopy, hforward ▸ hexceeded ▸ hexpired⟩

theorem TransitMade.ttl_iff {rtentry : SrRt} {M : List Event}
    (h : TransitMade sr packet interface rtentry M)
    (hrt : sr_findLPMentry sr.routing_table (ip_hdr packet).ip_dst = some rtentry) :
    TtlDecreases sr packet M ↔ (ip_hdr packet).ip_ttl ≠ 0 ∧
      ((ip_hdr packet).ip_ttl = 1 → (sr_get_interface sr interface).isSome) := by
  -- a packet without hops left has a TTL of 1, or of 0
  have hle : (ip_hdr packet).ip_ttl.toNat ≤ 1 ↔
      (ip_hdr packet).ip_ttl = 0 ∨ (ip_hdr packet).ip_ttl = 1 := by bv_omega
  cases h with
  | lost hifc hforward hexceeded =>
    constructor
    · intro hdecreases
      obtain ⟨-, hexpired⟩ := hdecreases
      have hlast : ¬ (ip_hdr packet).ip_ttl.toNat ≤ 1 := fun hlast => by
        simpa [hexceeded] using hexpired (by simp [hrt]) hlast
      exact ⟨fun hz => hlast (hle.mpr (.inl hz)), fun ho => absurd (hle.mpr (.inr ho)) hlast⟩
    · intro hcond
      obtain ⟨hz, ho⟩ := hcond
      refine ⟨by simp [hforward], fun _ hlast => ?_⟩
      have hone := (hle.mp hlast).resolve_left hz
      rw [way_out, if_pos hone] at hifc
      simpa [hifc] using ho hone
  | exceeded httl hifc hforward hexceeded hdst htype =>
    have hholds : TtlDecreases sr packet M :=
      ⟨by simp [hforward], fun _ _ => ⟨hforward, _, _, hexceeded, hdst, htype⟩⟩
    simp [hholds, httl, hifc]
  | forwarded httl hifc hforward hexceeded hcopy =>
    -- a TTL of 0 is passed on, where it should be answered
    have hlast := hle.trans (or_iff_left httl)
    constructor
    · intro hdecreases
      obtain ⟨-, hexpired⟩ := hdecreases
      refine ⟨fun hz => ?_, fun ho => absurd ho httl⟩
      simpa [hforward] using (hexpired (by simp [hrt]) (hlast.mpr hz)).1
    · intro hcond
      obtain ⟨hz, -⟩ := hcond
      refine ⟨?_, fun _ h => absurd (hlast.mp h) hz⟩
      simp only [hforward, List.mem_singleton, forall_eq, hcopy]
      constructor <;> bv_omega

/-- **The time to live decreases exactly when it is not 0**, in every state, if the
    answer to a packet on its last hop can be sent back. -/
theorem ttl_decreases_iff (h : InTransit sr packet) (fuel : Nat) (s : RouterState) :
    (∃ L, (sr_handlepacket sr heap now fuel packet interface s).2.log = s.log ++ L ∧
        TtlDecreases sr packet L) ↔
      ((sr_findLPMentry sr.routing_table (ip_hdr packet).ip_dst).isSome →
        (ip_hdr packet).ip_ttl ≠ 0 ∧
          ((ip_hdr packet).ip_ttl = 1 → (sr_get_interface sr interface).isSome)) := by
  obtain ⟨L, M, hlog, hmade, -, hproduced⟩ := handlepacket_made sr heap now
    interface h.ip fuel s
  rw [exists_new_events_iff hlog, TtlDecreases.congr (hproduced _ rfl) (hproduced _ rfl)]
  cases hrt : sr_findLPMentry sr.routing_table (ip_hdr packet).ip_dst with
  | none =>
    simp only [h.branch, hrt, sr_ip_todo] at hmade
    have hforward := hmade.produced_other_error .forward (by simp)
    simp only [Option.isSome_none, Bool.false_eq_true, false_imp_iff, iff_true]
    exact ⟨by simp [hforward], by simp [hrt]⟩
  | some rtentry =>
    simp only [Option.isSome_some, true_imp_iff]
    exact (h.made hrt hmade).ttl_iff hrt

namespace Sample

/-- A packet from 172.64.3.9 to 192.168.2.7 with so many hops left. -/
def hops_left (ip_ttl : uint8_t) : RawFrame :=
  ip_frame (inet_addr 172 64 3 9) (inet_addr 192 168 2 7) ip_ttl 17 []

/-- A packet with no hops left is passed on with 255. -/
theorem no_hops_wrap : InTransit net (hops_left 0) ∧
    (∃ x ∈ produced_for .forward
        (sr_handlepacket net mem 10 20 (hops_left 0) (eth 2) RouterState.empty).2.log,
      (ip_hdr x.1).ip_ttl = 255) ∧
    ¬ ∃ L, (sr_handlepacket net mem 10 20 (hops_left 0) (eth 2) RouterState.empty).2.log =
      RouterState.empty.log ++ L ∧ TtlDecreases net (hops_left 0) L := by
  have htransit : InTransit net (hops_left 0) := by decide +kernel
  have hcopies : ∃ x ∈ produced_for .forward
      (sr_handlepacket net mem 10 20 (hops_left 0) (eth 2) RouterState.empty).2.log,
      (ip_hdr x.1).ip_ttl = 255 := by decide +kernel
  refine ⟨htransit, hcopies, ?_⟩
  obtain ⟨x, hx, -⟩ := hcopies
  rw [exists_new_events_iff (List.nil_append _).symm]
  intro h
  obtain ⟨hcopy, -⟩ := h
  have hhops : (ip_hdr (hops_left 0)).ip_ttl.toNat = 0 := by decide +kernel
  have htwo := (hcopy x hx).1
  omega

/-- On its last hop it is answered instead. -/
theorem last_hop_answered :
    ∃ L, (sr_handlepacket net mem 10 20 (hops_left 1) (eth 2) RouterState.empty).2.log =
      RouterState.empty.log ++ L ∧ TtlDecreases net (hops_left 1) L :=
  (ttl_decreases_iff (by decide +kernel) 20 RouterState.empty).mpr (by decide +kernel)

end Sample

/-! ### Unreachable networks -/

/-- What the events `L` of a call say about the routes for `packet`. -/
structure NetUnreachableExact (sr : SrInstance) (packet : RawFrame) (L : List Event) : Prop where
  /-- The network is unreachable if no route covers the destination. -/
  missed : .took .net_unreachable ∈ L ↔
    ∀ entry ∈ sr.routing_table, ¬ entry.Covers (ip_hdr packet).ip_dst
  /-- Other packets are passed on, or answered on their last hop. -/
  covered : (∃ entry ∈ sr.routing_table, entry.Covers (ip_hdr packet).ip_dst) →
    produced_for .forward L ≠ [] ∨ produced_for .time_exceeded L ≠ []

theorem TransitMade.produced_iff {rtentry : SrRt} {M : List Event}
    (h : TransitMade sr packet interface rtentry M) :
    produced_for .forward M ≠ [] ∨ produced_for .time_exceeded M ≠ [] ↔
      (sr_get_interface sr (way_out packet interface rtentry)).isSome := by
  cases h with
  | lost hifc hforward hexceeded => simp [hifc, hforward, hexceeded]
  | exceeded httl hifc hforward hexceeded => simp [way_out, httl, hifc, hexceeded]
  | forwarded httl hifc hforward =>
    rw [way_out, if_neg httl]
    simp [hifc, hforward]

/-- Without a route the network is unreachable, as it should be if nothing covers the
    destination. -/
theorem InTransit.unrouted_exact (h : InTransit sr packet) {L : List Event}
    (hrt : sr_findLPMentry sr.routing_table (ip_hdr packet).ip_dst = none)
    (htook : ∀ b, .took b ∈ L ↔ b = sr_ip_branch sr packet) :
    NetUnreachableExact sr packet L ↔
      ¬ ∃ entry ∈ sr.routing_table, entry.Covers (ip_hdr packet).ip_dst := by
  have hmissed : .took .net_unreachable ∈ L := by simp [htook, h.branch, hrt]
  constructor
  · rintro hexact ⟨entry, hentry, hcovers⟩
    exact hexact.missed.mp hmissed entry hentry hcovers
  · intro hnone
    refine ⟨?_, fun hsome => absurd hsome hnone⟩
    simp only [hmissed, true_iff]
    exact fun entry hentry hcovers => hnone ⟨entry, hentry, hcovers⟩

/-- With a route it depends on the interface the packet or its answer leaves by. -/
theorem InTransit.routed_exact (h : InTransit sr packet) {rtentry : SrRt} {L M : List Event}
    (hrt : sr_findLPMentry sr.routing_table (ip_hdr packet).ip_dst = some rtentry)
    (htook : ∀ b, .took b ∈ L ↔ b = sr_ip_branch sr packet)
    (hmade : TransitMade sr packet interface rtentry M)
    (hforward : produced_for .forward L = produced_for .forward M)
    (hexceeded : produced_for .time_exceeded L = produced_for .time_exceeded M) :
    NetUnreachableExact sr packet L ↔
      (sr_get_interface sr (way_out packet interface rtentry)).isSome := by
  obtain ⟨hlong, -⟩ := sr_findLPMentry_eq_some.mp hrt
  have hmissed : .took .net_unreachable ∉ L := by
    simp only [htook, h.branch, hrt]
    split <;> simp
  rw [← hmade.produced_iff, ← hforward, ← hexceeded]
  constructor
  · exact fun hexact => hexact.covered ⟨rtentry, hlong.mem, hlong.covers⟩
  · intro hproduced
    refine ⟨?_, fun _ => hproduced⟩
    -- the route that was found is one that covers the destination
    simp only [hmissed, false_iff]
    exact fun hall => hall rtentry hlong.mem hlong.covers

/-- **Only uncovered destinations are unreachable, and all of them, exactly when** the
    longest match is never a default route and names, or is answered on, an interface
    that exists. -/
theorem net_unreachable_iff (h : InTransit sr packet) (fuel : Nat) (s : RouterState) :
    (∃ L, (sr_handlepacket sr heap now fuel packet interface s).2.log = s.log ++ L ∧
        NetUnreachableExact sr packet L) ↔
      ((∃ entry ∈ sr.routing_table, entry.Covers (ip_hdr packet).ip_dst) →
        ∃ rtentry, LongestMatch sr.routing_table (ip_hdr packet).ip_dst rtentry ∧
          rtentry.mask ≠ 0 ∧
          (sr_get_interface sr (way_out packet interface rtentry)).isSome) := by
  obtain ⟨L, M, hlog, hmade, htook, hproduced⟩ := handlepacket_made sr heap now
    interface h.ip fuel s
  rw [exists_new_events_iff hlog]
  cases hrt : sr_findLPMentry sr.routing_table (ip_hdr packet).ip_dst with
  | none =>
    rw [h.unrouted_exact hrt htook]
    constructor
    · exact fun hnone hsome => absurd hsome hnone
    · intro hcond hsome
      -- the longest match that the condition promises would have been found
      obtain ⟨rtentry, hlong, hne, -⟩ := hcond hsome
      simp [sr_findLPMentry_eq_some.mpr ⟨hlong, hne⟩] at hrt
  | some rtentry =>
    rw [h.routed_exact hrt htook (h.made hrt hmade) (hproduced _ rfl) (hproduced _ rfl)]
    obtain ⟨hlong, hne⟩ := sr_findLPMentry_eq_some.mp hrt
    constructor
    · exact fun hifc _ => ⟨rtentry, hlong, hne, hifc⟩
    · intro hcond
      obtain ⟨rtentry', hlong', -, hifc⟩ := hcond ⟨rtentry, hlong.mem, hlong.covers⟩
      rwa [hlong.unique hlong']

/-- The mask of a prefix. -/
def contiguous (mask : uint32_t) : Prop := ∃ n ≤ 32, ntohl mask = BitVec.allOnes 32 <<< (32 - n)

namespace Sample

/-- Everything goes to 192.168.2.2. -/
def default_net : SrInstance :=
  { net with routing_table := [⟨0, inet_addr 192 168 2 2, 0, eth 1⟩] }

/-- A default route covers every destination, and is never taken. -/
theorem default_route_missed :
    (∀ entry ∈ default_net.routing_table, contiguous entry.mask) ∧
      InTransit default_net (hops_left 64) ∧
      (∃ entry ∈ default_net.routing_table,
        entry.Covers (ip_hdr (hops_left 64)).ip_dst) ∧
      ¬ ∃ L, (sr_handlepacket default_net mem 10 20 (hops_left 64) (eth 2)
          RouterState.empty).2.log = RouterState.empty.log ++ L ∧
        NetUnreachableExact default_net (hops_left 64) L := by
  have hcontiguous : ∀ entry ∈ default_net.routing_table, contiguous entry.mask := by
    intro entry hentry
    obtain rfl := List.mem_singleton.mp hentry
    exact ⟨0, by omega, by decide⟩
  have hcovers : ∃ entry ∈ default_net.routing_table,
      entry.Covers (ip_hdr (hops_left 64)).ip_dst := by decide +kernel
  refine ⟨hcontiguous, by decide +kernel, hcovers, ?_⟩
  obtain ⟨entry, hentry, hcovered⟩ := hcovers
  rw [exists_new_events_iff (List.nil_append _).symm]
  intro h
  obtain ⟨hiff, -⟩ := h
  exact hiff.mp (by decide +kernel) entry hentry hcovered

theorem routed_passed_on :
    ∃ L, (sr_handlepacket net mem 10 20 (hops_left 64) (eth 2) RouterState.empty).2.log =
      RouterState.empty.log ++ L ∧ NetUnreachableExact net (hops_left 64) L := by
  apply (net_unreachable_iff (by decide +kernel) 20 RouterState.empty).mpr
  intro _
  have hrt : sr_findLPMentry net.routing_table (ip_hdr (hops_left 64)).ip_dst =
      some ⟨inet_addr 192 168 2 2, inet_addr 192 168 2 2, inet_addr 255 255 255 0, eth 1⟩ := by
    decide +kernel
  obtain ⟨hlong, hne⟩ := sr_findLPMentry_eq_some.mp hrt
  exact ⟨_, hlong, hne, by decide +kernel⟩

end Sample

end SimpleRouter
