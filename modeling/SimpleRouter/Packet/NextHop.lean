import SimpleRouter.Packet.Forwarding
import SimpleRouter.Queue.SlowPath

/-! # Who a frame is sent to

    A frame goes to the address of some IP. That IP is looked up in the cache,
    and if it is not there a request for it is made or joined, and later
    broadcast, by code that only sees the request. All of these mean the same
    IP: the frame's own destination. The gateway of its route has no part in it.

    * `OneIp`: an address of a request stands for one IP, in a whole run.
    * `resolve_for`: the IP that a frame is looked up, stored and asked for.
    * `next_hop_iff`: when that is the next hop of its route.
-/

namespace SimpleRouter

open Framework Framework.Prog RouterState

variable {sr : SrInstance} {heap : Heap} {now : time_t} {s t : RouterState} {l : Label}
  {packet frame : RawFrame} {interface iface : IfName} {msg : Message} {ip : uint32_t}

/-! ### The IP of a request -/

/-- The request that an event is about, and the IP that it takes it to be for. -/
def Event.means : Event → Option (Nat × uint32_t)
  | .queued _ req pck => some (req, (ip_hdr pck.buf).ip_dst)
  | .sent (.arp_request req _) buf _ _ => some (req, (arp_hdr buf).ar_tip)
  | _ => none

theorem means_sent (h : ∀ req time, msg ≠ .arp_request req time) (buf : RawFrame) (iface : IfName)
    (accepted : Bool) : (Event.sent msg buf iface accepted).means = none := by
  cases msg with
  | arp_request req time => exact absurd rfl (h req time)
  | _ => rfl

theorem means_sent_forPacket (h : msg.forPacket) (buf : RawFrame) (iface : IfName)
    (accepted : Bool) : (Event.sent msg buf iface accepted).means = none := by
  refine means_sent (fun req time hmsg => ?_) ..
  rw [hmsg] at h
  cases h

/-- All that was logged about a request, and the request itself, is for one IP. -/
structure OneIp (s : RouterState) : Prop where
  wellFormed : WellFormed s
  live : ∀ e ∈ s.log, ∀ req ip, e.means = some (req, ip) →
    req < s.brk ∧ ∀ r ∈ s.reqs, r.addr = req → r.ip = ip
  agree : ∀ e ∈ s.log, ∀ e' ∈ s.log, ∀ req ip ip', e.means = some (req, ip) →
    e'.means = some (req, ip') → ip = ip'

namespace OneIp

theorem empty : OneIp RouterState.empty where
  wellFormed := .empty
  live e he := by cases he
  agree e he := by cases he

/-- Requests go on or go, new ones come, and what is new in the log is about one that is there. -/
theorem of_inherits (h : OneIp s) (ht : WellFormed t) (hinherits : Inherits s t)
    {L : List Event} (hlog : t.log = s.log ++ L)
    (hnew : ∀ e ∈ L, ∀ req ip, e.means = some (req, ip) →
      ∃ r ∈ t.reqs, r.addr = req ∧ r.ip = ip) : OneIp t := by
  have hbrk := hinherits.brk_le
  have hlive : ∀ e ∈ t.log, ∀ req ip, e.means = some (req, ip) →
      req < t.brk ∧ ∀ r ∈ t.reqs, r.addr = req → r.ip = ip := by
    intro e he req ip hmeans
    rw [hlog] at he
    rcases List.mem_append.mp he with he | he
    · obtain ⟨hlt, hall⟩ := h.live e he req ip hmeans
      refine ⟨by omega, fun r' hr' haddr => ?_⟩
      rcases hinherits.origin r' hr' with ⟨r, hr, hsame, hip⟩ | hfresh
      · rw [hip]
        exact hall r hr (hsame.symm.trans haddr)
      · omega
    · obtain ⟨r, hr, rfl, rfl⟩ := hnew e he req ip hmeans
      exact ⟨ht.lt_brk hr, fun r' hr' haddr => by rw [ht.addr_inj hr' hr haddr]⟩
  refine ⟨ht, hlive, fun e he e' he' req ip ip' hmeans hmeans' => ?_⟩
  -- of two events, both are old, or one is about a request that is there
  have hthere : ∀ e₁ ∈ L, ∀ e₂ ∈ t.log, ∀ ip₁ ip₂, e₁.means = some (req, ip₁) →
      e₂.means = some (req, ip₂) → ip₁ = ip₂ := by
    intro e₁ he₁ e₂ he₂ ip₁ ip₂ hmeans₁ hmeans₂
    obtain ⟨r, hr, haddr, rfl⟩ := hnew e₁ he₁ req ip₁ hmeans₁
    exact (hlive e₂ he₂ req ip₂ hmeans₂).2 r hr haddr
  have hold := he
  have hold' := he'
  rw [hlog] at hold hold'
  rcases List.mem_append.mp hold with hold | hnew₁
  · rcases List.mem_append.mp hold' with hold' | hnew₂
    · exact h.agree e hold e' hold' req ip ip' hmeans hmeans'
    · exact (hthere e' hnew₂ e he ip' ip hmeans' hmeans).symm
  · exact hthere e hnew₁ e' he' ip ip' hmeans hmeans'

theorem of_follows (h : OneIp s) (ht : WellFormed t) (hfollows : Follows now s t)
    {L : List Event} (hlog : t.log = s.log ++ L)
    (hnew : ∀ e ∈ L, ∀ req ip, e.means = some (req, ip) →
      ∃ r ∈ t.reqs, r.addr = req ∧ r.ip = ip) : OneIp t :=
  h.of_inherits ht (.of_follows hfollows) hlog hnew

/-- An event that is about no request. -/
theorem of_other (h : OneIp s) (ht : WellFormed t) (hfollows : Follows now s t) {e : Event}
    (hlog : t.log = s.log ++ [e]) (he : e.means = none) : OneIp t := by
  refine h.of_follows ht hfollows hlog fun e' he' req ip hmeans => ?_
  rw [List.mem_singleton.mp he', he] at hmeans
  cases hmeans

theorem alloc (h : OneIp s) : OneIp s.alloc :=
  h.of_follows h.wellFormed.alloc (.alloc s : Follows 0 s s.alloc) (List.append_nil _).symm
    (by simp)

/-- A frame is stored on the request for its destination. -/
theorem queuePacket (h : OneIp s) (msg : Message) {frame : RawFrame} (iface : IfName)
    (hdst : (ip_hdr frame).ip_dst = ip) : OneIp (s.queuePacket msg ip frame iface) := by
  have hfollows : Follows 0 s (s.queuePacket msg ip frame iface) := .queuePacket ..
  refine h.of_follows (h.wellFormed.queuePacket ..) hfollows (queuePacket_log ..)
    fun e he req ip' hmeans => ?_
  rw [List.mem_singleton.mp he] at hmeans
  obtain ⟨rfl, rfl⟩ := Prod.mk.inj (Option.some.inj hmeans)
  obtain ⟨r, hr, haddr, hip⟩ := exists_queueReady s ip
  refine ⟨_, mem_updateReq.mpr ⟨r, hr, rfl⟩, ?_, ?_⟩
  · rw [if_pos haddr]
    exact haddr
  · rw [if_pos haddr, hdst]
    exact hip

theorem ask (h : OneIp s) {r : SrArpreq} (hr : r ∈ s.reqs) (now : time_t) (ifc : SrIf) :
    OneIp ((s.askReq now r).send sr (.arp_request r.addr now) (arp_request_frame ifc r.ip)
      ifc.name) := by
  refine h.of_inherits ((h.wellFormed.askReq now r).emit _) (.ask s now r _) rfl
    fun e he req ip hmeans => ?_
  rw [List.mem_singleton.mp he] at hmeans
  obtain ⟨rfl, rfl⟩ := Prod.mk.inj (Option.some.inj hmeans)
  refine ⟨_, mem_updateReq.mpr ⟨r, hr, rfl⟩, ?_, ?_⟩
  · rw [if_pos rfl]
  · rw [if_pos rfl, arp_hdr_request_frame]

theorem release (h : OneIp s) (sr : SrInstance) (mac : EtherAddr) (ip : uint32_t) (now : time_t) :
    OneIp (s.release sr mac ip now) := by
  have hwf := h.wellFormed.release sr mac ip now
  have hinherits := Inherits.release h.wellFormed sr mac ip now
  -- the frames that waited are sent, which is about no request
  obtain ⟨L, hlog, hL⟩ := release_logs sr s mac ip now
  refine h.of_inherits hwf hinherits hlog fun e he req ip' hmeans => ?_
  cases hL e he with
  | sent => cases hmeans
  | destroyed => cases hmeans

end OneIp

variable (sr heap) in
theorem oneIp_moves : MoveRules sr heap (fun _ => True) OneIp where
  wellFormed _ hs := hs.wellFormed
  alloc _ hs := hs.alloc
  release _ mac ip now hs := hs.release sr mac ip now
  expire _ _ hs := ⟨hs.wellFormed.setEntries _, hs.live, hs.agree⟩
  move l s s' _ hs hmove := by
    have hwf := hmove.wellFormed hs.wellFormed
    have hfollows := hmove.follows hs.wellFormed
    cases hmove with
    | alloc => exact hs.alloc
    | took => exact hs.of_other hwf hfollows rfl rfl
    | replied => exact hs.of_other hwf hfollows rfl rfl
    | sent _ _ hres =>
      exact hs.of_other hwf hfollows rfl (means_sent_forPacket hres.forPacket ..)
    | stored _ _ hres => exact hs.queuePacket _ _ hres.dst
    | asked hr => exact hs.ask hr ..
    | answered => exact hs.of_other hwf hfollows rfl rfl
    | answer_stored =>
      refine hs.alloc.queuePacket _ _ ?_
      rw [ip_hdr_icmp_t3_frame, icmp_error_ip_dst, source]
    | discarded => exact hs.of_other hwf hfollows rfl rfl

theorem Reachable.oneIp {guard : RouterState → Label → Prop} (hs : Reachable sr heap guard s) :
    OneIp s :=
  (oneIp_moves sr heap).reachable .empty (System.Reachable.mono (fun _ _ _ => trivial) hs)

variable (sr heap) in
/-- The log only grows. -/
theorem run_label_log (hs : WellFormed s) (fuel : Nat) (l : Label) :
    s.log <+: (run_label sr heap fuel l s).2.log := by
  cases run_label_stepped sr heap fuel l s hs with
  | moved _ _ hpath => exact (hpath.follows hs).log
  | @passed now s' hlabel hpath => exact (hpath.follows (hs.setEntries _)).log
  | @learned mac ip s' hl hs' =>
    obtain ⟨L, hlog, -⟩ := release_logs sr s.alloc mac ip l.now
    rw [hs']
    exact ⟨L, hlog.symm⟩

/-- A run goes on. -/
theorem OneIp.run {τ : List (System.Taken RouterState Label)} (hs : OneIp s)
    (h : (router sr heap).Run System.always s τ t) : OneIp t ∧ s.log <+: t.log := by
  refine h.invariant (I := fun _ t => OneIp t ∧ s.log <+: t.log) ⟨hs, List.prefix_rfl⟩
    fun _ t l t' _ ht _ hstep => ?_
  obtain ⟨hone, hlog⟩ := ht
  obtain ⟨fuel, hrun⟩ := hstep
  have hkeep := (oneIp_moves sr heap).run_label (l := l) trivial hone fuel
  have hgrows := run_label_log sr heap hone.wellFormed fuel l
  rw [hrun] at hkeep hgrows
  exact ⟨hkeep, hlog.trans hgrows⟩

/-! ### One call -/

/-- What the events `L` of a call from `s` to `s'` say about the IP that the frames for `msg` are
    sent to. -/
structure SentTo (sr : SrInstance) (heap : Heap) (msg : Message) (ip : uint32_t)
    (s s' : RouterState) (L : List Event) : Prop where
  /-- The IP was looked up, and the frame is for the MAC that was found. -/
  known : ∀ buf iface accepted, .sent msg buf iface accepted ∈ L →
    ∃ entry, sr_arpcache_lookup s.cache ip = some entry ∧
      (SrEthernetHdr.ofBytes buf).ether_dhost = entry.mac
  /-- The frame is stored on a request for the IP, which was there or is there now. -/
  stored : ∀ req pck, .queued msg req pck ∈ L → sr_arpcache_lookup s.cache ip = none ∧
    ∃ r, (r ∈ s.reqs ∨ r ∈ s'.reqs) ∧ r.addr = req ∧ r.ip = ip
  /-- What was ever broadcast for that request, or ever will be, asks for the IP. -/
  asked : ∀ req pck, .queued msg req pck ∈ L → ∀ τ t,
    (router sr heap).Run System.always s' τ t →
      ∀ time buf iface accepted, .sent (.arp_request req time) buf iface accepted ∈ t.log →
        (arp_hdr buf).ar_tip = ip

/-- The request that a frame is stored on is an old one, or it stays. -/
theorem target_stays (msg : Message) (ip : uint32_t) (frame : RawFrame)
    (iface : IfName) (hfollows : Follows now (s.queuePacket msg ip frame iface) t) :
    ∃ r, (r ∈ s.reqs ∨ r ∈ t.reqs) ∧ r.addr = s.queueTarget ip ∧ r.ip = ip := by
  cases hr : s.reqFor ip with
  | some r =>
    obtain ⟨hmem, hip⟩ := reqFor_some hr
    exact ⟨r, .inl hmem, by simp only [queueTarget, hr], hip⟩
  | none =>
    -- a new request was not asked for yet, so it has not expired
    have hnew := mem_queuePacket_new hr msg frame iface
    obtain ⟨r', hr', hcont⟩ := hfollows.kept _ hnew (by simp [Expired])
    exact ⟨r', .inr hr', by rw [hcont.addr]; simp only [queueTarget, hr], hcont.ip⟩

theorem sent_known {entry : SrArpentry} (hentry : sr_arpcache_lookup s.cache ip = some entry)
    (branch : IpBranch) (frame : RawFrame) (iface : IfName) :
    SentTo sr heap msg ip s t
      [.took branch, .sent msg (set_ether_dhost frame entry.mac) iface true] where
  known buf iface' accepted he := by
    have he' : buf = set_ether_dhost frame entry.mac ∧ iface' = iface ∧ accepted = true := by
      simpa using he
    exact ⟨entry, hentry, by rw [he'.1, ether_dhost_set_ether_dhost]⟩
  stored req pck he := by simp at he
  asked req pck he := by simp at he

/-- A frame is stored for an IP that is not known; what follows is about requests. -/
theorem stored_asked (ht : OneIp t) (hmiss : sr_arpcache_lookup s.cache ip = none)
    (hmsg : msg.ofHandling = false) {branch : IpBranch} {req : Nat} {pck : SrPacket}
    {H : List Event} (hH : ∀ e ∈ H, e.ofHandling) (hdst : (ip_hdr pck.buf).ip_dst = ip)
    (hlog : .queued msg req pck ∈ t.log)
    (hreq : ∃ r, (r ∈ s.reqs ∨ r ∈ t.reqs) ∧ r.addr = req ∧ r.ip = ip) :
    SentTo sr heap msg ip s t (.took branch :: .queued msg req pck :: H) := by
  have hother : ∀ e : Event, e.ofHandling = false → e ∈ .took branch :: .queued msg req pck :: H →
      e = .took branch ∨ e = .queued msg req pck := by
    intro e hof he
    rcases List.mem_cons.mp he with he | he
    · exact .inl he
    · rcases List.mem_cons.mp he with he | he
      · exact .inr he
      · rw [hH e he] at hof
        cases hof
  have hqueued : ∀ req' pck', .queued msg req' pck' ∈ .took branch :: .queued msg req pck :: H →
      req' = req ∧ pck' = pck := by
    intro req' pck' he
    rcases hother (.queued msg req' pck') hmsg he with he | he
    · cases he
    · cases he
      exact ⟨rfl, rfl⟩
  refine ⟨fun buf iface accepted he => ?_, fun req' pck' he => ?_, fun req' pck' he => ?_⟩
  · rcases hother (.sent msg buf iface accepted) hmsg he with he | he
    · cases he
    · cases he
  · obtain ⟨rfl, rfl⟩ := hqueued req' pck' he
    exact ⟨hmiss, hreq⟩
  · obtain ⟨rfl, rfl⟩ := hqueued req' pck' he
    -- what was stored and what is asked for are about one request, so they are for one IP
    intro τ u hrun time buf iface accepted hasked
    obtain ⟨hu, hgrows⟩ := ht.run hrun
    rw [← hdst]
    exact hu.agree _ hasked _ (hgrows.subset hlog) req' _ _ rfl rfl

theorem not_ofHandling_of_forPacket (h : msg.forPacket) : msg.ofHandling = false := by
  cases msg with
  | host_unreachable req pck => cases h
  | arp_request req sent => cases h
  | _ => rfl

/-- **The IP that a frame is looked up, stored and asked for**, in every state in which each
    request is for one IP, and however the call ends. -/
theorem resolve_for (hs : OneIp s) (hip : has_ether_type packet ethertype_ip)
    (hres : Resolves sr heap s.brk packet interface msg ip frame iface) (fuel : Nat) :
    ∃ L, (sr_handlepacket sr heap now fuel packet interface s).2.log = s.log ++ L ∧
      SentTo sr heap msg ip s (sr_handlepacket sr heap now fuel packet interface s).2 L := by
  have heq := packet_eq now hip hres fuel
  rw [run_label] at heq
  cases hl : sr_arpcache_lookup s.cache ip with
  | some entry =>
    obtain ⟨t, hrun, -, hlog⟩ := fast_path hip hres ⟨entry, hl, rfl⟩ fuel now
    rw [run_label] at hrun
    rw [hrun]
    exact ⟨_, hlog, sent_known hl ..⟩
  | none =>
    let s₁ := taken sr packet s
    have htaken : Follows now s.alloc s₁ := .emit ..
    have hs₁ : OneIp s₁ := hs.alloc.of_other (hs.wellFormed.alloc.emit _) htaken rfl rfl
    have hready := hs₁.queuePacket msg iface hres.dst
    have ht := (oneIp_moves sr heap).run_label (l := .packet now packet interface) trivial hs fuel
    rw [run_label] at ht
    have hl₁ : sr_arpcache_lookup s₁.cache ip = none := hl
    rw [send_or_queue_miss hres.length hl₁] at heq
    -- the request is handled: events about requests follow, and the frame's own stays
    obtain ⟨H, hlog, hH⟩ := handle_logs sr heap now fuel (s₁.queueTarget ip)
      (s₁.queuePacket msg ip frame iface)
    have hpath := handle_path sr heap (.packet now packet interface) fuel (s₁.queueTarget ip)
      (s₁.queuePacket msg ip frame iface) hready.wellFormed
    have hreq := target_stays msg ip frame iface (hpath.follows hready.wellFormed)
    simp only [Label.now] at hreq
    rw [queuePacket_log] at hlog
    rw [heq] at ht ⊢
    generalize (sr_arpcache_handle_arpreq sr heap now fuel (s₁.queueTarget ip)
      (s₁.queuePacket msg ip frame iface)).2 = t at hlog hreq ht ⊢
    refine ⟨.took (sr_ip_branch sr packet) :: .queued msg (s₁.queueTarget ip)
      ⟨(s₁.queueReady ip).brk, frame, iface⟩ :: H, ?_, ?_⟩
    · rw [hlog]
      simp [s₁, taken]
    · refine stored_asked ht hl (not_ofHandling_of_forPacket hres.forPacket) hH hres.dst ?_ hreq
      rw [hlog]
      simp

/-! ### The next hop -/

/-- Who the frames on a route go to next: its gateway, or the destination itself. -/
def next_hop (rtentry : SrRt) (ip_dst : uint32_t) : uint32_t :=
  if rtentry.gw ≠ 0 then rtentry.gw else ip_dst

/-- A frame in transit is sent to `ip`. -/
structure ForwardedTo (sr : SrInstance) (heap : Heap) (packet : RawFrame) (interface : IfName)
    (ip : uint32_t) (s s' : RouterState) : Prop where
  /-- It is for the address of `ip` that the frame is left to be sent. -/
  resolved : ∃ buf iface,
    sr_handlepacket_todo sr heap s.brk packet interface = .resolve .forward ip buf iface
  sent : ∃ L, s'.log = s.log ++ L ∧ SentTo sr heap .forward ip s s' L

/-- **Frames are resolved to the next hop of their route, exactly when** it has no gateway, or
    one that is where the frame goes anyway. -/
theorem next_hop_iff {guard : RouterState → Label → Prop} (hs : Reachable sr heap guard s)
    (h : InTransit sr packet) {rtentry : SrRt} {ifc : SrIf}
    (hrt : sr_findLPMentry sr.routing_table (ip_hdr packet).ip_dst = some rtentry)
    (httl : (ip_hdr packet).ip_ttl ≠ 1)
    (hifc : sr_get_interface sr rtentry.interface = some ifc) (fuel : Nat) :
    ForwardedTo sr heap packet interface (next_hop rtentry (ip_hdr packet).ip_dst) s
        (sr_handlepacket sr heap now fuel packet interface s).2 ↔
      rtentry.gw = 0 ∨ rtentry.gw = (ip_hdr packet).ip_dst := by
  have hbranch : sr_ip_branch sr packet = .forward rtentry := by
    simp only [h.branch, hrt, if_neg httl]
  have hres : Resolves sr heap s.brk packet interface .forward (ip_hdr packet).ip_dst
      (transit_frame packet ifc.addr) rtentry.interface := .forward hbranch hifc
  have hnext : next_hop rtentry (ip_hdr packet).ip_dst = (ip_hdr packet).ip_dst ↔
      rtentry.gw = 0 ∨ rtentry.gw = (ip_hdr packet).ip_dst := by
    unfold next_hop
    by_cases hgw : rtentry.gw = 0
    · simp [hgw]
    · rw [if_pos hgw, or_iff_right hgw]
  rw [← hnext]
  constructor
  · intro hforwarded
    obtain ⟨buf, iface, htodo⟩ := hforwarded.resolved
    rw [hres.todo h.ip] at htodo
    exact (Todo.resolve.inj htodo).2.1.symm
  · intro hdst
    rw [hdst]
    exact ⟨⟨_, _, hres.todo h.ip⟩, resolve_for (Reachable.oneIp hs) h.ip hres fuel⟩

namespace Sample

/-- Everything in 8.8.8.0/24 goes by way of 192.168.2.2. -/
def gateway_net : SrInstance :=
  { net with routing_table :=
      [⟨inet_addr 8 8 8 0, inet_addr 192 168 2 2, inet_addr 255 255 255 0, eth 1⟩] }

/-- A frame for 8.8.8.8 is stored, and asked for, under 8.8.8.8. -/
theorem gateway_bypassed :
    let packet := ip_frame (inet_addr 172 64 3 9) (inet_addr 8 8 8 8) 64 17 []
    let s := (sr_handlepacket gateway_net mem 10 20 packet (eth 2) RouterState.empty).2
    InTransit gateway_net packet ∧
      (∃ rtentry, sr_findLPMentry gateway_net.routing_table (ip_hdr packet).ip_dst = some rtentry ∧
        next_hop rtentry (ip_hdr packet).ip_dst = inet_addr 192 168 2 2) ∧
      s.reqs.map (·.ip) = [inet_addr 8 8 8 8] ∧
      (∃ req time buf iface, .sent (.arp_request req time) buf iface true ∈ s.log ∧
        (arp_hdr buf).ar_tip = inet_addr 8 8 8 8) ∧
      ¬ ForwardedTo gateway_net mem packet (eth 2) (inet_addr 192 168 2 2) RouterState.empty s := by
  intro packet s
  have hroute : ∃ rtentry, sr_findLPMentry gateway_net.routing_table (ip_hdr packet).ip_dst =
      some rtentry ∧ next_hop rtentry (ip_hdr packet).ip_dst = inet_addr 192 168 2 2 := by
    decide +kernel
  have htodo : sr_handlepacket_todo gateway_net mem 1 packet (eth 2) = .resolve .forward
      (inet_addr 8 8 8 8) (transit_frame packet (mac 1)) (eth 1) := by decide +kernel
  have hasked : .sent (.arp_request 2 10) (arp_request_frame ⟨eth 1, mac 1, inet_addr 192 168 2 1⟩
      (inet_addr 8 8 8 8)) (eth 1) true ∈ s.log := by decide +kernel
  refine ⟨by decide +kernel, hroute, by decide +kernel,
    ⟨_, _, _, _, hasked, by rw [arp_hdr_request_frame]⟩, fun hforwarded => ?_⟩
  obtain ⟨buf, iface, hresolve⟩ := hforwarded.resolved
  have hip := (Todo.resolve.inj (hresolve.symm.trans htodo)).2.1
  revert hip
  decide

/-- Nobody is in between on the way to 192.168.2.2. -/
theorem neighbour_reached :
    let packet := ip_frame (inet_addr 172 64 3 9) (inet_addr 192 168 2 2) 64 17 []
    ForwardedTo net mem packet (eth 2) (inet_addr 192 168 2 2) RouterState.empty
      (sr_handlepacket net mem 10 20 packet (eth 2) RouterState.empty).2 := by
  intro packet
  let rtentry : SrRt :=
    ⟨inet_addr 192 168 2 2, inet_addr 192 168 2 2, inet_addr 255 255 255 0, eth 1⟩
  have hs : Reachable net mem System.always RouterState.empty := .init rfl
  have hrt : sr_findLPMentry net.routing_table (ip_hdr packet).ip_dst = some rtentry := by
    decide +kernel
  have hifc : sr_get_interface net rtentry.interface =
      some ⟨eth 1, mac 1, inet_addr 192 168 2 1⟩ := by decide +kernel
  have hnext : next_hop rtentry (ip_hdr packet).ip_dst = inet_addr 192 168 2 2 := by decide +kernel
  rw [← hnext]
  exact (next_hop_iff hs (by decide +kernel) hrt (by decide +kernel) hifc 20).mpr
    (.inr (by decide +kernel))

end Sample

end SimpleRouter
