import SimpleRouter.Framework.Chain
import SimpleRouter.Queue.Handling

/-! # Discarding expired requests

    Handling an expired request answers the senders of its frames. An answer
    whose address is not known is stored for ARP, and if the request it is
    stored on has expired too, that one is handled and destroyed first, with
    the answer now among its frames. So handling an expired request is a
    depth-first traversal: along the sources of waiting frames, and along the
    router's own address, which is the source of every answer.

    * `OuterCall s x y`: handling the request for `x` handles the one for `y`.
    * `NestedCall s x y`: it does so once an answer to `x` waits for `x` as well.
    * `handle_discards`: what a call that returned has removed.
-/

namespace SimpleRouter

open Framework Framework.Bytes RouterState Relation

variable {sr : SrInstance} {heap : Heap} {now : time_t} {s t u : RouterState}

/-! ### Who calls whom -/

/-- A request for `ip` has expired. -/
def ExpiredFor (now : time_t) (s : RouterState) (ip : uint32_t) : Prop :=
  ∃ r ∈ s.reqs, r.ip = ip ∧ Expired now r

/-- Some frame from `y` waits on an expired request for `x`. -/
def Waiting (now : time_t) (s : RouterState) (x y : uint32_t) : Prop :=
  ∃ r ∈ s.reqs, r.ip = x ∧ Expired now r ∧ ∃ p ∈ r.packets, source p = y

/-- An answer to `ip` is stored on an expired request. -/
structure Chased (sr : SrInstance) (now : time_t) (s : RouterState) (ip : uint32_t) : Prop where
  routed : (sr_findLPMentry sr.routing_table ip).isSome
  uncached : sr_arpcache_lookup s.cache ip = none
  expired : ExpiredFor now s ip

/-- Handling the expired request for `x` handles the one for `y`. -/
def OuterCall (sr : SrInstance) (now : time_t) (s : RouterState) (x y : uint32_t) : Prop :=
  Waiting now s x y ∧ Chased sr now s y

/-- Handling the expired request for `x`, with an answer to `x` stored on it,
    handles the one for `y`. -/
def NestedCall (sr : SrInstance) (now : time_t) (s : RouterState) (x y : uint32_t) : Prop :=
  (Waiting now s x y ∨ reply_ip sr x = some y) ∧ Chased sr now s y

/-- If there is a route to `ip`, its interface exists. -/
def Resolvable (sr : SrInstance) (ip : uint32_t) : Prop :=
  ∀ rtentry, sr_findLPMentry sr.routing_table ip = some rtentry →
    (sr_get_interface sr rtentry.interface).isSome

/-- All senders that discarding the request for `x` answers have a usable route
    or none. -/
def Answerable (sr : SrInstance) (now : time_t) (s : RouterState) (x : uint32_t) : Prop :=
  ∀ y, Waiting now s x y ∨ reply_ip sr x = some y → Resolvable sr y

instance (ip : uint32_t) : Decidable (ExpiredFor now s ip) :=
  inferInstanceAs (Decidable (∃ r ∈ s.reqs, r.ip = ip ∧ Expired now r))

instance (x y : uint32_t) : Decidable (Waiting now s x y) :=
  inferInstanceAs (Decidable
    (∃ r ∈ s.reqs, r.ip = x ∧ Expired now r ∧ ∃ p ∈ r.packets, source p = y))

instance (ip : uint32_t) : Decidable (Chased sr now s ip) :=
  decidable_of_iff ((sr_findLPMentry sr.routing_table ip).isSome ∧
    sr_arpcache_lookup s.cache ip = none ∧ ExpiredFor now s ip)
    ⟨fun h => ⟨h.1, h.2.1, h.2.2⟩, fun h => ⟨h.routed, h.uncached, h.expired⟩⟩

instance (x y : uint32_t) : Decidable (OuterCall sr now s x y) :=
  inferInstanceAs (Decidable (_ ∧ _))

instance (x y : uint32_t) : Decidable (NestedCall sr now s x y) :=
  inferInstanceAs (Decidable ((_ ∨ _) ∧ _))

theorem OuterCall.nested {x y : uint32_t} (h : OuterCall sr now s x y) : NestedCall sr now s x y :=
  ⟨.inl h.1, h.2⟩

theorem NestedCall.target {x y : uint32_t} (h : NestedCall sr now s x y) : ExpiredFor now s y :=
  h.2.expired

/-- The request at an address is the expired one for its IP. -/
theorem expired_of_expiredFor (hs : WellFormed s) {r : SrArpreq} (hr : r ∈ s.reqs)
    (h : ExpiredFor now s r.ip) : Expired now r := by
  obtain ⟨r', hr', hip, hexp⟩ := h
  rwa [← hs.ip_inj hr' hr hip]

/-! ### What evolving does to them -/

namespace Evolves

variable (h : Evolves sr now s t)
include h

theorem expiredFor_old {x : uint32_t} (hx : ExpiredFor now t x) : ExpiredFor now s x := by
  obtain ⟨r', hr', hip, hexp⟩ := hx
  obtain ⟨r, hr, -, hsame⟩ := h.expired_old hr' hexp
  exact ⟨r, hr, hsame.ip.symm.trans hip, hsame.expired.mp hexp⟩

theorem lookup_eq (x : uint32_t) : sr_arpcache_lookup t.cache x = sr_arpcache_lookup s.cache x := by
  simp only [sr_arpcache_lookup, h.entries]

theorem chased_old {x : uint32_t} (hx : Chased sr now t x) : Chased sr now s x :=
  ⟨hx.routed, by rw [← h.lookup_eq]; exact hx.uncached, h.expiredFor_old hx.expired⟩

theorem chased_new {x : uint32_t} (hx : Chased sr now s x) (hexp : ExpiredFor now t x) :
    Chased sr now t x :=
  ⟨hx.routed, by rw [h.lookup_eq]; exact hx.uncached, hexp⟩

/-- Frames that wait were waiting, or are answers. -/
theorem waiting_old {x y : uint32_t} (hw : Waiting now t x y) :
    Waiting now s x y ∨ reply_ip sr x = some y := by
  obtain ⟨r', hr', rfl, hexp, p, hp, rfl⟩ := hw
  obtain ⟨r, hr, -, hsame⟩ := h.expired_old hr' hexp
  have hexp₀ := hsame.expired.mp hexp
  rcases hsame.answers hexp₀ p hp with hp | hans
  · exact .inl ⟨r, hr, hsame.ip.symm, hexp₀, p, hp, rfl⟩
  · exact .inr (by rwa [hsame.ip])

theorem nested_old {x y : uint32_t} (hxy : NestedCall sr now t x y) : NestedCall sr now s x y := by
  refine ⟨?_, h.chased_old hxy.2⟩
  rcases hxy.1 with hw | hans
  · exact h.waiting_old hw
  · exact .inr hans

/-- An expired request that is left is the same request with more frames. -/
theorem expired_left (hs : WellFormed s) {r : SrArpreq} (hr : r ∈ s.reqs)
    (hx : ExpiredFor now t r.ip) :
    ∃ r' ∈ t.reqs, r'.addr = r.addr ∧ SameRequest sr now r r' ∧ Expired now r' := by
  obtain ⟨r', hr', hip, hexp⟩ := hx
  obtain ⟨r₀, hr₀, haddr, hsame⟩ := h.expired_old hr' hexp
  obtain rfl := hs.ip_inj hr₀ hr (hsame.ip.symm.trans hip)
  exact ⟨r', hr', haddr.symm, hsame, hexp⟩

theorem waiting_new (hs : WellFormed s) {x y : uint32_t} (hw : Waiting now s x y)
    (hx : ExpiredFor now t x) : Waiting now t x y := by
  obtain ⟨r, hr, rfl, hexp, p, hp, rfl⟩ := hw
  obtain ⟨r', hr', -, hsame, hexp'⟩ := h.expired_left hs hr hx
  exact ⟨r', hr', hsame.ip, hexp', p, hsame.packets hexp hp, rfl⟩

theorem nested_new (hs : WellFormed s) {x y : uint32_t} (hx : ExpiredFor now t x)
    (hy : ExpiredFor now t y) (hxy : NestedCall sr now s x y) : NestedCall sr now t x y := by
  refine ⟨?_, h.chased_new hxy.2 hy⟩
  rcases hxy.1 with hw | hans
  · exact .inl (h.waiting_new hs hw hx)
  · exact .inr hans

theorem answerable_old (hs : WellFormed s) {x : uint32_t} (hx : ExpiredFor now t x)
    (ha : Answerable sr now t x) : Answerable sr now s x := by
  intro y hy
  apply ha y
  rcases hy with hw | hans
  · exact .inl (h.waiting_new hs hw hx)
  · exact .inr hans

/-- What was allocated and is not on the queue does not come back. -/
theorem dead {a : Nat} (ha : a < s.brk) (hdead : ¬ (s.reqAt a).isSome) :
    ¬ (t.reqAt a).isSome := by
  intro hlive
  obtain ⟨r', hr', rfl⟩ := reqAt_isSome.mp hlive
  rcases h.old_or_new hr' with ⟨r, hr, haddr⟩ | hnew
  · exact hdead (reqAt_isSome.mpr ⟨r, hr, haddr⟩)
  · omega

/-- An expired request is at its address as long as one for its IP has expired. -/
theorem live_of_expiredFor (hs : WellFormed s) {r : SrArpreq} (hr : r ∈ s.reqs)
    (hx : ExpiredFor now t r.ip) : (t.reqAt r.addr).isSome := by
  obtain ⟨r', hr', haddr, -⟩ := h.expired_left hs hr hx
  exact reqAt_isSome.mpr ⟨r', hr', haddr⟩

theorem expiredFor_of_live {r : SrArpreq} (hr : r ∈ s.reqs) (hexp : Expired now r)
    (hlive : (t.reqAt r.addr).isSome) : ExpiredFor now t r.ip := by
  obtain ⟨r', hr', haddr⟩ := reqAt_isSome.mp hlive
  have hsame := h.same r hr r' hr' haddr
  exact ⟨r', hr', hsame.ip, hsame.expired.mpr hexp⟩

end Evolves

/-! ### Removing requests -/

/-- From `s` to `t`, the expired requests that nested calls reach from those for
    the IPs in `start` were destroyed. -/
abbrev Discards (sr : SrInstance) (now : time_t) (s t : RouterState) (start : uint32_t → Prop) :
    Prop :=
  Removes (NestedCall sr now s) (Answerable sr now s) (ExpiredFor now s) (ExpiredFor now t) start

theorem Discards.trans {start start' : uint32_t → Prop} (hs : WellFormed s)
    (hst : Evolves sr now s t) (htu : Evolves sr now t u)
    (h : Discards sr now s t start) (h' : Discards sr now t u start') :
    Discards sr now s u fun x => start x ∨ start' x :=
  Removes.trans (fun _ => hst.expiredFor_old) (fun _ => htu.expiredFor_old)
    (fun _ _ hxy => hxy.target) (fun _ _ => hst.nested_old) (fun _ _ => hst.nested_new hs)
    (fun _ => hst.answerable_old hs) h h'

/-- A request that is left is left as it is, when nothing is destroyed. -/
theorem expiredFor_updateReq {req : Nat} {f : SrArpreq → SrArpreq} (hip : ∀ r, (f r).ip = r.ip)
    (hf : ∀ r ∈ s.reqs, r.addr = req → Expired now r → Expired now (f r)) {x : uint32_t}
    (hx : ExpiredFor now s x) : ExpiredFor now (s.updateReq req f) x := by
  obtain ⟨r, hr, rfl, hexp⟩ := hx
  refine ⟨_, mem_updateReq.mpr ⟨r, hr, rfl⟩, ?_⟩
  split
  · next hreq => exact ⟨hip r, hf r hr hreq hexp⟩
  · exact ⟨rfl, hexp⟩

theorem expiredFor_destroyReq (hs : WellFormed s) {r : SrArpreq} (hr : r ∈ s.reqs) {x : uint32_t} :
    ExpiredFor now (s.destroyReq r.addr) x ↔ ExpiredFor now s x ∧ x ≠ r.ip := by
  constructor
  · intro h
    obtain ⟨r', hr', rfl, hexp⟩ := h
    obtain ⟨hr', hne⟩ := (mem_destroyReq hs).mp hr'
    refine ⟨⟨r', hr', rfl, hexp⟩, fun hip => hne ?_⟩
    rw [hs.ip_inj hr' hr hip]
  · intro h
    obtain ⟨⟨r', hr', rfl, hexp⟩, hne⟩ := h
    refine ⟨r', (mem_destroyReq hs).mpr ⟨hr', fun haddr => hne ?_⟩, rfl, hexp⟩
    rw [hs.addr_inj hr' hr haddr]

/-- The same for a request of `s` that is still there. -/
theorem Evolves.expiredFor_destroyReq (h : Evolves sr now s t) (ht : WellFormed t) {r : SrArpreq}
    (hr : r ∈ s.reqs) (hlive : (t.reqAt r.addr).isSome) {x : uint32_t} :
    ExpiredFor now (t.destroyReq r.addr) x ↔ ExpiredFor now t x ∧ x ≠ r.ip := by
  obtain ⟨r', hr', haddr⟩ := reqAt_isSome.mp hlive
  rw [← haddr, ← (h.same r hr r' hr' haddr).ip]
  exact SimpleRouter.expiredFor_destroyReq ht hr'

/-! ### Storing a frame -/

/-- A request that a frame is stored on has expired already, or it has not. -/
theorem expired_queuePacket (hs : WellFormed s) {msg : Message} {ip : uint32_t} {buf : RawFrame}
    {iface : IfName} {r' : SrArpreq} (hr' : r' ∈ (s.queuePacket msg ip buf iface).reqs)
    (hexp : Expired now r') : r' ∈ s.reqs ∨ ∃ r ∈ s.reqs, Expired now r ∧ r.ip = ip ∧ ∃ addr,
      r' = { r with packets := ⟨addr, buf, iface⟩ :: r.packets } := by
  rcases mem_queuePacket hs hr' with hr' | ⟨r, addr, hr | rfl, hip, rfl⟩
  · exact .inl hr'
  · exact .inr ⟨r, hr, hexp, hip, addr, rfl⟩
  · simp [Expired] at hexp

theorem expiredFor_queuePacket (hs : WellFormed s) {msg : Message} {ip x : uint32_t}
    {buf : RawFrame} {iface : IfName} (hx : ExpiredFor now (s.queuePacket msg ip buf iface) x) :
    ExpiredFor now s x := by
  obtain ⟨r', hr', hip, hexp⟩ := hx
  rcases expired_queuePacket hs hr' hexp with hr' | ⟨r, hr, hexp, -, addr, rfl⟩
  · exact ⟨r', hr', hip, hexp⟩
  · exact ⟨r, hr, hip, hexp⟩

/-- Only the request that the frame was stored on has a new frame. -/
theorem waiting_queuePacket (hs : WellFormed s) {msg : Message} {ip x y : uint32_t}
    {buf : RawFrame} {iface : IfName} (hw : Waiting now (s.queuePacket msg ip buf iface) x y) :
    Waiting now s x y ∨ x = ip ∧ ExpiredFor now s ip ∧ y = (ip_hdr buf).ip_src := by
  obtain ⟨r', hr', hip, hexp, p, hp, hsource⟩ := hw
  rcases expired_queuePacket hs hr' hexp with hr' | ⟨r, hr, hexp, hip', addr, rfl⟩
  · exact .inl ⟨r', hr', hip, hexp, p, hp, hsource⟩
  · rcases List.mem_cons.mp hp with rfl | hp
    · exact .inr ⟨hip.symm.trans hip', ⟨r, hr, hip', hexp⟩, hsource.symm⟩
    · exact .inl ⟨r, hr, hip, hexp, p, hp, hsource⟩

/-! ### Storing an answer -/

section answer
variable {req : Nat} {pck : SrPacket} {rtentry : SrRt} {ifc : SrIf}

theorem queueReady_keeps (s : RouterState) (ip x : uint32_t) (hx : ExpiredFor now s x) :
    ExpiredFor now (s.queueReady ip) x := by
  obtain ⟨r, hr, hip, hexp⟩ := hx
  unfold queueReady
  split
  · exact ⟨r, hr, hip, hexp⟩
  · exact ⟨r, List.mem_append_left _ hr, hip, hexp⟩

theorem queueAnswer_keeps (s : RouterState) {x : uint32_t} (hx : ExpiredFor now s x) :
    ExpiredFor now (s.queueAnswer heap req pck rtentry ifc) x := by
  have hready : ExpiredFor now (s.alloc.queueReady (source pck)) x := queueReady_keeps _ _ x hx
  refine expiredFor_updateReq ?_ ?_ hready
  · exact fun _ => rfl
  · exact fun _ _ _ hexp => hexp

variable (heap req) in
/-- The request that an answer was stored on. -/
theorem queueAnswer_target (s : RouterState)
    (hrt : sr_findLPMentry sr.routing_table (source pck) = some rtentry)
    (hifc : sr_get_interface sr rtentry.interface = some ifc) :
    ∃ r ∈ (s.queueAnswer heap req pck rtentry ifc).reqs,
      r.addr = s.alloc.queueTarget (source pck) ∧ r.ip = source pck ∧
      ∀ y, reply_ip sr r.ip = some y → ∃ p ∈ r.packets, source p = y := by
  obtain ⟨r₀, hr₀, haddr, hip⟩ := exists_queueReady s.alloc (source pck)
  refine ⟨_, mem_updateReq.mpr ⟨r₀, hr₀, rfl⟩, ?_⟩
  rw [if_pos haddr]
  refine ⟨haddr, hip, fun y hy => ⟨_, List.mem_cons_self, ?_⟩⟩
  rw [show reply_ip sr _ = _ from hip ▸ reply_ip_eq hrt hifc] at hy
  simpa [source] using hy

end answer

/-! ### Handling -/

/-- Handling a request that has not expired discards nothing. -/
theorem handle_keeps {fuel : Nat} {s' : RouterState} {r : SrArpreq} (hs : WellFormed s)
    (hr : r ∈ s.reqs) (hexp : ¬ Expired now r)
    (hrun : sr_arpcache_handle_arpreq sr heap now fuel r.addr s = (.returned (), s'))
    {x : uint32_t} (hx : ExpiredFor now s x) : ExpiredFor now s' x := by
  obtain ⟨n, -, hdone⟩ := handle_arpreq_returned hs hr hrun
  cases hdone with
  | idle _ hs' => rwa [hs']
  | asked _ _ hask =>
    obtain ⟨_, _, e, -, -, rfl⟩ := send_arp_request_returned hask
    show ExpiredFor now (s.askReq now r) x
    refine expiredFor_updateReq ?_ ?_ hx
    · exact fun _ => rfl
    · intro r' hr' haddr hexp'
      exact absurd (hs.addr_inj hr' hr haddr ▸ hexp') hexp
  | discarded hexp' => exact absurd hexp' hexp

/-- What a call on an expired request has destroyed. -/
structure Discarded (sr : SrInstance) (now : time_t) (s : RouterState) (r : SrArpreq)
    (s' : RouterState) : Prop where
  /-- Before the request itself goes, those of the calls for its frames are gone. -/
  loop : ∃ t, WellFormed t ∧ Evolves sr now s t ∧ Discards sr now s t (OuterCall sr now s r.ip) ∧
    (t.reqAt r.addr).isSome ∧ s' = t.destroyReq r.addr
  resolvable : ∀ p ∈ r.packets, Resolvable sr (source p)

/-- With an answer to `r.ip` among the frames of `r`, the calls from `r` are nested
    calls. -/
theorem Discarded.nested {r : SrArpreq} {s' : RouterState} (hs : WellFormed s) (hr : r ∈ s.reqs)
    (hexp : Expired now r) (hans : ∀ y, reply_ip sr r.ip = some y → ∃ p ∈ r.packets, source p = y)
    (h : Discarded sr now s r s') : Discards sr now s s' (· = r.ip) := by
  have hwait : ∀ y, Waiting now s r.ip y ∨ reply_ip sr r.ip = some y → Waiting now s r.ip y := by
    intro y hy
    rcases hy with hw | hy
    · exact hw
    · exact ⟨r, hr, rfl, hexp, hans y hy⟩
  obtain ⟨t, ht, hst, hloop, hlive, rfl⟩ := h.loop
  have hsucc : Discards sr now s t (NestedCall sr now s r.ip) :=
    hloop.widen (fun _ hy => hy.nested) fun y hy => hloop.gone y ⟨hwait y hy.1, hy.2⟩
  apply hsucc.node ⟨r, hr, rfl, hexp⟩
  · intro y hy
    obtain ⟨r', hr', hip, -, p, hp, rfl⟩ := hwait y hy
    exact h.resolvable p (hs.ip_inj hr' hr hip ▸ hp)
  · exact fun y => hst.expiredFor_destroyReq ht hr hlive

/-- What `answer_sender` did when it returned: nothing, or it sent the answer, or it
    stored the answer and handled the request that it was stored on. -/
inductive Answered (sr : SrInstance) (heap : Heap) (now : time_t) (fuel req : Nat)
    (pck : SrPacket) (s s' : RouterState) : Prop where
  | unrouted (hrt : sr_findLPMentry sr.routing_table (source pck) = none) (hs' : s' = s.alloc)
  | sent {rtentry : SrRt} {ifc : SrIf} {entry : SrArpentry}
      (hrt : sr_findLPMentry sr.routing_table (source pck) = some rtentry)
      (hifc : sr_get_interface sr rtentry.interface = some ifc)
      (hentry : sr_arpcache_lookup s.cache (source pck) = some entry)
      (hs' : sr_send_packet sr (.host_unreachable req pck.addr)
        (set_ether_dhost (icmp_t3_frame heap s.brk ifc 1 pck.buf) entry.mac) rtentry.interface
        s.alloc = (.returned (), s'))
  | stored {rtentry : SrRt} {ifc : SrIf} {r : SrArpreq}
      (hrt : sr_findLPMentry sr.routing_table (source pck) = some rtentry)
      (hifc : sr_get_interface sr rtentry.interface = some ifc)
      (hmiss : sr_arpcache_lookup s.cache (source pck) = none)
      (hr : r ∈ (s.queueAnswer heap req pck rtentry ifc).reqs) (hip : r.ip = source pck)
      (hans : ∀ y, reply_ip sr r.ip = some y → ∃ p ∈ r.packets, source p = y)
      (hcall : sr_arpcache_handle_arpreq sr heap now fuel r.addr
        (s.queueAnswer heap req pck rtentry ifc) = (.returned (), s'))

theorem answer_sender_returned {fuel : Nat} {s' : RouterState} {req : Nat} {pck : SrPacket}
    (hrun : answer_sender sr heap (sr_arpcache_handle_arpreq sr heap now fuel) req pck s =
      (.returned (), s')) : Answered sr heap now fuel req pck s s' := by
  rw [answer_sender_eq] at hrun
  split at hrun
  · next hrt => exact .unrouted hrt (Prod.mk.inj hrun).2.symm
  · next rtentry hrt =>
    split at hrun
    · simp at hrun
    · next ifc hifc =>
      split at hrun
      · next entry hentry => exact .sent hrt hifc hentry hrun
      · next hmiss =>
        obtain ⟨r, hr, haddr, hip, hans⟩ := queueAnswer_target heap req s hrt hifc
        exact .stored hrt hifc hmiss hr hip hans (haddr ▸ hrun)

theorem Answered.resolvable {fuel : Nat} {s' : RouterState} {req : Nat} {pck : SrPacket}
    (h : Answered sr heap now fuel req pck s s') : Resolvable sr (source pck) := by
  cases h with
  | unrouted hrt => simp [Resolvable, hrt]
  | sent hrt hifc => simp [Resolvable, hrt, hifc]
  | stored hrt hifc => simp [Resolvable, hrt, hifc]

/-- One frame of the loop, when nested calls do as they should. -/
theorem discard_packet_discards {fuel : Nat} {s' : RouterState} {req : Nat} {pck : SrPacket}
    (ih : ∀ {s s' : RouterState} {r : SrArpreq}, WellFormed s → r ∈ s.reqs → Expired now r →
      sr_arpcache_handle_arpreq sr heap now fuel r.addr s = (.returned (), s') →
      Discarded sr now s r s')
    (hs : WellFormed s)
    (hrun : answer_sender sr heap (sr_arpcache_handle_arpreq sr heap now fuel) req pck s =
      (.returned (), s')) :
    Discards sr now s s' (fun y => y = source pck ∧ Chased sr now s y) := by
  have hnone : (∀ y, ExpiredFor now s y → ExpiredFor now s' y) → ¬ Chased sr now s (source pck) →
      Discards sr now s s' (fun y => y = source pck ∧ Chased sr now s y) := by
    intro hkeep hnot
    exact (Removes.keep hkeep).widen (fun _ hf => hf.elim) fun y hy => absurd (hy.1 ▸ hy.2) hnot
  cases answer_sender_returned hrun with
  | unrouted hrt hs' =>
    subst hs'
    exact hnone (fun _ h => h) fun hc => by simpa [hrt] using hc.routed
  | sent hrt hifc hentry hs' =>
    obtain rfl := (Prod.mk.inj hs').2
    exact hnone (fun _ h => h) fun hc => by simpa [hentry] using hc.uncached
  | @stored rtentry ifc r hrt hifc hmiss hr hip hans hcall =>
    obtain ⟨hu, hsu⟩ := queueAnswer_handles heap now req hrt hifc hs
    by_cases hexp : Expired now r
    · have hboth := Discards.trans hs hsu (handle_arpreq_evolves hu hcall).2
        (Removes.keep fun _ => queueAnswer_keeps s) ((ih hu hr hexp hcall).nested hu hr hexp hans)
      refine hboth.widen (fun y hy => ?_) fun y hy => ?_
      · obtain rfl : y = r.ip := hy.resolve_left id
        exact ⟨hip, by simp [hip, hrt], by rw [hip]; exact hmiss,
          hsu.expiredFor_old ⟨r, hr, rfl, hexp⟩⟩
      · exact hboth.gone y (.inr (hy.1.trans hip.symm))
    · apply hnone (fun y hy => handle_keeps hu hr hexp hcall (queueAnswer_keeps s hy))
      intro hc
      exact hexp (expired_of_expiredFor hu hr (hip ▸ queueAnswer_keeps s hc.expired))

/-- What discarding the frames `d` of one request did, from `s` to `v`. -/
structure DiscardedFrames (sr : SrInstance) (now : time_t) (s : RouterState) (d : List SrPacket)
    (v : RouterState) : Prop where
  wellFormed : WellFormed v
  evolves : Evolves sr now s v
  resolvable : ∀ p ∈ d, Resolvable sr (source p)
  discards : Discards sr now s v fun y => Chased sr now s y ∧ ∃ p ∈ d, source p = y

theorem DiscardedFrames.start (hs : WellFormed s) : DiscardedFrames sr now s [] s where
  wellFormed := hs
  evolves := Evolves.refl hs
  resolvable := by simp
  discards := (Removes.keep fun _ h => h).widen (fun _ hf => hf.elim) (by simp)

/-- The loop goes on with frame `p`: what its source calls is gone too. -/
theorem DiscardedFrames.next {fuel : Nat} {d : List SrPacket} {v v' : RouterState} {req : Nat}
    {p : SrPacket}
    (ih : ∀ {s s' : RouterState} {r : SrArpreq}, WellFormed s → r ∈ s.reqs → Expired now r →
      sr_arpcache_handle_arpreq sr heap now fuel r.addr s = (.returned (), s') →
      Discarded sr now s r s')
    (hs : WellFormed s) (h : DiscardedFrames sr now s d v)
    (hrun : answer_sender sr heap (sr_arpcache_handle_arpreq sr heap now fuel) req p v =
      (.returned (), v')) :
    DiscardedFrames sr now s (d ++ [p]) v' := by
  obtain ⟨hv', hvv'⟩ := answer_sender_evolves h.wellFormed hrun
  have hdis := discard_packet_discards ih h.wellFormed hrun
  refine ⟨hv', h.evolves.trans hs hvv', ?_, ?_⟩
  · intro q hq
    rcases List.mem_append.mp hq with hq | hq
    · exact h.resolvable q hq
    · rw [List.mem_singleton.mp hq]
      exact (answer_sender_returned hrun).resolvable
  · apply (Discards.trans hs h.evolves hvv' h.discards hdis).widen
    · intro y hy
      rcases hy with ⟨hc, q, hq, rfl⟩ | ⟨rfl, hc⟩
      · exact ⟨hc, q, List.mem_append_left _ hq, rfl⟩
      · exact ⟨h.evolves.chased_old hc, p, by simp, rfl⟩
    · intro y hy
      obtain ⟨hc, q, hq, rfl⟩ := hy
      refine ⟨hc.expired, fun hx => ?_⟩
      rcases List.mem_append.mp hq with hq | hq
      · exact (h.discards.gone _ ⟨hc, q, hq, rfl⟩).2 (hvv'.expiredFor_old hx)
      · -- were it still there after `p`, it would have been called for `p`
        obtain rfl := List.mem_singleton.mp hq
        have hcv := h.evolves.chased_new hc (hvv'.expiredFor_old hx)
        exact (hdis.gone _ ⟨rfl, hcv⟩).2 hx

/-- **Discarding**: a call on an expired request that returned has destroyed the
    requests of its calls, then its own. -/
theorem handle_discards {fuel : Nat} {s' : RouterState} {r : SrArpreq} (hs : WellFormed s)
    (hr : r ∈ s.reqs) (hexp : Expired now r)
    (hrun : sr_arpcache_handle_arpreq sr heap now fuel r.addr s = (.returned (), s')) :
    Discarded sr now s r s' := by
  -- on the fuel: nested calls have less of it, and each frame's call is nested
  induction fuel generalizing s s' r with
  | zero => simp [sr_arpcache_handle_arpreq] at hrun
  | succ fuel ih =>
    obtain ⟨n, ⟨⟩, hdone⟩ := handle_arpreq_returned hs hr hrun
    cases hdone with
    | idle hdue => exact absurd hexp.1 hdue
    | asked _ hne => exact absurd hexp hne
    | @discarded t _ hloop hlive hs' =>
      have ht : DiscardedFrames sr now s r.packets t :=
        Prog.forEach_returned (I := DiscardedFrames sr now s) (.start hs)
          (fun _ _ _ _ _ _ h hbody => h.next ih hs (discard_packet_returned hbody).1) hloop
      refine ⟨⟨t, ht.wellFormed, ht.evolves, ht.discards.widen ?_ ?_, hlive, hs'⟩, ht.resolvable⟩
      · intro y hy
        obtain ⟨hc, p, hp, rfl⟩ := hy
        exact ⟨⟨r, hr, rfl, hexp, p, hp, rfl⟩, hc⟩
      · intro y hy
        obtain ⟨⟨r', hr', hip, -, p, hp, rfl⟩, hc⟩ := hy
        exact ht.discards.gone _ ⟨hc, p, hs.ip_inj hr' hr hip ▸ hp, rfl⟩

end SimpleRouter
