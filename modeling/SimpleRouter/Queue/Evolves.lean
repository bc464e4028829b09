import SimpleRouter.Queue.Basic

/-! # What handling requests can do to the queue

    `Evolves sr now s s'` says once what any stretch of request handling at
    time `now` can do: it learns and forgets no mapping, it destroys expired
    requests only, a request that it leaves on the queue stays expired or
    unexpired, new requests go to the end, and the only frames it adds to an
    expired request are answers sent from the router's own address.
    Every invariant of the queue is derived from this relation.
-/

namespace SimpleRouter

open Framework RouterState

/-! ### Expired requests and their frames -/

/-- The request is to be discarded: sent five times, the last of them more than
    a second ago. -/
def Expired (now : time_t) (r : SrArpreq) : Prop := now - r.sent > 1 ∧ r.times_sent ≥ 5

instance (now : time_t) (r : SrArpreq) : Decidable (Expired now r) :=
  inferInstanceAs (Decidable (_ ∧ _))

/-- The IP source of a stored frame. -/
def source (pck : SrPacket) : uint32_t := (ip_hdr pck.buf).ip_src

/-- The address that the router answers `ip` from: that of the interface of the
    route to `ip`. -/
def reply_ip (sr : SrInstance) (ip : uint32_t) : Option uint32_t :=
  (sr_findLPMentry sr.routing_table ip).bind fun rtentry =>
    (sr_get_interface sr rtentry.interface).map (·.ip)

theorem reply_ip_eq {sr : SrInstance} {ip : uint32_t} {rtentry : SrRt} {ifc : SrIf}
    (hrt : sr_findLPMentry sr.routing_table ip = some rtentry)
    (hifc : sr_get_interface sr rtentry.interface = some ifc) : reply_ip sr ip = some ifc.ip := by
  simp [reply_ip, hrt, hifc]

/-! ### The relation -/

/-- A request handled further: it is still for the same IP, still expired or
    still not, and if expired has only been given answers to its own IP. -/
structure SameRequest (sr : SrInstance) (now : time_t) (r r' : SrArpreq) : Prop where
  ip : r'.ip = r.ip
  expired : Expired now r' ↔ Expired now r
  packets : Expired now r → r.packets ⊆ r'.packets
  answers : Expired now r → ∀ p ∈ r'.packets, p ∈ r.packets ∨ reply_ip sr r.ip = some (source p)

namespace SameRequest

variable {sr : SrInstance} {now : time_t} {r r' r'' : SrArpreq}

theorem refl (r : SrArpreq) : SameRequest sr now r r :=
  ⟨rfl, Iff.rfl, fun _ => List.Subset.refl _, fun _ _ h => .inl h⟩

theorem trans (h : SameRequest sr now r r') (h' : SameRequest sr now r' r'') :
    SameRequest sr now r r'' where
  ip := h'.ip.trans h.ip
  expired := h'.expired.trans h.expired
  packets hr := List.Subset.trans (h.packets hr) (h'.packets (h.expired.mpr hr))
  answers hr p hp := by
    rcases h'.answers (h.expired.mpr hr) p hp with hp | hp
    · exact h.answers hr p hp
    · exact .inr (h.ip ▸ hp)

/-- Writing to a request that is not expired and stays so. -/
theorem of_not_expired (hip : r'.ip = r.ip) (hr : ¬ Expired now r) (hr' : ¬ Expired now r') :
    SameRequest sr now r r' :=
  ⟨hip, by simp [hr, hr'], fun h => absurd h hr, fun h => absurd h hr⟩

end SameRequest

structure Evolves (sr : SrInstance) (now : time_t) (s s' : RouterState) : Prop where
  entries : s'.cache.entries = s.cache.entries
  detached : s'.detached = s.detached
  brk_le : s.brk ≤ s'.brk
  log : s.log <+: s'.log
  /-- Requests keep their order; new ones come last. -/
  order : ∃ kept new, s'.addrs = kept ++ new ∧ kept.Sublist s.addrs ∧ ∀ a ∈ new, s.brk ≤ a
  same : ∀ r ∈ s.reqs, ∀ r' ∈ s'.reqs, r'.addr = r.addr → SameRequest sr now r r'
  new : ∀ r' ∈ s'.reqs, s.brk ≤ r'.addr → ¬ Expired now r'
  kept : ∀ r ∈ s.reqs, ¬ Expired now r → ∃ r' ∈ s'.reqs, r'.addr = r.addr

namespace Evolves

variable {sr : SrInstance} {now : time_t} {s t u : RouterState}

theorem refl (h : WellFormed s) : Evolves sr now s s where
  entries := rfl
  detached := rfl
  brk_le := Nat.le_refl _
  log := List.prefix_rfl
  order := ⟨s.addrs, [], by simp, List.Sublist.refl _, by simp⟩
  same r hr r' hr' he := by
    rw [h.addr_inj hr' hr he]
    exact SameRequest.refl r
  new r hr hbrk := absurd (h.lt_brk hr) (by omega)
  kept r hr _ := ⟨r, hr, rfl⟩

/-- A request left on the queue is an old one or a new one. -/
theorem old_or_new (h : Evolves sr now s t) {r' : SrArpreq} (hr' : r' ∈ t.reqs) :
    (∃ r ∈ s.reqs, r.addr = r'.addr) ∨ s.brk ≤ r'.addr := by
  obtain ⟨kept, new, haddrs, hsub, hnew⟩ := h.order
  have hmem : r'.addr ∈ kept ++ new := haddrs ▸ List.mem_map_of_mem hr'
  rcases List.mem_append.mp hmem with hk | hn
  · obtain ⟨r, hr, he⟩ := List.mem_map.mp (hsub.subset hk)
    exact .inl ⟨r, hr, he⟩
  · exact .inr (hnew _ hn)

/-- An expired request comes from an expired request. -/
theorem expired_old (h : Evolves sr now s t) {r' : SrArpreq} (hr' : r' ∈ t.reqs)
    (hexp : Expired now r') : ∃ r ∈ s.reqs, r.addr = r'.addr ∧ SameRequest sr now r r' := by
  rcases h.old_or_new hr' with ⟨r, hr, he⟩ | hnew
  · exact ⟨r, hr, he, h.same r hr r' hr' he.symm⟩
  · exact absurd hexp (h.new r' hr' hnew)

theorem trans (hs : WellFormed s) (h : Evolves sr now s t) (h' : Evolves sr now t u) :
    Evolves sr now s u where
  entries := h'.entries.trans h.entries
  detached := h'.detached.trans h.detached
  brk_le := Nat.le_trans h.brk_le h'.brk_le
  log := h.log.trans h'.log
  order := by
    obtain ⟨k₁, n₁, he₁, hk₁, hn₁⟩ := h.order
    obtain ⟨k₂, n₂, he₂, hk₂, hn₂⟩ := h'.order
    rw [he₁] at hk₂
    obtain ⟨k, n, rfl, hk, hn⟩ := List.sublist_append_iff.mp hk₂
    refine ⟨k, n ++ n₂, by rw [he₂, List.append_assoc], hk.trans hk₁, fun a ha => ?_⟩
    rcases List.mem_append.mp ha with ha | ha
    · exact hn₁ a (hn.subset ha)
    · exact Nat.le_trans h.brk_le (hn₂ a ha)
  same r hr r'' hr'' he := by
    rcases h'.old_or_new hr'' with ⟨r', hr', he'⟩ | hnew
    · exact (h.same r hr r' hr' (he'.trans he)).trans (h'.same r' hr' r'' hr'' he'.symm)
    · have := hs.lt_brk hr
      have := h.brk_le
      omega
  new r'' hr'' hbrk hexp := by
    obtain ⟨r', hr', he', hsame⟩ := h'.expired_old hr'' hexp
    exact h.new r' hr' (by omega) (hsame.expired.mp hexp)
  kept r hr hexp := by
    obtain ⟨r', hr', he'⟩ := h.kept r hr hexp
    have hexp' : ¬ Expired now r' := fun hx =>
      hexp ((h.same r hr r' hr' he').expired.mp hx)
    obtain ⟨r'', hr'', he''⟩ := h'.kept r' hr' hexp'
    exact ⟨r'', hr'', he''.trans he'⟩

/-! ### The single moves -/

/-- Nothing but the log and the free addresses changes. -/
theorem of_same_cache (h : WellFormed s) (hcache : t.cache = s.cache)
    (hdet : t.detached = s.detached) (hbrk : s.brk ≤ t.brk) (hlog : s.log <+: t.log) :
    Evolves sr now s t := by
  have hr : Evolves sr now s s := refl h
  have hreqs : t.reqs = s.reqs := congrArg SrArpcache.requests hcache
  have haddrs : t.addrs = s.addrs := congrArg (List.map SrArpreq.addr) hreqs
  exact ⟨congrArg _ hcache, hdet, hbrk, hlog, haddrs ▸ hr.order, hreqs ▸ hr.same, hreqs ▸ hr.new,
    hreqs ▸ hr.kept⟩

theorem emit (h : WellFormed s) (e : Event) : Evolves sr now s (s.emit e) :=
  of_same_cache h rfl rfl (Nat.le_refl _) (List.prefix_append _ _)

theorem alloc (h : WellFormed s) : Evolves sr now s s.alloc :=
  of_same_cache h rfl rfl (Nat.le_succ _) List.prefix_rfl

theorem appendReq (h : WellFormed s) (ip : uint32_t) : Evolves sr now s (s.appendReq ip) where
  entries := rfl
  detached := rfl
  brk_le := Nat.le_succ _
  log := List.prefix_rfl
  order := by
    refine ⟨s.addrs, [s.brk], ?_, List.Sublist.refl _, by simp⟩
    simp [addrs, reqs, RouterState.appendReq]
  same r hr r' hr' he := by
    rcases List.mem_append.mp hr' with hr' | hr'
    · rw [h.addr_inj hr' hr he]
      exact SameRequest.refl r
    · rw [List.mem_singleton.mp hr'] at he
      have hbrk : s.brk = r.addr := he
      have := h.lt_brk hr
      omega
  new r' hr' hbrk := by
    rcases List.mem_append.mp hr' with hr' | hr'
    · exact absurd (h.lt_brk hr') (by omega)
    · rw [List.mem_singleton.mp hr']
      simp [Expired]
  kept r hr _ := ⟨r, List.mem_append_left _ hr, rfl⟩

/-- Writing to one request. -/
theorem updateReq (h : WellFormed s) {req : Nat} {f : SrArpreq → SrArpreq}
    (hf : ∀ r, (f r).addr = r.addr)
    (hsame : ∀ r ∈ s.reqs, r.addr = req → SameRequest sr now r (f r)) :
    Evolves sr now s (s.updateReq req f) where
  entries := rfl
  detached := rfl
  brk_le := Nat.le_refl _
  log := List.prefix_rfl
  order := ⟨s.addrs, [], by simp [updateReq_addrs hf], List.Sublist.refl _, by simp⟩
  same r hr r' hr' he := by
    obtain ⟨r₀, hr₀, rfl⟩ := mem_updateReq.mp hr'
    split at he
    · next hreq =>
      rw [hf] at he
      obtain rfl := h.addr_inj hr₀ hr he
      rw [if_pos hreq]
      exact hsame r₀ hr₀ hreq
    · next hreq =>
      obtain rfl := h.addr_inj hr₀ hr he
      rw [if_neg hreq]
      exact SameRequest.refl r₀
  new r' hr' hbrk := by
    obtain ⟨r₀, hr₀, rfl⟩ := mem_updateReq.mp hr'
    have := h.lt_brk hr₀
    split at hbrk
    · rw [hf] at hbrk
      omega
    · omega
  kept r hr _ := by
    refine ⟨_, mem_updateReq.mpr ⟨r, hr, rfl⟩, ?_⟩
    split
    · exact hf r
    · rfl

/-- A frame is stored on a request: on an expired one only as an answer to its
    own IP. -/
theorem pushPacket (h : WellFormed s) {msg : Message} {req : Nat} {buf : RawFrame} {iface : IfName}
    (hans : ∀ r ∈ s.reqs, r.addr = req → Expired now r →
      reply_ip sr r.ip = some (ip_hdr buf).ip_src) :
    Evolves sr now s (s.pushPacket msg req buf iface) := by
  let f : SrArpreq → SrArpreq := fun r => { r with packets := ⟨s.brk, buf, iface⟩ :: r.packets }
  have hsame : ∀ r ∈ s.reqs, r.addr = req → SameRequest sr now r (f r) := by
    intro r hr hreq
    refine ⟨rfl, Iff.rfl, fun _ => List.subset_cons_self _ _, fun hexp p hp => ?_⟩
    rcases List.mem_cons.mp hp with rfl | hp
    · exact .inr (hans r hr hreq hexp)
    · exact .inl hp
  have hupd : Evolves sr now s (s.updateReq req f) := updateReq h (fun _ => rfl) hsame
  have hwf : WellFormed (s.updateReq req f) := h.updateReq (fun _ => rfl) (fun _ => rfl)
  exact (hupd.trans h (alloc hwf)).trans h (emit hwf.alloc _)

theorem queueReady (h : WellFormed s) (ip : uint32_t) : Evolves sr now s (s.queueReady ip) := by
  unfold RouterState.queueReady
  split
  · exact refl h
  · exact appendReq h ip

/-- An answer to `ip` from the router's own address is stored for `ip`. -/
theorem queuePacket (h : WellFormed s) {msg : Message} {ip : uint32_t} {buf : RawFrame}
    {iface : IfName} (hans : reply_ip sr ip = some (ip_hdr buf).ip_src) :
    Evolves sr now s (s.queuePacket msg ip buf iface) := by
  refine (queueReady h ip).trans h (pushPacket (h.queueReady ip) ?_)
  intro r hr hreq _
  obtain ⟨r₀, hr₀, haddr, hip⟩ := exists_queueReady s ip
  rw [(h.queueReady ip).addr_inj hr hr₀ (hreq.trans haddr.symm), hip, hans]

/-- An expired request is destroyed. -/
theorem destroy (h : WellFormed s) {r : SrArpreq} (hr : r ∈ s.reqs) (hexp : Expired now r) :
    Evolves sr now s (s.setRequests (s.reqs.eraseP fun r' => r'.addr = r.addr)) where
  entries := rfl
  detached := rfl
  brk_le := Nat.le_refl _
  log := List.prefix_rfl
  order := by
    refine ⟨_, [], (List.append_nil _).symm, ?_, by simp⟩
    exact List.eraseP_sublist.map _
  same r₁ hr₁ r₂ hr₂ he := by
    rw [h.addr_inj (List.mem_of_mem_eraseP hr₂) hr₁ he]
    exact SameRequest.refl r₁
  new r' hr' hbrk := absurd (h.lt_brk (List.mem_of_mem_eraseP hr')) (by omega)
  kept r₁ hr₁ hexp₁ := by
    refine ⟨r₁, (List.mem_eraseP_of_neg ?_).mpr hr₁, rfl⟩
    intro he
    rw [h.addr_inj hr₁ hr (by simpa using he)] at hexp₁
    exact hexp₁ hexp

end Evolves

end SimpleRouter
