import SimpleRouter.Queue.Moves

/-! # What becomes of a request in one step

    `Follows now s s'` is what a step at time `now` that announces no mapping
    does to the queue: a request that has not expired stays and keeps its
    frames, and what is new on the queue has not expired. So a request is only
    lost to a reply, or once it has expired.

    * `Path.follows`: every chain of changes does this.
    * `step_follows`: so does every step, however it ends.
-/

namespace SimpleRouter

open Framework Framework.Prog RouterState Relation

variable {sr : SrInstance} {heap : Heap} {now : time_t} {s t u : RouterState} {l : Label}

/-! ### The relation -/

/-- A request after it was handled: frames are only put in front of its own. -/
structure Continues (now : time_t) (r r' : SrArpreq) : Prop where
  addr : r'.addr = r.addr
  ip : r'.ip = r.ip
  packets : r.packets <:+ r'.packets
  expired : Expired now r' ↔ Expired now r

namespace Continues

variable {r r' r'' : SrArpreq}

theorem refl (r : SrArpreq) : Continues now r r := ⟨rfl, rfl, List.suffix_rfl, Iff.rfl⟩

theorem trans (h : Continues now r r') (h' : Continues now r' r'') : Continues now r r'' :=
  ⟨h'.addr.trans h.addr, h'.ip.trans h.ip, h.packets.trans h'.packets,
    h'.expired.trans h.expired⟩

theorem push (r : SrArpreq) (p : SrPacket) :
    Continues now r { r with packets := p :: r.packets } :=
  ⟨rfl, rfl, List.suffix_cons _ _, Iff.rfl⟩

end Continues

structure Follows (now : time_t) (s s' : RouterState) : Prop where
  brk_le : s.brk ≤ s'.brk
  log : s.log <+: s'.log
  kept : ∀ r ∈ s.reqs, ¬ Expired now r → ∃ r' ∈ s'.reqs, Continues now r r'
  origin : ∀ r' ∈ s'.reqs, (∃ r ∈ s.reqs, Continues now r r') ∨
    s.brk ≤ r'.addr ∧ ¬ Expired now r'

namespace Follows

theorem refl (s : RouterState) : Follows now s s where
  brk_le := Nat.le_refl _
  log := List.prefix_rfl
  kept r hr _ := ⟨r, hr, .refl r⟩
  origin r hr := .inl ⟨r, hr, .refl r⟩

theorem trans (h : Follows now s t) (h' : Follows now t u) : Follows now s u where
  brk_le := Nat.le_trans h.brk_le h'.brk_le
  log := h.log.trans h'.log
  kept r hr hexp := by
    obtain ⟨r', hr', hcont⟩ := h.kept r hr hexp
    obtain ⟨r'', hr'', hcont'⟩ := h'.kept r' hr' fun hexp' => hexp (hcont.expired.mp hexp')
    exact ⟨r'', hr'', hcont.trans hcont'⟩
  origin r'' hr'' := by
    rcases h'.origin r'' hr'' with ⟨r', hr', hcont'⟩ | ⟨hnew, hexp⟩
    · rcases h.origin r' hr' with ⟨r, hr, hcont⟩ | ⟨hnew, hexp⟩
      · exact .inl ⟨r, hr, hcont.trans hcont'⟩
      · exact .inr ⟨hcont'.addr ▸ hnew, fun hexp'' => hexp (hcont'.expired.mp hexp'')⟩
    · exact .inr ⟨Nat.le_trans h.brk_le hnew, hexp⟩

/-- A request of `s` that is gone in `s'` had expired. -/
theorem expired_of_gone (h : Follows now s t) {r : SrArpreq} (hr : r ∈ s.reqs)
    (hgone : ¬ (t.reqAt r.addr).isSome) : Expired now r := by
  by_contra hexp
  obtain ⟨r', hr', hcont⟩ := h.kept r hr hexp
  exact hgone (reqAt_isSome.mpr ⟨r', hr', hcont.addr⟩)

/-- What has expired is old. -/
theorem expired_old (h : Follows now s t) {r' : SrArpreq} (hr' : r' ∈ t.reqs)
    (hexp : Expired now r') : ∃ r ∈ s.reqs, Continues now r r' := by
  rcases h.origin r' hr' with hold | ⟨-, hnot⟩
  · exact hold
  · exact absurd hexp hnot

/-- A request at an old address is the old request. -/
theorem same (h : Follows now s t) (hs : WellFormed s) {r r' : SrArpreq} (hr : r ∈ s.reqs)
    (hr' : r' ∈ t.reqs) (haddr : r'.addr = r.addr) : Continues now r r' := by
  rcases h.origin r' hr' with ⟨r₀, hr₀, hcont⟩ | ⟨hnew, -⟩
  · obtain rfl := hs.addr_inj hr₀ hr (hcont.addr.symm.trans haddr)
    exact hcont
  · have := hs.lt_brk hr
    omega

/-! ### The single changes -/

theorem of_same_cache (hcache : t.cache = s.cache) (hbrk : s.brk ≤ t.brk)
    (hlog : s.log <+: t.log) : Follows now s t where
  brk_le := hbrk
  log := hlog
  kept r hr _ := ⟨r, by rwa [reqs, hcache], .refl r⟩
  origin r hr := .inl ⟨r, by rwa [reqs, hcache] at hr, .refl r⟩

theorem emit (s : RouterState) (e : Event) : Follows now s (s.emit e) :=
  of_same_cache rfl (Nat.le_refl _) (List.prefix_append _ _)

theorem alloc (s : RouterState) : Follows now s s.alloc :=
  of_same_cache rfl (Nat.le_succ _) List.prefix_rfl

theorem askReq (hs : WellFormed s) {r : SrArpreq} (hr : r ∈ s.reqs) (hexp : ¬ Expired now r) :
    Follows now s (s.askReq now r) := by
  have hcont : ∀ r₀ ∈ s.reqs, Continues now r₀ (if r₀.addr = r.addr then
      { r₀ with sent := now, times_sent := r₀.times_sent + 1 } else r₀) := by
    intro r₀ hr₀
    split
    · next haddr =>
      obtain rfl := hs.addr_inj hr₀ hr haddr
      exact ⟨rfl, rfl, List.suffix_rfl, iff_of_false (not_expired_asked r₀) hexp⟩
    · exact .refl r₀
  refine ⟨Nat.le_refl _, List.prefix_rfl, fun r₀ hr₀ _ => ?_, fun r' hr' => ?_⟩
  · exact ⟨_, mem_updateReq.mpr ⟨r₀, hr₀, rfl⟩, hcont r₀ hr₀⟩
  · obtain ⟨r₀, hr₀, rfl⟩ := mem_updateReq.mp hr'
    exact .inl ⟨r₀, hr₀, hcont r₀ hr₀⟩

theorem queueReady (s : RouterState) (ip : uint32_t) : Follows now s (s.queueReady ip) := by
  unfold RouterState.queueReady
  split
  · exact refl s
  · refine ⟨Nat.le_succ _, List.prefix_rfl, fun r hr _ => ?_, fun r' hr' => ?_⟩
    · exact ⟨r, List.mem_append_left _ hr, .refl r⟩
    · rcases List.mem_append.mp hr' with hr' | hr'
      · exact .inl ⟨r', hr', .refl r'⟩
      · rw [List.mem_singleton.mp hr']
        exact .inr ⟨Nat.le_refl _, by simp [Expired]⟩

theorem pushPacket (s : RouterState) (msg : Message) (req : Nat) (buf : RawFrame)
    (iface : IfName) : Follows now s (s.pushPacket msg req buf iface) := by
  have hcont : ∀ r : SrArpreq, Continues now r (if r.addr = req then
      { r with packets := ⟨s.brk, buf, iface⟩ :: r.packets } else r) := by
    intro r
    split
    · exact .push r _
    · exact .refl r
  refine ⟨Nat.le_succ _, List.prefix_append _ _, fun r hr _ => ?_, fun r' hr' => ?_⟩
  · exact ⟨_, mem_updateReq.mpr ⟨r, hr, rfl⟩, hcont r⟩
  · obtain ⟨r, hr, rfl⟩ := mem_updateReq.mp hr'
    exact .inl ⟨r, hr, hcont r⟩

theorem queuePacket (s : RouterState) (msg : Message) (ip : uint32_t) (buf : RawFrame)
    (iface : IfName) : Follows now s (s.queuePacket msg ip buf iface) :=
  (queueReady s ip).trans (pushPacket ..)

theorem destroyReq (hs : WellFormed s) {r : SrArpreq} (hr : r ∈ s.reqs) (hexp : Expired now r) :
    Follows now s (s.destroyReq r.addr) := by
  refine ⟨Nat.le_refl _, List.prefix_append _ _, fun r₀ hr₀ hexp₀ => ?_, fun r' hr' => ?_⟩
  · refine ⟨r₀, (mem_destroyReq hs).mpr ⟨hr₀, fun haddr => hexp₀ ?_⟩, .refl r₀⟩
    rwa [hs.addr_inj hr₀ hr haddr]
  · exact .inl ⟨r', ((mem_destroyReq hs).mp hr').1, .refl r'⟩

end Follows

/-! ### Steps -/

theorem Move.follows (h : Move sr heap l s t) (hs : WellFormed s) : Follows l.now s t := by
  cases h with
  | alloc => exact .alloc s
  | took => exact .emit s _
  | replied => exact .emit s _
  | sent => exact .emit s _
  | stored => exact .queuePacket ..
  | asked hr _ htimes => exact (Follows.askReq hs hr fun hexp => absurd hexp.2 (by omega)).trans (.emit _ _)
  | answered => exact (Follows.alloc s).trans (.emit _ _)
  | answer_stored => exact (Follows.alloc s).trans (.queuePacket ..)
  | discarded hr hexp => exact .destroyReq hs hr hexp

theorem Path.wellFormed (h : Path sr heap l s t) (hs : WellFormed s) : WellFormed t := by
  induction h with
  | refl => exact hs
  | tail _ hmove ih => exact hmove.wellFormed ih

theorem Path.follows (h : Path sr heap l s t) (hs : WellFormed s) : Follows l.now s t := by
  induction h with
  | refl => exact .refl s
  | tail hpath hmove ih => exact ih.trans (hmove.follows (Path.wellFormed hpath hs))

variable (sr heap) in
/-- **A step that announces no mapping** loses no request that has not expired. -/
theorem step_follows (hs : WellFormed s) (hl : announced sr l = none) (fuel : Nat) :
    Follows l.now s (run_label sr heap fuel l s).2 := by
  cases run_label_stepped sr heap fuel l s hs with
  | learned hl' => simp [hl] at hl'
  | moved _ _ hpath => exact hpath.follows hs
  | @passed now s' hlabel hpath =>
    have hexpire : Follows l.now s (s.setEntries (sr_arpcache_expire s.cache.entries now)) :=
      ⟨Nat.le_refl _, List.prefix_rfl, fun r hr _ => ⟨r, hr, .refl r⟩,
        fun r hr => .inl ⟨r, hr, .refl r⟩⟩
    exact hexpire.trans (hpath.follows (hs.setEntries _))

/-- Every request goes on from one for the same IP, or is new. -/
structure Inherits (s t : RouterState) : Prop where
  brk_le : s.brk ≤ t.brk
  origin : ∀ r' ∈ t.reqs, (∃ r ∈ s.reqs, r'.addr = r.addr ∧ r'.ip = r.ip) ∨ s.brk ≤ r'.addr

namespace Inherits

theorem of_follows (h : Follows now s t) : Inherits s t where
  brk_le := h.brk_le
  origin r' hr' := by
    rcases h.origin r' hr' with ⟨r, hr, hcont⟩ | ⟨hfresh, -⟩
    · exact .inl ⟨r, hr, hcont.addr, hcont.ip⟩
    · exact .inr hfresh

theorem release (hs : WellFormed s) (sr : SrInstance) (mac : EtherAddr) (ip : uint32_t)
    (now : time_t) : Inherits s (s.release sr mac ip now) where
  brk_le := Nat.le_of_eq release_brk.symm
  origin r' hr' := .inl ⟨r', ((mem_release hs).mp hr').1, rfl, rfl⟩

theorem ask (s : RouterState) (now : time_t) (r : SrArpreq) (e : Event) :
    Inherits s ((s.askReq now r).emit e) where
  brk_le := Nat.le_refl _
  origin r' hr' := by
    obtain ⟨r₀, hr₀, rfl⟩ := mem_updateReq.mp hr'
    refine .inl ⟨r₀, hr₀, ?_, ?_⟩
    · split <;> rfl
    · split <;> rfl

end Inherits

/-- What is on the queue after a step was there before, or is new. -/
theorem step_origin (hs : WellFormed s) (fuel : Nat) (l : Label) :
    ∀ a ∈ (run_label sr heap fuel l s).2.addrs, a ∈ s.addrs ∨ s.brk ≤ a := by
  intro a ha
  obtain ⟨r', hr', rfl⟩ := List.mem_map.mp ha
  cases hl : announced sr l with
  | none =>
    rcases (step_follows sr heap hs hl fuel).origin r' hr' with ⟨r, hr, hcont⟩ | ⟨hnew, -⟩
    · exact .inl (hcont.addr ▸ List.mem_map_of_mem hr)
    · exact .inr hnew
  | some mapping =>
    rw [announce_eq hs hl fuel] at hr'
    exact .inl (List.mem_map_of_mem ((mem_release hs.alloc).mp hr').1)

namespace Sample

/-- An ARP reply that says `mac 9` for `ip`, to the interface it comes in on. -/
def arp_reply (ip : uint32_t) (ifc : SrIf) : RawFrame :=
  let e_hdr : SrEthernetHdr := ⟨ifc.addr, mac 9, htons ethertype_arp⟩
  let a_hdr : SrArpHdr :=
    { ar_hrd := htons arp_hrd_ethernet
      ar_pro := htons ethertype_ip
      ar_hln := BitVec.ofNat 8 ETHER_ADDR_LEN
      ar_pln := 4
      ar_op := htons arp_op_reply
      ar_sha := mac 9
      ar_sip := ip
      ar_tha := ifc.addr
      ar_tip := ifc.ip }
  e_hdr.toBytes ++ a_hdr.toBytes

/-- It announces the mapping. -/
example : announced net (.packet 11 (arp_reply (inet_addr 172 64 3 9)
    ⟨eth 2, mac 2, inet_addr 172 64 3 1⟩) (eth 2)) = some (mac 9, inet_addr 172 64 3 9) := by
  decide +kernel

end Sample

end SimpleRouter
