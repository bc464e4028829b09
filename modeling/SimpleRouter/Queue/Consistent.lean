import Mathlib.Data.List.Sort
import Mathlib.Data.List.TakeWhile
import SimpleRouter.Cache.Lifetime
import SimpleRouter.Queue.Follows
import SimpleRouter.Queue.Produced

/-! # Queue and cache together

    The queue of requests and the table of entries are never compared at run
    time. That no IP is in both rests on every frame being stored right after a
    failed lookup of the IP it is stored for, and on a reply taking the request
    off the queue as it fills a slot.

    * `Consistent`: the invariant.
    * `consistent_steps`: it holds in every reachable state, and requests keep
      their order.
-/

namespace SimpleRouter

open Framework Framework.Prog RouterState

variable {sr : SrInstance} {heap : Heap} {now : time_t} {s t : RouterState} {l : Label}

/-! ### The invariant -/

structure Consistent (s : RouterState) : Prop where
  wellFormed : WellFormed s
  /-- Requests lie in the order in which they were made. -/
  sorted : s.addrs.Pairwise (· < ·)
  /-- No IP is both asked for and known. -/
  unknown : ∀ r ∈ s.reqs, sr_arpcache_lookup s.cache r.ip = none
  waiting : ∀ r ∈ s.reqs, r.packets ≠ []
  frames : ∀ r ∈ s.reqs, ∀ p ∈ r.packets, IpFrame p.buf

namespace Consistent

theorem empty : Consistent RouterState.empty where
  wellFormed := .empty
  sorted := List.Pairwise.nil
  unknown r hr := by cases hr
  waiting r hr := by cases hr
  frames r hr := by cases hr

/-- Requests may go, and entries may go. -/
theorem of_sublist (h : Consistent s) (ht : WellFormed t) (hsub : t.reqs.Sublist s.reqs)
    (hlookup : ∀ r ∈ t.reqs, sr_arpcache_lookup s.cache r.ip = none →
      sr_arpcache_lookup t.cache r.ip = none) : Consistent t where
  wellFormed := ht
  sorted := h.sorted.sublist (hsub.map _)
  unknown r hr := hlookup r hr (h.unknown r (hsub.subset hr))
  waiting r hr := h.waiting r (hsub.subset hr)
  frames r hr := h.frames r (hsub.subset hr)

theorem of_same_cache (h : Consistent s) (ht : WellFormed t) (hcache : t.cache = s.cache) :
    Consistent t := by
  have hreqs : t.reqs = s.reqs := congrArg SrArpcache.requests hcache
  exact h.of_sublist ht (hreqs ▸ List.Sublist.refl _) fun _ _ hl => by rwa [hcache]

theorem marked (h : Consistent s) {req : Nat} {f : SrArpreq → SrArpreq} (hf : Marks f) :
    Consistent (s.updateReq req f) where
  wellFormed := h.wellFormed.marked hf
  sorted := by
    rw [updateReq_addrs fun r => (hf r).1]
    exact h.sorted
  unknown r' hr' := by
    obtain ⟨r, hr, -, hip, -⟩ := mem_marked hf hr'
    rw [hip]
    exact h.unknown r hr
  waiting r' hr' := by
    obtain ⟨r, hr, -, -, hpackets⟩ := mem_marked hf hr'
    rw [hpackets]
    exact h.waiting r hr
  frames r' hr' := by
    obtain ⟨r, hr, -, -, hpackets⟩ := mem_marked hf hr'
    rw [hpackets]
    exact h.frames r hr

theorem queuePacket_addrs (s : RouterState) (msg : Message) (ip : uint32_t) (buf : RawFrame)
    (iface : IfName) : (s.queuePacket msg ip buf iface).addrs = s.addrs ∨
      (s.queuePacket msg ip buf iface).addrs = s.addrs ++ [s.brk] := by
  have hpush : (s.queuePacket msg ip buf iface).addrs = (s.queueReady ip).addrs :=
    updateReq_addrs fun _ => rfl
  rw [hpush]
  unfold RouterState.queueReady
  split
  · exact .inl rfl
  · exact .inr (by simp [addrs, reqs, RouterState.appendReq])

/-- A frame is stored for an IP that was looked up in vain. -/
theorem queuePacket (h : Consistent s) {msg : Message} {ip : uint32_t} {buf : RawFrame}
    {iface : IfName} (hmiss : sr_arpcache_lookup s.cache ip = none) (hframe : IpFrame buf) :
    Consistent (s.queuePacket msg ip buf iface) where
  wellFormed := h.wellFormed.queuePacket ..
  sorted := by
    rcases queuePacket_addrs s msg ip buf iface with haddrs | haddrs
    · rw [haddrs]
      exact h.sorted
    · rw [haddrs, List.pairwise_append]
      refine ⟨h.sorted, List.pairwise_singleton _ _, fun a ha b hb => ?_⟩
      obtain ⟨r, hr, rfl⟩ := List.mem_map.mp ha
      rw [List.mem_singleton.mp hb]
      exact h.wellFormed.lt_brk hr
  unknown r' hr' := by
    rw [sr_arpcache_lookup, queuePacket_entries]
    rcases mem_queuePacket h.wellFormed hr' with hr' | ⟨r, addr, -, hip, rfl⟩
    · exact h.unknown r' hr'
    · rw [hip]
      exact hmiss
  waiting r' hr' := by
    rcases mem_queuePacket h.wellFormed hr' with hr' | ⟨r, addr, -, -, rfl⟩
    · exact h.waiting r' hr'
    · exact List.cons_ne_nil _ _
  frames r' hr' := by
    rcases mem_queuePacket h.wellFormed hr' with hr' | ⟨r, addr, hr, -, rfl⟩
    · exact h.frames r' hr'
    · refine List.forall_mem_cons.mpr ⟨hframe, ?_⟩
      rcases hr with hr | rfl
      · exact h.frames r hr
      · simp

/-- A mapping is learned as the request for it goes. -/
theorem release (h : Consistent s) (sr : SrInstance) (mac : EtherAddr) (ip : uint32_t)
    (now : time_t) : Consistent (s.release sr mac ip now) := by
  refine h.of_sublist (h.wellFormed.release sr mac ip now) ?_ fun r hr hl => ?_
  · rw [release_reqs]
    exact List.eraseP_sublist
  · exact lookup_fill release_entries ((mem_release h.wellFormed).mp hr).2 hl

end Consistent

variable (sr heap) in
theorem consistent_moves : MoveRules sr heap (fun _ => True) Consistent where
  wellFormed _ hs := hs.wellFormed
  alloc _ hs := hs.of_same_cache hs.wellFormed.alloc rfl
  release _ mac ip now hs := hs.release sr mac ip now
  expire _ _ hs := hs.of_sublist (hs.wellFormed.setEntries _) (List.Sublist.refl _)
    fun _ _ hl => lookup_expire rfl hl
  move l s s' _ hs hmove := by
    have hwf := hmove.wellFormed hs.wellFormed
    cases hmove with
    | alloc => exact hs.of_same_cache hwf rfl
    | took => exact hs.of_same_cache hwf rfl
    | replied => exact hs.of_same_cache hwf rfl
    | sent => exact hs.of_same_cache hwf rfl
    | stored _ hip hres hmiss => exact hs.queuePacket hmiss (hres.ip_frame hip)
    | asked => exact (hs.marked (marks_asked _)).of_same_cache hwf rfl
    | answered => exact hs.of_same_cache hwf rfl
    | answer_stored _ _ _ _ _ hmiss =>
      have halloc : Consistent s.alloc := hs.of_same_cache hs.wellFormed.alloc rfl
      exact halloc.queuePacket hmiss (icmp_t3_frame_ip ..)
    | discarded => exact hs.of_sublist hwf List.eraseP_sublist fun _ _ hl => hl

variable (heap) in
theorem Consistent.run_label (hs : Consistent s) (fuel : Nat) (l : Label) :
    Consistent (run_label sr heap fuel l s).2 :=
  (consistent_moves sr heap).run_label trivial hs fuel

theorem Reachable.consistent (hs : Reachable sr heap System.always s) : Consistent s :=
  (consistent_moves sr heap).reachable .empty (System.Reachable.mono (fun _ _ h => h) hs)

/-! ### The order of requests -/

/-- Of the requests of `s`, some are left, in their order; new ones come last. -/
def KeepsOrder (s s' : RouterState) : Prop :=
  ∃ kept new, s'.addrs = kept ++ new ∧ kept.Sublist s.addrs ∧ ∀ a ∈ new, s.brk ≤ a

/-- A sorted list of old and new addresses has the old ones first. -/
theorem split_sorted {old addrs : List Nat} {b : Nat} (hold : old.Pairwise (· < ·))
    (haddrs : addrs.Pairwise (· < ·)) (hmem : ∀ a ∈ addrs, a ∈ old ∨ b ≤ a) :
    ∃ kept new, addrs = kept ++ new ∧ kept.Sublist old ∧ ∀ a ∈ new, b ≤ a := by
  refine ⟨addrs.takeWhile (· < b), addrs.dropWhile (· < b), List.takeWhile_append_dropWhile.symm,
    ?_, ?_⟩
  · have hkept : (addrs.takeWhile (· < b)).Pairwise (· < ·) :=
      haddrs.sublist (List.takeWhile_sublist _)
    have hsub : addrs.takeWhile (· < b) ⊆ old := by
      intro a ha
      have hlt : a < b := by simpa using List.mem_takeWhile_imp ha
      exact (hmem a ((List.takeWhile_sublist _).subset ha)).resolve_right (by omega)
    exact List.sublist_of_subperm_of_pairwise (List.subperm_of_subset (hkept.imp Nat.ne_of_lt) hsub)
      hkept hold
  · have hnew : (addrs.dropWhile (· < b)).Pairwise (· < ·) :=
      haddrs.sublist (List.dropWhile_sublist _)
    cases hdrop : addrs.dropWhile (· < b) with
    | nil => simp
    | cons a rest =>
      have ha : ¬ a < b := by
        have hne : addrs.dropWhile (· < b) ≠ [] := by simp [hdrop]
        simpa [hdrop] using List.head_dropWhile_not (fun a => decide (a < b)) hne
      rw [hdrop, List.pairwise_cons] at hnew
      refine List.forall_mem_cons.mpr ⟨by omega, fun c hc => ?_⟩
      have := hnew.1 c hc
      omega

/-- **Queue and cache are consistent** in every reachable state: one request for each IP, no
    IP both asked for and known, at least one frame on each request, and room for an IP header
    in each frame; and no step changes the order of requests, however it ends. -/
theorem queue_and_cache_consistent (hs : Reachable sr heap System.always s) :
    (s.reqs.map (·.ip)).Nodup ∧
      (∀ r ∈ s.reqs, ∀ e ∈ s.cache.entries, ¬ (e.valid ∧ e.ip = r.ip)) ∧
      (∀ r ∈ s.reqs, r.packets ≠ [] ∧ ∀ p ∈ r.packets,
        has_ether_type p.buf ethertype_ip ∧
          SrEthernetHdr.size + SrIpHdr.size ≤ p.buf.length) ∧
      ∀ l fuel, KeepsOrder s (run_label sr heap fuel l s).2 := by
  have hcons := Reachable.consistent hs
  refine ⟨hcons.wellFormed.ip_nodup, fun r hr e he => ?_, fun r hr => ⟨hcons.waiting r hr, ?_⟩, ?_⟩
  · obtain ⟨k, hk, rfl⟩ := Vector.getElem_of_mem he
    exact lookup_none.mp (hcons.unknown r hr) ⟨k, hk⟩
  · intro p hp
    have hframe := hcons.frames r hr p hp
    exact ⟨hframe.has_ether_type, hframe.length⟩
  · intro l fuel
    exact split_sorted hcons.sorted (hcons.run_label heap fuel l).sorted
      (step_origin hcons.wellFormed fuel l)

namespace Sample

/-- Two packets on their last hop wait for one neighbour. -/
theorem two_waiting_consistent : ∃ s : RouterState, (∃ r ∈ s.reqs, r.packets.length = 2) ∧
    (s.reqs.map (·.ip)).Nodup ∧
    (∀ r ∈ s.reqs, ∀ e ∈ s.cache.entries, ¬ (e.valid ∧ e.ip = r.ip)) ∧
    (∀ r ∈ s.reqs, r.packets ≠ [] ∧ ∀ p ∈ r.packets,
      has_ether_type p.buf ethertype_ip ∧
        SrEthernetHdr.size + SrIpHdr.size ≤ p.buf.length) ∧
    ∀ l fuel, KeepsOrder s (run_label net mem fuel l s).2 := by
  let packet := ip_frame (inet_addr 172 64 3 9) (inet_addr 192 168 2 7) 1 17 []
  exact ⟨(run 20 [.packet 10 packet (eth 2), .packet 11 packet (eth 2)]).2, by decide +kernel,
    queue_and_cache_consistent (run_reachable (by decide +kernel))⟩

end Sample

end SimpleRouter
