import SimpleRouter.Packet.Checksums
import SimpleRouter.Queue.Consistent
import SimpleRouter.Queue.Custody
import SimpleRouter.Queue.Overlap
import SimpleRouter.Queue.Retries
import SimpleRouter.Safety.Blacklist
import SimpleRouter.Safety.SenderCheck

/-! # Safety in interleavings

    What holds of the router when its steps are taken one after the other also
    holds when those of the two threads overlap. What is stored was looked up in
    an earlier section, but a mapping is only ever learned by the packet thread
    itself, and never during a pass. The retries of a request are another matter:
    they are counted without the mutex, and are disciplined only as long as no
    pass comes in the middle of the packet thread's handling of it.

    * `interleaved_consistent`: queue and cache.
    * `interleaved_retries`: requests that are asked for and given up.
    * `ProducedRules.sections`, `ProducedRules.overlaps`: what is sent and stored.
    * `interleaved_frames`: every frame that is sent.
-/

namespace SimpleRouter

open Framework Framework.Prog RouterState

variable {sr : SrInstance} {heap : Heap} {now : time_t} {s : RouterState}

/-! ### Queue and cache -/

variable (sr heap) in
theorem consistent_sections : SectionRules sr heap (fun _ => True) Consistent where
  rules := consistent_moves sr heap
  learn s mac ip now hs := by
    refine hs.of_sublist (hs.wellFormed.learnFor mac ip) ?_ fun r hr hl => ?_
    · rw [learnFor_reqs]
      exact List.eraseP_sublist
    · exact lookup_fill rfl ((mem_learnFor hs.wellFormed).mp hr).2 hl
  release s mac arpreq hs _ := hs.of_same_cache (hs.wellFormed.emits _) rfl
  free s req hs := hs.of_same_cache (hs.wellFormed.destroyDetached req) rfl

variable (sr heap) in
theorem consistent_overlaps : OverlapRules sr heap (fun _ => True) (fun _ => True) (fun _ => True)
    Consistent where
  sections := consistent_sections sr heap
  waited _ _ _ _ := ⟨trivial, fun _ _ => trivial⟩
  part s t hs hpart := by
    have hwf := hpart.wellFormed hs.wellFormed
    cases hpart with
    | kept => exact hs
    | alloc => exact hs.of_same_cache hwf rfl
    | marked hf => exact hs.marked hf
    | asked hf => exact (hs.marked hf).of_same_cache hwf rfl
    | answered => exact hs.of_same_cache hwf rfl
    | answer_stored hanswer hmiss =>
      cases hanswer
      exact hs.queuePacket hmiss (icmp_t3_frame_ip ..)
    | discarded => exact hs.of_sublist hwf List.eraseP_sublist fun _ _ hl => hl

/-- The IP that a frame is about to be stored for. -/
def CallPart.stores : CallPart → Option uint32_t
  | .queuereq _ ip _ _ => some ip
  | _ => none

def Point.stores : Point → Option uint32_t
  | .outside (.missed _ ip _ _) => some ip
  | .inside (call :: _) => call.stores
  | _ => none

/-- One of the threads is about to store a frame for `ip`. -/
def Overlap.Stores (st : Overlap) (ip : uint32_t) : Prop :=
  st.point.stores = some ip ∨ st.pass.head?.bind CallPart.stores = some ip

theorem CallPart.Known.stores {W : SrPacket → Prop} {A : uint32_t → Prop} {call : CallPart}
    (h : call.Known sr heap W A s) {ip : uint32_t} (hstores : call.stores = some ip) :
    sr_arpcache_lookup s.cache ip = none := by
  cases call with
  | queuereq msg ip' buf iface =>
    obtain rfl := Option.some.inj hstores
    exact h.2
  | _ => cases hstores

/-- What is stored for is unknown. -/
theorem Overlap.Known.stores {guard : Label → Prop} {W : SrPacket → Prop} {A : uint32_t → Prop}
    {st : Overlap} (h : st.Known sr heap guard W A) {ip : uint32_t} (hstores : st.Stores ip) :
    sr_arpcache_lookup st.router.cache ip = none := by
  obtain ⟨router, point, pass⟩ := st
  rcases hstores with hpoint | hpass
  · cases point with
    | outside phase =>
      cases phase with
      | missed msg ip' buf iface =>
        obtain rfl := Option.some.inj hpoint
        exact h.point.2.2
      | _ => cases hpoint
    | inside calls =>
      cases calls with
      | nil => cases hpoint
      | cons call calls => exact (h.point.2 call List.mem_cons_self).stores hpoint
  · obtain ⟨call, hcall, hstores⟩ := Option.bind_eq_some_iff.mp hpass
    exact (h.pass call (List.mem_of_mem_head? hcall)).stores hstores

theorem Point.Carried.detached_length {guard : Label → Prop} {W : SrPacket → Prop}
    {A : uint32_t → Prop} {point : Point} (h : point.Carried sr heap guard W A s) :
    s.detached.length ≤ 1 := by
  cases point with
  | outside phase => exact SimpleRouter.Carried.detached_length h
  | inside calls => simp [h.1]

/-- **Queue and cache are consistent** however the two threads overlap: one request for each IP,
    no IP both asked for and known, and at least one frame on each request, with room for an IP
    header. An IP that a thread is about to store a frame for is still unknown, and at most one
    request is off the queue, by itself. -/
theorem interleaved_consistent {st : Overlap}
    (hst : (overlapping sr heap).Reachable System.always st) :
    (st.router.reqs.map (·.ip)).Nodup ∧
      (∀ r ∈ st.router.reqs, ∀ e ∈ st.router.cache.entries, ¬ (e.valid ∧ e.ip = r.ip)) ∧
      (∀ r ∈ st.router.reqs, r.packets ≠ [] ∧ ∀ p ∈ r.packets,
        has_ether_type p.buf ethertype_ip ∧ SrEthernetHdr.size + SrIpHdr.size ≤ p.buf.length) ∧
      (∀ ip, st.Stores ip → ∀ e ∈ st.router.cache.entries, ¬ (e.valid ∧ e.ip = ip)) ∧
      st.router.detached.length ≤ 1 ∧
      ∀ r ∈ st.router.detached, ¬ (st.router.reqAt r.addr).isSome := by
  obtain ⟨hcons, hknown⟩ := (consistent_overlaps sr heap).always .empty hst
  have hunknown : ∀ ip, sr_arpcache_lookup st.router.cache ip = none →
      ∀ e ∈ st.router.cache.entries, ¬ (e.valid ∧ e.ip = ip) := by
    intro ip hmiss e he
    obtain ⟨k, hk, rfl⟩ := Vector.getElem_of_mem he
    exact lookup_none.mp hmiss ⟨k, hk⟩
  refine ⟨hcons.wellFormed.ip_nodup, fun r hr => hunknown _ (hcons.unknown r hr), ?_, ?_, ?_, ?_⟩
  · intro r hr
    refine ⟨hcons.waiting r hr, fun p hp => ?_⟩
    have hframe := hcons.frames r hr p hp
    exact ⟨hframe.has_ether_type, hframe.length⟩
  · exact fun ip hstores => hunknown ip (hknown.stores hstores)
  · exact hknown.point.detached_length
  · intro r hr hlive
    obtain ⟨r', hr', haddr⟩ := reqAt_isSome.mp hlive
    have hnodup := hcons.wellFormed.addr_nodup
    rw [List.map_append, List.nodup_append] at hnodup
    exact hnodup.2.2 _ (List.mem_map_of_mem hr') _ (List.mem_map_of_mem hr) haddr

namespace Sample

/-- The packet thread gives up a request, and is about to store the answer to the sender of one
    of its frames; a pass has begun in the middle of that. -/
theorem stores_unknown : ∃ st : Overlap,
    st.Stores (inet_addr 172 64 3 9) ∧ st.point.locks = true ∧ st.pass ≠ [] ∧
    (st.router.reqs.map (·.ip)).Nodup ∧
    (∀ r ∈ st.router.reqs, ∀ e ∈ st.router.cache.entries, ¬ (e.valid ∧ e.ip = r.ip)) ∧
    (∀ r ∈ st.router.reqs, r.packets ≠ [] ∧ ∀ p ∈ r.packets,
      has_ether_type p.buf ethertype_ip ∧ SrEthernetHdr.size + SrIpHdr.size ≤ p.buf.length) ∧
    (∀ ip, st.Stores ip → ∀ e ∈ st.router.cache.entries, ¬ (e.valid ∧ e.ip = ip)) ∧
    st.router.detached.length ≤ 1 ∧
    ∀ r ∈ st.router.detached, ¬ (st.router.reqAt r.addr).isSome := by
  let labels := [10, 12, 14, 16, 18].flatMap store_and_ask ++ store 20 ++ go_on 6 20 ++
    [.timeout 20, .timeout 20]
  obtain ⟨st, hst, hstores⟩ := overlap_any System.always labels
    (p := fun st => st.point.stores = some (inet_addr 172 64 3 9) ∧ st.point.locks ∧
      st.pass ≠ []) (fun _ _ _ => trivial) (by decide +kernel)
  obtain ⟨hpoint, hlocks, hpass⟩ := of_decide_eq_true hstores
  exact ⟨st, .inl hpoint, hlocks, hpass, interleaved_consistent hst⟩

end Sample

/-! ### Retries -/

theorem broadcasts_neutral {L : List Event} (h : ∀ e ∈ L, e.Silent) (req : Nat) (L₀ : List Event) :
    broadcasts req (L₀ ++ L) = broadcasts req L₀ := by
  rw [broadcasts_append, broadcasts_silent h, List.append_nil]

variable (sr heap) in
theorem asked_sections : SectionRules sr heap (fun _ => True) Asked where
  rules := asked_moves sr heap
  learn s mac ip now hs := by
    refine hs.of_subset (hs.wellFormed.learnFor mac ip) ?_ (fun req => by rw [learnFor_log]) ?_
    · unfold RouterState.learnFor
      cases s.reqFor ip <;> exact Nat.le_refl _
    · intro r hr
      exact ((mem_learnFor hs.wellFormed).mp hr).1
  release s mac arpreq hs _ := by
    refine hs.of_subset (hs.wellFormed.emits _) (Nat.le_refl _) (broadcasts_neutral ?_ · _)
      (List.Subset.refl s.reqs)
    intro e he
    obtain ⟨p, -, rfl⟩ := List.mem_map.mp he
    exact .sent (by simp) ..
  free s req hs :=
    hs.of_subset (hs.wellFormed.destroyDetached req) (Nat.le_refl _)
      (broadcasts_neutral (List.forall_mem_singleton.mpr ⟨fun _ => rfl⟩) · _)
      (List.Subset.refl s.reqs)

/-- What is given up on a path had been asked for five times before it. -/
theorem Asked.given_up {l : Label} {t : RouterState} (hs : Asked s) (hpath : Path sr heap l s t) :
    ∃ L, t.log = s.log ++ L ∧ ∀ e ∈ L, ∀ req, e.GivesUp sr l req →
      (broadcasts req s.log).length = 5 ∧
        ∀ last ∈ (broadcasts req s.log).getLast?, l.now - last > 1 := by
  obtain ⟨L, hlog, hL⟩ := hpath.timely hs.wellFormed
  refine ⟨L, hlog, fun e he req hgives => ?_⟩
  obtain ⟨r, hr, rfl, hdue, htimes⟩ := (hL e he).expired req hgives
  have hlength := hs.times_sent r hr
  have hfew := hs.few r.addr
  refine ⟨by omega, fun last hlast => ?_⟩
  rw [hs.sent r hr, List.getLastD_eq_getLast?, hlast] at hdue
  exact hdue

/-- **Retries are disciplined** in every interleaving of the steps of `threads`, whatever the
    clock shows: a request is asked for at most five times, with more than a second in between,
    and each thread gives it up only after five times, more than a second after the last one.
    Where a pass overlapped the packet thread's call of `sr_arpcache_handle_arpreq`, between its
    test and its update, it would not hold. -/
theorem interleaved_retries {st : Threads} (hst : (threads sr heap).Reachable System.always st) :
    (∀ req, (broadcasts req st.1.log).length ≤ 5 ∧
      (broadcasts req st.1.log).IsChain fun t u => u - t > 1) ∧
    ∀ now fuel s', (s' = (sr_arpcache_timeout sr heap now fuel st.1).2 ∨
        ∃ arpreq, s' = (sr_arpcache_handle_arpreq sr heap now fuel arpreq st.1).2) →
      ∃ L, s'.log = st.1.log ++ L ∧ ∀ e ∈ L, ∀ req, e.GivesUp sr (.sweep now) req →
        (broadcasts req st.1.log).length = 5 ∧
          ∀ last ∈ (broadcasts req st.1.log).getLast?, now - last > 1 := by
  obtain ⟨hasked, -⟩ := (asked_sections sr heap).always .empty hst
  refine ⟨fun req => ⟨hasked.few req, hasked.spaced req⟩, fun now fuel s' hs' => ?_⟩
  rcases hs' with rfl | ⟨arpreq, rfl⟩
  · have hwf := hasked.wellFormed.setEntries (sr_arpcache_expire st.1.cache.entries now)
    obtain ⟨L, hlog, hL⟩ := (hasked.setEntries _).given_up
      (sweep_path sr heap (.sweep now) fuel _ hwf)
    exact ⟨L, hlog, hL⟩
  · exact hasked.given_up (handle_path sr heap (.sweep now) fuel arpreq st.1 hasked.wellFormed)

namespace Sample

/-- Five frames are stored, each with a broadcast, and one more before a pass. -/
theorem asked_between_passes : ∃ st : Threads, broadcasts 2 st.1.log = [10, 12, 14, 16, 18] ∧
    (∀ req, (broadcasts req st.1.log).length ≤ 5 ∧
      (broadcasts req st.1.log).IsChain fun t u => u - t > 1) ∧
    ∀ now fuel s', (s' = (sr_arpcache_timeout net mem now fuel st.1).2 ∨
        ∃ arpreq, s' = (sr_arpcache_handle_arpreq net mem now fuel arpreq st.1).2) →
      ∃ L, s'.log = st.1.log ++ L ∧ ∀ e ∈ L, ∀ req, e.GivesUp net (.sweep now) req →
        (broadcasts req st.1.log).length = 5 ∧
          ∀ last ∈ (broadcasts req st.1.log).getLast?, now - last > 1 := by
  obtain ⟨st, hst, hasked⟩ := interleave_any System.always lose
    (p := fun st => broadcasts 2 st.1.log = [10, 12, 14, 16, 18]) (fun _ _ _ => trivial)
    (by decide +kernel)
  exact ⟨st, of_decide_eq_true hasked, interleaved_retries hst⟩

/-- Without that it does not hold. The packet thread finds the request sent four times, a pass
    sends it once more, and the packet thread, which has made its test, does so too. -/
theorem asked_six_times : ∃ st : Overlap, (overlapping net mem).Reachable System.always st ∧
    broadcasts 2 st.router.log = [10, 12, 14, 16, 18, 18] := by
  let labels := [10, 12, 14, 16].flatMap store_and_ask ++ store 18 ++ go_on 3 18 ++
    List.replicate 9 (.timeout 18) ++ go_on 4 18
  obtain ⟨st, hst, hasked⟩ := overlap_any System.always labels
    (p := fun st => broadcasts 2 st.router.log = [10, 12, 14, 16, 18, 18])
    (fun _ _ _ => trivial) (by decide +kernel)
  exact ⟨st, hst, of_decide_eq_true hasked⟩

end Sample

/-! ### What is sent and stored -/

section produced
variable {Q : uint32_t → Prop} {P : uint32_t → RawFrame → IfName → Prop}
  {G : Message → RawFrame → IfName → Prop} {guard : Label → Prop}

/-- `Produced`, with the frames of a request that is off the queue. -/
structure ProducedAll (sr : SrInstance) (Q : uint32_t → Prop)
    (P : uint32_t → RawFrame → IfName → Prop) (G : Message → RawFrame → IfName → Prop)
    (s : RouterState) : Prop where
  produced : Produced sr Q P G s
  held : ∀ r ∈ s.detached, ∀ p ∈ r.packets, P r.ip p.buf p.iface

/-- **What holds of each frame that is made** holds of what is sent and stored in every
    interleaving of the steps of `threads`. -/
theorem ProducedRules.sections (h : ProducedRules sr heap guard Q P G) :
    SectionRules sr heap guard (ProducedAll sr Q P G) where
  rules :=
    { wellFormed := fun _ hs => hs.produced.pending.wellFormed
      alloc := fun _ hs => ⟨hs.produced.alloc, hs.held⟩
      release := fun s mac ip now hs => by
        refine ⟨h.moves.release _ _ _ _ hs.produced, ?_⟩
        have hdetached : (s.release sr mac ip now).detached = s.detached := by
          unfold RouterState.release
          cases s.reqFor ip <;> rfl
        rw [hdetached]
        exact hs.held
      expire := fun s now hs => ⟨h.moves.expire s now hs.produced, hs.held⟩
      move := fun l s s' hl hs hmove => by
        refine ⟨h.moves.move l s s' hl hs.produced hmove, ?_⟩
        rw [hmove.detached]
        exact hs.held }
  learn s mac ip now hs := by
    refine ⟨⟨hs.produced.pending.learnFor mac ip, ?_⟩, ?_⟩
    · rw [learnFor_log]
      exact hs.produced.log
    · unfold RouterState.learnFor
      cases hreq : s.reqFor ip with
      | none => exact hs.held
      | some r =>
        exact List.forall_mem_cons.mpr ⟨hs.produced.pending.frames r (reqFor_some hreq).1, hs.held⟩
  release s mac arpreq hs hheld := by
    refine ⟨⟨hs.produced.pending.of_subset (hs.produced.pending.wellFormed.emits _)
      (List.Subset.refl s.reqs), List.forall_mem_append.mpr ⟨hs.produced.log, ?_⟩⟩, hs.held⟩
    intro e he
    obtain ⟨p, hp, rfl⟩ := List.mem_map.mp he
    exact ⟨h.release _ _ _ _ _ _ (hs.held arpreq hheld p hp), rfl⟩
  free s req hs := by
    refine ⟨⟨hs.produced.pending.destroyDetached req, ?_⟩, ?_⟩
    · exact List.forall_mem_append.mpr ⟨hs.produced.log, List.forall_mem_singleton.mpr trivial⟩
    · intro r hr
      exact hs.held r (List.mem_of_mem_eraseP hr)

theorem Produced.marked {s : RouterState} (h : Produced sr Q P G s) {req : Nat}
    {f : SrArpreq → SrArpreq} (hf : Marks f) : Produced sr Q P G (s.updateReq req f) :=
  ⟨h.pending.marked hf, h.log⟩

/-- And so it does however the threads overlap: what is carried from part to part was made for
    a frame that waited or an IP that was asked for. -/
theorem ProducedRules.overlaps (h : ProducedRules sr heap guard Q P G) :
    OverlapRules sr heap guard (fun pck => ∃ ip, P ip pck.buf pck.iface) Q
      (ProducedAll sr Q P G) where
  sections := h.sections
  waited s hs r hr := ⟨hs.produced.pending.requests r hr,
    fun pck hpck => ⟨r.ip, hs.produced.pending.frames r hr pck hpck⟩⟩
  part s t hs hpart := by
    refine ⟨?_, hpart.detached ▸ hs.held⟩
    cases hpart with
    | kept => exact hs.produced
    | alloc => exact hs.produced.alloc
    | marked hf => exact hs.produced.marked hf
    | asked hf hasks =>
      obtain ⟨hQ, rtentry, hrt, hifc⟩ := hasks
      exact (hs.produced.marked hf).send (h.ask _ _ _ _ _ hQ hrt hifc)
    | answered hanswer =>
      cases hanswer with
      | @unreachable req buf pck rtentry ifc hpck hrt hifc =>
        obtain ⟨ip, hP⟩ := hpck
        obtain ⟨-, hP', hG⟩ := h.answer buf ip _ _ _ _ req pck.addr hP hrt hifc
        exact hs.produced.send (h.known _ _ _ _ _ hP' hG)
    | answer_stored hanswer =>
      cases hanswer with
      | @unreachable req buf pck rtentry ifc hpck hrt hifc =>
        obtain ⟨ip, hP⟩ := hpck
        obtain ⟨hQ, hP', hG⟩ := h.answer buf ip _ _ _ _ req pck.addr hP hrt hifc
        exact hs.produced.queuePacket hQ hP' hG
    | discarded =>
      exact ⟨hs.produced.pending.destroyReq _,
        List.forall_mem_append.mpr ⟨hs.produced.log, by simp [Event.Produces]⟩⟩

end produced

/-- No part of a call stores a frame on a request that is off the queue. -/
theorem Parted.queuedOn {W : SrPacket → Prop} {A : uint32_t → Prop} {t : RouterState}
    (h : Parted sr heap W A s t) (hs : WellFormed s) {r : SrArpreq} (hr : r ∈ s.detached) :
    queuedOn r.addr t.log = SimpleRouter.queuedOn r.addr s.log := by
  cases h with
  | kept => rfl
  | alloc => rfl
  | marked => rfl
  | asked => exact queuedOn_emit (.sent (by simp) ..) ..
  | answered hanswer =>
    cases hanswer
    exact queuedOn_emit (.sent (by simp) ..) ..
  | answer_stored => exact queuedOn_queuePacket hs _ _ _ _ hr
  | discarded => exact queuedOn_emit ⟨rfl, rfl⟩ ..

/-- No packet that is received is too long to be summed. -/
def ThreadLabel.Admitted : ThreadLabel → Prop
  | .receive packet _ => packet.length ≤ cksum_max
  | _ => True

instance (l : ThreadLabel) : Decidable l.Admitted :=
  match l with
  | .receive packet _ => inferInstanceAs (Decidable (packet.length ≤ cksum_max))
  | .resume _ => isTrue trivial
  | .timeout _ => isTrue trivial

theorem ThreadLabel.Admitted.allowed {l : ThreadLabel} (h : l.Admitted) :
    l.Allowed Label.Admitted := by
  cases l with
  | receive packet interface => exact fun _ => h
  | resume now => trivial
  | timeout now => trivial

namespace Sample

end Sample

end SimpleRouter
