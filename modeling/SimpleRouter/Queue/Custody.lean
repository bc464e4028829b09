import SimpleRouter.Queue.Sections

/-! # Every stored frame is accounted for between the threads

    Between taking a request off the queue and sending its frames, the packet
    thread has them to itself, and passes of the timeout thread come in between.
    The log and the queue alone do not tell where such a frame is; with the
    phase they do.

    * `Custody`: the ledger, with the request that is off the queue.
    * `every_frame_in_one_place`: after every step of `threads` a stored frame
      waits, is held, was sent once, or was dropped.
-/

namespace SimpleRouter

open Framework Framework.Prog RouterState Relation

variable {sr : SrInstance} {heap : Heap} {now : time_t} {s t : RouterState} {l : Label}

/-! ### The ledger -/

structure Custody (s : RouterState) : Prop where
  ledger : Ledger s
  /-- The frames of a request off the queue are those that were stored on it. -/
  held : ∀ r ∈ s.detached, r.packets = (queuedOn r.addr s.log).reverse

/-- A frame is stored on a request that is on the queue. -/
theorem queueTarget_ne (h : WellFormed s) (ip : uint32_t) {r : SrArpreq} (hr : r ∈ s.detached) :
    s.queueTarget ip ≠ r.addr := by
  unfold RouterState.queueTarget
  cases hreq : s.reqFor ip with
  | none =>
    have hlt := h.addr_lt r (List.mem_append_right _ hr)
    exact Nat.ne_of_gt hlt
  | some r' =>
    have hnodup := h.addr_nodup
    rw [List.map_append, List.nodup_append] at hnodup
    exact hnodup.2.2 _ (List.mem_map_of_mem (reqFor_some hreq).1) _ (List.mem_map_of_mem hr)

theorem queuedOn_emit {e : Event} (he : e.Neutral) (req : Nat) (L : List Event) :
    queuedOn req (L ++ [e]) = queuedOn req L := by
  rw [queuedOn, he.queuedFrames, queuedOn]

theorem queuedOn_queuePacket (h : WellFormed s) (msg : Message) (ip : uint32_t) (buf : RawFrame)
    (iface : IfName) {r : SrArpreq} (hr : r ∈ s.detached) :
    queuedOn r.addr (s.queuePacket msg ip buf iface).log = queuedOn r.addr s.log := by
  have hne := queueTarget_ne h ip hr
  rw [queuePacket_log, queuedOn, queuedFrames_append, List.filterMap_append, queuedOn]
  simp [queuedFrames, Event.queuedFrame, hne]

/-- No change stores a frame on a request that is off the queue. -/
theorem Move.queuedOn (h : Move sr heap l s t) (hs : WellFormed s) {r : SrArpreq}
    (hr : r ∈ s.detached) : queuedOn r.addr t.log = queuedOn r.addr s.log := by
  cases h with
  | alloc => rfl
  | took => exact queuedOn_emit ⟨rfl, rfl⟩ ..
  | replied => exact queuedOn_emit (.sent (by simp) ..) ..
  | sent _ _ hres => exact queuedOn_emit (.sent_forPacket hres.forPacket ..) ..
  | stored => exact queuedOn_queuePacket hs _ _ _ _ hr
  | asked => exact queuedOn_emit (.sent (by simp) ..) ..
  | answered => exact queuedOn_emit (.sent (by simp) ..) ..
  | answer_stored => exact queuedOn_queuePacket hs.alloc _ _ _ _ hr
  | discarded => exact queuedOn_emit ⟨rfl, rfl⟩ ..

namespace Custody

theorem empty : Custody RouterState.empty := ⟨.empty, fun r hr => by cases hr⟩

/-- The frames of a request that is off the queue, among those that were stored. -/
theorem mem_held (h : Custody s) {r : SrArpreq} (hr : r ∈ s.detached) {pck : SrPacket} :
    pck ∈ r.packets ↔ (r.addr, pck) ∈ queuedFrames s.log := by
  rw [h.held r hr, List.mem_reverse, mem_queuedOn]

/-- Releasing the frames of a request stores none. -/
theorem release_queuedFrames (sr : SrInstance) (mac : EtherAddr) (r : SrArpreq) (L : List Event) :
    queuedFrames (L ++ release_events sr mac r) = queuedFrames L := by
  have hnone : queuedFrames (release_events sr mac r) = [] := by
    rw [queuedFrames, List.filterMap_eq_nil_iff]
    intro e he
    obtain ⟨p, -, rfl⟩ := List.mem_map.mp he
    rfl
  rw [queuedFrames_append, hnone, List.append_nil]

end Custody

variable (sr heap) in
theorem custody_sections : SectionRules sr heap (fun _ => True) Custody where
  rules :=
    { wellFormed := fun _ hs => hs.ledger.wellFormed
      alloc := fun _ hs => ⟨hs.ledger.alloc, hs.held⟩
      release := fun s mac ip now hs => by
        refine ⟨hs.ledger.release sr mac ip now, fun r hr => ?_⟩
        have hdetached : (s.release sr mac ip now).detached = s.detached := by
          unfold RouterState.release
          cases s.reqFor ip <;> rfl
        rw [queuedOn, Ledger.release_queuedFrames]
        exact hs.held r (hdetached ▸ hr)
      expire := fun _ _ hs => ⟨hs.ledger.setEntries _, hs.held⟩
      move := fun l s t hl hs hmove => by
        refine ⟨(ledger_moves sr heap).move l s t hl hs.ledger hmove, fun r hr => ?_⟩
        rw [hmove.detached] at hr
        rw [hmove.queuedOn hs.ledger.wellFormed hr]
        exact hs.held r hr }
  learn s mac ip now hs := by
    have hwf : WellFormed (s.learnFor mac ip now) := hs.ledger.wellFormed.learnFor mac ip
    unfold RouterState.learnFor at hwf ⊢
    cases hreq : s.reqFor ip with
    | none => exact ⟨hs.ledger.setEntries _, hs.held⟩
    | some r =>
      rw [hreq] at hwf
      refine ⟨hs.ledger.of_subset hwf (Nat.le_refl _) List.eraseP_subset rfl
        fun _ _ _ _ _ he => .inl he, ?_⟩
      exact List.forall_mem_cons.mpr ⟨hs.ledger.packets r (reqFor_some hreq).1, hs.held⟩
  release s mac arpreq hs hheld := by
    have hsame := Custody.release_queuedFrames sr mac arpreq s.log
    refine ⟨hs.ledger.of_subset (hs.ledger.wellFormed.emits _) (Nat.le_refl _)
      (List.Subset.refl s.reqs) hsame ?_, fun r hr => ?_⟩
    · intro req pck buf iface accepted he
      rcases List.mem_append.mp he with he | he
      · exact .inl he
      · obtain ⟨p, hp, heq⟩ := List.mem_map.mp he
        simp only [Event.sent.injEq, Message.released.injEq] at heq
        obtain ⟨⟨rfl, rfl⟩, rfl, rfl, -⟩ := heq
        exact .inr ⟨p, (hs.mem_held hheld).mp hp, rfl, rfl, mac, rfl⟩
    · show _ = (queuedOn r.addr (s.log ++ release_events sr mac arpreq)).reverse
      rw [queuedOn, hsame]
      exact hs.held r hr
  free s req hs := by
    have hneutral : (Event.destroyed req).Neutral := ⟨rfl, rfl⟩
    refine ⟨?_, fun r hr => ?_⟩
    · refine hs.ledger.of_subset (hs.ledger.wellFormed.destroyDetached req) (Nat.le_refl _)
        (List.Subset.refl s.reqs) (hneutral.queuedFrames _) fun _ _ _ _ _ he => .inl ?_
      rcases List.mem_append.mp he with he | he
      · exact he
      · cases List.mem_singleton.mp he
    · show _ = (queuedOn r.addr (s.log ++ [.destroyed req])).reverse
      rw [queuedOn_emit hneutral]
      exact hs.held r (List.mem_of_mem_eraseP hr)

/-! ### Where a stored frame is -/

/-- A reply to the packet thread has taken the request off the queue. -/
def TakenOff (sr : SrInstance) (τ : List (System.Taken Threads ThreadLabel)) (mac : EtherAddr)
    (arpreq : SrArpreq) : Prop :=
  ∃ x ∈ τ, x.before.2 = .learning mac arpreq.ip ∧ arpreq ∈ x.before.1.reqs ∧
    x.after.2 = .releasing mac arpreq ∧
    ∃ packet interface, ∀ now,
      announced sr (.packet now packet interface) = some (mac, arpreq.ip)

/-- The packet thread is about to send the frame. -/
structure Held (sr : SrInstance) (τ : List (System.Taken Threads ThreadLabel)) (st : Threads)
    (req : Nat) (pck : SrPacket) : Prop where
  request : ∃ mac arpreq, st.2 = .releasing mac arpreq ∧ arpreq.addr = req ∧
    arpreq.packets.count pck = 1 ∧ TakenOff sr τ mac arpreq
  unsent : deliveries pck.addr st.1.log = []

/-- The frame was sent once, to the address that a reply for its request announced. -/
structure SentOnce (sr : SrInstance) (τ : List (System.Taken Threads ThreadLabel)) (st : Threads)
    (req : Nat) (pck : SrPacket) : Prop where
  reply : ∃ mac arpreq, TakenOff sr τ mac arpreq ∧ arpreq.addr = req ∧ pck ∈ arpreq.packets ∧
    deliveries pck.addr st.1.log = [delivery sr mac req pck]
  gone : ¬ (st.1.reqAt req).isSome
  notHeld : ∀ mac arpreq, st.2 = .releasing mac arpreq → arpreq.addr ≠ req

/-- The frame was never sent: its request was given up after five tries. -/
structure GivenUp (τ : List (System.Taken Threads ThreadLabel)) (st : Threads) (req : Nat)
    (pck : SrPacket) : Prop where
  discard : ∃ x ∈ τ, ∃ now, (x.label = .resume now ∨ x.label = .timeout now) ∧
    ∃ r ∈ x.before.1.reqs, r.addr = req ∧ Expired now r ∧ .destroyed req ∈ x.after.1.log
  unsent : deliveries pck.addr st.1.log = []
  gone : ∀ r ∈ st.1.reqs ++ st.1.detached, r.addr ≠ req

/-- What has become of a frame so far. -/
abbrev Placed (sr : SrInstance) (τ : List (System.Taken Threads ThreadLabel)) (st : Threads)
    (req : Nat) (pck : SrPacket) : Prop :=
  Waits st.1 req pck ∨ Held sr τ st req pck ∨ SentOnce sr τ st req pck ∨ GivenUp τ st req pck

variable {τ : List (System.Taken Threads ThreadLabel)} {x : System.Taken Threads ThreadLabel}
  {phase phase' : Phase} {req : Nat} {pck : SrPacket}

theorem TakenOff.step {mac : EtherAddr} {arpreq : SrArpreq} (h : TakenOff sr τ mac arpreq)
    (x : System.Taken Threads ThreadLabel) : TakenOff sr (τ ++ [x]) mac arpreq := by
  obtain ⟨y, hy, hrest⟩ := h
  exact ⟨y, List.mem_append_left _ hy, hrest⟩

theorem SentOnce.step (h : SentOnce sr τ (s, phase) req pck)
    (hlog : deliveries pck.addr t.log = deliveries pck.addr s.log)
    (hgone : ¬ (t.reqAt req).isSome)
    (hheld : ∀ mac arpreq, phase' = .releasing mac arpreq → arpreq.addr ≠ req) :
    SentOnce sr (τ ++ [x]) (t, phase') req pck := by
  obtain ⟨mac, arpreq, htaken, haddr, hpck, hsent⟩ := h.reply
  exact ⟨⟨mac, arpreq, htaken.step x, haddr, hpck, hlog.trans hsent⟩, hgone, hheld⟩

theorem GivenUp.step (h : GivenUp τ (s, phase) req pck)
    (hlog : deliveries pck.addr t.log = deliveries pck.addr s.log)
    (hgone : ∀ r ∈ t.reqs ++ t.detached, r.addr ≠ req) :
    GivenUp (τ ++ [x]) (t, phase') req pck := by
  obtain ⟨y, hy, hrest⟩ := h.discard
  exact ⟨⟨y, List.mem_append_left _ hy, hrest⟩, hlog.trans h.unsent, hgone⟩

theorem GivenUp.not_live (h : GivenUp τ (s, phase) req pck) : ¬ (s.reqAt req).isSome := by
  intro hlive
  obtain ⟨r, hr, haddr⟩ := reqAt_isSome.mp hlive
  exact h.gone r (List.mem_append_left _ hr) haddr

/-- Of the four, at most one. -/
theorem Placed.exclusive (hs : WellFormed s) (hc : Carried sr heap (fun _ => True) s phase) :
    [Waits s req pck, Held sr τ (s, phase) req pck, SentOnce sr τ (s, phase) req pck,
      GivenUp τ (s, phase) req pck].Pairwise fun p q => ¬ (p ∧ q) := by
  have hheld : Held sr τ (s, phase) req pck → ∃ r ∈ s.detached, r.addr = req := by
    intro h
    obtain ⟨mac, arpreq, hphase, haddr, -⟩ := h.request
    obtain rfl : phase = .releasing mac arpreq := hphase
    have hdetached : s.detached = [arpreq] := hc
    exact ⟨arpreq, by simp [hdetached], haddr⟩
  have hoff : ∀ r ∈ s.detached, ¬ (s.reqAt r.addr).isSome := by
    intro r hr hlive
    obtain ⟨r', hr', haddr⟩ := reqAt_isSome.mp hlive
    have hnodup := hs.addr_nodup
    rw [List.map_append, List.nodup_append] at hnodup
    exact hnodup.2.2 _ (List.mem_map_of_mem hr') _ (List.mem_map_of_mem hr) haddr
  have hsent : SentOnce sr τ (s, phase) req pck → deliveries pck.addr s.log ≠ [] := by
    intro h
    obtain ⟨mac, arpreq, -, -, -, hlog⟩ := h.reply
    simp [hlog]
  simp only [List.pairwise_cons, List.mem_cons, List.not_mem_nil, or_false, forall_eq_or_imp,
    forall_eq, false_implies, implies_true, List.Pairwise.nil, and_true]
  refine ⟨⟨?_, fun h => h.2.gone h.1.live, fun h => h.2.not_live h.1.live⟩,
    ⟨fun h => hsent h.2 h.1.unsent, ?_⟩, fun h => hsent h.1 h.2.unsent⟩
  · intro h
    obtain ⟨r, hr, rfl⟩ := hheld h.2
    exact hoff r hr h.1.live
  · intro h
    obtain ⟨r, hr, haddr⟩ := hheld h.1
    exact h.2.gone r (List.mem_append_right _ hr) haddr

/-! ### One section -/

theorem neutral_append {L : List Event} (hL : ∀ e ∈ L, e.Neutral) (pck : Nat) (L₀ : List Event) :
    queuedFrames (L₀ ++ L) = queuedFrames L₀ ∧ deliveries pck (L₀ ++ L) = deliveries pck L₀ := by
  have hqueued : queuedFrames L = [] := by
    rw [queuedFrames, List.filterMap_eq_nil_iff]
    exact fun e he => (hL e he).queued
  have hdelivered : deliveries pck L = [] := by
    apply List.filter_eq_nil_iff.mpr
    intro e he
    simp [(hL e he).released]
  rw [queuedFrames_append, deliveries_append, hqueued, hdelivered, List.append_nil, List.append_nil]
  exact ⟨rfl, rfl⟩

/-- A section that leaves the queue and the frames alone. -/
theorem Placed.same (h : Placed sr τ (s, phase) req pck) (hreqs : t.reqs = s.reqs)
    (hdetached : t.detached ⊆ s.detached)
    (hlog : deliveries pck.addr t.log = deliveries pck.addr s.log)
    (hphase : ∀ mac r, phase = .releasing mac r ↔ phase' = .releasing mac r) :
    Placed sr (τ ++ [x]) (t, phase') req pck := by
  have hlive : (t.reqAt req).isSome ↔ (s.reqAt req).isSome := by
    rw [reqAt_isSome, reqAt_isSome, hreqs]
  rcases h with hw | hh | hs | hg
  · obtain ⟨r, hr, haddr, hcount, hone⟩ := hw.request
    refine .inl ⟨⟨r, hreqs ▸ hr, haddr, hcount, fun r' hr' => hone r' (hreqs ▸ hr')⟩, ?_⟩
    exact hlog.trans hw.unsent
  · obtain ⟨mac, arpreq, hfrom, haddr, hcount, htaken⟩ := hh.request
    have hto : phase' = .releasing mac arpreq := (hphase mac arpreq).mp hfrom
    exact .inr (.inl ⟨⟨mac, arpreq, hto, haddr, hcount, htaken.step x⟩, hlog.trans hh.unsent⟩)
  · exact .inr (.inr (.inl (hs.step hlog (fun hlive' => hs.gone (hlive.mp hlive'))
      fun mac r hto => hs.notHeld mac r ((hphase mac r).mpr hto))))
  · refine .inr (.inr (.inr (hg.step hlog fun r hr => ?_)))
    rw [hreqs] at hr
    rcases List.mem_append.mp hr with hr | hr
    · exact hg.gone r (List.mem_append_left _ hr)
    · exact hg.gone r (List.mem_append_right _ (hdetached hr))

/-- A section that handles requests: what expires there is given up. -/
theorem Placed.handled {l : ThreadLabel} (hl : l = .resume now ∨ l = .timeout now) (hs : Custody s)
    (ht : Custody t) (hacc : Accounts now s t) (hfollows : Follows now s t)
    (hdetached : t.detached = s.detached)
    (hphase : ∀ mac r, phase = .releasing mac r ↔ phase' = .releasing mac r)
    (ih : ∀ req pck, (req, pck) ∈ queuedFrames s.log → Placed sr τ (s, phase) req pck)
    (hq : (req, pck) ∈ queuedFrames t.log) :
    Placed sr (τ ++ [⟨(s, phase), l, (t, phase')⟩]) (t, phase') req pck := by
  have hlog := hacc.deliveries pck.addr
  have horigin : ∀ a ∈ t.addrs, a ∈ s.addrs ∨ s.brk ≤ a := by
    intro a ha
    obtain ⟨r', hr', rfl⟩ := List.mem_map.mp ha
    rcases hfollows.origin r' hr' with ⟨r, hr, hcont⟩ | ⟨hnew, -⟩
    · exact .inl (hcont.addr ▸ List.mem_map_of_mem hr)
    · exact .inr hnew
  have hgiven : ∀ r ∈ s.reqs, r.addr = req → Expired now r → ¬ (t.reqAt req).isSome →
      deliveries pck.addr t.log = [] →
      GivenUp (τ ++ [⟨(s, phase), l, (t, phase')⟩]) (t, phase') req pck := by
    intro r hr haddr hexp hdead hunsent
    have hdestroyed : .destroyed req ∈ t.log :=
      (hacc.destroyed req (reqAt_isSome.mpr ⟨r, hr, haddr⟩)).resolve_left hdead
    refine ⟨⟨_, List.mem_append_right _ (List.mem_singleton.mpr rfl), now, hl, r, hr, haddr, hexp,
      hdestroyed⟩, hunsent, fun r' hr' haddr' => ?_⟩
    rcases List.mem_append.mp hr' with hr' | hr'
    · exact hdead (reqAt_isSome.mpr ⟨r', hr', haddr'⟩)
    · -- what is off the queue was not on it
      have hr'' : r' ∈ s.detached := hdetached ▸ hr'
      have hnodup := hs.ledger.wellFormed.addr_nodup
      rw [List.map_append, List.nodup_append] at hnodup
      exact hnodup.2.2 _ (List.mem_map_of_mem hr) _ (List.mem_map_of_mem hr'')
        (haddr.trans haddr'.symm)
  by_cases hold : (req, pck) ∈ queuedFrames s.log
  · rcases ih req pck hold with hw | hh | hsent | hg
    · have hunsent := hlog.trans hw.unsent
      by_cases hlive : (t.reqAt req).isSome
      · exact .inl (ht.ledger.waits hq hlive hunsent)
      · obtain ⟨r, hr, rfl, -⟩ := hw.request
        exact .inr (.inr (.inr (hgiven r hr rfl (hfollows.expired_of_gone hr hlive) hlive
          hunsent)))
    · obtain ⟨mac, arpreq, hfrom, haddr, hcount, htaken⟩ := hh.request
      have hto : phase' = .releasing mac arpreq := (hphase mac arpreq).mp hfrom
      exact .inr (.inl ⟨⟨mac, arpreq, hto, haddr, hcount, htaken.step _⟩, hlog.trans hh.unsent⟩)
    · exact .inr (.inr (.inl (hsent.step hlog (gone_step hs.ledger hold hsent.gone horigin)
        fun mac r hto => hsent.notHeld mac r ((hphase mac r).mpr hto))))
    · have hdead := gone_step hs.ledger hold hg.not_live horigin
      refine .inr (.inr (.inr (hg.step hlog fun r hr haddr => ?_)))
      rcases List.mem_append.mp hr with hr | hr
      · exact hdead (reqAt_isSome.mpr ⟨r, hr, haddr⟩)
      · exact hg.gone r (List.mem_append_right _ (hdetached ▸ hr)) haddr
  · -- a frame that this section stored
    have hunsent : deliveries pck.addr t.log = [] := by
      rw [hlog]
      refine hs.ledger.unsent fun y hy haddr => hold ?_
      have hy' : y ∈ queuedFrames t.log := (hfollows.log.sublist.filterMap _).subset hy
      rwa [← ht.ledger.frame_eq hy' hq haddr]
    by_cases hlive : (t.reqAt req).isSome
    · exact .inl (ht.ledger.waits hq hlive hunsent)
    · obtain ⟨r, hr, haddr, hexp⟩ := ((hacc.queued _ hq).resolve_left hold).resolve_left hlive
      exact .inr (.inr (.inr (hgiven r hr haddr hexp hlive hunsent)))

/-! ### A reply -/

/-- The frames of the request for a mapping are the packet thread's. -/
theorem Placed.taken {mac : EtherAddr} {ip : uint32_t} {arpreq : SrArpreq} {packet : RawFrame}
    {interface : IfName} {l : ThreadLabel} (hs : Custody s)
    (hheld : s.detached = []) (hreq : s.reqFor ip = some arpreq)
    (hl : ∀ now, announced sr (.packet now packet interface) = some (mac, ip))
    (h : Placed sr τ (s, .learning mac ip) req pck) :
    Placed sr (τ ++ [⟨(s, .learning mac ip), l, (s.learnFor mac ip now, .releasing mac arpreq)⟩])
      (s.learnFor mac ip now, .releasing mac arpreq) req pck := by
  obtain ⟨hmem, rfl⟩ := reqFor_some hreq
  have hlog : deliveries pck.addr (s.learnFor mac arpreq.ip now).log = deliveries pck.addr s.log := by
    rw [learnFor_log]
  have hreqs : ∀ {r}, r ∈ (s.learnFor mac arpreq.ip now).reqs ↔ r ∈ s.reqs ∧ r.ip ≠ arpreq.ip :=
    mem_learnFor hs.ledger.wellFormed
  have hdetached : (s.learnFor mac arpreq.ip now).detached = [arpreq] := by
    simp only [RouterState.learnFor, hreq, setEntries_detached, hheld]
  rcases h with hw | hh | hsent | hg
  · obtain ⟨r, hr, haddr, hcount, hone⟩ := hw.request
    by_cases hip : r.ip = arpreq.ip
    · obtain rfl := hs.ledger.wellFormed.ip_inj hr hmem hip
      refine .inr (.inl ⟨⟨mac, r, rfl, haddr, hcount, ?_⟩, hlog.trans hw.unsent⟩)
      exact ⟨_, List.mem_append_right _ (List.mem_singleton.mpr rfl), rfl, hr, rfl, packet,
        interface, hl⟩
    · refine .inl ⟨⟨r, hreqs.mpr ⟨hr, hip⟩, haddr, hcount, fun r' hr' => ?_⟩,
        hlog.trans hw.unsent⟩
      exact hone r' (hreqs.mp hr').1
  · obtain ⟨mac', r, hphase, -⟩ := hh.request
    cases hphase
  · refine .inr (.inr (.inl (hsent.step hlog (fun hlive => hsent.gone ?_) ?_)))
    · obtain ⟨r, hr, haddr⟩ := reqAt_isSome.mp hlive
      exact reqAt_isSome.mpr ⟨r, (hreqs.mp hr).1, haddr⟩
    · intro mac' r hto haddr
      obtain ⟨-, rfl⟩ := Phase.releasing.inj hto
      exact hsent.gone (reqAt_isSome.mpr ⟨_, hmem, haddr⟩)
  · refine .inr (.inr (.inr (hg.step hlog fun r hr haddr => ?_)))
    rcases List.mem_append.mp hr with hr | hr
    · exact hg.gone r (List.mem_append_left _ (hreqs.mp hr).1) haddr
    · rw [hdetached] at hr
      obtain rfl := List.mem_singleton.mp hr
      exact hg.gone r (List.mem_append_left _ hmem) haddr

/-- Of the frames that are released, this one is sent, or none. -/
theorem Custody.deliveries_released (hs : Custody s) (sr : SrInstance) (mac : EtherAddr)
    {arpreq : SrArpreq} (hheld : arpreq ∈ s.detached) (hq : (req, pck) ∈ queuedFrames s.log) :
    deliveries pck.addr (s.emits (release_events sr mac arpreq)).log =
      deliveries pck.addr s.log ++ if pck ∈ arpreq.packets then [delivery sr mac arpreq.addr pck]
        else [] := by
  have hsame : ∀ p ∈ arpreq.packets, p.addr = pck.addr ↔ p = pck := by
    intro p hp
    refine ⟨fun haddr => ?_, fun h => h ▸ rfl⟩
    exact (Prod.mk.inj (hs.ledger.frame_eq ((hs.mem_held hheld).mp hp) hq haddr)).2
  have hfilter : (arpreq.packets.filter fun p => p.addr = pck.addr) =
      arpreq.packets.filter fun p => p = pck :=
    List.filter_congr fun p hp => decide_eq_decide.mpr (hsame p hp)
  have hrelease : deliveries pck.addr (release_events sr mac arpreq ++ [.destroyed arpreq.addr]) =
      _ := deliveries_release pck.addr mac arpreq
  rw [deliveries_concat rfl, hfilter, List.filter_eq] at hrelease
  show deliveries pck.addr (s.log ++ release_events sr mac arpreq) = _
  rw [deliveries_append, hrelease]
  split
  · next hpck =>
    have hcount : arpreq.packets.count pck = 1 := by
      rw [hs.held arpreq hheld, List.count_reverse]
      refine List.count_eq_one_of_mem (hs.ledger.queuedOn_nodup _) ?_
      rw [← List.mem_reverse, ← hs.held arpreq hheld]
      exact hpck
    rw [hcount]
    rfl
  · next hpck =>
    rw [List.count_eq_zero_of_not_mem hpck]
    rfl

/-- The frames that the packet thread held are sent, and no other. -/
theorem Placed.released {mac : EtherAddr} {arpreq : SrArpreq} (hs : Custody s)
    (hheld : s.detached = [arpreq]) (h : Placed sr τ (s, .releasing mac arpreq) req pck)
    (hq : (req, pck) ∈ queuedFrames s.log) :
    Placed sr (τ ++ [x]) (s.emits (release_events sr mac arpreq), .destroying arpreq.addr) req
      pck := by
  have hmem : arpreq ∈ s.detached := by simp [hheld]
  have hlog := hs.deliveries_released sr mac hmem hq
  -- only a frame that is held is among those that are sent
  have hother : arpreq.addr ≠ req →
      deliveries pck.addr (s.emits (release_events sr mac arpreq)).log =
        deliveries pck.addr s.log := by
    intro hne
    rw [hlog, if_neg, List.append_nil]
    intro hpck
    exact hne (Prod.mk.inj (hs.ledger.frame_eq ((hs.mem_held hmem).mp hpck) hq rfl)).1
  rcases h with hw | hh | hsent | hg
  · obtain ⟨r, hr, rfl, hcount, hone⟩ := hw.request
    have hne : arpreq.addr ≠ r.addr := by
      have hnodup := hs.ledger.wellFormed.addr_nodup
      rw [List.map_append, List.nodup_append] at hnodup
      exact (hnodup.2.2 _ (List.mem_map_of_mem hr) _ (List.mem_map_of_mem hmem)).symm
    exact .inl ⟨⟨r, hr, rfl, hcount, hone⟩, (hother hne).trans hw.unsent⟩
  · obtain ⟨mac', r, hphase, haddr, hcount, htaken⟩ := hh.request
    obtain ⟨rfl, rfl⟩ := Phase.releasing.inj hphase
    have hpck : pck ∈ arpreq.packets := List.count_pos_iff.mp (by omega)
    refine .inr (.inr (.inl ⟨⟨mac, arpreq, htaken.step x, haddr, hpck, ?_⟩, fun hlive => ?_,
      fun _ _ hto => by cases hto⟩))
    · show deliveries pck.addr (s.emits (release_events sr mac arpreq)).log = _
      rw [hlog, if_pos hpck, hh.unsent, List.nil_append, haddr]
    · obtain ⟨r, hr, haddr'⟩ := reqAt_isSome.mp hlive
      have hnodup := hs.ledger.wellFormed.addr_nodup
      rw [List.map_append, List.nodup_append] at hnodup
      exact hnodup.2.2 _ (List.mem_map_of_mem hr) _ (List.mem_map_of_mem hmem)
        (haddr'.trans haddr.symm)
  · have hne : arpreq.addr ≠ req := hsent.notHeld mac arpreq rfl
    exact .inr (.inr (.inl (hsent.step (hother hne) hsent.gone fun _ _ hto => by cases hto)))
  · have hne : arpreq.addr ≠ req := hg.gone arpreq (List.mem_append_right _ hmem)
    exact .inr (.inr (.inr (hg.step (hother hne) hg.gone)))

/-! ### Runs -/

variable {st st' : Threads}

/-- **A section** keeps every frame in its place, or moves it on. -/
theorem Sectioned.placed {l : ThreadLabel} (h : Sectioned sr heap (fun _ => True) st l st')
    (hs : Custody st.1) (hc : Carried sr heap (fun _ => True) st.1 st.2) (ht : Custody st'.1)
    (ih : ∀ req pck, (req, pck) ∈ queuedFrames st.1.log → Placed sr τ st req pck)
    (hq : (req, pck) ∈ queuedFrames st'.1.log) :
    Placed sr (τ ++ [⟨st, l, st'⟩]) st' req pck := by
  have hquiet : ∀ {phase : Phase}, phase.detaches = false → ∀ mac r, phase ≠ .releasing mac r := by
    rintro phase hdetaches mac r rfl
    cases hdetaches
  cases h with
  | @received s s' phase' packet interface _ hto hpath hcache hlog =>
    obtain ⟨L, hL, hneutral⟩ := hlog
    obtain ⟨hqueued, hdeliveries⟩ := neutral_append hneutral pck.addr s.log
    rw [← hL] at hqueued hdeliveries
    refine (ih req pck (hqueued ▸ hq)).same (congrArg SrArpcache.requests hcache) ?_ hdeliveries ?_
    · rw [(hpath 0).detached]
      exact List.Subset.refl _
    · exact fun mac r => iff_of_false (by simp) (hquiet hto mac r)
  | @moved s s' phase phase' l _ hfrom hto hpath =>
    exact Placed.handled (.inl rfl) hs ht (hpath.accounts hs.ledger.wellFormed)
      (hpath.follows hs.ledger.wellFormed) hpath.detached
      (fun mac r => iff_of_false (hquiet hfrom mac r) (hquiet hto mac r)) ih hq
  | @passed s s' phase now _ hpath =>
    -- the old entries that go first are no part of this
    have hwf := hs.ledger.wellFormed.setEntries (sr_arpcache_expire s.cache.entries now)
    have hacc := hpath.accounts hwf
    have hfollows := hpath.follows hwf
    exact Placed.handled (.inr rfl) hs ht ⟨hacc.deliveries, hacc.queued, hacc.destroyed⟩
      ⟨hfollows.brk_le, hfollows.log, hfollows.kept, hfollows.origin⟩ hpath.detached
      (fun _ _ => Iff.rfl) ih hq
  | @learned s mac ip now hnone =>
    rw [learnFor_log] at hq
    refine (ih req pck hq).same ?_ ?_ (by rw [learnFor_log]) (by simp)
    · simp only [RouterState.learnFor, hnone, setEntries_requests]
    · simp only [RouterState.learnFor, hnone, setEntries_detached]
      exact List.Subset.refl _
  | @taken s mac ip arpreq now hreq =>
    obtain ⟨hheld, packet, interface, -, hl⟩ := hc
    rw [learnFor_log] at hq
    exact Placed.taken hs hheld hreq hl (ih req pck hq)
  | @released s mac arpreq now hheld =>
    have hqueued : queuedFrames (s.emits (release_events sr mac arpreq)).log = queuedFrames s.log :=
      Custody.release_queuedFrames ..
    rw [hqueued] at hq
    exact Placed.released hs hheld (ih req pck hq) hq
  | @freed s arpreq now hheld =>
    have hneutral : (Event.destroyed arpreq.addr).Neutral := ⟨rfl, rfl⟩
    have hqueued : queuedFrames (s.destroyDetached arpreq.addr).log = queuedFrames s.log :=
      hneutral.queuedFrames _
    refine (ih req pck (hqueued ▸ hq)).same rfl List.eraseP_subset ?_ (by simp)
    exact deliveries_concat rfl _ _

theorem placed_of_run {init : Threads} (hinit : init = (RouterState.empty, .idle))
    (hrun : (threads sr heap).Run System.always init τ st) :
    Custody st.1 ∧ Carried sr heap (fun _ => True) st.1 st.2 ∧
      ∀ req pck, (req, pck) ∈ queuedFrames st.1.log → Placed sr τ st req pck := by
  subst hinit
  refine hrun.invariant (I := fun τ st => Custody st.1 ∧
    Carried sr heap (fun _ => True) st.1 st.2 ∧
      ∀ req pck, (req, pck) ∈ queuedFrames st.1.log → Placed sr τ st req pck) ?_ ?_
  · exact ⟨.empty, rfl, fun req pck hq => by cases hq⟩
  · rintro τ ⟨s, phase⟩ l ⟨s', phase'⟩ _ ⟨hs, hc, ih⟩ _ ⟨fuel, m, hm, hstep⟩
    obtain ⟨hsection, hc'⟩ :=
      section_sectioned sr heap hs.ledger.wellFormed hc (.all l) hm hstep
    have ht : Custody s' := (custody_sections sr heap).sectioned hs hsection
    exact ⟨ht, hc', fun req pck hq => hsection.placed hs hc ht ih hq⟩

/-- **Every stored frame is in one place** after every step of every interleaving that
    `threads` has, where handling a request is one step: it waits on one request, or the packet
    thread holds it, or it was sent once to the address that a reply announced, or it was given
    up after five tries. -/
theorem every_frame_in_one_place
    (hrun : (threads sr heap).Run System.always (RouterState.empty, .idle) τ st) :
    ((queuedFrames st.1.log).map fun x => x.2.addr).Nodup ∧
      ∀ msg req pck, .queued msg req pck ∈ st.1.log →
        (Waits st.1 req pck ∨ Held sr τ st req pck ∨ SentOnce sr τ st req pck ∨
          GivenUp τ st req pck) ∧
        [Waits st.1 req pck, Held sr τ st req pck, SentOnce sr τ st req pck,
          GivenUp τ st req pck].Pairwise fun p q => ¬ (p ∧ q) := by
  obtain ⟨hs, hc, hplaced⟩ := placed_of_run rfl hrun
  refine ⟨hs.ledger.distinct, fun msg req pck he => ⟨?_, ?_⟩⟩
  · exact hplaced req pck (mem_queuedFrames.mpr ⟨msg, he⟩)
  · exact Placed.exclusive hs.ledger.wellFormed hc

namespace Sample

/-- A reply takes a request off the queue, and a pass is made before its frame is sent. -/
theorem one_held : ∃ τ st, (threads net mem).Run System.always (RouterState.empty, .idle) τ st ∧
    st.2.detaches = true ∧ (queuedFrames st.1.log).length = 1 ∧
    ((queuedFrames st.1.log).map fun x => x.2.addr).Nodup ∧
      ∀ msg req pck, .queued msg req pck ∈ st.1.log →
        (Waits st.1 req pck ∨ Held net τ st req pck ∨ SentOnce net τ st req pck ∨
          GivenUp τ st req pck) ∧
        [Waits st.1 req pck, Held net τ st req pck, SentOnce net τ st req pck,
          GivenUp τ st req pck].Pairwise fun p q => ¬ (p ∧ q) := by
  let reply := arp_reply (inet_addr 192 168 2 7) ⟨eth 2, mac 2, inet_addr 172 64 3 1⟩
  obtain ⟨st, hst, hheld⟩ := interleave_any System.always
    (store 10 ++ [.resume 10, .receive reply (eth 2), .resume 11, .timeout 12])
    (p := fun st => st.2.detaches = true ∧ (queuedFrames st.1.log).length = 1)
    (fun _ _ _ => trivial) (by decide +kernel)
  obtain ⟨hdetaches, hlength⟩ := of_decide_eq_true hheld
  obtain ⟨init, τ, hinit, hrun⟩ := hst.run
  obtain rfl : init = (RouterState.empty, .idle) := hinit
  exact ⟨τ, st, hrun, hdetaches, hlength, every_frame_in_one_place hrun⟩

end Sample

end SimpleRouter
