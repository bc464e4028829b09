import SimpleRouter.Queue.Follows

/-! # Every stored frame is accounted for

    The log tells which frames were stored and which were released. `Ledger`
    ties it to the queue: the frames of a request are those that the log says
    were stored on it, and a frame that was released was stored before.

    * `Waits`, `Delivered`, `Dropped`: what can become of a stored frame.
    * `every_frame_accounted`: in every run, exactly one of them has.
-/

namespace SimpleRouter

open Framework Framework.Prog RouterState Relation

variable {sr : SrInstance} {heap : Heap} {now : time_t} {s t u : RouterState} {l : Label}

/-! ### What the log tells -/

/-- The frame that an event stores, with the request it is stored on. -/
def Event.queuedFrame : Event → Option (Nat × SrPacket)
  | .queued _ req pck => some (req, pck)
  | _ => none

/-- The frame that an event releases. -/
def Event.releasedFrame : Event → Option Nat
  | .sent (.released _ pck) _ _ _ => some pck
  | _ => none

/-- All frames that were stored. -/
def queuedFrames (log : List Event) : List (Nat × SrPacket) := log.filterMap Event.queuedFrame

/-- The frames that were stored on one request. -/
def queuedOn (req : Nat) (log : List Event) : List SrPacket :=
  (queuedFrames log).filterMap fun x => if x.1 = req then some x.2 else none

/-- The events that sent a stored frame. -/
def deliveries (pck : Nat) (log : List Event) : List Event :=
  log.filter fun e => e.releasedFrame = some pck

theorem queuedFrames_append (L₁ L₂ : List Event) :
    queuedFrames (L₁ ++ L₂) = queuedFrames L₁ ++ queuedFrames L₂ :=
  List.filterMap_append

theorem deliveries_append (pck : Nat) (L₁ L₂ : List Event) :
    deliveries pck (L₁ ++ L₂) = deliveries pck L₁ ++ deliveries pck L₂ :=
  List.filter_append ..

theorem mem_queuedFrames {L : List Event} {req : Nat} {pck : SrPacket} :
    (req, pck) ∈ queuedFrames L ↔ ∃ msg, .queued msg req pck ∈ L := by
  rw [queuedFrames, List.mem_filterMap]
  constructor
  · intro h
    obtain ⟨e, he, hqueued⟩ := h
    cases e with
    | queued msg req' pck' =>
      obtain ⟨rfl, rfl⟩ := Prod.mk.inj (Option.some.inj hqueued)
      exact ⟨msg, he⟩
    | _ => simp [Event.queuedFrame] at hqueued
  · intro h
    obtain ⟨msg, he⟩ := h
    exact ⟨_, he, rfl⟩

theorem mem_queuedOn {L : List Event} {req : Nat} {pck : SrPacket} :
    pck ∈ queuedOn req L ↔ (req, pck) ∈ queuedFrames L := by
  simp only [queuedOn, List.mem_filterMap, Option.ite_none_right_eq_some, Option.some.injEq]
  constructor
  · intro h
    obtain ⟨x, hx, rfl, rfl⟩ := h
    exact hx
  · exact fun h => ⟨_, h, rfl, rfl⟩

/-- An event that stores and releases nothing. -/
structure Event.Neutral (e : Event) : Prop where
  queued : e.queuedFrame = none
  released : e.releasedFrame = none

theorem Event.Neutral.queuedFrames {e : Event} (h : e.Neutral) (L : List Event) :
    queuedFrames (L ++ [e]) = queuedFrames L := by
  simp [SimpleRouter.queuedFrames, h.queued]

theorem deliveries_concat {e : Event} (h : e.releasedFrame = none) (pck : Nat) (L : List Event) :
    deliveries pck (L ++ [e]) = deliveries pck L := by
  simp [deliveries, h]

/-! ### The ledger -/

structure Ledger (s : RouterState) : Prop where
  wellFormed : WellFormed s
  /-- The frames of a request are those stored on it, the last one first. -/
  packets : ∀ r ∈ s.reqs, r.packets = (queuedOn r.addr s.log).reverse
  lt_brk : ∀ x ∈ queuedFrames s.log, x.1 < s.brk ∧ x.2.addr < s.brk
  distinct : ((queuedFrames s.log).map fun x => x.2.addr).Nodup
  /-- A frame that was released is one that was stored, sent as it was stored. -/
  released : ∀ req pck buf iface accepted, .sent (.released req pck) buf iface accepted ∈ s.log →
    ∃ p, (req, p) ∈ queuedFrames s.log ∧ p.addr = pck ∧ iface = p.iface ∧
      ∃ mac, buf = set_ether_dhost p.buf mac

namespace Ledger

theorem empty : Ledger RouterState.empty where
  wellFormed := .empty
  packets r hr := by cases hr
  lt_brk x hx := by cases hx
  distinct := List.nodup_nil
  released _ _ _ _ _ h := by cases h

/-- Requests may go, and events may come that store nothing. -/
theorem of_subset (h : Ledger s) (ht : WellFormed t) (hbrk : s.brk ≤ t.brk)
    (hreqs : t.reqs ⊆ s.reqs) (hqueued : queuedFrames t.log = queuedFrames s.log)
    (hreleased : ∀ req pck buf iface accepted,
      .sent (.released req pck) buf iface accepted ∈ t.log →
      .sent (.released req pck) buf iface accepted ∈ s.log ∨
      ∃ p, (req, p) ∈ queuedFrames s.log ∧ p.addr = pck ∧ iface = p.iface ∧
        ∃ mac, buf = set_ether_dhost p.buf mac) : Ledger t where
  wellFormed := ht
  packets r hr := by
    rw [h.packets r (hreqs hr), queuedOn, queuedOn, hqueued]
  lt_brk x hx := by
    rw [hqueued] at hx
    have := h.lt_brk x hx
    omega
  distinct := by
    rw [hqueued]
    exact h.distinct
  released req pck buf iface accepted he := by
    rw [hqueued]
    rcases hreleased _ _ _ _ _ he with he | hp
    · exact h.released _ _ _ _ _ he
    · exact hp

theorem alloc (h : Ledger s) : Ledger s.alloc :=
  h.of_subset h.wellFormed.alloc (Nat.le_succ _) (List.Subset.refl s.reqs) rfl
    fun _ _ _ _ _ he => .inl he

theorem setEntries (h : Ledger s) (entries : Vector SrArpentry SR_ARPCACHE_SZ) :
    Ledger (s.setEntries entries) :=
  h.of_subset (h.wellFormed.setEntries entries) (Nat.le_refl _) (List.Subset.refl s.reqs) rfl
    fun _ _ _ _ _ he => .inl he

theorem emit (h : Ledger s) {e : Event} (he : e.Neutral) : Ledger (s.emit e) := by
  refine h.of_subset (h.wellFormed.emit e) (Nat.le_refl _) (List.Subset.refl s.reqs)
    (he.queuedFrames _) fun req pck buf iface accepted hsent => ?_
  rcases List.mem_append.mp hsent with hsent | hsent
  · exact .inl hsent
  · have hreleased := he.released
    rw [← List.mem_singleton.mp hsent] at hreleased
    cases hreleased

theorem destroyReq (h : Ledger s) (req : Nat) : Ledger (s.destroyReq req) := by
  have herase : Ledger (s.setRequests (s.reqs.eraseP fun r => r.addr = req)) :=
    h.of_subset (h.wellFormed.eraseReq req) (Nat.le_refl _) List.eraseP_subset rfl
      fun _ _ _ _ _ he => .inl he
  exact herase.emit ⟨rfl, rfl⟩

theorem marked (h : Ledger s) {req : Nat} {f : SrArpreq → SrArpreq} (hf : Marks f) :
    Ledger (s.updateReq req f) where
  wellFormed := h.wellFormed.marked hf
  packets r' hr' := by
    obtain ⟨r, hr, haddr, -, hpackets⟩ := mem_marked hf hr'
    rw [hpackets, haddr]
    exact h.packets r hr
  lt_brk := h.lt_brk
  distinct := h.distinct
  released := h.released

/-! ### Storing a frame -/

theorem queueReady (h : Ledger s) (ip : uint32_t) : Ledger (s.queueReady ip) := by
  unfold RouterState.queueReady
  split
  · exact h
  · next hnone =>
    refine ⟨h.wellFormed.appendReq hnone, fun r hr => ?_, fun x hx => ?_, h.distinct, h.released⟩
    · rcases List.mem_append.mp hr with hr | hr
      · exact h.packets r hr
      · -- nothing was stored on a request that is new
        rw [List.mem_singleton.mp hr]
        refine (List.reverse_eq_nil_iff.mpr (List.eq_nil_iff_forall_not_mem.mpr ?_)).symm
        intro p hp
        have := (h.lt_brk _ (mem_queuedOn.mp hp)).1
        exact Nat.lt_irrefl _ this
    · have := h.lt_brk x hx
      exact ⟨Nat.lt_succ_of_lt this.1, Nat.lt_succ_of_lt this.2⟩

theorem pushPacket (h : Ledger s) {msg : Message} {req : Nat} {buf : RawFrame} {iface : IfName}
    (hreq : req < s.brk) : Ledger (s.pushPacket msg req buf iface) := by
  have hqueued : queuedFrames (s.pushPacket msg req buf iface).log =
      queuedFrames s.log ++ [(req, ⟨s.brk, buf, iface⟩)] :=
    queuedFrames_append _ _
  refine ⟨h.wellFormed.pushPacket .., fun r' hr' => ?_, fun x hx => ?_, ?_, ?_⟩
  · obtain ⟨r, hr, rfl⟩ := mem_updateReq.mp hr'
    have hpackets := h.packets r hr
    rw [queuedOn, hqueued]
    -- the list of a request is its part of the log, latest first
    by_cases haddr : r.addr = req
    · simp [haddr, hpackets, queuedOn, List.filterMap_append]
    · simp [haddr, Ne.symm haddr, hpackets, queuedOn, List.filterMap_append]
  · rw [hqueued] at hx
    rcases List.mem_append.mp hx with hx | hx
    · have := h.lt_brk x hx
      exact ⟨Nat.lt_succ_of_lt this.1, Nat.lt_succ_of_lt this.2⟩
    · rw [List.mem_singleton.mp hx]
      exact ⟨Nat.lt_succ_of_lt hreq, Nat.lt_succ_self _⟩
  · rw [hqueued, List.map_append, List.nodup_append]
    refine ⟨h.distinct, by simp, fun a ha b hb => ?_⟩
    obtain ⟨x, hx, rfl⟩ := List.mem_map.mp ha
    have := (h.lt_brk x hx).2
    rw [List.mem_singleton.mp hb]
    exact Nat.ne_of_lt this
  · intro req' pck buf' iface' accepted he
    rcases List.mem_append.mp he with he | he
    · obtain ⟨p, hp, hrest⟩ := h.released _ _ _ _ _ he
      exact ⟨p, hqueued ▸ List.mem_append_left _ hp, hrest⟩
    · simp at he

theorem queueTarget_lt (h : WellFormed s) (ip : uint32_t) :
    s.queueTarget ip < (s.queueReady ip).brk := by
  obtain ⟨r, hr, haddr, -⟩ := exists_queueReady s ip
  exact haddr ▸ (h.queueReady ip).lt_brk hr

theorem queuePacket (h : Ledger s) (msg : Message) (ip : uint32_t) (buf : RawFrame)
    (iface : IfName) : Ledger (s.queuePacket msg ip buf iface) :=
  (h.queueReady ip).pushPacket (queueTarget_lt h.wellFormed ip)

/-! ### Releasing frames -/

/-- Learning a mapping stores no frame. -/
theorem release_queuedFrames (mac : EtherAddr) (ip : uint32_t) :
    queuedFrames (s.release sr mac ip now).log = queuedFrames s.log := by
  obtain ⟨L, hlog, hL⟩ := release_logs sr s mac ip now
  have hnone : queuedFrames L = [] := by
    rw [queuedFrames, List.filterMap_eq_nil_iff]
    intro e he
    cases hL e he with
    | sent => rfl
    | destroyed => rfl
  rw [hlog, queuedFrames_append, hnone, List.append_nil]

theorem release (h : Ledger s) (sr : SrInstance) (mac : EtherAddr) (ip : uint32_t)
    (now : time_t) : Ledger (s.release sr mac ip now) := by
  obtain ⟨L, hlog, hL⟩ := release_logs sr s mac ip now
  refine h.of_subset (h.wellFormed.release sr mac ip now) (Nat.le_of_eq release_brk.symm)
    (fun r' hr' => ((mem_release h.wellFormed).mp hr').1) (release_queuedFrames mac ip)
    fun req pck buf iface accepted he => ?_
  rw [hlog] at he
  rcases List.mem_append.mp he with he | he
  · exact .inl he
  · cases hL _ he with
    | @sent r p hr hp =>
      rw [h.packets r (reqFor_some hr).1, List.mem_reverse, mem_queuedOn] at hp
      exact .inr ⟨p, hp, rfl, rfl, mac, rfl⟩

end Ledger

/-! ### Every change keeps the ledger -/

theorem Event.Neutral.sent {msg : Message} (h : ∀ req pck, msg ≠ .released req pck)
    (buf : RawFrame) (iface : IfName) (accepted : Bool) :
    (Event.sent msg buf iface accepted).Neutral := by
  refine ⟨rfl, ?_⟩
  cases msg with
  | released req pck => exact absurd rfl (h req pck)
  | _ => rfl

/-- A frame that is sent for a packet did not wait. -/
theorem Event.Neutral.sent_forPacket {msg : Message} (h : msg.forPacket) (buf : RawFrame)
    (iface : IfName) (accepted : Bool) : (Event.sent msg buf iface accepted).Neutral :=
  .sent (by rintro req pck rfl; cases h) ..

variable (sr heap) in
theorem ledger_moves : MoveRules sr heap (fun _ => True) Ledger where
  wellFormed _ hs := hs.wellFormed
  alloc _ hs := hs.alloc
  release _ mac ip now hs := hs.release sr mac ip now
  expire _ _ hs := hs.setEntries _
  move l s s' _ hs hmove := by
    cases hmove with
    | alloc => exact hs.alloc
    | took => exact hs.emit ⟨rfl, rfl⟩
    | replied => exact hs.emit (.sent (by simp) ..)
    | sent _ _ hres => exact hs.emit (.sent_forPacket hres.forPacket ..)
    | stored => exact hs.queuePacket ..
    | asked => exact (hs.marked (marks_asked _)).emit (.sent (by simp) ..)
    | answered => exact hs.alloc.emit (.sent (by simp) ..)
    | answer_stored => exact hs.alloc.queuePacket ..
    | discarded => exact hs.destroyReq _

theorem Reachable.ledger (hs : Reachable sr heap System.always s) : Ledger s :=
  (ledger_moves sr heap).reachable .empty (System.Reachable.mono (fun _ _ h => h) hs)

/-! ### Steps that announce no mapping -/

/-- What a step that announces no mapping does to stored frames. -/
structure Accounts (now : time_t) (s t : RouterState) : Prop where
  /-- It releases none. -/
  deliveries : ∀ pck, deliveries pck t.log = deliveries pck s.log
  /-- A frame that it stores waits, or was given up with a request that had expired. -/
  queued : ∀ x ∈ queuedFrames t.log, x ∈ queuedFrames s.log ∨ (t.reqAt x.1).isSome ∨
    ∃ r ∈ s.reqs, r.addr = x.1 ∧ Expired now r
  /-- A request that goes is freed. -/
  destroyed : ∀ a, (s.reqAt a).isSome → (t.reqAt a).isSome ∨ .destroyed a ∈ t.log

theorem queuePacket_live (s : RouterState) (msg : Message) (ip : uint32_t) (buf : RawFrame)
    (iface : IfName) : ((s.queuePacket msg ip buf iface).reqAt (s.queueTarget ip)).isSome := by
  obtain ⟨r, hr, haddr, -⟩ := exists_queueReady s ip
  refine reqAt_isSome.mpr ⟨_, mem_updateReq.mpr ⟨r, hr, rfl⟩, ?_⟩
  rw [if_pos haddr]
  exact haddr

namespace Accounts

theorem refl (s : RouterState) : Accounts now s s :=
  ⟨fun _ => rfl, fun _ h => .inl h, fun _ h => .inl h⟩

theorem trans (h : Accounts now s t) (h' : Accounts now t u) (hst : Follows now s t)
    (htu : Follows now t u) : Accounts now s u where
  deliveries pck := (h'.deliveries pck).trans (h.deliveries pck)
  queued x hx := by
    have hold : ∀ r' ∈ t.reqs, r'.addr = x.1 → Expired now r' →
        ∃ r ∈ s.reqs, r.addr = x.1 ∧ Expired now r := by
      intro r' hr' haddr hexp
      obtain ⟨r, hr, hcont⟩ := hst.expired_old hr' hexp
      exact ⟨r, hr, hcont.addr.symm.trans haddr, hcont.expired.mp hexp⟩
    rcases h'.queued x hx with hx | hlive | ⟨r', hr', haddr, hexp⟩
    · rcases h.queued x hx with hx | hlive | hgiven
      · exact .inl hx
      · -- it waited in between, and waits or has expired since
        obtain ⟨r', hr', haddr⟩ := reqAt_isSome.mp hlive
        by_cases hu : (u.reqAt x.1).isSome
        · exact .inr (.inl hu)
        · exact .inr (.inr (hold r' hr' haddr (htu.expired_of_gone hr' (haddr ▸ hu))))
      · exact .inr (.inr hgiven)
    · exact .inr (.inl hlive)
    · exact .inr (.inr (hold r' hr' haddr hexp))
  destroyed a ha := by
    rcases h.destroyed a ha with ha | ha
    · exact h'.destroyed a ha
    · exact .inr (htu.log.subset ha)

/-- An event that stores and releases nothing. -/
theorem of_emit {e : Event} (he : e.Neutral) (hlog : t.log = s.log ++ [e])
    (hlive : ∀ a, (s.reqAt a).isSome → (t.reqAt a).isSome ∨ .destroyed a ∈ t.log) :
    Accounts now s t where
  deliveries pck := by rw [hlog, deliveries_concat he.released]
  queued x hx := by
    rw [hlog, he.queuedFrames] at hx
    exact .inl hx
  destroyed := hlive

theorem alloc (s : RouterState) : Accounts now s s.alloc :=
  ⟨fun _ => rfl, fun _ h => .inl h, fun _ h => .inl h⟩

theorem emit (s : RouterState) {e : Event} (he : e.Neutral) : Accounts now s (s.emit e) :=
  of_emit he rfl fun _ h => .inl h

theorem queuePacket (s : RouterState) (msg : Message) (ip : uint32_t) (buf : RawFrame)
    (iface : IfName) : Accounts now s (s.queuePacket msg ip buf iface) where
  deliveries pck := by rw [queuePacket_log, deliveries_concat rfl]
  queued x hx := by
    rw [queuePacket_log, queuedFrames_append] at hx
    rcases List.mem_append.mp hx with hx | hx
    · exact .inl hx
    · rw [List.mem_singleton.mp hx]
      exact .inr (.inl (queuePacket_live ..))
  destroyed a ha := by
    obtain ⟨r, hr, rfl⟩ := reqAt_isSome.mp ha
    have hready : r ∈ (s.queueReady ip).reqs := by
      unfold RouterState.queueReady
      split
      · exact hr
      · exact List.mem_append_left _ hr
    refine .inl (reqAt_isSome.mpr ⟨_, mem_updateReq.mpr ⟨r, hready, rfl⟩, ?_⟩)
    split <;> rfl

theorem destroyReq (hs : WellFormed s) (req : Nat) : Accounts now s (s.destroyReq req) := by
  refine of_emit (e := .destroyed req) ⟨rfl, rfl⟩ rfl fun a ha => ?_
  obtain ⟨r, hr, rfl⟩ := reqAt_isSome.mp ha
  by_cases haddr : r.addr = req
  · exact .inr (haddr ▸ List.mem_append_right _ (List.mem_singleton.mpr rfl))
  · exact .inl (reqAt_isSome.mpr ⟨r, (mem_destroyReq hs).mpr ⟨hr, haddr⟩, rfl⟩)

end Accounts

theorem Move.accounts (h : Move sr heap l s t) (hs : WellFormed s) : Accounts l.now s t := by
  cases h with
  | alloc => exact .alloc s
  | took => exact .emit s ⟨rfl, rfl⟩
  | replied => exact .emit s (.sent (by simp) ..)
  | sent _ _ hres => exact .emit s (.sent_forPacket hres.forPacket ..)
  | stored => exact .queuePacket ..
  | @asked r rtentry ifc hr =>
    refine .of_emit (.sent (by simp) _ _ _) rfl fun a ha => .inl ?_
    obtain ⟨r₀, hr₀, rfl⟩ := reqAt_isSome.mp ha
    refine reqAt_isSome.mpr ⟨_, mem_updateReq.mpr ⟨r₀, hr₀, rfl⟩, ?_⟩
    split <;> rfl
  | answered =>
    exact (Accounts.alloc s).trans (.emit s.alloc (.sent (by simp) ..)) (.alloc s) (.emit _ _)
  | answer_stored =>
    exact (Accounts.alloc s).trans (.queuePacket ..) (.alloc s) (.queuePacket ..)
  | discarded => exact .destroyReq hs _

theorem Path.accounts (h : Path sr heap l s t) (hs : WellFormed s) : Accounts l.now s t := by
  induction h with
  | refl => exact .refl s
  | tail hpath hmove ih =>
    have hwf := Path.wellFormed hpath hs
    exact ih.trans (hmove.accounts hwf) (Path.follows hpath hs) (hmove.follows hwf)

variable (sr heap) in
theorem step_accounts (hs : WellFormed s) (hl : announced sr l = none) (fuel : Nat) :
    Accounts l.now s (run_label sr heap fuel l s).2 := by
  cases run_label_stepped sr heap fuel l s hs with
  | learned hl' => simp [hl] at hl'
  | moved _ _ hpath => exact hpath.accounts hs
  | @passed now s' hlabel hpath =>
    -- the old entries that go first are no part of this
    have haccounts := hpath.accounts (hs.setEntries _)
    exact ⟨haccounts.deliveries, haccounts.queued, haccounts.destroyed⟩

/-! ### What becomes of a stored frame -/

/-- The event that sends a frame that waited on request `req`. -/
def delivery (sr : SrInstance) (mac : EtherAddr) (req : Nat) (pck : SrPacket) : Event :=
  .sent (.released req pck.addr) (set_ether_dhost pck.buf mac) pck.iface
    (accepts sr (set_ether_dhost pck.buf mac) pck.iface)

/-- The frame is still on one request, and only there. -/
structure Waits (s : RouterState) (req : Nat) (pck : SrPacket) : Prop where
  request : ∃ r ∈ s.reqs, r.addr = req ∧ r.packets.count pck = 1 ∧
    ∀ r' ∈ s.reqs, pck ∈ r'.packets → r' = r
  unsent : deliveries pck.addr s.log = []

/-- The frame was sent once, by a step that handled an ARP reply for its request. -/
structure Delivered (sr : SrInstance) (τ : List (System.Taken RouterState Label)) (s : RouterState)
    (req : Nat) (pck : SrPacket) : Prop where
  reply : ∃ x ∈ τ, ∃ r ∈ x.before.reqs, r.addr = req ∧ pck ∈ r.packets ∧
    ∃ mac, announced sr x.label = some (mac, r.ip) ∧ deliveries pck.addr x.before.log = [] ∧
      deliveries pck.addr x.after.log = [delivery sr mac req pck] ∧
      deliveries pck.addr s.log = [delivery sr mac req pck]
  gone : ¬ (s.reqAt req).isSome

/-- The frame was never sent: its request was given up after five tries. -/
structure Dropped (sr : SrInstance) (τ : List (System.Taken RouterState Label)) (s : RouterState)
    (req : Nat) (pck : SrPacket) : Prop where
  discard : ∃ x ∈ τ, ∃ r ∈ x.before.reqs, r.addr = req ∧ announced sr x.label = none ∧
    Expired x.label.now r ∧ ¬ (x.after.reqAt req).isSome ∧ .destroyed req ∈ x.after.log
  unsent : deliveries pck.addr s.log = []
  gone : ¬ (s.reqAt req).isSome

def ExactlyOne (a b c : Prop) : Prop := a ∧ ¬ b ∧ ¬ c ∨ ¬ a ∧ b ∧ ¬ c ∨ ¬ a ∧ ¬ b ∧ c

variable {τ : List (System.Taken RouterState Label)} {req : Nat} {pck : SrPacket}

theorem Waits.live (h : Waits s req pck) : (s.reqAt req).isSome := by
  obtain ⟨r, hr, haddr, -⟩ := h.request
  exact reqAt_isSome.mpr ⟨r, hr, haddr⟩

/-- No two of them have happened. -/
theorem exactlyOne_of (h : Waits s req pck ∨ Delivered sr τ s req pck ∨ Dropped sr τ s req pck) :
    ExactlyOne (Waits s req pck) (Delivered sr τ s req pck) (Dropped sr τ s req pck) := by
  have hsent : Delivered sr τ s req pck → deliveries pck.addr s.log ≠ [] := by
    intro hdelivered
    obtain ⟨x, -, r, -, -, -, mac, -, -, -, hlog⟩ := hdelivered.reply
    simp [hlog]
  rcases h with hw | hd | hd
  · exact .inl ⟨hw, fun h => h.gone hw.live, fun h => h.gone hw.live⟩
  · exact .inr (.inl ⟨fun h => hd.gone h.live, hd, fun h => hsent hd h.unsent⟩)
  · exact .inr (.inr ⟨fun h => hd.gone h.live, fun h => hsent h hd.unsent, hd⟩)

/-- By its address a frame is told from every other. -/
theorem Ledger.frame_eq (h : Ledger s) {x y : Nat × SrPacket} (hx : x ∈ queuedFrames s.log)
    (hy : y ∈ queuedFrames s.log) (haddr : x.2.addr = y.2.addr) : x = y :=
  List.inj_on_of_nodup_map h.distinct hx hy haddr

theorem Ledger.queuedOn_nodup (h : Ledger s) (req : Nat) : (queuedOn req s.log).Nodup := by
  refine List.Nodup.filterMap (fun x y p hx hy => ?_) (h.distinct.of_map _)
  simp only [Option.mem_def, Option.ite_none_right_eq_some, Option.some.injEq] at hx hy
  exact Prod.ext (hx.1.trans hy.1.symm) (hx.2.trans hy.2.symm)

theorem Ledger.mem_packets (h : Ledger s) {r : SrArpreq} (hr : r ∈ s.reqs) :
    pck ∈ r.packets ↔ (r.addr, pck) ∈ queuedFrames s.log := by
  rw [h.packets r hr, List.mem_reverse, mem_queuedOn]

/-- A stored frame is on its request once. -/
theorem Ledger.count_packets (h : Ledger s) {r : SrArpreq} (hr : r ∈ s.reqs)
    (hq : (r.addr, pck) ∈ queuedFrames s.log) : r.packets.count pck = 1 := by
  rw [h.packets r hr, List.count_reverse]
  exact List.count_eq_one_of_mem (h.queuedOn_nodup r.addr) (mem_queuedOn.mpr hq)

theorem Ledger.waits (h : Ledger s) (hq : (req, pck) ∈ queuedFrames s.log)
    (hlive : (s.reqAt req).isSome) (hunsent : deliveries pck.addr s.log = []) :
    Waits s req pck := by
  obtain ⟨r, hr, rfl⟩ := reqAt_isSome.mp hlive
  refine ⟨⟨r, hr, rfl, h.count_packets hr hq, fun r' hr' hpck => ?_⟩, hunsent⟩
  have hq' := (h.mem_packets hr').mp hpck
  exact h.wellFormed.addr_inj hr' hr (Prod.mk.inj (h.frame_eq hq' hq rfl)).1

/-- What was not stored was not released. -/
theorem Ledger.unsent (h : Ledger s)
    (hnew : ∀ x ∈ queuedFrames s.log, x.2.addr ≠ pck.addr) : deliveries pck.addr s.log = [] := by
  apply List.filter_eq_nil_iff.mpr
  intro e he hreleased
  simp only [decide_eq_true_eq] at hreleased
  cases e with
  | sent msg buf iface accepted =>
    cases msg with
    | released req p =>
      obtain ⟨q, hq, haddr, -⟩ := h.released _ _ _ _ _ he
      exact hnew _ hq (haddr.trans (Option.some.inj hreleased))
    | _ => simp [Event.releasedFrame] at hreleased
  | _ => simp [Event.releasedFrame] at hreleased

/-! ### One step -/

/-- What has become of a frame stays so, when its request is gone. -/
theorem gone_step (hs : Ledger s) (hq : (req, pck) ∈ queuedFrames s.log)
    (hgone : ¬ (s.reqAt req).isSome) (horigin : ∀ a ∈ t.addrs, a ∈ s.addrs ∨ s.brk ≤ a) :
    ¬ (t.reqAt req).isSome := by
  intro hlive
  obtain ⟨r, hr, rfl⟩ := reqAt_isSome.mp hlive
  rcases horigin r.addr (List.mem_map_of_mem hr) with hold | hnew
  · obtain ⟨r₀, hr₀, haddr⟩ := List.mem_map.mp hold
    exact hgone (reqAt_isSome.mpr ⟨r₀, hr₀, haddr⟩)
  · have := (hs.lt_brk _ hq).1
    simp only at this
    omega

theorem Delivered.step (h : Delivered sr τ s req pck) (x : System.Taken RouterState Label)
    (hgone : ¬ (t.reqAt req).isSome)
    (hlog : deliveries pck.addr t.log = deliveries pck.addr s.log) :
    Delivered sr (τ ++ [x]) t req pck := by
  obtain ⟨y, hy, r, hr, haddr, hpck, mac, hl, hbefore, hafter, hnow⟩ := h.reply
  exact ⟨⟨y, List.mem_append_left _ hy, r, hr, haddr, hpck, mac, hl, hbefore, hafter,
    hlog.trans hnow⟩, hgone⟩

theorem Dropped.step (h : Dropped sr τ s req pck) (x : System.Taken RouterState Label)
    (hgone : ¬ (t.reqAt req).isSome)
    (hlog : deliveries pck.addr t.log = deliveries pck.addr s.log) :
    Dropped sr (τ ++ [x]) t req pck := by
  obtain ⟨y, hy, hrest⟩ := h.discard
  exact ⟨⟨y, List.mem_append_left _ hy, hrest⟩, hlog.trans h.unsent, hgone⟩

/-- What has become of a frame so far. -/
abbrev Accounted (sr : SrInstance) (τ : List (System.Taken RouterState Label)) (s : RouterState)
    (req : Nat) (pck : SrPacket) : Prop :=
  Waits s req pck ∨ Delivered sr τ s req pck ∨ Dropped sr τ s req pck

/-- A request is given up in a step that announces no mapping. -/
theorem dropped_of_gone (hl : announced sr l = none) (hacc : Accounts l.now s t)
    {r : SrArpreq} (hr : r ∈ s.reqs) (hexp : Expired l.now r)
    (hgone : ¬ (t.reqAt r.addr).isSome) (hunsent : deliveries pck.addr t.log = []) :
    Dropped sr (τ ++ [⟨s, l, t⟩]) t r.addr pck where
  discard := ⟨⟨s, l, t⟩, List.mem_append_right _ (List.mem_singleton.mpr rfl), r, hr, rfl, hl, hexp,
    hgone, (hacc.destroyed _ (reqAt_isSome.mpr ⟨r, hr, rfl⟩)).resolve_left hgone⟩
  unsent := hunsent
  gone := hgone

theorem accounted_silent (hs : Ledger s) (ht : Ledger t) (hl : announced sr l = none)
    (hacc : Accounts l.now s t) (hfollows : Follows l.now s t)
    (horigin : ∀ a ∈ t.addrs, a ∈ s.addrs ∨ s.brk ≤ a)
    (ih : ∀ req pck, (req, pck) ∈ queuedFrames s.log → Accounted sr τ s req pck)
    (hq : (req, pck) ∈ queuedFrames t.log) : Accounted sr (τ ++ [⟨s, l, t⟩]) t req pck := by
  have hlog := hacc.deliveries pck.addr
  by_cases hold : (req, pck) ∈ queuedFrames s.log
  · -- a frame that was stored before
    rcases ih req pck hold with hw | hd | hd
    · have hunsent := hlog.trans hw.unsent
      by_cases hlive : (t.reqAt req).isSome
      · exact .inl (ht.waits hq hlive hunsent)
      · obtain ⟨r, hr, rfl, -⟩ := hw.request
        exact .inr (.inr (dropped_of_gone hl hacc hr (hfollows.expired_of_gone hr hlive) hlive
          hunsent))
    · exact .inr (.inl (hd.step _ (gone_step hs hold hd.gone horigin) hlog))
    · exact .inr (.inr (hd.step _ (gone_step hs hold hd.gone horigin) hlog))
  · -- a frame that this step stored
    have hunsent : deliveries pck.addr t.log = [] := by
      rw [hlog]
      refine hs.unsent fun x hx haddr => hold ?_
      have hx' : x ∈ queuedFrames t.log := (hfollows.log.sublist.filterMap _).subset hx
      rwa [← ht.frame_eq hx' hq haddr]
    by_cases hlive : (t.reqAt req).isSome
    · exact .inl (ht.waits hq hlive hunsent)
    · obtain ⟨r, hr, rfl, hexp⟩ := ((hacc.queued _ hq).resolve_left hold).resolve_left hlive
      exact .inr (.inr (dropped_of_gone hl hacc hr hexp hlive hunsent))

/-! ### A step that announces a mapping -/

theorem release_events_eq (mac : EtherAddr) (r : SrArpreq) :
    release_events sr mac r = r.packets.map (delivery sr mac r.addr) := rfl

/-- The frames of a request are released one by one. -/
theorem deliveries_release (a : Nat) (mac : EtherAddr) (r : SrArpreq) :
    deliveries a (release_events sr mac r ++ [.destroyed r.addr]) =
      (r.packets.filter fun p => p.addr = a).map (delivery sr mac r.addr) := by
  rw [deliveries_concat rfl, release_events_eq, deliveries, List.filter_map]
  congr 1
  refine List.filter_congr fun p _ => ?_
  simp [delivery, Event.releasedFrame]

/-- The frames of the request for a mapping are sent when it is learned. -/
theorem Ledger.release_delivers (h : Ledger s) {r : SrArpreq} (hr : r ∈ s.reqs)
    (hpck : pck ∈ r.packets) (mac : EtherAddr) (now : time_t) :
    deliveries pck.addr (s.release sr mac r.ip now).log =
      deliveries pck.addr s.log ++ [delivery sr mac r.addr pck] := by
  have hold : (r.addr, pck) ∈ queuedFrames s.log := (h.mem_packets hr).mp hpck
  have hfilter : r.packets.filter (fun p => p.addr = pck.addr) =
      r.packets.filter fun p => p = pck := by
    refine List.filter_congr fun p hp => decide_eq_decide.mpr ⟨fun haddr => ?_, fun h => h ▸ rfl⟩
    exact (Prod.mk.inj (h.frame_eq ((h.mem_packets hr).mp hp) hold haddr)).2
  rw [release_log (h.wellFormed.reqFor_eq hr), deliveries_append, deliveries_release, hfilter,
    List.filter_eq, h.count_packets hr hold]
  rfl

/-- A stored frame that waits for another mapping, or for none any more, is not sent. -/
theorem Ledger.release_spares (h : Ledger s) (hq : (req, pck) ∈ queuedFrames s.log)
    {ip : uint32_t} (hother : ∀ r ∈ s.reqs, r.ip = ip → pck ∉ r.packets) (mac : EtherAddr)
    (now : time_t) :
    deliveries pck.addr (s.release sr mac ip now).log = deliveries pck.addr s.log := by
  cases hr : s.reqFor ip with
  | none =>
    rw [release_of_none hr]
    rfl
  | some r =>
    obtain ⟨hmem, hip⟩ := reqFor_some hr
    have hnone : r.packets.filter (fun p => p.addr = pck.addr) = [] := by
      refine List.filter_eq_nil_iff.mpr fun p hp haddr => hother r hmem hip ?_
      have heq := h.frame_eq ((h.mem_packets hmem).mp hp) hq (of_decide_eq_true haddr)
      rwa [← (Prod.mk.inj heq).2]
    rw [release_log hr, deliveries_append, deliveries_release, hnone]
    exact List.append_nil _

theorem accounted_release (hs : Ledger s) {mac : EtherAddr} {ip : uint32_t}
    (hl : announced sr l = some (mac, ip))
    (ih : ∀ req pck, (req, pck) ∈ queuedFrames s.log → Accounted sr τ s req pck)
    (hq : (req, pck) ∈ queuedFrames (s.alloc.release sr mac ip now).log) :
    Accounted sr (τ ++ [⟨s, l, s.alloc.release sr mac ip now⟩])
      (s.alloc.release sr mac ip now) req pck := by
  have ht : Ledger (s.alloc.release sr mac ip now) := hs.alloc.release sr mac ip now
  have hmem : ∀ r, r ∈ (s.alloc.release sr mac ip now).reqs ↔ r ∈ s.reqs ∧ r.ip ≠ ip :=
    fun r => mem_release hs.wellFormed.alloc
  have horigin : ∀ a ∈ (s.alloc.release sr mac ip now).addrs, a ∈ s.addrs ∨ s.brk ≤ a := by
    intro a ha
    obtain ⟨r, hr, rfl⟩ := List.mem_map.mp ha
    exact .inl (List.mem_map_of_mem ((hmem r).mp hr).1)
  have hold : (req, pck) ∈ queuedFrames s.log := by rwa [Ledger.release_queuedFrames] at hq
  by_cases hmine : ∃ r ∈ s.reqs, r.ip = ip ∧ pck ∈ r.packets
  · -- the frame waited for this mapping
    obtain ⟨r, hr, rfl, hpck⟩ := hmine
    obtain rfl : req = r.addr :=
      (Prod.mk.inj (hs.frame_eq hold ((hs.mem_packets hr).mp hpck) rfl)).1
    have hlive : (s.reqAt r.addr).isSome := reqAt_isSome.mpr ⟨r, hr, rfl⟩
    -- its request is on the queue, so it was neither sent nor dropped
    rcases ih _ _ hold with hw | hd | hd
    · have hsent : deliveries pck.addr (s.alloc.release sr mac r.ip now).log =
          [delivery sr mac r.addr pck] := by
        rw [hs.alloc.release_delivers (s := s.alloc) hr hpck, alloc_log, hw.unsent, List.nil_append]
      refine .inr (.inl ⟨⟨_, List.mem_append_right _ (List.mem_singleton.mpr rfl), r, hr, rfl,
        hpck, mac, hl, hw.unsent, hsent, hsent⟩, fun hlive' => ?_⟩)
      obtain ⟨r', hr', haddr⟩ := reqAt_isSome.mp hlive'
      obtain ⟨hr', hne⟩ := (hmem r').mp hr'
      exact hne (congrArg _ (hs.wellFormed.addr_inj hr' hr haddr))
    · exact absurd hlive hd.gone
    · exact absurd hlive hd.gone
  · have hsame : deliveries pck.addr (s.alloc.release sr mac ip now).log =
        deliveries pck.addr s.log :=
      hs.alloc.release_spares hold (fun r hr hip hpck => hmine ⟨r, hr, hip, hpck⟩) mac now
    rcases ih _ _ hold with hw | hd | hd
    · obtain ⟨r, hr, rfl, hcount, -⟩ := hw.request
      have hpck : pck ∈ r.packets := List.count_pos_iff.mp (by omega)
      have hlive : ((s.alloc.release sr mac ip now).reqAt r.addr).isSome :=
        reqAt_isSome.mpr ⟨r, (hmem r).mpr ⟨hr, fun hip => hmine ⟨r, hr, hip, hpck⟩⟩, rfl⟩
      exact .inl (ht.waits hq hlive (hsame.trans hw.unsent))
    · exact .inr (.inl (hd.step _ (gone_step hs hold hd.gone horigin) hsame))
    · exact .inr (.inr (hd.step _ (gone_step hs hold hd.gone horigin) hsame))

/-! ### Runs -/

theorem accounted_of_run (hrun : (router sr heap).Run System.always RouterState.empty τ s) :
    Ledger s ∧ ∀ req pck, (req, pck) ∈ queuedFrames s.log → Accounted sr τ s req pck := by
  refine hrun.invariant (I := fun τ s => Ledger s ∧
    ∀ req pck, (req, pck) ∈ queuedFrames s.log → Accounted sr τ s req pck) ?_ ?_
  · exact ⟨.empty, fun req pck hq => by cases hq⟩
  · intro τ t l u _ hboth _ hstep
    obtain ⟨ht, ih⟩ := hboth
    obtain ⟨fuel, hu⟩ := hstep
    have hu' : u = (run_label sr heap fuel l t).2 := by rw [hu]
    have hledger : Ledger u := hu' ▸ (ledger_moves sr heap).run_label trivial ht fuel
    refine ⟨hledger, fun req pck hq => ?_⟩
    -- a step either announces a mapping or releases nothing
    cases hl : announced sr l with
    | none =>
      have hacc := step_accounts sr heap ht.wellFormed hl fuel
      have hfollows := step_follows sr heap ht.wellFormed hl fuel
      have horigin : ∀ a ∈ u.addrs, a ∈ t.addrs ∨ t.brk ≤ a := by
        rw [hu']
        exact step_origin ht.wellFormed fuel l
      rw [← hu'] at hacc hfollows
      exact accounted_silent ht hledger hl hacc hfollows horigin ih hq
    | some mapping =>
      obtain ⟨mac, ip⟩ := mapping
      rw [announce_eq ht.wellFormed hl fuel] at hu'
      subst hu'
      exact accounted_release ht hl ih hq

/-- What waits was not sent. -/
theorem Reachable.waiting_unsent (hs : Reachable sr heap System.always s) {r : SrArpreq}
    (hr : r ∈ s.reqs) (hpck : pck ∈ r.packets) : deliveries pck.addr s.log = [] := by
  obtain ⟨s₀, τ, rfl, hrun⟩ := hs.run
  obtain ⟨hledger, haccounted⟩ := accounted_of_run hrun
  have hlive : (s.reqAt r.addr).isSome := reqAt_isSome.mpr ⟨r, hr, rfl⟩
  rcases haccounted _ _ ((hledger.mem_packets hr).mp hpck) with hw | hd | hd
  · exact hw.unsent
  · exact absurd hlive hd.gone
  · exact absurd hlive hd.gone

/-- What the reply for a pending request `r` does. -/
structure Released (sr : SrInstance) (mac : EtherAddr) (r : SrArpreq) (s s' : RouterState) :
    Prop where
  /-- Its frames are sent, and nothing else. -/
  log : s'.log = s.log ++ (r.packets.map (delivery sr mac r.addr) ++ [.destroyed r.addr])
  /-- The last one stored is the first one sent. -/
  newest_first : r.packets = (queuedOn r.addr s.log).reverse
  gone : s'.reqFor r.ip = none
  others : ∃ before after, s.reqs = before ++ r :: after ∧ s'.reqs = before ++ after

theorem released_of_announced (hs : Ledger s) {mac : EtherAddr} {r : SrArpreq} (hr : r ∈ s.reqs)
    (hl : announced sr l = some (mac, r.ip)) (fuel : Nat) :
    ∃ s', run_label sr heap fuel l s = (.returned (), s') ∧ Released sr mac r s s' := by
  have hreq : s.alloc.reqFor r.ip = some r := hs.wellFormed.alloc.reqFor_eq hr
  refine ⟨_, announce_eq hs.wellFormed hl fuel, release_log hreq, hs.packets r hr, ?_, ?_⟩
  · refine reqFor_none.mpr fun r' hr' => ?_
    exact ((mem_release hs.wellFormed.alloc).mp hr').2
  · obtain ⟨before, after, hreqs, herase⟩ := eraseP_reqFor hreq
    exact ⟨before, after, hreqs, release_reqs.trans herase⟩

/-- **Every stored frame is accounted for** at every point of every run: it waits on one
    request, or it was sent once by a reply for its request, or it was dropped with its
    request after five tries. And a reply for a pending request sends its frames, the last
    one stored first, and leaves every other request as it is. -/
theorem every_frame_accounted
    (hrun : (router sr heap).Run System.always RouterState.empty τ s) :
    ((queuedFrames s.log).map fun x => x.2.addr).Nodup ∧
      (∀ msg req pck, .queued msg req pck ∈ s.log →
        ExactlyOne (Waits s req pck) (Delivered sr τ s req pck) (Dropped sr τ s req pck)) ∧
      ∀ l mac, ∀ r ∈ s.reqs, announced sr l = some (mac, r.ip) → ∀ fuel,
        ∃ s', run_label sr heap fuel l s = (.returned (), s') ∧ Released sr mac r s s' := by
  obtain ⟨hs, haccounted⟩ := accounted_of_run hrun
  refine ⟨hs.distinct, fun msg req pck he => ?_, fun l mac r hr hl fuel => ?_⟩
  · exact exactlyOne_of (haccounted req pck (mem_queuedFrames.mpr ⟨msg, he⟩))
  · exact released_of_announced hs hr hl fuel

namespace Sample

/-- The answer to one packet is delivered, that to another waits. -/
theorem one_delivered_one_waiting : ∃ τ s,
    (router net mem).Run System.always RouterState.empty τ s ∧
    (queuedFrames s.log).length = 2 ∧ s.reqs.length = 1 ∧
    ((queuedFrames s.log).map fun x => x.2.addr).Nodup ∧
      (∀ msg req pck, .queued msg req pck ∈ s.log →
        ExactlyOne (Waits s req pck) (Delivered net τ s req pck) (Dropped net τ s req pck)) ∧
      ∀ l mac, ∀ r ∈ s.reqs, announced net l = some (mac, r.ip) → ∀ fuel,
        ∃ s', run_label net mem fuel l s = (.returned (), s') ∧ Released net mac r s s' := by
  let last_hop := fun ip_src => ip_frame ip_src (inet_addr 192 168 2 7) 1 17 []
  let labels : List Label :=
    [.packet 10 (last_hop (inet_addr 172 64 3 9)) (eth 2),
      .packet 11 (arp_reply (inet_addr 172 64 3 9) ⟨eth 2, mac 2, inet_addr 172 64 3 1⟩) (eth 2),
      .packet 12 (last_hop (inet_addr 172 64 3 8)) (eth 2)]
  have hreach : Reachable net mem System.always (run 20 labels).2 :=
    run_reachable (by decide +kernel)
  obtain ⟨s₀, τ, rfl, hrun⟩ := hreach.run
  exact ⟨τ, _, hrun, by decide +kernel, by decide +kernel, every_frame_accounted hrun⟩

end Sample

end SimpleRouter
