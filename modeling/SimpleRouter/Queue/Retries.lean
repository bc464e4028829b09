import Mathlib.Data.List.Chain
import SimpleRouter.Queue.Ledger

/-! # Retries

    `sr_arpcache_handle_arpreq` is called by every sweep, for every frame that
    is stored and by itself. What keeps it from asking too often, or too many
    times, is two fields of a request. The log tells when a request was really
    asked for; `Asked` says that the two fields agree with it.

    * `Asked`: the invariant, kept by every single change.
    * `handle_asks`: a call that returns leaves its request asked for.
    * `retries_disciplined`: five tries at most, the first one at once, more
      than a second apart, and only then is a request given up.
-/

namespace SimpleRouter

open Framework Framework.Prog RouterState Relation

variable {sr : SrInstance} {heap : Heap} {now : time_t} {s t u : RouterState} {l : Label}
  {τ : List (System.Taken RouterState Label)}

/-! ### What the log tells -/

/-- The time of a broadcast for a request. -/
def Event.broadcast (req : Nat) : Event → Option time_t
  | .sent (.arp_request req' time) _ _ _ => if req' = req then some time else none
  | _ => none

/-- When a request was asked for, the first time first. -/
def broadcasts (req : Nat) (log : List Event) : List time_t := log.filterMap (Event.broadcast req)

theorem broadcasts_append (req : Nat) (L₁ L₂ : List Event) :
    broadcasts req (L₁ ++ L₂) = broadcasts req L₁ ++ broadcasts req L₂ :=
  List.filterMap_append

/-- An event that asks for nothing. -/
structure Event.Silent (e : Event) : Prop where
  broadcast : ∀ req, e.broadcast req = none

theorem Event.Silent.sent {msg : Message} (h : ∀ req now, msg ≠ .arp_request req now)
    (buf : RawFrame) (iface : IfName) (accepted : Bool) :
    (Event.sent msg buf iface accepted).Silent := by
  constructor
  intro req
  cases msg with
  | arp_request req' now => exact absurd rfl (h req' now)
  | _ => rfl

/-- A frame that is sent for a packet asks for nothing. -/
theorem Event.Silent.sent_forPacket {msg : Message} (h : msg.forPacket) (buf : RawFrame)
    (iface : IfName) (accepted : Bool) : (Event.sent msg buf iface accepted).Silent :=
  .sent (by rintro req now rfl; cases h) ..

theorem broadcasts_silent {L : List Event} (h : ∀ e ∈ L, e.Silent) (req : Nat) :
    broadcasts req L = [] :=
  List.filterMap_eq_nil_iff.mpr fun e he => (h e he).broadcast req

theorem broadcasts_emit {e : Event} (he : e.Silent) (req : Nat) :
    broadcasts req (s.emit e).log = broadcasts req s.log := by
  have hnone : broadcasts req [e] = [] := broadcasts_silent (List.forall_mem_singleton.mpr he) req
  rw [emit_log, broadcasts_append, hnone, List.append_nil]

/-! ### The invariant -/

structure Asked (s : RouterState) : Prop where
  wellFormed : WellFormed s
  /-- `times_sent` counts the broadcasts for a request. -/
  times_sent : ∀ r ∈ s.reqs, (broadcasts r.addr s.log).length = r.times_sent
  /-- `sent` is the time of the last one. -/
  sent : ∀ r ∈ s.reqs, r.sent = (broadcasts r.addr s.log).getLastD 0
  few : ∀ req, (broadcasts req s.log).length ≤ 5
  spaced : ∀ req, (broadcasts req s.log).IsChain fun t u => u - t > 1
  new : ∀ req, s.brk ≤ req → broadcasts req s.log = []

namespace Asked

theorem empty : Asked RouterState.empty where
  wellFormed := .empty
  times_sent r hr := by cases hr
  sent r hr := by cases hr
  few _ := Nat.zero_le _
  spaced _ := List.isChain_nil
  new _ _ := rfl

/-- Nothing is asked for. Requests may go, and new ones may come. -/
theorem of_silent (h : Asked s) (ht : WellFormed t) (hbrk : s.brk ≤ t.brk)
    (hlog : ∀ req, broadcasts req t.log = broadcasts req s.log)
    (hreqs : ∀ r' ∈ t.reqs, (∃ r ∈ s.reqs, r'.addr = r.addr ∧ r'.sent = r.sent ∧
      r'.times_sent = r.times_sent) ∨ s.brk ≤ r'.addr ∧ r'.sent = 0 ∧ r'.times_sent = 0) :
    Asked t where
  wellFormed := ht
  times_sent r' hr' := by
    rw [hlog]
    rcases hreqs r' hr' with ⟨r, hr, haddr, -, htimes⟩ | ⟨hnew, -, htimes⟩
    · rw [haddr, htimes, h.times_sent r hr]
    · rw [h.new _ hnew, htimes, List.length_nil]
  sent r' hr' := by
    rw [hlog]
    rcases hreqs r' hr' with ⟨r, hr, haddr, hsent, -⟩ | ⟨hnew, hsent, -⟩
    · rw [haddr, hsent, h.sent r hr]
    · rw [h.new _ hnew, hsent, List.getLastD_nil]
  few req := hlog req ▸ h.few req
  spaced req := hlog req ▸ h.spaced req
  new req hreq := hlog req ▸ h.new req (Nat.le_trans hbrk hreq)

theorem of_subset (h : Asked s) (ht : WellFormed t) (hbrk : s.brk ≤ t.brk)
    (hlog : ∀ req, broadcasts req t.log = broadcasts req s.log) (hsub : t.reqs ⊆ s.reqs) :
    Asked t :=
  h.of_silent ht hbrk hlog fun r hr => .inl ⟨r, hsub hr, rfl, rfl, rfl⟩

theorem emit (h : Asked s) {e : Event} (he : e.Silent) : Asked (s.emit e) :=
  h.of_subset (h.wellFormed.emit e) (Nat.le_refl _) (broadcasts_emit he) (List.Subset.refl s.reqs)

theorem alloc (h : Asked s) : Asked s.alloc :=
  h.of_subset h.wellFormed.alloc (Nat.le_succ _) (fun _ => rfl) (List.Subset.refl s.reqs)

theorem setEntries (h : Asked s) (entries : Vector SrArpentry SR_ARPCACHE_SZ) :
    Asked (s.setEntries entries) :=
  h.of_subset (h.wellFormed.setEntries entries) (Nat.le_refl _) (fun _ => rfl)
    (List.Subset.refl s.reqs)

theorem destroyReq (h : Asked s) (req : Nat) : Asked (s.destroyReq req) := by
  refine h.of_subset (h.wellFormed.destroyReq req) (Nat.le_refl _) (fun req' => ?_)
    List.eraseP_subset
  show broadcasts req' (s.log ++ [.destroyed req]) = _
  rw [broadcasts_append]
  exact List.append_nil _

theorem queuePacket (h : Asked s) (msg : Message) (ip : uint32_t) (buf : RawFrame)
    (iface : IfName) : Asked (s.queuePacket msg ip buf iface) := by
  refine h.of_silent (h.wellFormed.queuePacket ..) ?_ (fun req => ?_) fun r' hr' => ?_
  · have hfollows : Follows 0 s (s.queuePacket msg ip buf iface) := .queuePacket ..
    exact hfollows.brk_le
  · rw [queuePacket_log, broadcasts_append]
    exact List.append_nil _
  · rcases mem_queuePacket h.wellFormed hr' with hr' | ⟨r, addr, hr, -, rfl⟩
    · exact .inl ⟨r', hr', rfl, rfl, rfl⟩
    · rcases hr with hr | rfl
      · exact .inl ⟨r, hr, rfl, rfl, rfl⟩
      · exact .inr ⟨Nat.le_refl _, rfl, rfl⟩

/-- Releasing the frames of a request asks for nothing. -/
theorem release_silent {mac : EtherAddr} {ip : uint32_t} {e : Event}
    (h : ReleaseEvent sr s mac ip e) : e.Silent := by
  cases h with
  | sent => exact .sent (by simp) ..
  | destroyed => exact ⟨fun _ => rfl⟩

theorem release (h : Asked s) (sr : SrInstance) (mac : EtherAddr) (ip : uint32_t)
    (now : time_t) : Asked (s.release sr mac ip now) := by
  refine h.of_subset (h.wellFormed.release sr mac ip now) (Nat.le_of_eq release_brk.symm)
    (fun req => ?_) fun r hr => ((mem_release h.wellFormed).mp hr).1
  obtain ⟨L, hlog, hL⟩ := release_logs sr s mac ip now
  rw [hlog, broadcasts_append, broadcasts_silent fun e he => release_silent (hL e he),
    List.append_nil]

/-- The broadcasts after one more for `r`. -/
theorem broadcasts_ask (r : SrArpreq) (now : time_t) (buf : RawFrame) (iface : IfName)
    (accepted : Bool) (req : Nat) :
    broadcasts req ((s.askReq now r).emit (.sent (.arp_request r.addr now) buf iface accepted)).log =
      if r.addr = req then broadcasts req s.log ++ [now] else broadcasts req s.log := by
  show broadcasts req (s.log ++ [_]) = _
  rw [broadcasts_append]
  by_cases hreq : r.addr = req
  · simp [broadcasts, Event.broadcast, hreq]
  · simp [broadcasts, Event.broadcast, hreq]

/-- A request is asked for when more than a second has passed since the last time. -/
theorem ask (h : Asked s) {r : SrArpreq} (hr : r ∈ s.reqs) (hdue : now - r.sent > 1)
    (htimes : r.times_sent < 5) (buf : RawFrame) (iface : IfName) (accepted : Bool) :
    Asked ((s.askReq now r).emit (.sent (.arp_request r.addr now) buf iface accepted)) := by
  have hlength := h.times_sent r hr
  have hlast := h.sent r hr
  refine ⟨(h.wellFormed.askReq now r).emit _, fun r' hr' => ?_, fun r' hr' => ?_, fun req => ?_,
    fun req => ?_, fun req hreq => ?_⟩
  · -- one broadcast more for `r`, and as many as before for the others
    obtain ⟨r₀, hr₀, rfl⟩ := mem_updateReq.mp hr'
    rw [broadcasts_ask]
    by_cases haddr : r₀.addr = r.addr
    · simp only [haddr, if_true, List.length_append, List.length_singleton]
      rw [hlength, h.wellFormed.addr_inj hr₀ hr haddr]
    · rw [if_neg haddr, if_neg (Ne.symm haddr), h.times_sent r₀ hr₀]
  · obtain ⟨r₀, hr₀, rfl⟩ := mem_updateReq.mp hr'
    rw [broadcasts_ask]
    by_cases haddr : r₀.addr = r.addr
    · simp [haddr]
    · rw [if_neg haddr, if_neg (Ne.symm haddr), h.sent r₀ hr₀]
  · rw [broadcasts_ask]
    split
    · next haddr =>
      rw [List.length_append, ← haddr, hlength, List.length_singleton]
      omega
    · exact h.few req
  · rw [broadcasts_ask]
    split
    · next haddr =>
      -- `sent` is the time of the last broadcast, and more than a second ago
      refine List.IsChain.append (h.spaced req) (List.isChain_singleton _) ?_
      intro last hlast' t ht
      obtain rfl : t = now := by simpa using ht.symm
      rw [← haddr] at hlast'
      rw [hlast, List.getLastD_eq_getLast?, hlast'] at hdue
      exact hdue
    · exact h.spaced req
  · have hreq' : s.brk ≤ req := hreq
    have hlt := h.wellFormed.lt_brk hr
    rw [broadcasts_ask, if_neg (by omega), h.new req hreq']

end Asked

variable (sr heap) in
theorem asked_moves : MoveRules sr heap (fun _ => True) Asked where
  wellFormed _ hs := hs.wellFormed
  alloc _ hs := hs.alloc
  release _ mac ip now hs := hs.release sr mac ip now
  expire _ _ hs := hs.setEntries _
  move l s s' _ hs hmove := by
    cases hmove with
    | alloc => exact hs.alloc
    | took => exact hs.emit ⟨fun _ => rfl⟩
    | replied => exact hs.emit (.sent (by simp) ..)
    | sent _ _ hres => exact hs.emit (.sent_forPacket hres.forPacket ..)
    | stored => exact hs.queuePacket ..
    | asked hr hdue htimes => exact hs.ask hr hdue htimes ..
    | answered => exact hs.alloc.emit (.sent (by simp) ..)
    | answer_stored => exact hs.alloc.queuePacket ..
    | discarded => exact hs.destroyReq _

theorem Reachable.asked (hs : Reachable sr heap System.always s) : Asked s :=
  (asked_moves sr heap).reachable .empty hs

/-! ### The first broadcast -/

/-- The request at `req` was not asked for yet. -/
def Unasked (s : RouterState) (req : Nat) : Prop := ∃ r ∈ s.reqs, r.addr = req ∧ r.times_sent = 0

/-- What was not asked for in `t` was there, and not asked for, in `s`. -/
structure AskedSince (s t : RouterState) : Prop where
  asked : Asked t
  unasked : ∀ req, Unasked t req → Unasked s req

theorem AskedSince.of_same_reqs (ht : Asked t) (hreqs : t.reqs = s.reqs) : AskedSince s t := by
  refine ⟨ht, fun req h => ?_⟩
  unfold Unasked at h ⊢
  rwa [hreqs] at h

theorem AskedSince.trans (h : AskedSince s t) (h' : AskedSince t u) : AskedSince s u :=
  ⟨h'.asked, fun req hu => h.unasked req (h'.unasked req hu)⟩

/-- A frame may be stored on a request that is new. -/
theorem unasked_queuePacket {msg : Message} {ip : uint32_t} {buf : RawFrame} {iface : IfName}
    {req : Nat} (h : Unasked (s.queuePacket msg ip buf iface) req) :
    Unasked s req ∨ req = s.queueTarget ip := by
  obtain ⟨r', hr', rfl, htimes⟩ := h
  obtain ⟨r, hr, rfl⟩ := mem_updateReq.mp hr'
  have haddr : (if r.addr = s.queueTarget ip then
      { r with packets := ⟨(s.queueReady ip).brk, buf, iface⟩ :: r.packets } else r).addr =
        r.addr := by
    split <;> rfl
  have htimes' : r.times_sent = 0 := by
    split at htimes
    · exact htimes
    · exact htimes
  rw [haddr]
  unfold RouterState.queueReady at hr
  split at hr
  · exact .inl ⟨r, hr, rfl, htimes'⟩
  · next hnone =>
    rcases List.mem_append.mp hr with hr | hr
    · exact .inl ⟨r, hr, rfl, htimes'⟩
    · right
      rw [List.mem_singleton.mp hr, RouterState.queueTarget]
      simp only [hnone]

/-- When a call on `req` returns, `req` was asked for, and so was every request that the
    call made. -/
def Asks (handle : Nat → Router Unit) : Prop :=
  ∀ req s s', Asked s → handle req s = (.returned (), s') →
    AskedSince s s' ∧ ¬ Unasked s' req

/-- A frame was stored, and its request was seen to. -/
theorem store_asks {handle : Nat → Router Unit} (ih : Asks handle) (hs : Asked s)
    {msg : Message} {ip : uint32_t} {buf : RawFrame} {iface : IfName}
    (hrun : handle (s.queueTarget ip) (s.queuePacket msg ip buf iface) = (.returned (), t)) :
    AskedSince s t := by
  obtain ⟨hsince, htarget⟩ := ih _ _ _ (hs.queuePacket ..) hrun
  refine ⟨hsince.asked, fun req hu => ?_⟩
  rcases unasked_queuePacket (hsince.unasked req hu) with hold | rfl
  · exact hold
  · exact absurd hu htarget

theorem answer_sender_asks {fuel req : Nat} {pck : SrPacket}
    (ih : Asks (sr_arpcache_handle_arpreq sr heap now fuel)) (hs : Asked s)
    (hrun : answer_sender sr heap (sr_arpcache_handle_arpreq sr heap now fuel) req pck s =
      (.returned (), t)) : AskedSince s t := by
  rw [answer_sender_eq] at hrun
  split at hrun
  · obtain rfl := (Prod.mk.inj hrun).2
    exact .of_same_reqs hs.alloc rfl
  · next rtentry hrt =>
    split at hrun
    · simp at hrun
    · next ifc hifc =>
      split at hrun
      · obtain rfl := (Prod.mk.inj hrun).2
        exact .of_same_reqs (hs.alloc.emit (.sent (by simp) ..)) rfl
      · have halloc : AskedSince s s.alloc := .of_same_reqs hs.alloc rfl
        exact halloc.trans (store_asks ih hs.alloc hrun)

/-- Asking for a request leaves the others as they are. -/
theorem unasked_ask {r : SrArpreq} {now : time_t} {req : Nat}
    (h : Unasked (s.askReq now r) req) : Unasked s req ∧ req ≠ r.addr := by
  obtain ⟨r', hr', rfl, htimes⟩ := h
  obtain ⟨r₀, hr₀, rfl⟩ := mem_updateReq.mp hr'
  by_cases haddr : r₀.addr = r.addr
  · rw [if_pos haddr] at htimes
    simp at htimes
  · rw [if_neg haddr] at htimes ⊢
    exact ⟨⟨r₀, hr₀, rfl, htimes⟩, haddr⟩

/-- A request that is not due was asked for: a new one has `sent` zero, so it is due. -/
theorem Asked.asked_of_idle {now : time_t} (h : Asked s) (hnow : 1 < now) {r : SrArpreq}
    (hr : r ∈ s.reqs) (hdue : ¬ now - r.sent > 1) : ¬ Unasked s r.addr := by
  rintro ⟨r', hr', haddr, htimes⟩
  obtain rfl := h.wellFormed.addr_inj hr' hr haddr
  have hlength := h.times_sent r' hr'
  have hsent := h.sent r' hr'
  rw [htimes] at hlength
  rw [List.length_eq_zero_iff.mp hlength, List.getLastD_nil] at hsent
  rw [hsent, Int.sub_zero] at hdue
  exact hdue hnow

/-- **A call that returns** leaves its request asked for, or gone. -/
theorem handle_asks (hnow : 1 < now) (fuel : Nat) :
    Asks (sr_arpcache_handle_arpreq sr heap now fuel) := by
  -- on the fuel: the calls for the frames of an expired request have less of it
  induction fuel with
  | zero =>
    intro req s s' _ hrun
    simp [sr_arpcache_handle_arpreq] at hrun
  | succ fuel ih =>
    intro req s s' hs hrun
    have hlive : (s.reqAt req).isSome := by
      by_contra hnone
      rw [handle_arpreq_eq, Option.not_isSome_iff_eq_none.mp hnone] at hrun
      simp at hrun
    obtain ⟨r, hr, rfl⟩ := reqAt_isSome.mp hlive
    obtain ⟨n, ⟨⟩, hdone⟩ := handle_arpreq_returned hs.wellFormed hr hrun
    cases hdone with
    | idle hdue hs' =>
      subst hs'
      exact ⟨.of_same_reqs hs rfl, hs.asked_of_idle hnow hr hdue⟩
    | asked hdue hexp hask =>
      have htimes : r.times_sent < 5 := by
        by_contra hle
        exact hexp ⟨hdue, by omega⟩
      obtain ⟨rtentry, ifc, accepted, -, -, rfl⟩ := send_arp_request_returned hask
      exact ⟨⟨hs.ask hr hdue htimes .., fun req hu => (unasked_ask hu).1⟩,
        fun hu => (unasked_ask hu).2 rfl⟩
    | @discarded v hexp hloop hlive hs' =>
      subst hs'
      -- the answers may make new requests, and the nested calls ask for them
      have hv : AskedSince s v :=
        Prog.forEach_returned (I := fun _ v => AskedSince s v) (.of_same_reqs hs rfl)
          (fun _ _ _ _ _ _ hv hbody =>
            hv.trans (answer_sender_asks ih hv.asked (discard_packet_returned hbody).1)) hloop
      refine ⟨⟨hv.asked.destroyReq _, fun req hu => ?_⟩, fun hu => ?_⟩
      · obtain ⟨r', hr', haddr, htimes⟩ := hu
        exact hv.unasked req ⟨r', ((mem_destroyReq hv.asked.wellFormed).mp hr').1, haddr, htimes⟩
      · obtain ⟨r', hr', haddr, -⟩ := hu
        exact ((mem_destroyReq hv.asked.wellFormed).mp hr').2 haddr

theorem rest_asks {now : time_t} {packet : RawFrame} {interface : IfName} {buf fuel : Nat}
    {todo : Todo} (hnow : 1 < now) (hs : Asked s)
    (htodo : sr_handlepacket_todo sr heap buf packet interface = todo)
    (hl : announced sr (.packet now packet interface) = none)
    (hrun : sr_handlepacket_rest sr heap now fuel todo s = (.returned (), t)) : AskedSince s t := by
  cases todo with
  | nothing =>
    obtain rfl := (Prod.mk.inj hrun).2
    exact .of_same_reqs hs rfl
  | crash f => simp [sr_handlepacket_rest] at hrun
  | reply frame iface =>
    obtain rfl := (Prod.mk.inj hrun).2
    exact .of_same_reqs (hs.emit (.sent (by simp) ..)) rfl
  | resolve msg ip frame iface =>
    obtain ⟨-, hres⟩ := todo_resolve htodo
    rw [sr_handlepacket_rest] at hrun
    cases hlookup : sr_arpcache_lookup s.cache ip with
    | some entry =>
      rw [send_or_queue_hit hlookup] at hrun
      obtain rfl := (Prod.mk.inj hrun).2
      exact .of_same_reqs (hs.emit (.sent_forPacket hres.forPacket ..)) rfl
    | none =>
      rw [send_or_queue_miss hres.length hlookup] at hrun
      exact store_asks (handle_asks hnow fuel) hs hrun
  | learn mac ip => simp [(todo_learn_iff heap now buf).mp htodo] at hl

/-- **A step that returns** leaves no new request that was not asked for. -/
theorem step_asks (hnow : 1 < l.now) (hs : Asked s) (hl : announced sr l = none) {fuel : Nat}
    (hrun : run_label sr heap fuel l s = (.returned (), t)) : AskedSince s t := by
  have hsweep : ∀ now, 1 < now → Triple (AskedSince s) (sr_arpcache_sweepreqs sr heap now fuel)
      (fun _ => AskedSince s) fun _ _ => True := by
    intro now hnow
    refine triple_sweep (fun n req v hv => ?_) (fun _ _ => trivial) fun _ _ => trivial
    rcases hcall : sr_arpcache_handle_arpreq sr heap now n req v with ⟨_ | _ | _, v'⟩
    · exact hv.trans (handle_asks hnow n _ _ _ hv.asked hcall).1
    · trivial
    · trivial
  -- every call of the step returns, so it leaves its request asked for
  cases l with
  | sweep now => exact (hsweep now hnow).returned (.of_same_reqs hs rfl) hrun
  | timeout now =>
    have hexpired := AskedSince.of_same_reqs (s := s)
      (hs.setEntries (sr_arpcache_expire s.cache.entries now)) rfl
    refine (triple_timeout (I := (· = s)) (hsweep now hnow) ?_).returned rfl hrun
    rintro v rfl
    exact hexpired
  | packet now packet interface =>
    rw [run_label, handlepacket_eq] at hrun
    have hstart : AskedSince s (if has_ether_type packet ethertype_ip then
        s.alloc.emit (.took (sr_ip_branch sr packet)) else s.alloc) := by
      split
      · exact .of_same_reqs (hs.alloc.emit ⟨fun _ => rfl⟩) rfl
      · exact .of_same_reqs hs.alloc rfl
    exact hstart.trans (rest_asks hnow hstart.asked rfl hl hrun)

/-! ### What is new in the log -/

/-- The event belongs to giving up request `req` in step `l`: the sender of one of its
    frames is answered, or it is freed with no reply for it. -/
def Event.GivesUp (sr : SrInstance) (l : Label) (req : Nat) : Event → Prop
  | .sent (.host_unreachable req' _) _ _ _ => req' = req
  | .queued (.host_unreachable req' _) _ _ => req' = req
  | .destroyed req' => req' = req ∧ announced sr l = none
  | _ => False

/-- What a step may add to the log: broadcasts are made at the time of the step, and what is
    given up has expired in `s`. -/
structure Event.Timely (sr : SrInstance) (l : Label) (s : RouterState) (e : Event) : Prop where
  broadcast : ∀ req time, e.broadcast req = some time → time = l.now
  expired : ∀ req, e.GivesUp sr l req → ∃ r ∈ s.reqs, r.addr = req ∧ Expired l.now r

/-- Most events neither ask nor give up. -/
theorem Event.Timely.of_silent {e : Event} (h : e.Silent) (h' : ∀ req, ¬ e.GivesUp sr l req) :
    e.Timely sr l s where
  broadcast req time hb := by
    rw [h.broadcast req] at hb
    cases hb
  expired req hgives := absurd hgives (h' req)

theorem not_givesUp_sent {msg : Message} (h : ∀ req pck, msg ≠ .host_unreachable req pck)
    {buf : RawFrame} {iface : IfName} {accepted : Bool} :
    ∀ req, ¬ (Event.sent msg buf iface accepted).GivesUp sr l req := by
  intro req
  cases msg with
  | host_unreachable req' pck => exact absurd rfl (h req' pck)
  | _ => exact id

theorem not_givesUp_queued {msg : Message} (h : msg.forPacket) {req' : Nat} {pck : SrPacket} :
    ∀ req, ¬ (Event.queued msg req' pck).GivesUp sr l req := by
  intro req
  cases msg with
  | host_unreachable => cases h
  | _ => exact id

/-- What has expired in the course of a step had expired before it. -/
theorem Follows.expired_before (h : Follows now s t) {r : SrArpreq} (hr : r ∈ t.reqs)
    (hexp : Expired now r) : ∃ r₀ ∈ s.reqs, r₀.addr = r.addr ∧ Expired now r₀ := by
  obtain ⟨r₀, hr₀, hcont⟩ := h.expired_old hr hexp
  exact ⟨r₀, hr₀, hcont.addr.symm, hcont.expired.mp hexp⟩

/-- One change of a step that began in `s` and has come to `t`. -/
theorem Move.timely (h : Move sr heap l t u) (hst : Follows l.now s t) :
    ∃ L, u.log = t.log ++ L ∧ ∀ e ∈ L, e.Timely sr l s := by
  cases h with
  | alloc => exact ⟨[], by simp, by simp⟩
  | took =>
    exact ⟨_, rfl, List.forall_mem_singleton.mpr (.of_silent ⟨fun _ => rfl⟩ fun _ => id)⟩
  | replied =>
    exact ⟨_, rfl, List.forall_mem_singleton.mpr
      (.of_silent (.sent (by simp) ..) (not_givesUp_sent (by simp)))⟩
  | sent _ _ hres =>
    refine ⟨_, rfl, List.forall_mem_singleton.mpr
      (.of_silent (.sent_forPacket hres.forPacket ..) (not_givesUp_sent ?_))⟩
    rintro req pck rfl
    cases hres.forPacket
  | stored _ _ hres =>
    refine ⟨_, queuePacket_log .., List.forall_mem_singleton.mpr
      (.of_silent ⟨fun _ => rfl⟩ (not_givesUp_queued hres.forPacket))⟩
  | asked =>
    refine ⟨_, rfl, List.forall_mem_singleton.mpr ⟨fun req time hb => ?_, fun _ h => h.elim⟩⟩
    simp only [Event.broadcast] at hb
    split at hb
    · exact (Option.some.inj hb).symm
    · cases hb
  -- the three moves that give up a request are made when it has expired
  | answered hr hexp =>
    refine ⟨_, rfl, List.forall_mem_singleton.mpr ⟨fun _ _ hb => (by cases hb), fun req h => ?_⟩⟩
    obtain rfl : _ = req := h
    exact hst.expired_before hr hexp
  | answer_stored hr hexp =>
    refine ⟨_, queuePacket_log .., List.forall_mem_singleton.mpr
      ⟨fun _ _ hb => (by cases hb), fun req h => ?_⟩⟩
    obtain rfl : _ = req := h
    exact hst.expired_before hr hexp
  | discarded hr hexp =>
    refine ⟨_, rfl, List.forall_mem_singleton.mpr ⟨fun _ _ hb => (by cases hb), fun req h => ?_⟩⟩
    obtain rfl : _ = req := h.1
    exact hst.expired_before hr hexp

theorem Path.timely (h : Path sr heap l s t) (hs : WellFormed s) :
    ∃ L, t.log = s.log ++ L ∧ ∀ e ∈ L, e.Timely sr l s := by
  induction h with
  | refl => exact ⟨[], by simp, by simp⟩
  | tail hpath hmove ih =>
    obtain ⟨L, hlog, hL⟩ := ih
    obtain ⟨L', hlog', hL'⟩ := hmove.timely (Path.follows hpath hs)
    exact ⟨L ++ L', by rw [hlog', hlog, List.append_assoc], List.forall_mem_append.mpr ⟨hL, hL'⟩⟩

variable (sr heap) in
/-- **A step**, however it ends. -/
theorem step_timely (hs : WellFormed s) (fuel : Nat) (l : Label) :
    ∃ L, (run_label sr heap fuel l s).2.log = s.log ++ L ∧ ∀ e ∈ L, e.Timely sr l s := by
  cases run_label_stepped sr heap fuel l s hs with
  | moved _ _ hpath => exact Path.timely hpath hs
  | passed _ hpath =>
    obtain ⟨L, hlog, hL⟩ := Path.timely hpath (hs.setEntries _)
    exact ⟨L, hlog, fun e he => ⟨(hL e he).broadcast, (hL e he).expired⟩⟩
  | @learned mac ip s' hl hs' =>
    -- frames are released and the request is freed, but a reply announced it
    obtain ⟨L, hlog, hL⟩ := release_logs sr s.alloc mac ip l.now
    rw [hs']
    refine ⟨L, hlog, fun e he => ?_⟩
    cases hL e he with
    | sent => exact .of_silent (.sent (by simp) ..) (not_givesUp_sent (by simp))
    | destroyed =>
      refine .of_silent ⟨fun _ => rfl⟩ fun req h => ?_
      simp [Event.GivesUp, hl] at h

/-! ### Runs -/

/-- The request at `req` was made in step `x`. -/
structure MadeIn (x : System.Taken RouterState Label) (req : Nat) : Prop where
  new : x.before.brk ≤ req
  live : (x.after.reqAt req).isSome

/-- Since `r` was made, no reply from its IP was handled. -/
def Unanswered (sr : SrInstance) (τ : List (System.Taken RouterState Label)) (r : SrArpreq) :
    Prop :=
  ∃ τ₁ x τ₂, τ = τ₁ ++ x :: τ₂ ∧ MadeIn x r.addr ∧
    ∀ y ∈ x :: τ₂, ∀ mac, announced sr y.label ≠ some (mac, r.ip)

/-- The request is on the queue, or a frame was stored on it at some time. -/
def Known (s : RouterState) (req : Nat) : Prop :=
  (s.reqAt req).isSome ∨ ∃ pck, (req, pck) ∈ queuedFrames s.log

structure Disciplined (sr : SrInstance) (τ : List (System.Taken RouterState Label))
    (s : RouterState) : Prop where
  asked : Asked s
  /-- Every request was asked for in the step in which it was made. -/
  first : ∀ req, Known s req → ∃ x ∈ τ, MadeIn x req ∧
    (broadcasts req s.log).head? = some x.label.now
  unanswered : ∀ r ∈ s.reqs, Unanswered sr τ r

/-- A new request is asked for at once. -/
theorem first_broadcast {L : List Event} {req : Nat} (hs : Asked s) (h : AskedSince s t)
    (hlog : t.log = s.log ++ L) (hL : ∀ e ∈ L, e.Timely sr l s) (hnew : s.brk ≤ req)
    (hlive : (t.reqAt req).isSome) : (broadcasts req t.log).head? = some l.now := by
  obtain ⟨r, hr, rfl⟩ := reqAt_isSome.mp hlive
  have hasked : r.times_sent ≠ 0 := by
    intro htimes
    obtain ⟨r₀, hr₀, haddr, -⟩ := h.unasked _ ⟨r, hr, rfl, htimes⟩
    have := hs.wellFormed.lt_brk hr₀
    omega
  have hsome : broadcasts r.addr t.log ≠ [] := by
    intro hnil
    have hlength := h.asked.times_sent r hr
    rw [hnil] at hlength
    exact hasked hlength.symm
  -- all of its broadcasts were made in this step
  have hhead := List.head_mem hsome
  rw [List.head?_eq_some_head hsome]
  generalize (broadcasts r.addr t.log).head hsome = time at hhead ⊢
  rw [hlog, broadcasts_append, hs.new _ hnew, List.nil_append] at hhead
  obtain ⟨e, he, hbroadcast⟩ := List.mem_filterMap.mp hhead
  rw [(hL e he).broadcast _ _ hbroadcast]

theorem head_kept {L : List Event} {req : Nat} {time : time_t} (hlog : t.log = s.log ++ L)
    (h : (broadcasts req s.log).head? = some time) :
    (broadcasts req t.log).head? = some time := by
  rw [hlog, broadcasts_append, List.head?_append, h]
  rfl

theorem Unanswered.step {r r' : SrArpreq} (h : Unanswered sr τ r) (haddr : r'.addr = r.addr)
    (hip : r'.ip = r.ip) (x : System.Taken RouterState Label)
    (hx : ∀ mac, announced sr x.label ≠ some (mac, r.ip)) : Unanswered sr (τ ++ [x]) r' := by
  obtain ⟨τ₁, y, τ₂, rfl, hmade, hno⟩ := h
  refine ⟨τ₁, y, τ₂ ++ [x], by simp, haddr ▸ hmade, fun z hz => ?_⟩
  rw [hip]
  rcases List.mem_append.mp (show z ∈ (y :: τ₂) ++ [x] from hz) with hz | hz
  · exact hno z hz
  · rw [List.mem_singleton.mp hz]
    exact hx

/-- A step that announces a mapping. -/
theorem Disciplined.learned (h : Disciplined sr τ s) {mac : EtherAddr} {ip : uint32_t}
    (hl : announced sr l = some (mac, ip)) (ht : t = s.alloc.release sr mac ip l.now)
    {L : List Event} (hlog : t.log = s.log ++ L) : Disciplined sr (τ ++ [⟨s, l, t⟩]) t := by
  have hreqs : ∀ r ∈ t.reqs, r ∈ s.reqs ∧ r.ip ≠ ip := by
    rw [ht]
    exact fun r hr => (mem_release h.asked.wellFormed.alloc).mp hr
  have hqueued : queuedFrames t.log = queuedFrames s.log := by
    rw [ht, Ledger.release_queuedFrames]
    rfl
  refine ⟨ht ▸ h.asked.alloc.release sr mac ip l.now, fun req hknown => ?_, fun r hr => ?_⟩
  · have hold : Known s req := by
      rcases hknown with hlive | hstored
      · obtain ⟨r, hr, haddr⟩ := reqAt_isSome.mp hlive
        exact .inl (reqAt_isSome.mpr ⟨r, (hreqs r hr).1, haddr⟩)
      · exact .inr (hqueued ▸ hstored)
    obtain ⟨x, hx, hmade, hhead⟩ := h.first req hold
    exact ⟨x, List.mem_append_left _ hx, hmade, head_kept hlog hhead⟩
  · obtain ⟨hr, hne⟩ := hreqs r hr
    refine (h.unanswered r hr).step rfl rfl _ fun mac' hl' => hne ?_
    exact (Prod.mk.inj (Option.some.inj (hl.symm.trans hl'))).2.symm

/-- A step that announces none. -/
theorem Disciplined.silent (h : Disciplined sr τ s) (hl : announced sr l = none)
    (hsince : AskedSince s t) (hacc : Accounts l.now s t) (hfollows : Follows l.now s t)
    {L : List Event} (hlog : t.log = s.log ++ L) (hL : ∀ e ∈ L, e.Timely sr l s) :
    Disciplined sr (τ ++ [⟨s, l, t⟩]) t := by
  have hmem : (⟨s, l, t⟩ : System.Taken RouterState Label) ∈ τ ++ [⟨s, l, t⟩] :=
    List.mem_append_right _ (List.mem_singleton.mpr rfl)
  have hold : ∀ req, Known s req → ∃ x ∈ τ ++ [⟨s, l, t⟩], MadeIn x req ∧
      (broadcasts req t.log).head? = some x.label.now := by
    intro req hknown
    obtain ⟨x, hx, hmade, hhead⟩ := h.first req hknown
    exact ⟨x, List.mem_append_left _ hx, hmade, head_kept hlog hhead⟩
  have hlive : ∀ r ∈ t.reqs, ∃ x ∈ τ ++ [⟨s, l, t⟩], MadeIn x r.addr ∧
      (broadcasts r.addr t.log).head? = some x.label.now := by
    intro r hr
    have hat : (t.reqAt r.addr).isSome := reqAt_isSome.mpr ⟨r, hr, rfl⟩
    rcases hfollows.origin r hr with ⟨r₀, hr₀, hcont⟩ | ⟨hnew, -⟩
    · exact hold _ (.inl (reqAt_isSome.mpr ⟨r₀, hr₀, hcont.addr.symm⟩))
    · exact ⟨_, hmem, ⟨hnew, hat⟩, first_broadcast h.asked hsince hlog hL hnew hat⟩
  refine ⟨hsince.asked, fun req hknown => ?_, fun r hr => ?_⟩
  · rcases hknown with hreq | ⟨pck, hstored⟩
    · obtain ⟨r, hr, rfl⟩ := reqAt_isSome.mp hreq
      exact hlive r hr
    · rcases hacc.queued _ hstored with hstored | hreq | ⟨r, hr, rfl, -⟩
      · exact hold _ (.inr ⟨pck, hstored⟩)
      · obtain ⟨r, hr, rfl⟩ := reqAt_isSome.mp hreq
        exact hlive r hr
      · exact hold _ (.inl (reqAt_isSome.mpr ⟨r, hr, rfl⟩))
  · rcases hfollows.origin r hr with ⟨r₀, hr₀, hcont⟩ | ⟨hnew, -⟩
    · exact (h.unanswered r₀ hr₀).step hcont.addr hcont.ip _ (by simp [hl])
    · exact ⟨τ, _, [], rfl, ⟨hnew, reqAt_isSome.mpr ⟨r, hr, rfl⟩⟩, by simp [hl]⟩

/-- A clock that shows more than one second. -/
abbrev Label.Running (l : Label) : Prop := 1 < l.now

theorem disciplined_of_run
    (hrun : (router sr heap).Run (fun _ => Label.Running) RouterState.empty τ s) :
    Disciplined sr τ s := by
  refine hrun.invariant (I := Disciplined sr) ⟨.empty, ?_, fun r hr => by cases hr⟩ ?_
  · rintro req (h | ⟨pck, h⟩)
    · simp [RouterState.empty, RouterState.reqAt] at h
    · cases h
  · intro τ t l u _ ht hrunning hstep
    obtain ⟨fuel, hu⟩ := hstep
    have hwf := ht.asked.wellFormed
    obtain ⟨L, hlog, hL⟩ := step_timely sr heap hwf fuel l
    rw [hu] at hlog
    cases hl : announced sr l with
    | some mapping =>
      obtain ⟨mac, ip⟩ := mapping
      rw [announce_eq hwf hl fuel] at hu
      exact ht.learned hl (Prod.mk.inj hu).2.symm hlog
    | none =>
      have hacc := step_accounts sr heap hwf hl fuel
      have hfollows := step_follows sr heap hwf hl fuel
      rw [hu] at hacc hfollows
      exact ht.silent hl (step_asks hrunning ht.asked hl hu) hacc hfollows hlog hL

/-- **Retries are disciplined**, in every run whose clock shows more than one second. A
    request is asked for at most five times, with more than a second in between, and the
    first time in the step in which it is made. It is given up only after five times, more
    than a second after the last one, and only if no reply from its IP was handled since it
    was made. -/
theorem retries_disciplined
    (hrun : (router sr heap).Run (fun _ => Label.Running) RouterState.empty τ s) :
    (∀ req, (broadcasts req s.log).length ≤ 5 ∧
      (broadcasts req s.log).IsChain fun t u => u - t > 1) ∧
    (∀ req, Known s req → ∃ x ∈ τ, MadeIn x req ∧
      (broadcasts req s.log).head? = some x.label.now) ∧
    ∀ l fuel, ∃ L, (run_label sr heap fuel l s).2.log = s.log ++ L ∧
      ∀ e ∈ L, ∀ req, e.GivesUp sr l req → (broadcasts req s.log).length = 5 ∧
        (∀ last ∈ (broadcasts req s.log).getLast?, l.now - last > 1) ∧
        ∃ r ∈ s.reqs, r.addr = req ∧ Unanswered sr τ r := by
  have h := disciplined_of_run hrun
  refine ⟨fun req => ⟨h.asked.few req, h.asked.spaced req⟩, h.first, fun l fuel => ?_⟩
  obtain ⟨L, hlog, hL⟩ := step_timely sr heap h.asked.wellFormed fuel l
  refine ⟨L, hlog, fun e he req hgives => ?_⟩
  obtain ⟨r, hr, rfl, hdue, htimes⟩ := (hL e he).expired req hgives
  have hlength := h.asked.times_sent r hr
  have hfew := h.asked.few r.addr
  refine ⟨by omega, fun last hlast => ?_, r, hr, rfl, h.unanswered r hr⟩
  rw [h.asked.sent r hr, List.getLastD_eq_getLast?, hlast] at hdue
  exact hdue

namespace Sample

/-- A packet comes in and is never answered: its request is asked for five times, and
    given up with the next sweep. -/
theorem asked_five_times : ∃ τ s,
    (router net mem).Run (fun _ => Label.Running) RouterState.empty τ s ∧
    broadcasts 2 s.log = [10, 12, 14, 16, 18] ∧
    .destroyed 2 ∈ (run_label net mem 20 (.sweep 20) s).2.log ∧
    (∀ req, (broadcasts req s.log).length ≤ 5 ∧
      (broadcasts req s.log).IsChain fun t u => u - t > 1) ∧
    (∀ req, Known s req → ∃ x ∈ τ, MadeIn x req ∧
      (broadcasts req s.log).head? = some x.label.now) ∧
    ∀ l fuel, ∃ L, (run_label net mem fuel l s).2.log = s.log ++ L ∧
      ∀ e ∈ L, ∀ req, e.GivesUp net l req → (broadcasts req s.log).length = 5 ∧
        (∀ last ∈ (broadcasts req s.log).getLast?, l.now - last > 1) ∧
        ∃ r ∈ s.reqs, r.addr = req ∧ Unanswered net τ r := by
  let last_hop := ip_frame (inet_addr 172 64 3 9) (inet_addr 192 168 2 7) 1 17 []
  let labels : List Label := [.packet 10 last_hop (eth 2), .sweep 11, .sweep 12, .timeout 14,
    .packet 16 last_hop (eth 2), .packet 17 last_hop (eth 2), .sweep 18]
  have hreach : Reachable net mem (fun _ => Label.Running) (run 20 labels).2 :=
    run_guarded (by decide +kernel) (by decide +kernel)
  obtain ⟨s₀, τ, rfl, hrun⟩ := hreach.run
  exact ⟨τ, _, hrun, by decide +kernel, by decide +kernel, retries_disciplined hrun⟩

end Sample

end SimpleRouter
