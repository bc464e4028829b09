import SimpleRouter.Model.Overlap
import SimpleRouter.Queue.Sections

/-! # What holds when the threads overlap

    A part of a call may find the queue in any state that the other thread left
    it in. What it carries from the parts before it are frames that waited and
    IPs that were asked for, and what is true of those stays true, whatever
    becomes of the requests. So an invariant that each part keeps by itself holds
    in every interleaving of the two threads.

    * `CallPart.Known`: what is known before a part of a call.
    * `Parted`: what a part does.
    * `OverlapRules`: so an invariant of the parts holds in every run of `overlapping`.
-/

namespace SimpleRouter

open Framework Framework.Prog RouterState Relation

variable {sr : SrInstance} {heap : Heap} {now : time_t} {s t : RouterState}
  {guard : Label → Prop} {W : SrPacket → Prop} {A : uint32_t → Prop}

/-! ### What is carried from part to part -/

/-- An answer to the sender of a frame that waited: `W` is what holds of those. -/
inductive AnswerTo (sr : SrInstance) (heap : Heap) (W : SrPacket → Prop) :
    Message → uint32_t → RawFrame → IfName → Prop where
  | unreachable {req buf : Nat} {pck : SrPacket} {rtentry : SrRt} {ifc : SrIf} (hpck : W pck)
      (hrt : sr_findLPMentry sr.routing_table (source pck) = some rtentry)
      (hifc : sr_get_interface sr rtentry.interface = some ifc) :
      AnswerTo sr heap W (.host_unreachable req pck.addr) (source pck)
        (icmp_t3_frame heap buf ifc 1 pck.buf) rtentry.interface

/-- A broadcast for an IP that was asked for goes out of `ifc`: `A` is what holds of those. -/
def AskedFor (sr : SrInstance) (A : uint32_t → Prop) (ip : uint32_t) (ifc : SrIf) : Prop :=
  A ip ∧ ∃ rtentry, sr_findLPMentry sr.routing_table ip = some rtentry ∧
    sr_get_interface sr rtentry.interface = some ifc

/-- What is known before a part of a call. -/
def CallPart.Known (sr : SrInstance) (heap : Heap) (W : SrPacket → Prop) (A : uint32_t → Prop)
    (s : RouterState) : CallPart → Prop
  | .answer _ pck => W pck
  | .lookup msg ip buf iface => AnswerTo sr heap W msg ip buf iface
  | .queuereq msg ip buf iface =>
    AnswerTo sr heap W msg ip buf iface ∧ sr_arpcache_lookup s.cache ip = none
  -- a request that a reply took off the queue is not destroyed by a pass
  | .destroy req => ∀ r ∈ s.detached, r.addr ≠ req
  | .sent _ _ ip ifc => AskedFor sr A ip ifc
  | .count _ _ ip ifc => AskedFor sr A ip ifc
  | .counted _ _ _ ip ifc => AskedFor sr A ip ifc
  | _ => True

/-- It stays known as long as no mapping is learned and no request taken off the queue. -/
theorem CallPart.Known.mono {call : CallPart} (h : call.Known sr heap W A s)
    (hlookup : ∀ ip, sr_arpcache_lookup s.cache ip = none → sr_arpcache_lookup t.cache ip = none)
    (hdetached : t.detached = s.detached) : call.Known sr heap W A t := by
  cases call with
  | queuereq msg ip buf iface => exact ⟨h.1, hlookup ip h.2⟩
  | destroy req =>
    show ∀ r ∈ t.detached, r.addr ≠ req
    rw [hdetached]
    exact h
  | _ => exact h

/-- What is known of the frames that wait, and of the IPs that are asked for. -/
def Waited (W : SrPacket → Prop) (A : uint32_t → Prop) (s : RouterState) : Prop :=
  ∀ r ∈ s.reqs, A r.ip ∧ ∀ pck ∈ r.packets, W pck

/-! ### What a part does -/

/-- A change of the state in one part of a call. -/
inductive Parted (sr : SrInstance) (heap : Heap) (W : SrPacket → Prop) (A : uint32_t → Prop)
    (s : RouterState) : RouterState → Prop where
  | kept : Parted sr heap W A s s
  | alloc : Parted sr heap W A s s.alloc
  | marked {req : Nat} {f : SrArpreq → SrArpreq} (hf : Marks f) :
      Parted sr heap W A s (s.updateReq req f)
  | asked {req : Nat} {f : SrArpreq → SrArpreq} {curtime : time_t} {ip : uint32_t} {ifc : SrIf}
      (hf : Marks f) (hasks : AskedFor sr A ip ifc) :
      Parted sr heap W A s ((s.updateReq req f).send sr (.arp_request req curtime)
        (arp_request_frame ifc ip) ifc.name)
  | answered {msg : Message} {ip : uint32_t} {buf : RawFrame} {iface : IfName}
      {entry : SrArpentry} (hanswer : AnswerTo sr heap W msg ip buf iface)
      (hentry : sr_arpcache_lookup s.cache ip = some entry) :
      Parted sr heap W A s (s.send sr msg (set_ether_dhost buf entry.mac) iface)
  | answer_stored {msg : Message} {ip : uint32_t} {buf : RawFrame} {iface : IfName}
      (hanswer : AnswerTo sr heap W msg ip buf iface)
      (hmiss : sr_arpcache_lookup s.cache ip = none) :
      Parted sr heap W A s (s.queuePacket msg ip buf iface)
  | discarded (req : Nat) : Parted sr heap W A s (s.destroyReq req)

theorem Parted.wellFormed (h : Parted sr heap W A s t) (hs : WellFormed s) : WellFormed t := by
  cases h with
  | kept => exact hs
  | alloc => exact hs.alloc
  | marked hf => exact hs.marked hf
  | asked hf => exact (hs.marked hf).emit _
  | answered => exact hs.emit _
  | answer_stored => exact hs.queuePacket ..
  | discarded => exact hs.destroyReq _

theorem Parted.detached (h : Parted sr heap W A s t) : t.detached = s.detached := by
  cases h with
  | answer_stored => exact queuePacket_detached ..
  | _ => rfl

theorem Parted.entries (h : Parted sr heap W A s t) : t.cache.entries = s.cache.entries := by
  cases h with
  | answer_stored => exact queuePacket_entries ..
  | _ => rfl

theorem Parted.lookup (h : Parted sr heap W A s t) (ip : uint32_t) :
    sr_arpcache_lookup t.cache ip = sr_arpcache_lookup s.cache ip := by
  rw [sr_arpcache_lookup, h.entries, sr_arpcache_lookup]

theorem live_request_returned {req : Nat} {r : SrArpreq}
    (h : live_request req s = (.returned r, t)) : t = s ∧ s.reqAt req = some r := by
  rw [live_request, read_bind] at h
  cases hreq : s.reqAt req with
  | none =>
    rw [hreq] at h
    cases congrArg Prod.fst h
  | some r' =>
    rw [hreq] at h
    obtain ⟨rfl, rfl⟩ := returned_inj h
    exact ⟨rfl, rfl⟩

/-- What a part does with a request it has found. -/
theorem live_request_bind {α : Type} {req : Nat} {f : SrArpreq → Router α} {a : α}
    (h : (live_request req >>= f) s = (.returned a, t)) :
    ∃ r, s.reqAt req = some r ∧ f r s = (.returned a, t) := by
  obtain ⟨r, s₁, hlive, hrest⟩ := bind_eq_returned.mp h
  obtain ⟨rfl, hreq⟩ := live_request_returned hlive
  exact ⟨r, hreq, hrest⟩

/-- What is left of a call once the frames of its request were found. -/
theorem frames_known {req : Nat} {r : SrArpreq} (hs : WellFormed s) (hwaited : Waited W A s)
    (hreq : s.reqAt req = some r) :
    ∀ c ∈ r.packets.flatMap (fun pck => [CallPart.answer req pck, .next req]) ++ [.destroy req],
      c.Known sr heap W A s := by
  obtain ⟨hr, haddr⟩ := reqAt_some hreq
  intro c hc
  rcases List.mem_append.mp hc with hc | hc
  · obtain ⟨pck, hpck, hc⟩ := List.mem_flatMap.mp hc
    rcases List.mem_pair.mp hc with rfl | rfl
    · exact (hwaited r hr).2 pck hpck
    · trivial
  · -- what is on the queue is not off it
    obtain rfl := List.mem_singleton.mp hc
    intro r' hr' haddr'
    have hnodup := hs.addr_nodup
    rw [List.map_append, List.nodup_append] at hnodup
    exact hnodup.2.2 _ (List.mem_map_of_mem hr) _ (List.mem_map_of_mem hr')
      (haddr.trans haddr'.symm)

theorem answer_parted {req : Nat} {pck : SrPacket} {more : List CallPart} (hpck : W pck)
    (hrun : (CallPart.answer req pck).run sr heap now s = (.returned more, t)) :
    Parted sr heap W A s t ∧ ∀ c ∈ more, c.Known sr heap W A t := by
  obtain ⟨r, -, hrest⟩ := live_request_bind hrun
  rw [bind_of_returned (malloc_apply s)] at hrest
  cases hrt : sr_findLPMentry sr.routing_table (ip_hdr pck.buf).ip_src with
  | none =>
    rw [hrt] at hrest
    obtain ⟨rfl, rfl⟩ := returned_inj hrest
    exact ⟨.alloc, by simp⟩
  | some rtentry =>
    simp only [hrt] at hrest
    cases hifc : sr_get_interface sr rtentry.interface with
    | none =>
      rw [hifc] at hrest
      cases congrArg Prod.fst hrest
    | some ifc =>
      rw [hifc] at hrest
      obtain ⟨rfl, rfl⟩ := returned_inj hrest
      exact ⟨.alloc, List.forall_mem_singleton.mpr (.unreachable hpck hrt hifc)⟩

theorem lookup_parted {msg : Message} {ip : uint32_t} {buf : RawFrame} {iface : IfName}
    {more : List CallPart} (hanswer : AnswerTo sr heap W msg ip buf iface)
    (hrun : (CallPart.lookup msg ip buf iface).run sr heap now s = (.returned more, t)) :
    Parted sr heap W A s t ∧ ∀ c ∈ more, c.Known sr heap W A t := by
  rw [CallPart.run, read_bind] at hrun
  cases hlookup : sr_arpcache_lookup s.cache ip with
  | some entry =>
    rw [hlookup] at hrun
    obtain ⟨rfl, rfl⟩ := returned_inj hrun
    exact ⟨.answered hanswer hlookup, by simp⟩
  | none =>
    rw [hlookup] at hrun
    obtain ⟨rfl, rfl⟩ := returned_inj hrun
    exact ⟨.kept, List.forall_mem_singleton.mpr ⟨hanswer, hlookup⟩⟩

theorem queuereq_parted {msg : Message} {ip : uint32_t} {buf : RawFrame} {iface : IfName}
    {more : List CallPart} (hanswer : AnswerTo sr heap W msg ip buf iface)
    (hmiss : sr_arpcache_lookup s.cache ip = none)
    (hrun : (CallPart.queuereq msg ip buf iface).run sr heap now s = (.returned more, t)) :
    Parted sr heap W A s t ∧ ∀ c ∈ more, c.Known sr heap W A t := by
  have hlength : buf.length ≠ 0 := by
    cases hanswer
    simp
  rw [CallPart.run, bind_of_returned (sr_arpcache_queuereq_eq hlength s)] at hrun
  obtain ⟨rfl, rfl⟩ := returned_inj hrun
  exact ⟨.answer_stored hanswer hmiss, by simp [CallPart.Known]⟩

theorem destroy_parted {req : Nat} {more : List CallPart}
    (hattached : ∀ r ∈ s.detached, r.addr ≠ req)
    (hrun : (CallPart.destroy req).run sr heap now s = (.returned more, t)) :
    Parted sr heap W A s t ∧ ∀ c ∈ more, c.Known sr heap W A t := by
  obtain ⟨⟨⟩, u, hdestroy, hpure⟩ := bind_eq_returned.mp hrun
  obtain ⟨rfl, rfl⟩ := returned_inj hpure
  by_cases hlive : (s.reqAt req).isSome
  · rw [sr_arpreq_destroy_eq hlive] at hdestroy
    obtain ⟨-, rfl⟩ := returned_inj hdestroy
    exact ⟨.discarded req, by simp⟩
  · have hnone : ¬ s.detached.any fun r => r.addr = req := by simpa using hattached
    rw [sr_arpreq_destroy, read_bind, if_neg hlive, if_neg hnone] at hdestroy
    cases congrArg Prod.fst hdestroy

theorem ask_parted {req : Nat} {curtime : time_t} {more : List CallPart}
    (hwaited : Waited W A s)
    (hrun : (CallPart.ask req curtime).run sr heap now s = (.returned more, t)) :
    Parted sr heap W A s t ∧ ∀ c ∈ more, c.Known sr heap W A t := by
  obtain ⟨r, hreq, hrest⟩ := live_request_bind hrun
  cases hrt : sr_findLPMentry sr.routing_table r.ip with
  | none =>
    rw [hrt] at hrest
    cases congrArg Prod.fst hrest
  | some rtentry =>
    simp only [hrt] at hrest
    cases hifc : sr_get_interface sr rtentry.interface with
    | none =>
      rw [hifc] at hrest
      cases congrArg Prod.fst hrest
    | some ifc =>
      rw [hifc] at hrest
      obtain ⟨rfl, rfl⟩ := returned_inj hrest
      refine ⟨.kept, List.forall_mem_singleton.mpr ?_⟩
      exact ⟨(hwaited r (reqAt_some hreq).1).1, rtentry, hrt, hifc⟩

/-- **A part of a call** that returns makes one of these changes, and leaves parts of which
    enough is known. -/
theorem CallPart.run_parted {part : CallPart} {more : List CallPart} (hs : WellFormed s)
    (hwaited : Waited W A s) (hknown : part.Known sr heap W A s)
    (hrun : part.run sr heap now s = (.returned more, t)) :
    Parted sr heap W A s t ∧ ∀ c ∈ more, c.Known sr heap W A t := by
  cases part with
  | sweep req =>
    cases req with
    | none =>
      obtain ⟨rfl, rfl⟩ := returned_inj hrun
      exact ⟨.kept, by simp⟩
    | some req =>
      obtain ⟨r, -, hrest⟩ := live_request_bind hrun
      obtain ⟨rfl, rfl⟩ := returned_inj hrest
      exact ⟨.kept, by simp [CallPart.Known]⟩
  | test req =>
    obtain ⟨r, -, hrest⟩ := live_request_bind hrun
    split at hrest
    · obtain ⟨rfl, rfl⟩ := returned_inj hrest
      exact ⟨.kept, by simp [CallPart.Known]⟩
    · obtain ⟨rfl, rfl⟩ := returned_inj hrest
      exact ⟨.kept, by simp⟩
  | tries req curtime =>
    obtain ⟨r, -, hrest⟩ := live_request_bind hrun
    split at hrest
    · obtain ⟨rfl, rfl⟩ := returned_inj hrest
      exact ⟨.kept, by simp [CallPart.Known]⟩
    · obtain ⟨rfl, rfl⟩ := returned_inj hrest
      exact ⟨.kept, by simp [CallPart.Known]⟩
  | frames req =>
    obtain ⟨r, hreq, hrest⟩ := live_request_bind hrun
    obtain ⟨rfl, rfl⟩ := returned_inj hrest
    exact ⟨.kept, frames_known hs hwaited hreq⟩
  | answer req pck => exact answer_parted hknown hrun
  | lookup msg ip buf iface => exact lookup_parted hknown hrun
  | queuereq msg ip buf iface => exact queuereq_parted hknown.1 hknown.2 hrun
  | next req =>
    obtain ⟨r, -, hrest⟩ := live_request_bind hrun
    obtain ⟨rfl, rfl⟩ := returned_inj hrest
    exact ⟨.kept, by simp⟩
  | destroy req => exact destroy_parted hknown hrun
  | ask req curtime => exact ask_parted hwaited hrun
  | sent req curtime ip ifc =>
    obtain ⟨r, -, hrest⟩ := live_request_bind hrun
    obtain ⟨rfl, rfl⟩ := returned_inj hrest
    exact ⟨.marked fun _ => ⟨rfl, rfl, rfl⟩, List.forall_mem_singleton.mpr hknown⟩
  | count req curtime ip ifc =>
    obtain ⟨r, -, hrest⟩ := live_request_bind hrun
    obtain ⟨rfl, rfl⟩ := returned_inj hrest
    exact ⟨.kept, List.forall_mem_singleton.mpr hknown⟩
  | counted req times_sent curtime ip ifc =>
    obtain ⟨r, -, hrest⟩ := live_request_bind hrun
    obtain ⟨rfl, rfl⟩ := returned_inj hrest
    exact ⟨.asked (fun _ => ⟨rfl, rfl, rfl⟩) hknown, by simp⟩

/-! ### What a step does -/

/-- What the packet thread knows at each point. -/
def Point.Carried (sr : SrInstance) (heap : Heap) (guard : Label → Prop) (W : SrPacket → Prop)
    (A : uint32_t → Prop) (s : RouterState) : Point → Prop
  | .outside phase => SimpleRouter.Carried sr heap guard s phase
  | .inside calls => s.detached = [] ∧ ∀ c ∈ calls, c.Known sr heap W A s

/-- What both threads know. -/
structure Overlap.Known (sr : SrInstance) (heap : Heap) (guard : Label → Prop)
    (W : SrPacket → Prop) (A : uint32_t → Prop) (st : Overlap) : Prop where
  point : st.point.Carried sr heap guard W A st.router
  pass : ∀ c ∈ st.pass, c.Known sr heap W A st.router

theorem Carried.mono {phase : Phase} (h : Carried sr heap guard s phase)
    (hlookup : ∀ ip, sr_arpcache_lookup s.cache ip = none → sr_arpcache_lookup t.cache ip = none)
    (hdetached : t.detached = s.detached) : Carried sr heap guard t phase := by
  cases phase with
  | missed msg ip frame iface =>
    obtain ⟨hheld, hmade, hmiss⟩ := h
    exact ⟨hdetached.trans hheld, hmade, hlookup ip hmiss⟩
  | _ =>
    unfold Carried at h ⊢
    rwa [hdetached]

theorem Point.Carried.mono {point : Point} (h : point.Carried sr heap guard W A s)
    (hlookup : ∀ ip, sr_arpcache_lookup s.cache ip = none → sr_arpcache_lookup t.cache ip = none)
    (hdetached : t.detached = s.detached) : point.Carried sr heap guard W A t := by
  cases point with
  | outside phase => exact SimpleRouter.Carried.mono h hlookup hdetached
  | inside calls => exact ⟨hdetached.trans h.1, fun c hc => (h.2 c hc).mono hlookup hdetached⟩

/-- What a step of `overlapping` does. -/
inductive Overlapped (sr : SrInstance) (heap : Heap) (guard : Label → Prop)
    (W : SrPacket → Prop) (A : uint32_t → Prop) : Overlap → ThreadLabel → Overlap → Prop where
  | sectioned {s s' : RouterState} {phase phase' : Phase} {pass : List CallPart} {l : ThreadLabel}
      (hsection : Sectioned sr heap guard (s, phase) l (s', phase')) :
      Overlapped sr heap guard W A ⟨s, .outside phase, pass⟩ l ⟨s', .outside phase', pass⟩
  | entered {s : RouterState} {req : Nat} {pass : List CallPart} {now : time_t} :
      Overlapped sr heap guard W A ⟨s, .outside (.holding req), pass⟩ (.resume now)
        ⟨s, .inside [.test req], pass⟩
  | left {s : RouterState} {pass : List CallPart} {now : time_t} :
      Overlapped sr heap guard W A ⟨s, .inside [], pass⟩ (.resume now) ⟨s, .outside .idle, pass⟩
  | parted {s s' : RouterState} {calls calls' pass : List CallPart} {now : time_t}
      (hpart : Parted sr heap W A s s') :
      Overlapped sr heap guard W A ⟨s, .inside calls, pass⟩ (.resume now)
        ⟨s', .inside calls', pass⟩
  | begun {s : RouterState} {point : Point} {pass : List CallPart} {now : time_t} :
      Overlapped sr heap guard W A ⟨s, point, []⟩ (.timeout now)
        ⟨s.setEntries (sr_arpcache_expire s.cache.entries now), point, pass⟩
  | passed {s s' : RouterState} {point : Point} {pass pass' : List CallPart} {now : time_t}
      (hpart : Parted sr heap W A s s') :
      Overlapped sr heap guard W A ⟨s, point, pass⟩ (.timeout now) ⟨s', point, pass'⟩

/-- Sections that need no mutex leave alone what a pass knows. -/
theorem Sectioned.unlocked {phase phase' : Phase} {l : ThreadLabel}
    (h : Sectioned sr heap guard (s, phase) l (t, phase')) (hlocks : phase.locks = false)
    (hl : ∀ now, l ≠ .timeout now) :
    t.cache.entries = s.cache.entries ∧ t.detached = s.detached := by
  cases h with
  | received _ _ hpath => exact ⟨(hpath 0).entries, (hpath 0).detached⟩
  | moved _ _ _ hpath => exact ⟨hpath.entries, hpath.detached⟩
  | passed => exact absurd rfl (hl _)
  | learned => cases hlocks
  | taken => cases hlocks
  | released => exact ⟨rfl, rfl⟩
  | freed => cases hlocks

/-- A section of the packet thread, while a pass is made or not. -/
theorem sectioned_known {phase phase' : Phase} {pass : List CallPart} {l : ThreadLabel}
    (hk : ∀ c ∈ pass, c.Known sr heap W A s) (hlocks : phase.locks → pass = [])
    (hl : ∀ now, l ≠ .timeout now) (h : Sectioned sr heap guard (s, phase) l (t, phase')) :
    ∀ c ∈ pass, c.Known sr heap W A t := by
  cases hphase : phase.locks with
  | true => simp [hlocks hphase]
  | false =>
    obtain ⟨hentries, hdetached⟩ := h.unlocked hphase hl
    intro c hc
    refine (hk c hc).mono (fun ip hmiss => ?_) hdetached
    rwa [sr_arpcache_lookup, hentries]

/-- The four kinds of points from which the packet thread goes on. -/
theorem next_point_returned {point point' : Point}
    (h : next_point sr heap now point s = (.returned point', t)) :
    (∃ req, point = .outside (.holding req) ∧ point' = .inside [.test req] ∧ t = s) ∨
    (∃ phase phase', point = .outside phase ∧ point' = .outside phase' ∧
      next_section sr heap now 0 phase s = (.returned phase', t)) ∨
    (point = .inside [] ∧ point' = .outside .idle ∧ t = s) ∨
    ∃ call calls more, point = .inside (call :: calls) ∧ point' = .inside (more ++ calls) ∧
      call.run sr heap now s = (.returned more, t) := by
  cases point with
  | outside phase =>
    by_cases hholding : ∃ req, phase = .holding req
    · obtain ⟨req, rfl⟩ := hholding
      obtain ⟨rfl, rfl⟩ := returned_inj h
      exact .inl ⟨req, rfl, rfl, rfl⟩
    · have hnext : next_point sr heap now (.outside phase) =
          (do let phase' ← next_section sr heap now 0 phase; pure (.outside phase')) := by
        cases phase with
        | holding req => exact absurd ⟨req, rfl⟩ hholding
        | _ => rfl
      rw [hnext] at h
      obtain ⟨phase', s₁, hrun, hpure⟩ := bind_eq_returned.mp h
      obtain ⟨rfl, rfl⟩ := returned_inj hpure
      exact .inr (.inl ⟨phase, phase', rfl, rfl, hrun⟩)
  | inside calls =>
    cases calls with
    | nil =>
      obtain ⟨rfl, rfl⟩ := returned_inj h
      exact .inr (.inr (.inl ⟨rfl, rfl, rfl⟩))
    | cons call calls =>
      obtain ⟨more, s₁, hrun, hpure⟩ := bind_eq_returned.mp h
      obtain ⟨rfl, rfl⟩ := returned_inj hpure
      exact .inr (.inr (.inr ⟨call, calls, more, rfl, rfl, hrun⟩))

/-- The packet thread goes on. -/
theorem resume_overlapped {point point' : Point} {pass : List CallPart} (hs : WellFormed s)
    (hwaited : Waited W A s) (hk : (Overlap.mk s point pass).Known sr heap guard W A)
    (hl : guard (.sweep now)) (hidle : point ≠ .outside .idle)
    (hlocks : point.locks → pass = [])
    (hrun : next_point sr heap now point s = (.returned point', t)) :
    Overlapped sr heap guard W A ⟨s, point, pass⟩ (.resume now) ⟨t, point', pass⟩ ∧
      (Overlap.mk t point' pass).Known sr heap guard W A := by
  obtain ⟨hpoint, hpass⟩ := hk
  rcases next_point_returned hrun with ⟨req, rfl, rfl, rfl⟩ | ⟨phase, phase', rfl, rfl, hsection⟩ |
    ⟨rfl, rfl, rfl⟩ | ⟨call, calls, more, rfl, rfl, hcall⟩
  · exact ⟨.entered, ⟨hpoint, by simp [CallPart.Known]⟩, hpass⟩
  · have hm : thread_section sr heap 0 (.resume now) phase =
        some (next_section sr heap now 0 phase) := by
      cases phase with
      | idle => exact absurd rfl hidle
      | _ => rfl
    have hbefore : SimpleRouter.Carried sr heap guard s phase := hpoint
    obtain ⟨hsectioned, hcarried⟩ :=
      section_sectioned sr heap hs hbefore (l := .resume now) hl hm hsection
    exact ⟨.sectioned hsectioned, hcarried,
      sectioned_known hpass hlocks (by simp) hsectioned⟩
  · exact ⟨.left, hpoint.1, hpass⟩
  · obtain ⟨hpart, hmore⟩ := call.run_parted hs hwaited (hpoint.2 call (by simp)) hcall
    have hmono : ∀ c : CallPart, c.Known sr heap W A s → c.Known sr heap W A t := fun c hc =>
      hc.mono (fun ip hmiss => (hpart.lookup ip).trans hmiss) hpart.detached
    refine ⟨.parted hpart, ⟨hpart.detached.trans hpoint.1, ?_⟩, fun c hc => hmono c (hpass c hc)⟩
    exact List.forall_mem_append.mpr
      ⟨hmore, fun c hc => hmono c (hpoint.2 c (List.mem_cons_of_mem _ hc))⟩

/-- The timeout thread goes on. -/
theorem pass_overlapped {point : Point} {pass pass' : List CallPart} (hs : WellFormed s)
    (hwaited : Waited W A s) (hk : (Overlap.mk s point pass).Known sr heap guard W A)
    (hrun : next_pass sr heap now pass s = (.returned pass', t)) :
    Overlapped sr heap guard W A ⟨s, point, pass⟩ (.timeout now) ⟨t, point, pass'⟩ ∧
      (Overlap.mk t point pass').Known sr heap guard W A := by
  obtain ⟨hpoint, hpass⟩ := hk
  cases pass with
  | nil =>
    rw [next_pass, modify_bind, read_bind] at hrun
    obtain ⟨rfl, rfl⟩ := returned_inj hrun
    -- entries only go
    exact ⟨.begun, hpoint.mono (fun ip hmiss => lookup_expire rfl hmiss) rfl,
      by simp [CallPart.Known]⟩
  | cons call calls =>
    obtain ⟨more, s₁, hcall, hpure⟩ := bind_eq_returned.mp hrun
    obtain ⟨rfl, rfl⟩ := returned_inj hpure
    obtain ⟨hpart, hmore⟩ := call.run_parted hs hwaited (hpass call (by simp)) hcall
    have hlookup : ∀ ip, sr_arpcache_lookup s.cache ip = none →
        sr_arpcache_lookup s₁.cache ip = none := fun ip hmiss => (hpart.lookup ip).trans hmiss
    refine ⟨.passed hpart, hpoint.mono hlookup hpart.detached, ?_⟩
    exact List.forall_mem_append.mpr ⟨hmore, fun c hc =>
      (hpass c (List.mem_cons_of_mem _ hc)).mono hlookup hpart.detached⟩

/-- **A step of `overlapping`** does one of these, and both threads still know what they
    should. -/
theorem step_overlapped {st st' : Overlap} {l : ThreadLabel} (hs : WellFormed st.router)
    (hwaited : Waited W A st.router) (hk : st.Known sr heap guard W A) (hl : l.Allowed guard)
    (hstep : (overlapping sr heap).step st l st') :
    Overlapped sr heap guard W A st l st' ∧ st'.Known sr heap guard W A := by
  obtain ⟨s, point, pass⟩ := st
  obtain ⟨s', point', pass'⟩ := st'
  obtain ⟨m, hm, hrun⟩ := hstep
  cases l with
  | receive packet interface =>
    simp only [overlap_step, Option.ite_none_right_eq_some, Option.some.injEq] at hm
    obtain ⟨rfl, rfl⟩ := hm
    obtain ⟨phase', s₁, hreceive, hpure⟩ := bind_eq_returned.mp hrun
    obtain ⟨hpair, rfl⟩ := returned_inj hpure
    obtain ⟨rfl, rfl⟩ := Prod.mk.inj hpair
    obtain ⟨hsectioned, hcarried⟩ := receive_sectioned hk.point hl hreceive
    exact ⟨.sectioned hsectioned, hcarried,
      sectioned_known hk.pass (by simp [Phase.locks]) (by simp) hsectioned⟩
  | resume now =>
    simp only [overlap_step, Option.ite_none_left_eq_some, Option.some.injEq, not_or,
      not_and_or, not_not] at hm
    obtain ⟨⟨hidle, hlocks⟩, rfl⟩ := hm
    obtain ⟨point₁, s₁, hnext, hpure⟩ := bind_eq_returned.mp hrun
    obtain ⟨hpair, rfl⟩ := returned_inj hpure
    obtain ⟨rfl, rfl⟩ := Prod.mk.inj hpair
    exact resume_overlapped hs hwaited hk hl hidle
      (fun hpoint => hlocks.resolve_left (not_not.mpr hpoint)) hnext
  | timeout now =>
    obtain rfl := Option.some.inj hm
    obtain ⟨pass₁, s₁, hnext, hpure⟩ := bind_eq_returned.mp hrun
    obtain ⟨hpair, rfl⟩ := returned_inj hpure
    obtain ⟨rfl, rfl⟩ := Prod.mk.inj hpair
    exact pass_overlapped hs hwaited hk hnext

/-! ### Invariants -/

/-- What an invariant has to survive however the threads overlap. -/
structure OverlapRules (sr : SrInstance) (heap : Heap) (guard : Label → Prop)
    (W : SrPacket → Prop) (A : uint32_t → Prop) (I : RouterState → Prop) : Prop where
  sections : SectionRules sr heap guard I
  waited : ∀ s, I s → Waited W A s
  part : ∀ s t, I s → Parted sr heap W A s t → I t

namespace OverlapRules

variable {I : RouterState → Prop}

theorem overlapped (h : OverlapRules sr heap guard W A I) {st st' : Overlap} {l : ThreadLabel}
    (hs : I st.router) (hstep : Overlapped sr heap guard W A st l st') : I st'.router := by
  cases hstep with
  | sectioned hsection => exact h.sections.sectioned hs hsection
  | entered => exact hs
  | left => exact hs
  | parted hpart => exact h.part _ _ hs hpart
  | begun => exact h.sections.rules.expire _ _ hs
  | passed hpart => exact h.part _ _ hs hpart

/-- **Every interleaving** of the two threads keeps it, and they know what they should. -/
theorem reachable (h : OverlapRules sr heap guard W A I) (hempty : I RouterState.empty)
    {st : Overlap} (hst : (overlapping sr heap).Reachable (fun _ l => l.Allowed guard) st) :
    I st.router ∧ st.Known sr heap guard W A := by
  refine System.Reachable.invariant
    (I := fun st => I st.router ∧ st.Known sr heap guard W A) ?_ ?_ hst
  · rintro st rfl
    exact ⟨hempty, rfl, fun c hc => by cases hc⟩
  · rintro st l st' ⟨hs, hk⟩ hl hstep
    obtain ⟨hoverlapped, hk'⟩ :=
      step_overlapped (h.sections.rules.wellFormed _ hs) (h.waited _ hs) hk hl hstep
    exact ⟨h.overlapped hs hoverlapped, hk'⟩

theorem always (h : OverlapRules sr heap (fun _ => True) W A I) (hempty : I RouterState.empty)
    {st : Overlap} (hst : (overlapping sr heap).Reachable System.always st) :
    I st.router ∧ st.Known sr heap (fun _ => True) W A :=
  h.reachable hempty (hst.mono fun _ l _ => ThreadLabel.Allowed.all l)

end OverlapRules

namespace Sample

/-- The steps of the labels, one after the other, as long as they return. -/
def overlap : List ThreadLabel → Overlap → Option Overlap
  | [], st => some st
  | l :: labels, st =>
    match (overlap_step net mem st l).map fun m => (m st.router : Outcome Fault _ × _) with
    | some (.returned (point, pass), s) => overlap labels ⟨s, point, pass⟩
    | _ => none

theorem overlap_one {l : ThreadLabel} {st st' : Overlap} (h : overlap [l] st = some st') :
    (overlapping net mem).step st l st' := by
  rw [overlap] at h
  split at h
  · next point pass s hstep =>
    obtain ⟨m, hm, hrun⟩ := Option.map_eq_some_iff.mp hstep
    obtain rfl := Option.some.inj h
    exact ⟨m, hm, hrun⟩
  · cases h

theorem overlap_reachable {guard : Overlap → ThreadLabel → Prop} {labels : List ThreadLabel}
    {st st' : Overlap} (hst : (overlapping net mem).Reachable guard st)
    (hguard : ∀ st, ∀ l ∈ labels, guard st l) (h : overlap labels st = some st') :
    (overlapping net mem).Reachable guard st' := by
  induction labels generalizing st with
  | nil => exact Option.some.inj h ▸ hst
  | cons l labels ih =>
    rw [overlap] at h
    split at h
    · next point pass s hstep =>
      obtain ⟨m, hm, hrun⟩ := Option.map_eq_some_iff.mp hstep
      exact ih (.step hst (hguard st l (by simp)) ⟨m, hm, hrun⟩)
        (fun st l hl => hguard st l (by simp [hl])) h
    · cases h

/-- The labels lead to a state that satisfies `p`. -/
theorem overlap_any (guard : Overlap → ThreadLabel → Prop) (labels : List ThreadLabel)
    {p : Overlap → Bool} (hguard : ∀ st, ∀ l ∈ labels, guard st l)
    (h : (overlap labels .empty).any p = true) :
    ∃ st, (overlapping net mem).Reachable guard st ∧ p st := by
  obtain ⟨st, hrun, hp⟩ := (Option.any_eq_true p _).mp h
  exact ⟨st, overlap_reachable (.init rfl) hguard hrun, hp⟩

/-- The packet thread goes on `n` times. -/
def go_on (n : Nat) (now : time_t) : List ThreadLabel := List.replicate n (.resume now)

/-- A frame for 192.168.2.7 is stored, and broadcast for. -/
def store_and_ask (now : time_t) : List ThreadLabel := store now ++ go_on 8 now

end Sample

end SimpleRouter
