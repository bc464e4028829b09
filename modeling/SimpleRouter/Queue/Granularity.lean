import SimpleRouter.Queue.Overlap
import SimpleRouter.Queue.Sweep

/-! # Two grains of one design

    `threads` handles a request and makes a pass in one step each, and
    `overlapping` takes both apart. What the coarser one does in a step, the
    finer one does in steps of one thread, with the other standing still.

    * `handle_parts`, `sweep_parts`: the parts of a call have the effect of the call.
    * `threads_overlap`: so every state of `threads` is one of `overlapping`.
-/

namespace SimpleRouter

open Framework Framework.Prog RouterState Relation

variable {sr : SrInstance} {heap : Heap} {now : time_t} {s t : RouterState}

/-! ### The parts of a call, one after the other -/

/-- The first of the parts that are left is run. -/
inductive PartStep (sr : SrInstance) (heap : Heap) (now : time_t) :
    RouterState × List CallPart → RouterState × List CallPart → Prop where
  | run {part : CallPart} {more rest : List CallPart} {s t : RouterState}
      (h : part.run sr heap now s = (.returned more, t)) :
      PartStep sr heap now (s, part :: rest) (t, more ++ rest)

/-- Some of the parts that are left are run, with all that they leave. -/
abbrev Parts (sr : SrInstance) (heap : Heap) (now : time_t) :
    RouterState × List CallPart → RouterState × List CallPart → Prop :=
  ReflTransGen (PartStep sr heap now)

theorem Parts.one {part : CallPart} {m : List CallPart} (rest : List CallPart)
    (h : part.run sr heap now s = (.returned m, t)) :
    Parts sr heap now (s, part :: rest) (t, m ++ rest) :=
  .single (.run h)

theorem live_request_eq {req : Nat} {r : SrArpreq} (h : s.reqAt req = some r) :
    live_request req s = (.returned r, s) := by
  rw [live_request, read_bind, h]
  rfl

/-- A part that finds its request. -/
theorem Parts.live {part : CallPart} {m : List CallPart} {req : Nat} {r : SrArpreq}
    {f : SrArpreq → Router (List CallPart)} (rest : List CallPart)
    (hpart : part.run sr heap now = (live_request req >>= f)) (hreq : s.reqAt req = some r)
    (h : f r s = (.returned m, t)) : Parts sr heap now (s, part :: rest) (t, m ++ rest) := by
  refine .one rest ?_
  rw [hpart, bind_of_returned (live_request_eq hreq), h]

theorem reqAt_updateReq {req : Nat} {r : SrArpreq} {f : SrArpreq → SrArpreq}
    (hf : ∀ r, (f r).addr = r.addr) (h : s.reqAt req = some r) :
    (s.updateReq req f).reqAt req = some (f r) := by
  have haddr : ∀ r : SrArpreq, (if r.addr = req then f r else r).addr = r.addr := by
    intro r
    split
    · exact hf r
    · rfl
  have hsame : ((fun r : SrArpreq => decide (r.addr = req)) ∘
      fun r => if r.addr = req then f r else r) = fun r => decide (r.addr = req) := by
    funext r
    simp [haddr]
  show (s.cache.requests.map _).find? _ = _
  rw [List.find?_map, hsame]
  have hreq : (s.cache.requests.find? fun r => r.addr = req) = some r := h
  rw [hreq, Option.map_some, if_pos (reqAt_some h).2]

theorem updateReq_updateReq {req : Nat} {f g : SrArpreq → SrArpreq}
    (hf : ∀ r, (f r).addr = r.addr) :
    (s.updateReq req f).updateReq req g = s.updateReq req fun r => g (f r) := by
  simp only [RouterState.updateReq, RouterState.setRequests, List.map_map]
  congr 3
  funext r
  simp only [Function.comp_apply]
  by_cases haddr : r.addr = req
  · simp [haddr, hf]
  · simp [haddr]

/-- Writing what is read there anyway. -/
theorem updateReq_congr (hs : WellFormed s) {req : Nat} {r : SrArpreq}
    {f g : SrArpreq → SrArpreq} (h : s.reqAt req = some r) (hfg : f r = g r) :
    s.updateReq req f = s.updateReq req g := by
  obtain ⟨hr, haddr⟩ := reqAt_some h
  simp only [RouterState.updateReq]
  congr 1
  refine List.map_congr_left fun r' hr' => ?_
  by_cases haddr' : r'.addr = req
  · obtain rfl := hs.addr_inj hr' hr (haddr'.trans haddr.symm)
    simp only [haddr', if_true, hfg]
  · simp only [if_neg haddr']

/-! ### Handling a request -/

/-- Asking once more. -/
theorem ask_parts {r : SrArpreq} (hs : WellFormed s) (hr : r ∈ s.reqs)
    (h : send_arp_request sr now r s = (.returned (), t)) (rest : List CallPart) :
    Parts sr heap now (s, .ask r.addr now :: rest) (t, rest) := by
  have hreq := hs.reqAt_eq hr
  rw [send_arp_request_eq] at h
  cases hrt : sr_findLPMentry sr.routing_table r.ip with
  | none =>
    rw [hrt] at h
    cases congrArg Prod.fst h
  | some rtentry =>
    simp only [hrt] at h
    cases hifc : sr_get_interface sr rtentry.interface with
    | none =>
      rw [hifc] at h
      cases congrArg Prod.fst h
    | some ifc =>
      simp only [hifc] at h
      obtain ⟨-, rfl⟩ := returned_inj h
      let sent : SrArpreq → SrArpreq := fun r => { r with sent := now }
      have hsent : (s.updateReq r.addr sent).reqAt r.addr = some (sent r) :=
        reqAt_updateReq (fun _ => rfl) hreq
      have hask : Parts sr heap now (s, .ask r.addr now :: rest)
          (s, .sent r.addr now r.ip ifc :: rest) := by
        refine .live rest (m := [_]) rfl hreq ?_
        simp only [hrt, hifc]
        rfl
      have hmark : Parts sr heap now (s, .sent r.addr now r.ip ifc :: rest)
          (s.updateReq r.addr sent, .count r.addr now r.ip ifc :: rest) :=
        .live rest (m := [_]) rfl hreq rfl
      have hcount : Parts sr heap now (s.updateReq r.addr sent, .count r.addr now r.ip ifc :: rest)
          (s.updateReq r.addr sent,
            .counted r.addr (r.times_sent + 1) now r.ip ifc :: rest) :=
        .live rest (m := [_]) rfl hsent rfl
      have htwice : ((s.updateReq r.addr sent).updateReq r.addr
          fun q => { q with times_sent := r.times_sent + 1 }) = s.askReq now r := by
        rw [updateReq_updateReq (f := sent) fun _ => rfl]
        exact updateReq_congr hs hreq rfl
      have hcounted : Parts sr heap now
          (s.updateReq r.addr sent, .counted r.addr (r.times_sent + 1) now r.ip ifc :: rest)
          ((s.askReq now r).send sr (.arp_request r.addr now) (arp_request_frame ifc r.ip)
            ifc.name, rest) := by
        rw [← htwice]
        exact .live rest (m := []) rfl hsent rfl
      exact ((hask.trans hmark).trans hcount).trans hcounted

/-- Answering the sender of a frame. -/
theorem answer_parts {fuel : Nat} {r : SrArpreq} {pck : SrPacket} (hs : WellFormed s)
    (hr : r ∈ s.reqs)
    (ih : ∀ req s t, WellFormed s →
      sr_arpcache_handle_arpreq sr heap now fuel req s = (.returned (), t) →
      ∀ rest, Parts sr heap now (s, .test req :: rest) (t, rest))
    (h : answer_sender sr heap (sr_arpcache_handle_arpreq sr heap now fuel) r.addr pck s =
      (.returned (), t)) (rest : List CallPart) :
    Parts sr heap now (s, .answer r.addr pck :: rest) (t, rest) := by
  have hlive := live_request_eq (hs.reqAt_eq hr)
  rw [answer_sender_eq] at h
  cases hrt : sr_findLPMentry sr.routing_table (source pck) with
  | none =>
    rw [hrt] at h
    obtain ⟨-, rfl⟩ := returned_inj h
    refine .one rest (m := []) ?_
    rw [CallPart.run, bind_of_returned hlive]
    simp only [bind_of_returned (malloc_apply s)]
    rw [show sr_findLPMentry sr.routing_table (ip_hdr pck.buf).ip_src = none from hrt]
    rfl
  | some rtentry =>
    simp only [hrt] at h
    cases hifc : sr_get_interface sr rtentry.interface with
    | none =>
      rw [hifc] at h
      cases congrArg Prod.fst h
    | some ifc =>
      simp only [hifc] at h
      let msg : Message := .host_unreachable r.addr pck.addr
      let frame := icmp_t3_frame heap s.brk ifc 1 pck.buf
      have hbuilt : Parts sr heap now (s, .answer r.addr pck :: rest)
          (s.alloc, .lookup msg (source pck) frame rtentry.interface :: rest) := by
        refine .one rest (m := [_]) ?_
        rw [CallPart.run, bind_of_returned hlive]
        simp only [bind_of_returned (malloc_apply s)]
        rw [show sr_findLPMentry sr.routing_table (ip_hdr pck.buf).ip_src = some rtentry from hrt]
        simp only [hifc]
        rfl
      refine hbuilt.trans ?_
      cases hl : sr_arpcache_lookup s.cache (source pck) with
      | some entry =>
        simp only [hl] at h
        obtain ⟨-, rfl⟩ := returned_inj h
        refine Parts.one rest (m := []) ?_
        rw [CallPart.run, read_bind, show sr_arpcache_lookup s.alloc.cache (source pck) = _ from hl]
        rfl
      | none =>
        simp only [hl] at h
        have hmissed : Parts sr heap now
            (s.alloc, .lookup msg (source pck) frame rtentry.interface :: rest)
            (s.alloc, .queuereq msg (source pck) frame rtentry.interface :: rest) := by
          refine .one rest (m := [_]) ?_
          rw [CallPart.run, read_bind,
            show sr_arpcache_lookup s.alloc.cache (source pck) = _ from hl]
          rfl
        have hstored : Parts sr heap now
            (s.alloc, .queuereq msg (source pck) frame rtentry.interface :: rest)
            (s.queueAnswer heap r.addr pck rtentry ifc,
              .test (s.alloc.queueTarget (source pck)) :: rest) := by
          refine .one rest (m := [_]) ?_
          rw [CallPart.run, bind_of_returned (sr_arpcache_queuereq_eq (by simp [frame]) s.alloc)]
          rfl
        exact (hmissed.trans hstored).trans (ih _ _ _ (hs.alloc.queuePacket ..) h rest)

/-- The loop over the frames of an expired request. -/
theorem discard_parts {fuel : Nat} {r : SrArpreq} (pcks : List SrPacket) (hs : WellFormed s)
    (hlive : (s.reqAt r.addr).isSome)
    (ih : ∀ req s t, WellFormed s →
      sr_arpcache_handle_arpreq sr heap now fuel req s = (.returned (), t) →
      ∀ rest, Parts sr heap now (s, .test req :: rest) (t, rest))
    (h : Prog.forEach pcks
      (discard_packet sr heap (sr_arpcache_handle_arpreq sr heap now fuel) r.addr) s =
        (.returned (), t)) (rest : List CallPart) :
    Parts sr heap now
      (s, pcks.flatMap (fun pck => [.answer r.addr pck, .next r.addr]) ++ rest) (t, rest) := by
  induction pcks generalizing s with
  | nil =>
    obtain ⟨-, rfl⟩ := returned_inj h
    exact .refl
  | cons pck pcks ihp =>
    rw [forEach_cons] at h
    obtain ⟨⟨⟩, u, hbody, hrest⟩ := bind_eq_returned.mp h
    obtain ⟨hanswer, hlive'⟩ := discard_packet_returned hbody
    obtain ⟨r', hr', haddr⟩ := reqAt_isSome.mp hlive
    obtain ⟨q, hq⟩ := Option.isSome_iff_exists.mp hlive'
    rw [← haddr] at hanswer
    have hfirst := answer_parts hs hr' ih hanswer (.next r.addr ::
      (pcks.flatMap (fun pck => [.answer r.addr pck, .next r.addr]) ++ rest))
    rw [haddr] at hfirst
    have hnext : Parts sr heap now
        (u, .next r.addr :: (pcks.flatMap (fun pck => [.answer r.addr pck, .next r.addr]) ++ rest))
        (u, pcks.flatMap (fun pck => [.answer r.addr pck, .next r.addr]) ++ rest) := by
      exact .live _ (m := []) rfl hq rfl
    rw [haddr] at hanswer
    exact (hfirst.trans hnext).trans (ihp (answer_sender_evolves hs hanswer).1 hlive' hrest)

/-- **Handling a request**, in parts. -/
theorem handle_parts {fuel req : Nat} (hs : WellFormed s)
    (h : sr_arpcache_handle_arpreq sr heap now fuel req s = (.returned (), t))
    (rest : List CallPart) : Parts sr heap now (s, .test req :: rest) (t, rest) := by
  -- on the fuel: the calls for the frames of an expired request have less of it
  induction fuel generalizing req s t rest with
  | zero => cases congrArg Prod.fst h
  | succ fuel ih =>
    have hsome : (s.reqAt req).isSome := by
      by_contra hnone
      rw [handle_arpreq_eq, Option.not_isSome_iff_eq_none.mp hnone] at h
      cases congrArg Prod.fst h
    obtain ⟨r, hreq⟩ := Option.isSome_iff_exists.mp hsome
    obtain ⟨hr, rfl⟩ := reqAt_some hreq
    obtain ⟨n, hn, hhandled⟩ := handle_arpreq_returned hs hr h
    obtain rfl := Nat.succ.inj hn
    have htested : ∀ hdue : now - r.sent > 1, Parts sr heap now (s, .test r.addr :: rest)
        (s, .tries r.addr now :: rest) := by
      intro hdue
      refine .live rest (m := [_]) rfl hreq ?_
      rw [if_pos hdue]
      rfl
    cases hhandled with
    | idle hdue hs' =>
      subst hs'
      refine .live rest (m := []) rfl hreq ?_
      rw [if_neg hdue]
      rfl
    | asked hdue hexp hask =>
      have htried : Parts sr heap now (s, .tries r.addr now :: rest)
          (s, .ask r.addr now :: rest) := by
        refine .live rest (m := [_]) rfl hreq ?_
        rw [if_neg fun htimes => hexp ⟨hdue, htimes⟩]
        rfl
      exact ((htested hdue).trans htried).trans (ask_parts hs hr hask rest)
    | @discarded u hexp hloop hlive' hs' =>
      obtain ⟨hdue, htimes⟩ := hexp
      have htried : Parts sr heap now (s, .tries r.addr now :: rest)
          (s, .frames r.addr :: rest) := by
        refine .live rest (m := [_]) rfl hreq ?_
        rw [if_pos htimes]
        rfl
      have hfound : Parts sr heap now (s, .frames r.addr :: rest)
          (s, r.packets.flatMap (fun pck => [.answer r.addr pck, .next r.addr]) ++
            .destroy r.addr :: rest) := by
        rw [show ∀ L : List CallPart, L ++ CallPart.destroy r.addr :: rest =
          (L ++ [.destroy r.addr]) ++ rest by simp]
        exact .live rest rfl hreq rfl
      have hanswered := discard_parts r.packets hs hsome (fun req s t hs h rest => ih hs h rest)
        hloop (.destroy r.addr :: rest)
      have hdestroyed : Parts sr heap now (u, .destroy r.addr :: rest) (t, rest) := by
        subst hs'
        refine .one rest (m := []) ?_
        rw [CallPart.run, bind_of_returned (sr_arpreq_destroy_eq hlive')]
        rfl
      exact ((((htested hdue).trans htried).trans hfound).trans hanswered).trans hdestroyed

/-- **A sweep**, in parts. -/
theorem sweep_parts {fuel : Nat} {next : Option Nat} (hs : WellFormed s)
    (h : sweep_from sr heap now fuel next s = (.returned (), t)) :
    Parts sr heap now (s, [.sweep next]) (t, []) := by
  induction fuel generalizing next s with
  | zero =>
    cases next with
    | none =>
      rw [sweep_from] at h
      obtain ⟨-, rfl⟩ := returned_inj h
      exact .one [] (m := []) rfl
    | some req => cases congrArg Prod.fst h
  | succ fuel ih =>
    cases next with
    | none =>
      rw [sweep_from] at h
      obtain ⟨-, rfl⟩ := returned_inj h
      exact .one [] (m := []) rfl
    | some req =>
      by_cases hlive : (s.reqAt req).isSome
      · rw [sweep_from_live hlive] at h
        obtain ⟨⟨⟩, u, hhandle, hrest⟩ := bind_eq_returned.mp h
        obtain ⟨r, hreq⟩ := Option.isSome_iff_exists.mp hlive
        have hfirst : Parts sr heap now (s, [.sweep (some req)])
            (s, [.test req, .sweep (next_request s.reqs req)]) := by
          exact .live [] (m := [_, _]) rfl hreq rfl
        exact (hfirst.trans (handle_parts hs hhandle _)).trans
          (ih (handle_arpreq_evolves hs hhandle).1 hrest)
      · rw [sweep_from, read_bind, if_neg hlive] at h
        cases congrArg Prod.fst h

/-! ### One thread goes on, and the other stands still -/

variable {guard : ThreadLabel → Prop}

theorem receive_step {packet : RawFrame} {interface : IfName} {phase : Phase}
    {pass : List CallPart} (h : receive sr heap packet interface s = (.returned phase, t)) :
    (overlapping sr heap).step ⟨s, .outside .idle, pass⟩ (.receive packet interface)
      ⟨t, .outside phase, pass⟩ := by
  refine ⟨do let phase ← receive sr heap packet interface; pure (.outside phase, pass), ?_, ?_⟩
  · rw [overlap_step, if_pos rfl]
  · rw [bind_of_returned h]
    rfl

/-- The mutex is free. -/
theorem resume_step {point point' : Point} (hidle : point ≠ .outside .idle)
    (h : next_point sr heap now point s = (.returned point', t)) :
    (overlapping sr heap).step ⟨s, point, []⟩ (.resume now) ⟨t, point', []⟩ :=
  ⟨_, if_neg (by simp [hidle]), bind_of_returned h⟩

theorem pass_step {point : Point} {pass pass' : List CallPart}
    (h : next_pass sr heap now pass s = (.returned pass', t)) :
    (overlapping sr heap).step ⟨s, point, pass⟩ (.timeout now) ⟨t, point, pass'⟩ :=
  ⟨_, rfl, bind_of_returned h⟩

/-- The packet thread runs parts of its call. -/
theorem parts_inside {x y : RouterState × List CallPart} (hl : guard (.resume now))
    (h : Parts sr heap now x y)
    (hx : (overlapping sr heap).Reachable (fun _ => guard) ⟨x.1, .inside x.2, []⟩) :
    (overlapping sr heap).Reachable (fun _ => guard) ⟨y.1, .inside y.2, []⟩ := by
  induction h with
  | refl => exact hx
  | tail _ hstep ih =>
    obtain @⟨part, more, rest, s, t, hrun⟩ := hstep
    have hnext : next_point sr heap now (.inside (part :: rest)) s =
        (.returned (.inside (more ++ rest)), t) := by
      rw [next_point, bind_of_returned hrun]
      rfl
    exact ih.step hl (resume_step (by simp) hnext)

/-- The timeout thread runs parts of its pass. -/
theorem parts_pass {x y : RouterState × List CallPart} {point : Point}
    (hl : guard (.timeout now)) (h : Parts sr heap now x y)
    (hx : (overlapping sr heap).Reachable (fun _ => guard) ⟨x.1, point, x.2⟩) :
    (overlapping sr heap).Reachable (fun _ => guard) ⟨y.1, point, y.2⟩ := by
  induction h with
  | refl => exact hx
  | tail _ hstep ih =>
    obtain @⟨part, more, rest, s, t, hrun⟩ := hstep
    have hnext : next_pass sr heap now (part :: rest) s = (.returned (more ++ rest), t) := by
      rw [next_pass, bind_of_returned hrun]
      rfl
    exact ih.step hl (pass_step hnext)

/-! ### Every state of `threads` -/

variable (sr heap) in
theorem wellFormed_overlaps : OverlapRules sr heap (fun _ => True) (fun _ => True)
    (fun _ => True) WellFormed where
  sections :=
    { rules :=
        { wellFormed := fun _ hs => hs
          alloc := fun _ hs => hs.alloc
          release := fun _ mac ip now hs => hs.release sr mac ip now
          expire := fun _ _ hs => hs.setEntries _
          move := fun _ _ _ _ hs hmove => hmove.wellFormed hs }
      learn := fun _ mac ip _ hs => hs.learnFor mac ip
      release := fun _ _ _ hs _ => hs.emits _
      free := fun _ req hs => hs.destroyDetached req }
  waited _ _ _ _ := ⟨trivial, fun _ _ => trivial⟩
  part _ _ hs hpart := hpart.wellFormed hs

/-- A state of `threads`, where neither thread is in the middle of a call. -/
def Overlap.ofThreads (st : Threads) : Overlap := ⟨st.1, .outside st.2, []⟩

/-- A section of the packet thread that handles no request. -/
theorem section_overlap {fuel : Nat} {phase phase' : Phase} (hl : guard (.resume now))
    (hidle : phase ≠ .idle) (hholding : ∀ req, phase ≠ .holding req)
    (hrun : next_section sr heap now fuel phase s = (.returned phase', t))
    (hst : (overlapping sr heap).Reachable (fun _ => guard) (.ofThreads (s, phase))) :
    (overlapping sr heap).Reachable (fun _ => guard) (.ofThreads (t, phase')) := by
  -- no other section has calls that need fuel
  have hfuel : next_section sr heap now fuel phase = next_section sr heap now 0 phase := by
    cases phase with
    | holding req => exact absurd rfl (hholding req)
    | _ => rfl
  have hpoint : next_point sr heap now (.outside phase) =
      (do let phase' ← next_section sr heap now 0 phase; pure (.outside phase')) := by
    cases phase with
    | holding req => exact absurd rfl (hholding req)
    | _ => rfl
  have hnext : next_point sr heap now (.outside phase) s = (.returned (.outside phase'), t) := by
    rw [hpoint, ← hfuel, bind_of_returned hrun]
    rfl
  exact hst.step hl (resume_step (by simpa using hidle) hnext)

/-- **Every state of `threads`** is one of `overlapping`: it is reached with the same labels,
    each thread going on by itself until its call or its pass is done. -/
theorem threads_overlap {st : Threads} (hst : (threads sr heap).Reachable (fun _ => guard) st) :
    (overlapping sr heap).Reachable (fun _ => guard) (.ofThreads st) := by
  induction hst with
  | init hinit => exact .init (by rw [hinit]; rfl)
  | @step st st' l _ hl hstep ih =>
    have hs : WellFormed st.1 := ((wellFormed_overlaps sr heap).always .empty
      (ih.mono fun _ _ _ => trivial)).1
    obtain ⟨s, phase⟩ := st
    obtain ⟨s', phase'⟩ := st'
    obtain ⟨fuel, m, hm, hrun⟩ := hstep
    cases l with
    | receive packet interface =>
      obtain ⟨rfl, rfl⟩ : phase = .idle ∧ receive sr heap packet interface = m := by
        cases phase <;> simp_all [thread_section]
      exact ih.step hl (receive_step hrun)
    | resume now =>
      obtain ⟨hidle, rfl⟩ : phase ≠ .idle ∧ next_section sr heap now fuel phase = m := by
        cases phase <;> simp_all [thread_section]
      by_cases hholding : ∃ req, phase = .holding req
      · obtain ⟨req, rfl⟩ := hholding
        obtain ⟨⟨⟩, u, hhandle, hpure⟩ := bind_eq_returned.mp hrun
        obtain ⟨rfl, rfl⟩ := returned_inj hpure
        have hentered : (overlapping sr heap).Reachable (fun _ => guard)
            ⟨s, .inside [.test req], []⟩ :=
          ih.step hl (resume_step (by simp) rfl)
        have hdone := parts_inside hl (handle_parts hs hhandle []) hentered
        exact hdone.step hl (resume_step (by simp) rfl)
      · exact section_overlap hl hidle (fun req h => hholding ⟨req, h⟩) hrun ih
    | timeout now =>
      obtain rfl := Option.some.inj hm
      obtain ⟨⟨⟩, u, hpass, hpure⟩ := bind_eq_returned.mp hrun
      obtain ⟨rfl, rfl⟩ := returned_inj hpure
      rw [sr_arpcache_timeout, modify_bind, sr_arpcache_sweepreqs, read_bind] at hpass
      have hbegun : (overlapping sr heap).Reachable (fun _ => guard)
          ⟨s.setEntries (sr_arpcache_expire s.cache.entries now), .outside phase,
            [.sweep (s.reqs.head?.map (·.addr))]⟩ :=
        ih.step hl (pass_step rfl)
      exact parts_pass hl (sweep_parts (hs.setEntries _) hpass) hbegun

end SimpleRouter
