import SimpleRouter.Cache.Lifetime
import SimpleRouter.Queue.Ledger
import SimpleRouter.Queue.Threads

/-! # What one section does

    A section of either thread, as `threads` cuts them, is a chain of the
    changes that a step of the router is made of. Only a reply is spread over
    three sections, with passes of the other thread in between: its request is
    taken off the queue, the frames are sent, and the request is freed.

    * `Carried`: what the packet thread knows while it holds no lock.
    * `section_sectioned`: no section does anything else.
    * `SectionRules`: so an invariant of the changes holds in every run of `threads`.
-/

namespace SimpleRouter

open Framework Framework.Prog RouterState Relation

variable {sr : SrInstance} {heap : Heap} {now : time_t} {s t : RouterState} {l : Label}
  {guard : Label → Prop}

/-! ### What the changes leave alone -/

theorem queuePacket_detached (s : RouterState) (msg : Message) (ip : uint32_t) (buf : RawFrame)
    (iface : IfName) : (s.queuePacket msg ip buf iface).detached = s.detached := by
  show (s.queueReady ip).detached = _
  unfold RouterState.queueReady
  split <;> rfl

theorem Move.detached (h : Move sr heap l s t) : t.detached = s.detached := by
  cases h with
  | stored => exact queuePacket_detached ..
  | answer_stored => exact queuePacket_detached ..
  | _ => rfl

theorem Move.entries (h : Move sr heap l s t) : t.cache.entries = s.cache.entries := by
  cases h with
  | stored => exact queuePacket_entries ..
  | answer_stored => exact queuePacket_entries ..
  | _ => rfl

theorem Path.detached (h : Path sr heap l s t) : t.detached = s.detached := by
  induction h with
  | refl => rfl
  | tail _ hmove ih => exact hmove.detached.trans ih

theorem Path.entries (h : Path sr heap l s t) : t.cache.entries = s.cache.entries := by
  induction h with
  | refl => rfl
  | tail _ hmove ih => exact hmove.entries.trans ih

/-! ### Learning a mapping -/

theorem learnFor_reqs (s : RouterState) (mac : EtherAddr) (ip : uint32_t) :
    (s.learnFor mac ip now).reqs = s.reqs.eraseP fun r => r.ip = ip := by
  unfold RouterState.learnFor
  cases h : s.reqFor ip with
  | none => exact (List.eraseP_of_forall_not fun r hr => by simpa using reqFor_none.mp h r hr).symm
  | some r => rfl

theorem learnFor_log (s : RouterState) (mac : EtherAddr) (ip : uint32_t) :
    (s.learnFor mac ip now).log = s.log := by
  unfold RouterState.learnFor
  cases s.reqFor ip <;> rfl

theorem mem_learnFor (h : WellFormed s) {mac : EtherAddr} {ip : uint32_t} {r : SrArpreq} :
    r ∈ (s.learnFor mac ip now).reqs ↔ r ∈ s.reqs ∧ r.ip ≠ ip := by
  have hrelease : r ∈ (s.release ⟨[], []⟩ mac ip now).reqs ↔ r ∈ s.reqs ∧ r.ip ≠ ip :=
    mem_release h
  rw [release_reqs] at hrelease
  rwa [learnFor_reqs]

/-! ### What is carried -/

/-- The steps that the guard allows, taken apart. -/
def ThreadLabel.Allowed (guard : Label → Prop) : ThreadLabel → Prop
  | .receive packet interface => ∀ now, guard (.packet now packet interface)
  | .resume now => guard (.sweep now)
  | .timeout now => guard (.timeout now)

theorem ThreadLabel.Allowed.all (l : ThreadLabel) : l.Allowed fun _ => True := by
  cases l <;> simp [ThreadLabel.Allowed]

/-- The frame was made for a packet that the guard allows. -/
def MadeOf (sr : SrInstance) (heap : Heap) (guard : Label → Prop) (msg : Message) (ip : uint32_t)
    (frame : RawFrame) (iface : IfName) : Prop :=
  ∃ packet interface buf, (∀ now, guard (.packet now packet interface)) ∧
    has_ether_type packet ethertype_ip ∧ Resolves sr heap buf packet interface msg ip frame iface

/-- What the packet thread knows in each phase. A request is off the queue only while its
    frames are released. -/
def Carried (sr : SrInstance) (heap : Heap) (guard : Label → Prop) (s : RouterState) :
    Phase → Prop
  | .idle => s.detached = []
  | .looking msg ip frame iface => s.detached = [] ∧ MadeOf sr heap guard msg ip frame iface
  | .missed msg ip frame iface => s.detached = [] ∧ MadeOf sr heap guard msg ip frame iface ∧
      sr_arpcache_lookup s.cache ip = none
  | .holding _ => s.detached = []
  | .learning mac ip => s.detached = [] ∧
      ∃ packet interface, (∀ now, guard (.packet now packet interface)) ∧
        ∀ now, announced sr (.packet now packet interface) = some (mac, ip)
  | .releasing _ arpreq => s.detached = [arpreq]
  | .destroying req => ∃ arpreq, s.detached = [arpreq] ∧ arpreq.addr = req

theorem Carried.detached_length {phase : Phase} (h : Carried sr heap guard s phase) :
    s.detached.length ≤ 1 := by
  cases phase with
  | idle => simp [show s.detached = [] from h]
  | looking => simp [h.1]
  | missed => simp [h.1]
  | holding => simp [show s.detached = [] from h]
  | learning => simp [h.1]
  | releasing mac arpreq => simp [show s.detached = [arpreq] from h]
  | destroying =>
    obtain ⟨arpreq, hheld, -⟩ := h
    simp [hheld]

/-- A request is off the queue. -/
def Phase.detaches : Phase → Bool
  | .releasing _ _ => true
  | .destroying _ => true
  | _ => false

/-- What a section does. -/
inductive Sectioned (sr : SrInstance) (heap : Heap) (guard : Label → Prop) :
    Threads → ThreadLabel → Threads → Prop where
  /-- A packet is looked at, and the cache is not. -/
  | received {s s' : RouterState} {phase' : Phase} {packet : RawFrame} {interface : IfName}
      (hl : ∀ now, guard (.packet now packet interface)) (hto : phase'.detaches = false)
      (hpath : ∀ now, Path sr heap (.packet now packet interface) s s')
      (hcache : s'.cache = s.cache) (hlog : ∃ L, s'.log = s.log ++ L ∧ ∀ e ∈ L, e.Neutral) :
      Sectioned sr heap guard (s, .idle) (.receive packet interface) (s', phase')
  | moved {s s' : RouterState} {phase phase' : Phase} {l : Label} (hl : guard l)
      (hfrom : phase.detaches = false) (hto : phase'.detaches = false)
      (hpath : Path sr heap l s s') : Sectioned sr heap guard (s, phase) (.resume l.now) (s', phase')
  | passed {s s' : RouterState} {phase : Phase} {now : time_t} (hl : guard (.timeout now))
      (hpath : Path sr heap (.timeout now)
        (s.setEntries (sr_arpcache_expire s.cache.entries now)) s') :
      Sectioned sr heap guard (s, phase) (.timeout now) (s', phase)
  /-- Nothing waits for the mapping. -/
  | learned {s : RouterState} {mac : EtherAddr} {ip : uint32_t} {now : time_t}
      (hnone : s.reqFor ip = none) :
      Sectioned sr heap guard (s, .learning mac ip) (.resume now) (s.learnFor mac ip now, .idle)
  | taken {s : RouterState} {mac : EtherAddr} {ip : uint32_t} {arpreq : SrArpreq} {now : time_t}
      (hreq : s.reqFor ip = some arpreq) :
      Sectioned sr heap guard (s, .learning mac ip) (.resume now)
        (s.learnFor mac ip now, .releasing mac arpreq)
  | released {s : RouterState} {mac : EtherAddr} {arpreq : SrArpreq} {now : time_t}
      (hheld : s.detached = [arpreq]) :
      Sectioned sr heap guard (s, .releasing mac arpreq) (.resume now)
        (s.emits (release_events sr mac arpreq), .destroying arpreq.addr)
  | freed {s : RouterState} {arpreq : SrArpreq} {now : time_t} (hheld : s.detached = [arpreq]) :
      Sectioned sr heap guard (s, .destroying arpreq.addr) (.resume now)
        (s.destroyDetached arpreq.addr, .idle)

/-! ### The packet thread -/

variable {packet : RawFrame} {interface : IfName} {fuel : Nat}

theorem receive_eq (s : RouterState) : receive sr heap packet interface s =
    (match sr_handlepacket_todo sr heap s.brk packet interface with
      | .nothing => pure .idle
      | .crash f => Prog.fail f
      | .reply buf iface => do
        sr_send_packet sr .arp_reply buf iface
        pure .idle
      | .resolve msg ip buf iface => pure (.looking msg ip buf iface)
      | .learn mac ip => pure (.learning mac ip) : Router Phase)
      (if has_ether_type packet ethertype_ip then s.alloc.emit (.took (sr_ip_branch sr packet))
        else s.alloc) := by
  rw [receive, bind_of_returned (malloc_apply s)]
  exact modify_bind ..

/-- What is noted of every packet. -/
theorem noted_path (now : time_t) (s : RouterState) :
    Path sr heap (.packet now packet interface) s
      (if has_ether_type packet ethertype_ip then s.alloc.emit (.took (sr_ip_branch sr packet))
        else s.alloc) := by
  split
  · next hip => exact .tail (.single .alloc) (.took rfl hip)
  · exact .single .alloc

variable (sr packet) in
/-- Neither the cache nor the frames that were stored are touched by it. -/
theorem noted_frame (s : RouterState) :
    (if has_ether_type packet ethertype_ip then s.alloc.emit (.took (sr_ip_branch sr packet))
        else s.alloc).cache = s.cache ∧
      ∃ L, (if has_ether_type packet ethertype_ip then
        s.alloc.emit (.took (sr_ip_branch sr packet)) else s.alloc).log = s.log ++ L ∧
        ∀ e ∈ L, e.Neutral := by
  split
  · exact ⟨rfl, _, rfl, List.forall_mem_singleton.mpr ⟨rfl, rfl⟩⟩
  · exact ⟨rfl, [], (List.append_nil _).symm, fun e he => by cases he⟩

/-- Receiving a packet. -/
theorem receive_sectioned {phase' : Phase} {s' : RouterState} (hc : s.detached = [])
    (hl : ∀ now, guard (.packet now packet interface))
    (hrun : receive sr heap packet interface s = (.returned phase', s')) :
    Sectioned sr heap guard (s, .idle) (.receive packet interface) (s', phase') ∧
      Carried sr heap guard s' phase' := by
  rw [receive_eq] at hrun
  have hnoted : ∀ now, Path sr heap (.packet now packet interface) s _ :=
    fun now => noted_path now s
  obtain ⟨hcache, L, hlog, hL⟩ := noted_frame sr packet s
  generalize (if has_ether_type packet ethertype_ip then _ else _ : RouterState) = s₁
    at hrun hnoted hcache hlog
  have hdetached : s₁.detached = [] := (hnoted 0).detached.trans hc
  cases htodo : sr_handlepacket_todo sr heap s.brk packet interface with
  | nothing =>
    rw [htodo] at hrun
    obtain ⟨rfl, rfl⟩ := returned_inj hrun
    exact ⟨.received hl rfl hnoted hcache ⟨L, hlog, hL⟩, hdetached⟩
  | crash f =>
    rw [htodo] at hrun
    cases congrArg Prod.fst hrun
  | reply frame iface =>
    rw [htodo] at hrun
    obtain ⟨htype, ifc, hifc, rfl, rfl⟩ := todo_reply htodo
    obtain ⟨rfl, rfl⟩ := returned_inj hrun
    refine ⟨.received hl rfl (fun now => (hnoted now).tail (.replied rfl htype hifc)) hcache ?_,
      hdetached⟩
    let e : Event := .sent .arp_reply (arp_reply_frame packet ifc) iface
      (accepts sr (arp_reply_frame packet ifc) iface)
    have he : e.Neutral := .sent (by simp) _ _ _
    refine ⟨L ++ [e], ?_, List.forall_mem_append.mpr ⟨hL, List.forall_mem_singleton.mpr he⟩⟩
    show s₁.log ++ [e] = _
    rw [hlog, List.append_assoc]
  | resolve msg ip frame iface =>
    rw [htodo] at hrun
    obtain ⟨hip, hres⟩ := todo_resolve htodo
    obtain ⟨rfl, rfl⟩ := returned_inj hrun
    exact ⟨.received hl rfl hnoted hcache ⟨L, hlog, hL⟩, hdetached, packet, interface, s.brk, hl,
      hip, hres⟩
  | learn mac ip =>
    rw [htodo] at hrun
    obtain ⟨rfl, rfl⟩ := returned_inj hrun
    exact ⟨.received hl rfl hnoted hcache ⟨L, hlog, hL⟩, hdetached, packet, interface,
      hl, fun now => (todo_learn_iff heap now s.brk).mp htodo⟩

/-- Not in the middle of a reply. -/
def Phase.quiet : Phase → Bool
  | .learning _ _ => false
  | phase => !phase.detaches

/-- Looking up, storing and handling. -/
theorem resume_quiet {phase phase' : Phase} {s' : RouterState} (hquiet : phase.quiet = true)
    (hs : WellFormed s) (hc : Carried sr heap guard s phase) (hl : guard (.sweep now))
    (hrun : next_section sr heap now fuel phase s = (.returned phase', s')) :
    Sectioned sr heap guard (s, phase) (.resume now) (s', phase') ∧
      Carried sr heap guard s' phase' := by
  cases phase with
  | idle =>
    obtain ⟨rfl, rfl⟩ := returned_inj hrun
    exact ⟨.moved hl rfl rfl .refl, hc⟩
  | looking msg ip frame iface =>
    obtain ⟨hdetached, packet, interface, buf, hguard, hip, hres⟩ := hc
    rw [next_section, read_bind] at hrun
    cases hlookup : sr_arpcache_lookup s.cache ip with
    | some entry =>
      rw [hlookup] at hrun
      obtain ⟨rfl, rfl⟩ := returned_inj hrun
      exact ⟨.moved (hguard now) rfl rfl
        (.single (.sent rfl hip hres hlookup)), hdetached⟩
    | none =>
      rw [hlookup] at hrun
      obtain ⟨rfl, rfl⟩ := returned_inj hrun
      exact ⟨.moved hl rfl rfl .refl, hdetached,
        ⟨packet, interface, buf, hguard, hip, hres⟩, hlookup⟩
  | missed msg ip frame iface =>
    obtain ⟨hdetached, ⟨packet, interface, buf, hguard, hip, hres⟩, hmiss⟩ := hc
    rw [next_section, bind_of_returned (sr_arpcache_queuereq_eq hres.length s)] at hrun
    obtain ⟨rfl, rfl⟩ := returned_inj hrun
    exact ⟨.moved (hguard now) rfl rfl
      (.single (.stored rfl hip hres hmiss)), (queuePacket_detached ..).trans hdetached⟩
  | holding arpreq =>
    obtain ⟨⟨⟩, t, hhandle, hpure⟩ := bind_eq_returned.mp hrun
    obtain ⟨rfl, rfl⟩ := returned_inj hpure
    have hpath := handle_path sr heap (.sweep now) fuel arpreq s hs
    have ht : t = (sr_arpcache_handle_arpreq sr heap now fuel arpreq s).2 := by rw [hhandle]
    rw [show (Label.sweep now).now = now from rfl, ← ht] at hpath
    exact ⟨.moved hl rfl rfl hpath, hpath.detached.trans hc⟩
  | learning => cases hquiet
  | releasing => cases hquiet
  | destroying => cases hquiet

/-- A reply, in three sections. -/
theorem resume_reply {phase phase' : Phase} {s' : RouterState} (hreply : phase.quiet = false)
    (hs : WellFormed s) (hc : Carried sr heap guard s phase)
    (hrun : next_section sr heap now fuel phase s = (.returned phase', s')) :
    Sectioned sr heap guard (s, phase) (.resume now) (s', phase') ∧
      Carried sr heap guard s' phase' := by
  cases phase with
  | idle => cases hreply
  | looking => cases hreply
  | missed => cases hreply
  | holding => cases hreply
  | learning mac ip =>
    obtain ⟨hdetached, -⟩ := hc
    rw [next_section, bind_of_returned (sr_arpcache_insert_eq mac ip s)] at hrun
    cases hreq : s.reqFor ip with
    | none =>
      rw [hreq] at hrun
      obtain ⟨rfl, rfl⟩ := returned_inj hrun
      refine ⟨.learned hreq, ?_⟩
      show (s.learnFor mac ip now).detached = []
      simp only [RouterState.learnFor, hreq, setEntries_detached, hdetached]
    | some arpreq =>
      rw [hreq] at hrun
      obtain ⟨rfl, rfl⟩ := returned_inj hrun
      refine ⟨.taken hreq, ?_⟩
      show (s.learnFor mac ip now).detached = [arpreq]
      simp only [RouterState.learnFor, hreq, setEntries_detached, hdetached]
  | releasing mac arpreq =>
    rw [next_section, bind_of_returned (release_loop mac arpreq s)] at hrun
    obtain ⟨rfl, rfl⟩ := returned_inj hrun
    exact ⟨.released hc, arpreq, hc, rfl⟩
  | destroying req =>
    obtain ⟨arpreq, hdetached, rfl⟩ := hc
    -- what is off the queue is not on it
    have hgone : ¬ (s.reqAt arpreq.addr).isSome := by
      intro hlive
      obtain ⟨r, hr, haddr⟩ := reqAt_isSome.mp hlive
      have hnodup := hs.addr_nodup
      rw [List.map_append, List.nodup_append, hdetached] at hnodup
      exact hnodup.2.2 _ (List.mem_map_of_mem hr) _ (by simp) haddr
    have hheld : s.detached.any fun r => r.addr = arpreq.addr := by
      rw [hdetached]
      simp
    obtain ⟨⟨⟩, t, hdestroy, hpure⟩ := bind_eq_returned.mp hrun
    obtain ⟨rfl, rfl⟩ := returned_inj hpure
    rw [sr_arpreq_destroy, read_bind, if_neg hgone, if_pos hheld] at hdestroy
    obtain ⟨-, rfl⟩ := Prod.mk.inj hdestroy
    refine ⟨.freed hdetached, ?_⟩
    show s.detached.eraseP _ = []
    rw [hdetached]
    simp

/-! ### The timeout thread -/

/-- A pass leaves alone what the packet thread knows. -/
theorem Carried.passed {phase : Phase} {s' : RouterState} (hc : Carried sr heap guard s phase)
    (hpath : Path sr heap l (s.setEntries (sr_arpcache_expire s.cache.entries now)) s') :
    Carried sr heap guard s' phase := by
  have hdetached : s'.detached = s.detached := hpath.detached
  cases phase with
  | missed msg ip frame iface =>
    obtain ⟨hheld, hmade, hmiss⟩ := hc
    refine ⟨hdetached.trans hheld, hmade, ?_⟩
    -- entries only go
    exact lookup_expire hpath.entries hmiss
  | _ =>
    unfold Carried at hc ⊢
    rwa [hdetached]

variable (sr heap) in
/-- **A section** that returns does one of these, and the packet thread knows what its phase
    says. -/
theorem section_sectioned {phase phase' : Phase} {s' : RouterState} {l : ThreadLabel}
    {m : Router Phase} (hs : WellFormed s) (hc : Carried sr heap guard s phase)
    (hl : l.Allowed guard) (hm : thread_section sr heap fuel l phase = some m)
    (hrun : m s = (.returned phase', s')) :
    Sectioned sr heap guard (s, phase) l (s', phase') ∧ Carried sr heap guard s' phase' := by
  cases l with
  | receive packet interface =>
    cases phase <;> simp only [thread_section, Option.some.injEq, reduceCtorEq] at hm
    subst hm
    exact receive_sectioned hc hl hrun
  | resume now =>
    obtain rfl : next_section sr heap now fuel phase = m := by
      cases phase <;> simp_all [thread_section]
    cases hquiet : phase.quiet with
    | true => exact resume_quiet hquiet hs hc hl hrun
    | false => exact resume_reply hquiet hs hc hrun
  | timeout now =>
    obtain rfl := Option.some.inj hm
    obtain ⟨⟨⟩, t, hpass, hpure⟩ := bind_eq_returned.mp hrun
    obtain ⟨rfl, rfl⟩ := returned_inj hpure
    have hpath := sweep_path sr heap (.timeout now) fuel _
      (hs.setEntries (sr_arpcache_expire s.cache.entries now))
    have ht : t = (sr_arpcache_sweepreqs sr heap now fuel
        (s.setEntries (sr_arpcache_expire s.cache.entries now))).2 := by
      have hsweep : sr_arpcache_sweepreqs sr heap now fuel
          (s.setEntries (sr_arpcache_expire s.cache.entries now)) = (.returned (), t) := hpass
      rw [hsweep]
    rw [show (Label.timeout now).now = now from rfl, ← ht] at hpath
    exact ⟨.passed hl hpath, hc.passed hpath⟩

/-! ### Invariants -/

/-- What an invariant has to survive in every interleaving of the steps of `threads`: the
    changes, and the three sections of a reply. -/
structure SectionRules (sr : SrInstance) (heap : Heap) (guard : Label → Prop)
    (I : RouterState → Prop) : Prop where
  rules : MoveRules sr heap guard I
  learn : ∀ s mac ip now, I s → I (s.learnFor mac ip now)
  release : ∀ s mac arpreq, I s → arpreq ∈ s.detached →
    I (s.emits (release_events sr mac arpreq))
  free : ∀ s req, I s → I (s.destroyDetached req)

namespace SectionRules

variable {I : RouterState → Prop}

theorem sectioned (h : SectionRules sr heap guard I) {st st' : Threads} {l : ThreadLabel}
    (hs : I st.1) (hstep : Sectioned sr heap guard st l st') : I st'.1 := by
  cases hstep with
  | received hl _ hpath => exact h.rules.path (hl 0) hs (hpath 0)
  | moved hl _ _ hpath => exact h.rules.path hl hs hpath
  | passed hl hpath => exact h.rules.path hl (h.rules.expire _ _ hs) hpath
  | learned => exact h.learn _ _ _ _ hs
  | taken => exact h.learn _ _ _ _ hs
  | released hheld => exact h.release _ _ _ hs (by rw [hheld]; exact List.mem_singleton.mpr rfl)
  | freed => exact h.free _ _ hs

/-- **Every interleaving** of the steps of `threads` keeps it, and the packet thread knows what
    its phase says. -/
theorem reachable (h : SectionRules sr heap guard I) (hempty : I RouterState.empty)
    {st : Threads} (hst : (threads sr heap).Reachable (fun _ l => l.Allowed guard) st) :
    I st.1 ∧ Carried sr heap guard st.1 st.2 := by
  refine System.Reachable.invariant
    (I := fun st => I st.1 ∧ Carried sr heap guard st.1 st.2) ?_ ?_ hst
  · rintro st rfl
    exact ⟨hempty, rfl⟩
  · rintro ⟨s, phase⟩ l ⟨s', phase'⟩ ⟨hs, hc⟩ hl ⟨fuel, m, hm, hrun⟩
    obtain ⟨hstep, hc'⟩ := section_sectioned sr heap (h.rules.wellFormed s hs) hc hl hm hrun
    exact ⟨h.sectioned hs hstep, hc'⟩

theorem always (h : SectionRules sr heap (fun _ => True) I) (hempty : I RouterState.empty)
    {st : Threads} (hst : (threads sr heap).Reachable System.always st) :
    I st.1 ∧ Carried sr heap (fun _ => True) st.1 st.2 :=
  h.reachable hempty (hst.mono fun _ l _ => ThreadLabel.Allowed.all l)

end SectionRules

end SimpleRouter
