import SimpleRouter.Model.Threads
import SimpleRouter.Queue.Rules

/-! # Request handles across the two threads

    The packet thread keeps the request that `sr_arpcache_queuereq` returned
    without holding the lock, until it handles it.

    * `handlepacket_sections`: its sections, run in one go, are `sr_handlepacket`.
    * `held_request_live`: a held request stays on the queue unless the timeout
      thread makes a pass at a time when it has expired.
-/

namespace SimpleRouter

open Framework Framework.Prog RouterState

variable {sr : SrInstance} {heap : Heap} {now : time_t}

/-! ### One thread alone -/

/-- **The packet thread alone does what `sr_handlepacket` does.** -/
theorem handlepacket_sections (fuel : Nat) (packet : RawFrame) (interface : IfName) :
    (receive sr heap packet interface >>= run_sections sr heap now fuel 3) =
      sr_handlepacket sr heap now fuel packet interface := by
  simp only [receive, sr_handlepacket, bind_assoc]
  refine bind_congr fun buf => bind_congr fun _ => ?_
  cases sr_handlepacket_todo sr heap buf packet interface with
  | nothing => rfl
  | crash f => rfl
  | reply frame iface => rfl
  | resolve msg ip frame iface =>
    simp only [pure_bind, run_sections, next_section, sr_handlepacket_rest, send_or_queue,
      bind_assoc]
    -- a frame that is not sent at once takes two more sections
    apply bind_congr
    intro s
    cases sr_arpcache_lookup s.cache ip with
    | some arpentry => rfl
    | none => simp only [pure_bind, run_sections, next_section, bind_assoc, bind_pure_unit]
  | learn mac ip =>
    simp only [pure_bind, run_sections, next_section, sr_handlepacket_rest, bind_assoc]
    apply bind_congr
    intro arpreq
    cases arpreq with
    | none => rfl
    | some arpreq =>
      simp only [pure_bind, run_sections, next_section, release_packets, bind_assoc,
        bind_pure_unit]

/-! ### Held requests -/

/-- No pass is made at a time when the request that the packet thread holds has
    expired. -/
def NoPassWhileExpired (st : Threads) : ThreadLabel → Prop
  | .timeout now => ∀ arpreq, st.2 = .holding arpreq →
      ∀ r ∈ st.1.reqs, r.addr = arpreq → ¬ Expired now r
  | _ => True

/-- The request that the packet thread holds is on the queue. -/
def HeldLive (st : Threads) : Prop :=
  ∀ arpreq, st.2 = .holding arpreq → (st.1.reqAt arpreq).isSome

/-- A pass of the timeout thread only moves the queue along `Evolves`. -/
theorem timeout_evolves {fuel : Nat} {s s' : RouterState} {o : Outcome Fault Unit}
    (hs : WellFormed s) (hrun : sr_arpcache_timeout sr heap now fuel s = (o, s')) :
    WellFormed s' ∧
      Evolves sr now (s.setEntries (sr_arpcache_expire s.cache.entries now)) s' := by
  let s₁ := s.setEntries (sr_arpcache_expire s.cache.entries now)
  have hs₁ : WellFormed s₁ := hs.setEntries _
  let I : RouterState → Prop := fun t => WellFormed t ∧ Evolves sr now s₁ t
  have hsweep : Triple I (sr_arpcache_sweepreqs sr heap now fuel) (fun _ => I) (fun _ => I) := by
    refine triple_sweep (fun fuel req => keeps_iff.mpr fun t ht => ?_) (fun _ h => h) fun _ h => h
    obtain ⟨ht', hev⟩ := handle_arpreq_handles sr heap now fuel req t ht.1
    exact ⟨ht', ht.2.trans hs₁ hev⟩
  have hkeeps := keeps_iff.mp hsweep s₁ ⟨hs₁, Evolves.refl hs₁⟩
  have hs' : s' = (sr_arpcache_sweepreqs sr heap now fuel s₁).2 := (congrArg Prod.snd hrun).symm
  rwa [hs']

/-- The request that `sr_arpcache_queuereq` returns is on the queue. -/
theorem triple_queuereq {msg : Message} {ip : uint32_t} {buf : RawFrame} {iface : IfName}
    {E : Option Fault → RouterState → Prop} :
    Triple WellFormed (sr_arpcache_queuereq msg ip buf iface)
      (fun arpreq s => WellFormed s ∧ (s.reqAt arpreq).isSome) E := by
  intro s hs
  obtain ⟨r, hr, haddr, -⟩ := exists_queueReady s ip
  by_cases hbuf : buf.length ≠ 0
  · rw [sr_arpcache_queuereq_eq hbuf]
    refine ⟨hs.queuePacket .., reqAt_isSome.mpr ⟨_, mem_updateReq.mpr ⟨r, hr, rfl⟩, ?_⟩⟩
    split <;> exact haddr
  · have heq : sr_arpcache_queuereq msg ip buf iface s =
        (.returned (s.queueTarget ip), s.queueReady ip) := by
      simp only [sr_arpcache_queuereq, read_bind, if_neg hbuf, queueReady, queueTarget]
      cases s.reqFor ip <;> rfl
    rw [heq]
    exact ⟨hs.queueReady ip, reqAt_isSome.mpr ⟨r, hr, haddr⟩⟩

/-- After each section of the packet thread, the request that it holds is on the queue. -/
theorem triple_next_section (fuel : Nat) (phase : Phase) :
    Triple WellFormed (next_section sr heap now fuel phase)
      (fun phase' s => WellFormed s ∧ HeldLive (s, phase')) (fun _ _ => True) := by
  have hsend : ∀ msg buf iface, Triple WellFormed (sr_send_packet sr msg buf iface)
      (fun _ => WellFormed) (fun _ _ => True) :=
    fun _ _ _ => triple_modify fun s hs => hs.emit _
  -- in every phase but `holding`, no request is held
  have hdone : ∀ phase', (∀ arpreq, phase' ≠ .holding arpreq) → ∀ s, WellFormed s →
      WellFormed s ∧ HeldLive (s, phase') :=
    fun phase' hne s hs => ⟨hs, fun arpreq h => absurd h (hne arpreq)⟩
  cases phase with
  | idle => exact triple_pure (hdone _ (by simp))
  | looking msg ip buf iface =>
    refine triple_read fun t ht => Triple.pre ?_ fun s hs => hs.2
    cases sr_arpcache_lookup t.cache ip with
    | some arpentry =>
      exact triple_bind (hsend _ _ _) fun _ => triple_pure (hdone _ (by simp))
    | none => exact triple_pure (hdone _ (by simp))
  | missed msg ip buf iface =>
    refine triple_bind triple_queuereq fun arpreq => triple_pure fun s hs => ⟨hs.1, ?_⟩
    -- the request is on the queue, as `sr_arpcache_queuereq` has just returned it
    intro arpreq' h
    obtain rfl := Phase.holding.inj h
    exact hs.2
  | holding arpreq =>
    refine triple_bind (Q := fun _ => WellFormed) (fun s hs => ?_)
      fun _ => triple_pure (hdone _ (by simp))
    rcases hrun : sr_arpcache_handle_arpreq sr heap now fuel arpreq s with ⟨_ | _ | _, s'⟩
    · exact (handle_arpreq_evolves hs hrun).1
    · trivial
    · trivial
  | learning mac ip =>
    intro s hs
    simp only [next_section, bind_of_returned (sr_arpcache_insert_eq mac ip s)]
    cases s.reqFor ip with
    | none => exact hdone _ (by simp) _ (hs.learnFor mac ip)
    | some arpreq => exact hdone _ (by simp) _ (hs.learnFor mac ip)
  | releasing mac arpreq =>
    exact triple_bind (triple_forEach fun _ _ => hsend _ _ _)
      fun _ => triple_pure (hdone _ (by simp))
  | destroying arpreq =>
    refine triple_bind (triple_destroy (fun s hs => hs.destroyReq arpreq)
      (fun s hs => hs.destroyDetached arpreq) fun _ _ => trivial) fun _ => ?_
    exact triple_pure (hdone _ (by simp))

theorem triple_receive (packet : RawFrame) (interface : IfName) :
    Triple WellFormed (receive sr heap packet interface)
      (fun phase' s => WellFormed s ∧ HeldLive (s, phase')) (fun _ _ => True) := by
  apply triple_bind (Q := fun _ => WellFormed) (fun s hs => hs.alloc)
  intro buf
  refine triple_bind (Q := fun _ => WellFormed) (triple_modify fun s hs => ?_) fun _ => ?_
  · split
    · exact hs.emit _
    · exact hs
  · have hdone : ∀ phase', (∀ arpreq, phase' ≠ .holding arpreq) → ∀ s, WellFormed s →
        WellFormed s ∧ HeldLive (s, phase') :=
      fun phase' hne s hs => ⟨hs, fun arpreq h => absurd h (hne arpreq)⟩
    cases sr_handlepacket_todo sr heap buf packet interface with
    | nothing => exact triple_pure (hdone _ (by simp))
    | crash f => exact triple_fail fun _ _ => trivial
    | reply frame iface =>
      apply triple_bind (Q := fun _ => WellFormed) (triple_modify fun s hs => hs.emit _)
      intro _
      exact triple_pure (hdone _ (by simp))
    | resolve msg ip frame iface => exact triple_pure (hdone _ (by simp))
    | learn mac ip => exact triple_pure (hdone _ (by simp))

/-- A pass of the timeout thread does not take away a request that has not expired. -/
theorem timeout_held {fuel : Nat} {s s' : RouterState} {arpreq : Nat} (hs : WellFormed s)
    (hrun : sr_arpcache_timeout sr heap now fuel s = (.returned (), s'))
    (hlive : (s.reqAt arpreq).isSome) (hexp : ∀ r ∈ s.reqs, r.addr = arpreq → ¬ Expired now r) :
    (s'.reqAt arpreq).isSome := by
  obtain ⟨r, hr, haddr⟩ := reqAt_isSome.mp hlive
  obtain ⟨r', hr', haddr'⟩ := (timeout_evolves hs hrun).2.kept r hr (hexp r hr haddr)
  exact reqAt_isSome.mpr ⟨r', hr', haddr'.trans haddr⟩

/-- **A held request stays on the queue** in every interleaving in which no pass is
    made while it is held and has expired. -/
theorem held_request_live {st : Threads}
    (hst : (threads sr heap).Reachable NoPassWhileExpired st) : HeldLive st := by
  suffices h : WellFormed st.1 ∧ HeldLive st from h.2
  refine System.Reachable.invariant (I := fun st => WellFormed st.1 ∧ HeldLive st) ?_ ?_ hst
  · rintro st rfl
    exact ⟨WellFormed.empty, fun arpreq h => by simp at h⟩
  · rintro ⟨s, phase⟩ l ⟨s', phase'⟩ ⟨hs, hheld⟩ hguard ⟨fuel, m, hm, hrun⟩
    cases l with
    | receive packet interface =>
      cases phase <;> simp only [thread_section, Option.some.injEq, reduceCtorEq] at hm
      subst hm
      exact (triple_receive packet interface).returned hs hrun
    | resume now =>
      obtain rfl : next_section sr heap now fuel phase = m := by
        cases phase <;> simp_all [thread_section]
      exact (triple_next_section fuel phase).returned hs hrun
    | timeout now =>
      obtain rfl := Option.some.inj hm
      obtain ⟨⟨⟩, t, hpass, hpure⟩ := bind_eq_returned.mp hrun
      obtain ⟨hphase, rfl⟩ := Prod.mk.inj hpure
      obtain rfl := Outcome.returned.inj hphase
      refine ⟨(timeout_evolves hs hpass).1, fun arpreq h => ?_⟩
      exact timeout_held hs hpass (hheld arpreq h) (hguard arpreq h)

namespace Sample

/-- The sections of the labels, one after the other, as long as they return. -/
def interleave (fuel : Nat) : List ThreadLabel → Threads → Option Threads
  | [], st => some st
  | l :: labels, st =>
    match (thread_section net mem fuel l st.2).map fun m => (m st.1 : Outcome Fault Phase × _) with
    | some (.returned phase', s') => interleave fuel labels (s', phase')
    | _ => none

theorem interleave_reachable {guard : Threads → ThreadLabel → Prop} {fuel : Nat}
    {labels : List ThreadLabel} {st st' : Threads}
    (hst : (threads net mem).Reachable guard st) (hguard : ∀ st, ∀ l ∈ labels, guard st l)
    (h : interleave fuel labels st = some st') : (threads net mem).Reachable guard st' := by
  induction labels generalizing st with
  | nil => exact Option.some.inj h ▸ hst
  | cons l labels ih =>
    rw [interleave] at h
    split at h
    · next phase' s' hsection =>
      obtain ⟨m, hm, hrun⟩ := Option.map_eq_some_iff.mp hsection
      exact ih (.step hst (hguard st l (by simp)) ⟨fuel, m, hm, hrun⟩)
        (fun st l hl => hguard st l (by simp [hl])) h
    · simp at h

def to_lost_host : RawFrame :=
  ip_frame (inet_addr 172 64 3 9) (inet_addr 192 168 2 7) 64 17 []

/-- A frame for 192.168.2.7 is received, looked up, and stored. -/
def store (now : time_t) : List ThreadLabel :=
  [.receive to_lost_host (eth 2), .resume now, .resume now]

/-- Five frames are stored and the request handled each time; then one more frame
    is stored, and a pass is made before the packet thread handles the request. -/
def lose : List ThreadLabel :=
  [10, 12, 14, 16, 18].flatMap (fun now => store now ++ [.resume now]) ++ store 20 ++ [.timeout 20]

/-- The labels lead to a state that satisfies `p`. -/
theorem interleave_any (guard : Threads → ThreadLabel → Prop) (labels : List ThreadLabel)
    {p : Threads → Bool} (hguard : ∀ st, ∀ l ∈ labels, guard st l)
    (h : (interleave 20 labels (RouterState.empty, .idle)).any p = true) :
    ∃ st, (threads net mem).Reachable guard st ∧ p st := by
  obtain ⟨st, hrun, hp⟩ := (Option.any_eq_true p _).mp h
  exact ⟨st, interleave_reachable (.init rfl) hguard hrun, hp⟩

/-- The packet thread is left with a request that is not there any more. -/
theorem lose_stale : ∃ st, (threads net mem).Reachable System.always st ∧ ¬ HeldLive st := by
  obtain ⟨st, hst, hheld⟩ := interleave_any System.always lose
    (p := fun st => st.2 = .holding 2 ∧ (st.1.reqAt 2).isNone) (fun _ _ _ => trivial)
    (by decide +kernel)
  obtain ⟨hphase, hdead⟩ := of_decide_eq_true hheld
  refine ⟨st, hst, fun hlive => ?_⟩
  have hsome := hlive 2 hphase
  simp only [Option.isNone_iff_eq_none] at hdead
  simp [hdead] at hsome

/-- The packet thread holds a request, and it is on the queue. -/
theorem store_live : ∃ st, st.2 = .holding 2 ∧ HeldLive st := by
  have hguard : ∀ st, ∀ l ∈ store 10, NoPassWhileExpired st l := by
    intro st l hl
    simp only [store, List.mem_cons, List.not_mem_nil, or_false] at hl
    rcases hl with rfl | rfl | rfl <;> trivial
  obtain ⟨st, hst, hphase⟩ := interleave_any _ _ (p := fun st => st.2 = .holding 2) hguard
    (by decide +kernel)
  exact ⟨st, of_decide_eq_true hphase, held_request_live hst⟩

end Sample

end SimpleRouter
