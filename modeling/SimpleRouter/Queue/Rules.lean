import SimpleRouter.Model.Router
import SimpleRouter.Queue.Handling

/-! # Rules for invariants of the queue

    One rule for each part of the program that works on the queue: what an
    invariant has to survive for the whole call to keep it, however it ends.

    * `HandlePremises.triple`: handling a request, by induction on the fuel.
    * `triple_sweep`, `triple_timeout`: what handling keeps, a sweep keeps.
    * `PacketPremises.triple`: handling a packet.
    * `Reachable.wellFormed`: the first use of them.
-/

namespace SimpleRouter

open Framework Framework.Prog RouterState

variable {sr : SrInstance} {heap : Heap} {now : time_t}
  {I J : RouterState → Prop} {E : Option Fault → RouterState → Prop}

/-! ### Destroying a request -/

/-- The state after a request that is off the queue was destroyed. -/
def RouterState.destroyDetached (s : RouterState) (req : Nat) : RouterState :=
  ({ s with detached := s.detached.eraseP fun r => r.addr = req }).emit (.destroyed req)

theorem triple_destroy {req : Nat} (hon : ∀ s, I s → J (s.destroyReq req))
    (hoff : ∀ s, I s → J (s.destroyDetached req)) (hE : ∀ s, I s → E (some .double_free) s) :
    Triple I (sr_arpreq_destroy req) (fun _ => J) E := by
  apply triple_read
  intro t ht
  split
  · exact triple_modify fun s hs => hon s hs.2
  · split
    · exact triple_modify fun s hs => hoff s hs.2
    · exact triple_fail fun s hs => hE s hs.2

/-! ### Handling a request -/

/-- What an invariant `I` of request handling has to survive. `P` is what `I`
    says of the frames waiting on an expired request, and `E` is what is to be
    shown when a call crashes or does not come back. -/
structure HandlePremises (sr : SrInstance) (heap : Heap) (now : time_t) (I : RouterState → Prop)
    (P : SrPacket → Prop) (E : Option Fault → RouterState → Prop) : Prop where
  exhausted : ∀ s, I s → E none s
  stale : ∀ s f, StaleRequest f → I s → E (some f) s
  /-- The request is asked for once more. -/
  ask : ∀ s r, I s → r ∈ s.reqs → ¬ Expired now r →
    Triple (· = s) (send_arp_request sr now r) (fun _ => I) E
  pending : ∀ s r, I s → r ∈ s.reqs → Expired now r → ∀ p ∈ r.packets, P p
  alloc : ∀ s, I s → I s.alloc
  /-- The sender of a frame is routed over an interface that does not exist. -/
  no_interface : ∀ s p rtentry, I s → P p →
    sr_findLPMentry sr.routing_table (source p) = some rtentry →
    sr_get_interface sr rtentry.interface = none → E (some .null_interface) s
  /-- The sender of a frame is answered at once. -/
  answer : ∀ s req p rtentry ifc entry, I s → P p →
    sr_findLPMentry sr.routing_table (source p) = some rtentry →
    sr_get_interface sr rtentry.interface = some ifc →
    sr_arpcache_lookup s.cache (source p) = some entry →
    Triple I (sr_send_packet sr (.host_unreachable req p.addr)
      (set_ether_dhost (icmp_t3_frame heap s.brk ifc 1 p.buf) entry.mac) rtentry.interface)
      (fun _ => I) E
  /-- The answer to the sender of a frame is stored. -/
  queue : ∀ s req p rtentry ifc, I s → P p →
    sr_findLPMentry sr.routing_table (source p) = some rtentry →
    sr_get_interface sr rtentry.interface = some ifc →
    sr_arpcache_lookup s.cache (source p) = none → I (s.queueAnswer heap req p rtentry ifc)
  destroy : ∀ req, Triple I (sr_arpreq_destroy req) (fun _ => I) E

namespace HandlePremises

variable {P : SrPacket → Prop}

theorem discard (h : HandlePremises sr heap now I P E) {handle : Nat → Router Unit}
    (hrec : ∀ a, Triple I (handle a) (fun _ => I) E) (req : Nat) {p : SrPacket} (hp : P p) :
    Triple I (discard_packet sr heap handle req p) (fun _ => I) E := by
  have hanswer : Triple I (answer_sender sr heap handle req p) (fun _ => I) E := by
    intro s hs
    rw [answer_sender_eq]
    cases hrt : sr_findLPMentry sr.routing_table (source p) with
    | none => exact h.alloc s hs
    | some rtentry =>
      cases hifc : sr_get_interface sr rtentry.interface with
      | none =>
        simp only [hifc]
        exact h.no_interface _ p rtentry (h.alloc s hs) hp hrt hifc
      | some ifc =>
        simp only [hifc]
        cases hl : sr_arpcache_lookup s.cache (source p) with
        | some entry => exact h.answer s req p rtentry ifc entry hs hp hrt hifc hl _ (h.alloc s hs)
        | none => exact hrec _ _ (h.queue s req p rtentry ifc hs hp hrt hifc hl)
  refine triple_bind hanswer fun _ => triple_read fun t ht => ?_
  split
  · exact triple_pure fun s hs => hs.2
  · exact triple_fail fun s hs => h.stale s _ (.inl rfl) hs.2

/-- **Handling keeps an invariant** that survives each of its parts. -/
theorem triple (h : HandlePremises sr heap now I P E) (fuel req : Nat) :
    Triple I (sr_arpcache_handle_arpreq sr heap now fuel req) (fun _ => I) E := by
  induction fuel generalizing req with
  | zero => exact triple_exhaust h.exhausted
  | succ fuel ih =>
    intro s hs
    rw [handle_arpreq_eq]
    cases hr : s.reqAt req with
    | none => exact h.stale s _ (.inl rfl) hs
    | some r =>
      obtain ⟨hmem, rfl⟩ := reqAt_some hr
      by_cases hexp : Expired now r
      · simp only [if_pos hexp]
        have hloop : Triple I (discard_packets sr heap now fuel r) (fun _ => I) E :=
          triple_forEach fun p hp => h.discard ih r.addr (h.pending s r hs hmem hexp p hp)
        exact triple_bind hloop (fun _ => h.destroy r.addr) s hs
      · by_cases hdue : now - r.sent > 1
        · simp only [if_neg hexp, if_pos hdue]
          exact h.ask s r hs hmem hexp s rfl
        · simp only [if_neg hexp, if_neg hdue]
          exact hs

end HandlePremises

/-- Handling a request that has not expired asks for it at most once more. -/
theorem triple_handle_unexpired {s : RouterState} {req : Nat}
    (hexp : ∀ r, s.reqAt req = some r → ¬ Expired now r) (hs : I s) (hexhausted : E none s)
    (hstale : E (some .freed_request) s)
    (hask : ∀ r ∈ s.reqs, ¬ Expired now r →
      Triple (· = s) (send_arp_request sr now r) (fun _ => I) E) (fuel : Nat) :
    Triple (· = s) (sr_arpcache_handle_arpreq sr heap now fuel req) (fun _ => I) E := by
  rintro s rfl
  cases fuel with
  | zero => exact hexhausted
  | succ fuel =>
    rw [handle_arpreq_eq]
    cases hr : s.reqAt req with
    | none => exact hstale
    | some r =>
      simp only [if_neg (hexp r hr)]
      by_cases hdue : now - r.sent > 1
      · simp only [if_pos hdue]
        exact hask r (reqAt_some hr).1 (hexp r hr) s rfl
      · simp only [if_neg hdue]
        exact hs

/-! ### Sweeping -/

theorem triple_sweep {fuel : Nat}
    (hhandle : ∀ fuel req, Triple I (sr_arpcache_handle_arpreq sr heap now fuel req)
      (fun _ => I) E)
    (hexhausted : ∀ s, I s → E none s) (hstale : ∀ s, I s → E (some .freed_request) s) :
    Triple I (sr_arpcache_sweepreqs sr heap now fuel) (fun _ => I) E := by
  have hfrom : ∀ fuel next, Triple I (sweep_from sr heap now fuel next) (fun _ => I) E := by
    intro fuel
    induction fuel with
    | zero =>
      intro next
      cases next with
      | none => exact triple_pure fun s hs => hs
      | some req => exact triple_exhaust hexhausted
    | succ fuel ih =>
      intro next
      cases next with
      | none => exact triple_pure fun s hs => hs
      | some req =>
        apply triple_read
        intro t ht
        split
        · exact triple_bind ((hhandle fuel req).pre fun s hs => hs.2) fun _ => ih _
        · exact triple_fail fun s hs => hstale s hs.2
  exact triple_read fun t ht => (hfrom fuel _).pre fun s hs => hs.2

theorem triple_timeout {fuel : Nat}
    (hsweep : Triple J (sr_arpcache_sweepreqs sr heap now fuel) (fun _ => J) E)
    (hexpire : ∀ s, I s → J (s.setEntries (sr_arpcache_expire s.cache.entries now))) :
    Triple I (sr_arpcache_timeout sr heap now fuel) (fun _ => J) E :=
  triple_bind (triple_modify hexpire) fun _ => hsweep

/-! ### The two ends of packet handling -/

theorem triple_send_or_queue {handle : Nat → Router Unit} {msg : Message} {ip : uint32_t}
    {buf : RawFrame} {iface : IfName} (hbuf : buf.length ≠ 0)
    (hhit : ∀ entry : SrArpentry,
      Triple I (sr_send_packet sr msg (set_ether_dhost buf entry.mac) iface) (fun _ => J) E)
    (hmiss : ∀ s, I s → sr_arpcache_lookup s.cache ip = none →
      Triple (· = s.queuePacket msg ip buf iface) (handle (s.queueTarget ip)) (fun _ => J) E) :
    Triple I (send_or_queue sr handle msg ip buf iface) (fun _ => J) E := by
  intro s hs
  cases hl : sr_arpcache_lookup s.cache ip with
  | some entry =>
    rw [send_or_queue_hit hl]
    exact hhit entry s hs
  | none =>
    rw [send_or_queue_miss hbuf hl]
    exact hmiss s hs hl _ rfl

/-- The state after a mapping for `ip` was learned. -/
def RouterState.learnFor (s : RouterState) (mac : EtherAddr) (ip : uint32_t) (now : time_t) :
    RouterState :=
  (match s.reqFor ip with
    | some req =>
      { s.setRequests (s.reqs.eraseP fun r => r.ip = ip) with detached := req :: s.detached }
    | none => s).setEntries (sr_arpcache_fill s.cache.entries mac ip now)

theorem sr_arpcache_insert_eq (mac : EtherAddr) (ip : uint32_t) (s : RouterState) :
    sr_arpcache_insert mac ip now s = (.returned (s.reqFor ip), s.learnFor mac ip now) := by
  simp only [sr_arpcache_insert, read_bind, modify_bind, RouterState.learnFor]
  cases s.reqFor ip <;> rfl

theorem triple_learn {fuel : Nat} {mac : EtherAddr} {ip : uint32_t} {Q : SrArpreq → Prop}
    (hlearn : ∀ s, I s → J (s.learnFor mac ip now))
    (hpending : ∀ s r, I s → s.reqFor ip = some r → Q r)
    (hrelease : ∀ r, Q r → ∀ p ∈ r.packets, Triple J (sr_send_packet sr
      (.released r.addr p.addr) (set_ether_dhost p.buf mac) p.iface) (fun _ => J) E)
    (hdestroy : ∀ req, Triple J (sr_arpreq_destroy req) (fun _ => J) E) :
    Triple I (sr_handlepacket_rest sr heap now fuel (.learn mac ip)) (fun _ => J) E := by
  intro s hs
  simp only [sr_handlepacket_rest, bind_of_returned (sr_arpcache_insert_eq mac ip s)]
  cases hr : s.reqFor ip with
  | none => exact hlearn s hs
  | some r =>
    have hQ := hpending s r hs hr
    exact triple_bind (triple_forEach fun p hp => hrelease r hQ p hp) (fun _ => hdestroy _) _
      (hlearn s hs)

/-- What handling a packet from a state in `I` has to survive to end in `J`; `E` is what is
    to be shown when it crashes or does not come back. -/
structure PacketPremises (sr : SrInstance) (heap : Heap) (now : time_t) (packet : RawFrame)
    (interface : IfName) (I J : RouterState → Prop) (E : Option Fault → RouterState → Prop) :
    Prop where
  alloc : ∀ s, I s → I s.alloc
  took : ∀ s branch, I s → I (s.emit (.took branch))
  done : ∀ s, I s → J s
  crash : ∀ s f, I s → (∃ buf, sr_handlepacket_todo sr heap buf packet interface = .crash f) →
    E (some f) s
  /-- An ARP request is replied to. -/
  reply : ∀ frame iface,
    (∃ buf, sr_handlepacket_todo sr heap buf packet interface = .reply frame iface) →
    Triple I (sr_send_packet sr .arp_reply frame iface) (fun _ => J) E
  /-- A frame is sent to a known address. -/
  hit : ∀ buf msg ip frame iface mac, has_ether_type packet ethertype_ip →
    Resolves sr heap buf packet interface msg ip frame iface →
    Triple I (sr_send_packet sr msg (set_ether_dhost frame mac) iface) (fun _ => J) E
  /-- A frame is stored, and the request that it is stored on is handled. -/
  miss : ∀ s buf msg ip frame iface, I s → has_ether_type packet ethertype_ip →
    Resolves sr heap buf packet interface msg ip frame iface →
    sr_arpcache_lookup s.cache ip = none → ∀ fuel,
    Triple (· = s.queuePacket msg ip frame iface)
      (sr_arpcache_handle_arpreq sr heap now fuel (s.queueTarget ip)) (fun _ => J) E
  learn : ∀ s mac ip, I s → J (s.learnFor mac ip now)
  /-- A frame that waited for an address is sent to it. -/
  release : ∀ s r mac, I s → r ∈ s.reqs → ∀ p ∈ r.packets,
    Triple J (sr_send_packet sr (.released r.addr p.addr) (set_ether_dhost p.buf mac) p.iface)
      (fun _ => J) E
  destroy : ∀ req, Triple J (sr_arpreq_destroy req) (fun _ => J) E

theorem PacketPremises.triple {packet : RawFrame} {interface : IfName}
    (h : PacketPremises sr heap now packet interface I J E) (fuel : Nat) :
    Triple I (sr_handlepacket sr heap now fuel packet interface) (fun _ => J) E := by
  apply triple_bind (Q := fun _ => I) (fun s hs => h.alloc s hs)
  intro buf
  refine triple_bind (Q := fun _ => I) (triple_modify fun s hs => ?_) fun _ => ?_
  · split
    · exact h.took s _ hs
    · exact hs
  · cases htodo : sr_handlepacket_todo sr heap buf packet interface with
    | nothing => exact triple_pure h.done
    | crash f => exact triple_fail fun s hs => h.crash s f hs ⟨buf, htodo⟩
    | reply frame iface => exact h.reply frame iface ⟨buf, htodo⟩
    | resolve msg ip frame iface =>
      obtain ⟨hip, hres⟩ := todo_resolve htodo
      exact triple_send_or_queue hres.length (fun entry => h.hit _ _ _ _ _ entry.mac hip hres)
        fun s hs hl => h.miss s _ _ _ _ _ hs hip hres hl fuel
    | learn mac ip =>
      exact triple_learn (fun s hs => h.learn s mac ip hs)
        (fun s r hs hr => h.release s r mac hs (reqFor_some hr).1) (fun _ hrelease => hrelease)
        h.destroy

/-! ### The shape of the queue over runs -/

/-- Taking the request for `ip` off the queue leaves the ones before and after it. -/
theorem eraseP_reqFor {s : RouterState} {ip : uint32_t} {r : SrArpreq}
    (h : s.reqFor ip = some r) :
    ∃ before after, s.reqs = before ++ r :: after ∧
      (s.reqs.eraseP fun r => r.ip = ip) = before ++ after := by
  obtain ⟨hr, before, after, hreqs, hbefore⟩ := List.find?_eq_some_iff_append.mp h
  refine ⟨before, after, hreqs, ?_⟩
  rw [reqs, hreqs, List.eraseP_append_right _ fun b hb => by simpa using hbefore b hb]
  exact congrArg (before ++ ·) (List.eraseP_cons_of_pos hr)

theorem RouterState.WellFormed.learnFor {s : RouterState} (h : WellFormed s) (mac : EtherAddr)
    (ip : uint32_t) : WellFormed (s.learnFor mac ip now) := by
  refine WellFormed.setEntries ?_ _
  cases hr : s.reqFor ip with
  | none => exact h
  | some r =>
    obtain ⟨before, after, hreqs, herase⟩ := eraseP_reqFor hr
    have hall : ((s.reqs.eraseP fun r => r.ip = ip) ++ r :: s.detached).Perm
        (s.reqs ++ s.detached) := by
      rw [herase, hreqs]
      have hmid : (before ++ r :: after).Perm (r :: (before ++ after)) := List.perm_middle
      exact List.perm_middle.trans (hmid.symm.append_right s.detached)
    exact
      { addr_nodup := ((hall.map (·.addr)).nodup_iff).mpr h.addr_nodup
        ip_nodup := (List.eraseP_sublist.map _).nodup h.ip_nodup
        addr_lt := fun r' hr' => h.addr_lt r' (hall.mem_iff.mp hr') }

theorem RouterState.WellFormed.destroyDetached {s : RouterState} (h : WellFormed s) (req : Nat) :
    WellFormed (s.destroyDetached req) := by
  refine ⟨?_, h.ip_nodup, fun r hr => h.addr_lt r ?_⟩
  · exact (((List.Sublist.refl s.reqs).append List.eraseP_sublist).map _).nodup h.addr_nodup
  · rcases List.mem_append.mp hr with hr | hr
    · exact List.mem_append_left _ hr
    · exact List.mem_append_right _ (List.mem_of_mem_eraseP hr)

/-- However a step ends, it leaves a well-formed queue. -/
theorem run_label_wellFormed (fuel : Nat) (l : Label) :
    Prog.Keeps WellFormed (run_label sr heap fuel l) := by
  have hhandle : ∀ now fuel req,
      Prog.Keeps WellFormed (sr_arpcache_handle_arpreq sr heap now fuel req) := by
    intro now fuel req
    exact keeps_iff.mpr fun s hs => (handle_arpreq_evolves hs rfl).1
  have hsend : ∀ msg buf iface, Prog.Keeps WellFormed (sr_send_packet sr msg buf iface) :=
    fun _ _ _ => triple_modify fun s hs => hs.emit _
  cases l with
  | sweep now => exact triple_sweep (hhandle now) (fun _ h => h) fun _ h => h
  | timeout now =>
    exact triple_timeout (triple_sweep (hhandle now) (fun _ h => h) fun _ h => h)
      fun s hs => hs.setEntries _
  | packet now packet interface =>
    -- each effect of a packet keeps the queue well formed by itself
    refine PacketPremises.triple (I := WellFormed) (J := WellFormed)
      { alloc := fun s hs => hs.alloc
        took := fun s _ hs => hs.emit _
        done := fun s hs => hs
        crash := fun s _ hs _ => hs
        reply := fun _ _ _ => hsend _ _ _
        hit := fun _ _ _ _ _ _ _ _ => hsend _ _ _
        miss := ?_
        learn := fun s mac ip hs => hs.learnFor mac ip
        release := fun _ _ _ _ _ _ _ => hsend _ _ _
        destroy := ?_ } fuel
    · intro s _ msg ip frame iface hs _ _ _ fuel
      apply (hhandle now fuel (s.queueTarget ip)).pre
      rintro t rfl
      exact hs.queuePacket ..
    · exact fun req => triple_destroy (fun s hs => hs.destroyReq req)
        (fun s hs => hs.destroyDetached req) fun s hs => hs

theorem Reachable.wellFormed {guard : RouterState → Label → Prop} {s : RouterState}
    (h : Reachable sr heap guard s) : WellFormed s := by
  refine System.Reachable.invariant ?_ ?_ h
  · rintro s rfl
    exact WellFormed.empty
  · intro s l s' hs _ hstep
    obtain ⟨fuel, hrun⟩ := hstep
    exact (run_label_wellFormed fuel l).returned hs hrun

end SimpleRouter
