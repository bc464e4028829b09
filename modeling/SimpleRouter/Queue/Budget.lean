import SimpleRouter.Framework.Budget
import SimpleRouter.Queue.Progress

/-! # No more is sent than was received

    A packet makes the router send one frame at most: it is passed on or
    answered, now or when the address is known, and if that never happens its
    sender is told instead, where the message may have to wait in its turn. So
    each frame that is sent or waits was paid for by one that was received, and
    only the broadcasts for addresses come on top.

    * `RouterState.cost`: the frames that were sent, and those that wait.
    * `handle_cost`: handling a request, by induction on the fuel.
    * `section_cost`: one section of either thread.
    * `sends_no_more_than_received`: every run of `threads`, where a request is
      handled in one step. A pass in the middle of it could answer the same
      frames again.
-/

namespace SimpleRouter

open Framework Framework.Prog RouterState

variable {sr : SrInstance} {heap : Heap} {now : time_t} {s s' t : RouterState}

/-! ### Counting -/

/-- A frame was sent, and it was no broadcast. -/
def Event.cost : Event → Nat
  | .sent (.arp_request _ _) _ _ _ => 0
  | .sent _ _ _ _ => 1
  | _ => 0

def frames_sent (L : List Event) : Nat := (L.map Event.cost).sum

def frames_waiting (s : RouterState) : Nat := (s.reqs.map (·.packets.length)).sum

def RouterState.cost (s : RouterState) : Nat := frames_sent s.log + frames_waiting s

/-- The frames that the packet thread has in hand. -/
def Phase.cost : Phase → Nat
  | .looking _ _ _ _ => 1
  | .missed _ _ _ _ => 1
  | .releasing _ arpreq => arpreq.packets.length
  | _ => 0

/-- A packet that can make the router send a frame: an IP packet or an ARP request. -/
def asks_for_frame (packet : RawFrame) : Bool :=
  has_ether_type packet ethertype_ip ||
    (has_ether_type packet ethertype_arp && (arp_hdr packet).ar_op = htons arp_op_request)

def ThreadLabel.credit : ThreadLabel → Nat
  | .receive packet _ => if asks_for_frame packet then 1 else 0
  | _ => 0

theorem Event.cost_le_one (e : Event) : e.cost ≤ 1 := by
  unfold Event.cost
  split <;> omega

theorem frames_sent_append (L L' : List Event) :
    frames_sent (L ++ L') = frames_sent L + frames_sent L' := by
  simp only [frames_sent, List.map_append, List.sum_append]

theorem frames_sent_release (sr : SrInstance) (mac : EtherAddr) (r : SrArpreq) :
    frames_sent (release_events sr mac r) = r.packets.length := by
  unfold frames_sent release_events
  rw [List.map_map]
  induction r.packets with
  | nil => rfl
  | cons p rest ih =>
    rw [List.map_cons, List.sum_cons, ih, List.length_cons]
    show 1 + rest.length = _
    omega

/-! ### The single changes -/

namespace RouterState

theorem cost_emit (s : RouterState) (e : Event) : (s.emit e).cost = s.cost + e.cost := by
  have hlog : frames_sent (s.log ++ [e]) = frames_sent s.log + e.cost := by
    rw [frames_sent_append]
    simp [frames_sent]
  show frames_sent (s.log ++ [e]) + frames_waiting s = _
  rw [hlog, cost]
  omega

theorem cost_of_same (hreqs : t.reqs = s.reqs) (hlog : t.log = s.log) : t.cost = s.cost := by
  unfold cost frames_waiting
  rw [hreqs, hlog]

theorem cost_askReq (hs : WellFormed s) {r : SrArpreq} (hr : r ∈ s.reqs) :
    (s.askReq now r).cost = s.cost := by
  have hsum := sum_update (fun r : SrArpreq => r.packets.length)
    (fun r₀ : SrArpreq => { r₀ with sent := now, times_sent := r₀.times_sent + 1 })
    hs.addrs_nodup hr
  have hwaiting : frames_waiting (s.askReq now r) = frames_waiting s := Nat.add_right_cancel hsum
  unfold cost
  rw [hwaiting]
  rfl

/-- A frame that is stored waits. -/
theorem cost_queuePacket (hs : WellFormed s) (msg : Message) (ip : uint32_t) (buf : RawFrame)
    (iface : IfName) : (s.queuePacket msg ip buf iface).cost = s.cost + 1 := by
  have hready : frames_waiting (s.queueReady ip) = frames_waiting s := by
    unfold queueReady
    split
    · rfl
    · show ((s.reqs ++ [_]).map _).sum = _
      simp [frames_waiting]
  obtain ⟨r, hr, haddr, -⟩ := exists_queueReady s ip
  have hsum := sum_update (fun r : SrArpreq => r.packets.length)
    (fun r₀ : SrArpreq => { r₀ with
      packets := ⟨(s.queueReady ip).brk, buf, iface⟩ :: r₀.packets })
    (hs.queueReady ip).addrs_nodup hr
  rw [haddr] at hsum
  have hwaiting : frames_waiting (s.queuePacket msg ip buf iface) + r.packets.length =
      frames_waiting (s.queueReady ip) + (r.packets.length + 1) := hsum
  have hlog : frames_sent (s.queuePacket msg ip buf iface).log = frames_sent s.log := by
    rw [queuePacket_log, frames_sent_append]
    rfl
  unfold cost
  omega

/-- The frames of a request that is destroyed are gone. -/
theorem cost_destroyReq (hs : WellFormed s) {r : SrArpreq} (hr : r ∈ s.reqs) :
    (s.destroyReq r.addr).cost + r.packets.length = s.cost := by
  have hwaiting : frames_waiting (s.destroyReq r.addr) + r.packets.length = frames_waiting s :=
    sum_eraseP (fun r : SrArpreq => r.packets.length) (hs.reqAt_eq hr)
  have hlog : frames_sent (s.destroyReq r.addr).log = frames_sent s.log := by
    show frames_sent (s.log ++ [.destroyed r.addr]) = _
    rw [frames_sent_append]
    rfl
  unfold cost
  omega

end RouterState

/-! ### Handling a request -/

/-- What the calls for other requests are assumed to cost. -/
def CostsNothing (handle : Nat → Router Unit) : Prop :=
  ∀ req s s', WellFormed s → handle req s = (.returned (), s') → s'.cost ≤ s.cost

/-- A frame that is given up is replaced by one message to its sender at most. -/
theorem answer_sender_cost {fuel req : Nat} {pck : SrPacket}
    (ih : CostsNothing (sr_arpcache_handle_arpreq sr heap now fuel)) (hs : WellFormed s)
    (hrun : answer_sender sr heap (sr_arpcache_handle_arpreq sr heap now fuel) req pck s =
      (.returned (), s')) : s'.cost ≤ s.cost + 1 := by
  have halloc : s.alloc.cost = s.cost := cost_of_same rfl rfl
  cases answer_sender_returned hrun with
  | unrouted _ hs' =>
    rw [hs', halloc]
    omega
  | sent _ _ _ hs' =>
    obtain rfl := (Prod.mk.inj hs').2
    rw [cost_emit, halloc]
    exact Nat.le_refl _
  | @stored rtentry ifc r _ _ _ _ _ _ hcall =>
    have hstored : (s.queueAnswer heap req pck rtentry ifc).cost = s.alloc.cost + 1 :=
      cost_queuePacket hs.alloc ..
    have hnested : s'.cost ≤ (s.queueAnswer heap req pck rtentry ifc).cost :=
      ih _ _ _ (hs.alloc.queuePacket ..) hcall
    omega

theorem handle_cost (fuel : Nat) : CostsNothing (sr_arpcache_handle_arpreq sr heap now fuel) := by
  -- on the fuel: what the answers are stored on is handled with less of it
  induction fuel with
  | zero =>
    intro req s s' _ hrun
    simp [sr_arpcache_handle_arpreq] at hrun
  | succ fuel ih =>
    intro req s s' hs hrun
    obtain ⟨r, hr, rfl⟩ := reqAt_isSome.mp (handle_arpreq_live hrun)
    obtain ⟨n, ⟨⟩, hdone⟩ := handle_arpreq_returned hs hr hrun
    cases hdone with
    | idle _ hs' => exact Nat.le_of_eq (congrArg RouterState.cost hs')
    | asked _ _ hask =>
      obtain ⟨_, ifc, accepted, -, -, rfl⟩ := send_arp_request_returned hask
      rw [cost_emit, cost_askReq hs hr]
      exact Nat.le_refl _
    | @discarded v hexp hloop hlive hs' =>
      -- one message for each frame that was waiting
      have hv : WellFormed v ∧ v.cost ≤ s.cost + r.packets.length := by
        refine Prog.forEach_returned
          (I := fun d v => WellFormed v ∧ v.cost ≤ s.cost + d.length) ⟨hs, Nat.le_refl _⟩ ?_ hloop
        intro d p _ v v' _ hv hbody
        obtain ⟨hv, hcost⟩ := hv
        have hans := (discard_packet_returned hbody).1
        have hone := answer_sender_cost ih hv hans
        refine ⟨(answer_sender_evolves hv hans).1, ?_⟩
        rw [List.length_append, List.length_singleton]
        omega
      -- and all of them are still there to be destroyed
      obtain ⟨r', hr', haddr⟩ := reqAt_isSome.mp hlive
      have hloop' := discard_packets_path (l := .sweep now)
        (handle_path sr heap (.sweep now) fuel) hs hr hexp
      have hpath : Path sr heap (.sweep now) s v := (hloop'.returned rfl hloop).2
      have hkept := ((hpath.follows hs).same hs hr hr' haddr).packets.length_le
      have hgone := cost_destroyReq hv.1 hr'
      rw [haddr] at hgone
      rw [hs']
      omega

theorem triple_handle_cost (fuel req n : Nat) :
    Triple (fun s => WellFormed s ∧ s.cost ≤ n) (sr_arpcache_handle_arpreq sr heap now fuel req)
      (fun _ s => WellFormed s ∧ s.cost ≤ n) (fun _ _ => True) := by
  intro s hs
  rcases hrun : sr_arpcache_handle_arpreq sr heap now fuel req s with ⟨_ | _ | _, s'⟩
  · exact ⟨(handle_arpreq_evolves hs.1 hrun).1,
      Nat.le_trans (handle_cost fuel req s s' hs.1 hrun) hs.2⟩
  · trivial
  · trivial

theorem timeout_cost {fuel : Nat} (hs : WellFormed s)
    (hrun : sr_arpcache_timeout sr heap now fuel s = (.returned (), s')) : s'.cost ≤ s.cost := by
  have hexpire : (s.setEntries (sr_arpcache_expire s.cache.entries now)).cost = s.cost :=
    cost_of_same rfl rfl
  have hsweep : Triple (fun t => WellFormed t ∧ t.cost ≤ s.cost)
      (sr_arpcache_sweepreqs sr heap now fuel) (fun _ t => WellFormed t ∧ t.cost ≤ s.cost)
      (fun _ _ => True) :=
    triple_sweep (fun fuel req => triple_handle_cost fuel req s.cost) (fun _ _ => trivial)
      fun _ _ => trivial
  exact (hsweep.returned ⟨hs.setEntries _, Nat.le_of_eq hexpire⟩ hrun).2

/-! ### The packet thread -/

variable {packet : RawFrame} {interface : IfName} {fuel : Nat} {phase phase' : Phase}

theorem todo_reply_request {buf : Nat} {frame : RawFrame} {iface : IfName}
    (h : sr_handlepacket_todo sr heap buf packet interface = .reply frame iface) :
    asks_for_frame packet := by
  obtain ⟨htype, -⟩ := todo_reply h
  have hlen : SrEthernetHdr.size ≤ packet.length := by
    by_contra hshort
    rw [sr_handlepacket_todo, if_pos (Nat.not_le.mp hshort)] at h
    cases h
  have harp : has_ether_type packet ethertype_arp := by
    simp [has_ether_type, hlen, htype]
  rw [handlepacket_todo_arp harp] at h
  have hop : (arp_hdr packet).ar_op = htons arp_op_request := by
    unfold sr_arp_todo at h
    rw [arp_hdr]
    grind
  simp [asks_for_frame, harp, hop]

/-- A packet is worth the frame that is made of it. -/
theorem receive_cost (hrun : receive sr heap packet interface s = (.returned phase', s')) :
    s'.cost + phase'.cost ≤ s.cost + (ThreadLabel.receive packet interface).credit := by
  rw [receive_eq] at hrun
  have hnoted : (if has_ether_type packet ethertype_ip then
      s.alloc.emit (.took (sr_ip_branch sr packet)) else s.alloc).cost = s.cost := by
    have halloc : s.alloc.cost = s.cost := cost_of_same rfl rfl
    split
    · rw [cost_emit, halloc]
      rfl
    · exact halloc
  generalize (if has_ether_type packet ethertype_ip then _ else _ : RouterState) = s₁
    at hrun hnoted
  have hpaid : asks_for_frame packet → (ThreadLabel.receive packet interface).credit = 1 :=
    fun h => if_pos h
  cases htodo : sr_handlepacket_todo sr heap s.brk packet interface with
  | nothing =>
    rw [htodo] at hrun
    obtain ⟨rfl, rfl⟩ := returned_inj hrun
    simp only [Phase.cost]
    omega
  | crash f =>
    rw [htodo] at hrun
    cases congrArg Prod.fst hrun
  | reply frame iface =>
    rw [htodo] at hrun
    obtain ⟨rfl, rfl⟩ := returned_inj hrun
    have hone := hpaid (todo_reply_request htodo)
    rw [cost_emit]
    simp only [Phase.cost, Event.cost]
    omega
  | resolve msg ip frame iface =>
    rw [htodo] at hrun
    obtain ⟨hip, -⟩ := todo_resolve htodo
    obtain ⟨rfl, rfl⟩ := returned_inj hrun
    have hone := hpaid (by simp [asks_for_frame, hip])
    simp only [Phase.cost]
    omega
  | learn mac ip =>
    rw [htodo] at hrun
    obtain ⟨rfl, rfl⟩ := returned_inj hrun
    simp only [Phase.cost]
    omega

/-- A frame that is looked up is sent, or goes on to be stored. -/
theorem looking_cost {msg : Message} {ip : uint32_t} {frame : RawFrame} {iface : IfName}
    (hrun : next_section sr heap now fuel (.looking msg ip frame iface) s =
      (.returned phase', s')) : s'.cost + phase'.cost ≤ s.cost + 1 := by
  rw [next_section, read_bind] at hrun
  cases hlookup : sr_arpcache_lookup s.cache ip with
  | some entry =>
    rw [hlookup] at hrun
    obtain ⟨rfl, rfl⟩ := returned_inj hrun
    rw [cost_emit]
    exact Nat.add_le_add_left (Event.cost_le_one _) s.cost
  | none =>
    rw [hlookup] at hrun
    obtain ⟨rfl, rfl⟩ := returned_inj hrun
    exact Nat.le_refl _

/-- A frame that is stored waits. -/
theorem missed_cost (hs : WellFormed s) {msg : Message} {ip : uint32_t} {frame : RawFrame}
    {iface : IfName} (hlen : frame.length ≠ 0)
    (hrun : next_section sr heap now fuel (.missed msg ip frame iface) s =
      (.returned phase', s')) : s'.cost + phase'.cost ≤ s.cost + 1 := by
  rw [next_section, bind_of_returned (sr_arpcache_queuereq_eq hlen s)] at hrun
  obtain ⟨rfl, rfl⟩ := returned_inj hrun
  rw [cost_queuePacket hs]
  exact Nat.le_refl _

theorem holding_cost (hs : WellFormed s) {arpreq : Nat}
    (hrun : next_section sr heap now fuel (.holding arpreq) s = (.returned phase', s')) :
    s'.cost + phase'.cost ≤ s.cost := by
  obtain ⟨⟨⟩, t, hhandle, hpure⟩ := bind_eq_returned.mp hrun
  obtain ⟨rfl, rfl⟩ := returned_inj hpure
  exact handle_cost fuel arpreq s t hs hhandle

/-- What waited for the mapping is in hand then. -/
theorem learning_cost {mac : EtherAddr} {ip : uint32_t}
    (hrun : next_section sr heap now fuel (.learning mac ip) s = (.returned phase', s')) :
    s'.cost + phase'.cost ≤ s.cost := by
  have hlog : (s.learnFor mac ip now).log = s.log := learnFor_log ..
  have hreqs : (s.learnFor mac ip now).reqs = s.reqs.eraseP fun r => r.ip = ip := learnFor_reqs ..
  rw [next_section, bind_of_returned (sr_arpcache_insert_eq mac ip s)] at hrun
  cases hreq : s.reqFor ip with
  | none =>
    rw [hreq] at hrun
    obtain ⟨rfl, rfl⟩ := returned_inj hrun
    have hsame : s.reqs.eraseP (fun r => r.ip = ip) = s.reqs :=
      List.eraseP_of_forall_not fun r hr => by simpa using List.find?_eq_none.mp hreq r hr
    exact Nat.le_of_eq (cost_of_same (hreqs.trans hsame) hlog)
  | some arpreq =>
    rw [hreq] at hrun
    obtain ⟨rfl, rfl⟩ := returned_inj hrun
    have htaken : frames_waiting (s.learnFor mac ip now) + arpreq.packets.length =
        frames_waiting s := by
      unfold frames_waiting
      rw [hreqs]
      exact sum_eraseP (fun r : SrArpreq => r.packets.length) hreq
    simp only [Phase.cost]
    unfold RouterState.cost
    rw [hlog]
    omega

/-- What was in hand is sent. -/
theorem releasing_cost {mac : EtherAddr} {arpreq : SrArpreq}
    (hrun : next_section sr heap now fuel (.releasing mac arpreq) s = (.returned phase', s')) :
    s'.cost + phase'.cost ≤ s.cost + arpreq.packets.length := by
  rw [next_section, bind_of_returned (release_loop mac arpreq s)] at hrun
  obtain ⟨rfl, rfl⟩ := returned_inj hrun
  show frames_sent (s.log ++ release_events sr mac arpreq) + frames_waiting s + 0 ≤
    s.cost + arpreq.packets.length
  rw [frames_sent_append, frames_sent_release, RouterState.cost]
  omega

/-- A section passes on what the thread has in hand, or uses it up. -/
theorem resume_cost (hs : WellFormed s) (hc : Carried sr heap (fun _ => True) s phase)
    (hrun : next_section sr heap now fuel phase s = (.returned phase', s')) :
    s'.cost + phase'.cost ≤ s.cost + phase.cost := by
  cases phase with
  | idle =>
    obtain ⟨rfl, rfl⟩ := returned_inj hrun
    exact Nat.le_refl _
  | looking msg ip frame iface => exact looking_cost hrun
  | missed msg ip frame iface =>
    obtain ⟨-, ⟨_, _, _, -, -, hres⟩, -⟩ := hc
    exact missed_cost hs hres.length hrun
  | holding arpreq => exact holding_cost hs hrun
  | learning mac ip => exact learning_cost hrun
  | releasing mac arpreq => exact releasing_cost hrun
  | destroying req =>
    cases (resume_reply rfl hs hc hrun).1 with
    | moved _ hfrom => cases hfrom
    | @freed _ arpreq _ hheld =>
      have hcost : (s.destroyDetached arpreq.addr).cost = s.cost :=
        cost_emit { s with detached := s.detached.eraseP fun r => r.addr = arpreq.addr } _
      exact Nat.le_of_eq (congrArg (· + 0) hcost)

/-- **One section** of either thread. -/
theorem section_cost {l : ThreadLabel} {m : Router Phase} (hs : WellFormed s)
    (hc : Carried sr heap (fun _ => True) s phase)
    (hm : thread_section sr heap fuel l phase = some m) (hrun : m s = (.returned phase', s')) :
    s'.cost + phase'.cost ≤ s.cost + phase.cost + l.credit := by
  cases l with
  | receive packet interface =>
    cases phase <;> simp only [thread_section, Option.some.injEq, reduceCtorEq] at hm
    subst hm
    exact receive_cost hrun
  | resume now =>
    obtain rfl : next_section sr heap now fuel phase = m := by
      cases phase <;> simp_all [thread_section]
    exact resume_cost hs hc hrun
  | timeout now =>
    obtain rfl := Option.some.inj hm
    obtain ⟨⟨⟩, t, hpass, hpure⟩ := bind_eq_returned.mp hrun
    obtain ⟨rfl, rfl⟩ := returned_inj hpure
    exact Nat.add_le_add_right (timeout_cost hs hpass) _

/-! ### Runs -/

/-- The IP packets and ARP requests that came in. -/
def frames_received (τ : List (System.Taken Threads ThreadLabel)) : Nat :=
  (τ.map fun x => x.label.credit).sum

/-- **No more is sent than was received**, in every interleaving of the steps of `threads` and
    however often frames are given up: those that were sent, apart from broadcasts, together with those
    that wait or are in hand, are at most as many as the IP packets and ARP requests that came
    in. -/
theorem sends_no_more_than_received {τ : List (System.Taken Threads ThreadLabel)} {st : Threads}
    (hrun : (threads sr heap).Run System.always (RouterState.empty, .idle) τ st) :
    frames_sent st.1.log + frames_waiting st.1 + st.2.cost ≤ frames_received τ := by
  have hinit : (threads sr heap).Reachable System.always (RouterState.empty, .idle) := .init rfl
  have hstep : ∀ st l st', (threads sr heap).Reachable System.always st → System.always st l →
      (threads sr heap).step st l st' →
      st'.1.cost + st'.2.cost ≤ st.1.cost + st.2.cost + ThreadLabel.credit l := by
    rintro ⟨s, phase⟩ l ⟨s', phase'⟩ hreach _ ⟨fuel, m, hm, hsection⟩
    obtain ⟨hcustody, hcarried⟩ := (custody_sections sr heap).always .empty hreach
    exact section_cost hcustody.ledger.wellFormed hcarried hm hsection
  have hbudget := System.Run.budget (fun st : Threads => st.1.cost + st.2.cost) hstep hinit hrun
  have hempty : RouterState.empty.cost + Phase.idle.cost = 0 := rfl
  simp only [hempty, Nat.zero_add] at hbudget
  exact hbudget

namespace Sample

/-- A packet waits until the reply comes, which pays for nothing, and all that it paid for is
    sent. -/
theorem one_paid_one_sent : ∃ τ st,
    (threads net mem).Run System.always (RouterState.empty, .idle) τ st ∧
      frames_sent st.1.log = 1 ∧ frames_received τ = 1 ∧
      frames_sent st.1.log + frames_waiting st.1 + st.2.cost ≤ frames_received τ := by
  let reply := arp_reply (inet_addr 192 168 2 7) ⟨eth 2, mac 2, inet_addr 172 64 3 1⟩
  let labels := store 10 ++ [.resume 10, .receive reply (eth 2), .resume 11, .timeout 12,
    .resume 13, .resume 13]
  obtain ⟨st, hst, hone⟩ := (Option.any_eq_true
    (fun st : Threads => decide (frames_sent st.1.log = 1)) _).mp
    (show (interleave 10 labels (RouterState.empty, .idle)).any _ = true by decide +kernel)
  obtain ⟨τ, hlabels, hrun⟩ := interleave_run hst
  have hreceived : frames_received τ = 1 := by
    have hcredit : frames_received τ = (labels.map ThreadLabel.credit).sum := by
      rw [← hlabels, List.map_map]
      rfl
    rw [hcredit]
    decide +kernel
  exact ⟨τ, st, hrun, of_decide_eq_true hone, hreceived, sends_no_more_than_received hrun⟩

end Sample

end SimpleRouter
