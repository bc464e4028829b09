import Mathlib.Data.List.Forall2
import SimpleRouter.Queue.Termination

/-! # The answers to the senders of discarded frames

    An expired request is destroyed after the senders of its frames were told.
    What they were told is in the log: `answers_for req` picks out the answers
    that were made for the frames of `req`, in whichever way they left.

    * `handle_answers`: one answer for each frame from a routed source.
    * `host_unreachable_iff`: it is the right one if the frame has the bytes
      that it quotes.
-/

namespace SimpleRouter

open Framework Framework.Bytes RouterState

variable {sr : SrInstance} {heap : Heap} {now : time_t} {s t : RouterState}

/-! ### What the answers should be -/

/-- The event is an answer to a frame of request `req`. -/
def answers_for (req : Nat) : Event → Bool
  | .sent (.host_unreachable req' _) _ _ _ => req' = req
  | .queued (.host_unreachable req' _) _ _ => req' = req
  | _ => false

/-- All bytes of a host-unreachable message but the Ethernet destination, which is
    filled in when it is known. -/
def unreachable_bytes (ifc : SrIf) (i_hdr0 : SrIpHdr) (data : Vector uint8_t ICMP_DATA_SIZE) :
    List uint8_t :=
  ifc.addr.toList ++ le16 (htons ethertype_ip) ++
    (icmp_error_ip ifc i_hdr0 SrIcmpT3Hdr.size).toBytes ++ (icmp_t3 1 data).toBytes

/-- The first 28 bytes of the IP packet in a frame. -/
def quoted (frame : RawFrame) : List uint8_t := (frame.drop SrEthernetHdr.size).take ICMP_DATA_SIZE

/-- The right answer to the sender of `p`: an ICMP message of type 3 and code 1, on the
    route to its source and from the address of that interface, whose bytes are
    determined by `p` and the interface. -/
structure HostUnreachable (sr : SrInstance) (p : SrPacket) (buf : RawFrame) (iface : IfName) :
    Prop where
  route : ∃ rtentry ifc, sr_findLPMentry sr.routing_table (source p) = some rtentry ∧
    sr_get_interface sr rtentry.interface = some ifc ∧ iface = rtentry.interface ∧
    (SrEthernetHdr.ofBytes buf).ether_shost = ifc.addr ∧ (ip_hdr buf).ip_src = ifc.ip ∧
    ∃ data, data.toList = quoted p.buf ∧
      buf.drop ETHER_ADDR_LEN = unreachable_bytes ifc (ip_hdr p.buf) data
  ether_type : (SrEthernetHdr.ofBytes buf).ether_type = htons ethertype_ip
  ip_p : (ip_hdr buf).ip_p = ip_protocol_icmp
  ip_dst : (ip_hdr buf).ip_dst = source p
  icmp_type : (icmp_hdr buf).icmp_type = 3
  icmp_code : (icmp_hdr buf).icmp_code = 1
  /-- The message quotes the packet behind its 8-byte ICMP header. -/
  quote : (buf.drop (SrEthernetHdr.size + SrIpHdr.size + 8)).take ICMP_DATA_SIZE = quoted p.buf

/-- Frame `p` of request `req` got the right answer. -/
def AnsweredBy (sr : SrInstance) (req : Nat) (p : SrPacket) (e : Event) : Prop :=
  ∃ buf iface, produced e = some (.host_unreachable req p.addr, buf, iface) ∧
    HostUnreachable sr p buf iface

/-- There is a route to the source of the frame. -/
def source_routed (sr : SrInstance) (p : SrPacket) : Bool :=
  (sr_findLPMentry sr.routing_table (source p)).isSome

/-- Between `s` and `s'`, each frame of `r` from a routed source got the right answer,
    once, and the others none. -/
def SendersAnswered (sr : SrInstance) (s : RouterState) (r : SrArpreq) (s' : RouterState) : Prop :=
  ∃ L, s'.log = s.log ++ L ∧ List.Forall₂ (AnsweredBy sr r.addr)
    (r.packets.filter (source_routed sr)) (L.filter (answers_for r.addr))

/-! ### What the answers are -/

/-- The answer as the code makes it. -/
def AnswerMade (sr : SrInstance) (heap : Heap) (req : Nat) (p : SrPacket) (e : Event) : Prop :=
  ∃ rtentry ifc buf, sr_findLPMentry sr.routing_table (source p) = some rtentry ∧
    sr_get_interface sr rtentry.interface = some ifc ∧
    ((∃ mac, e = .sent (.host_unreachable req p.addr)
        (set_ether_dhost (icmp_t3_frame heap buf ifc 1 p.buf) mac) rtentry.interface true) ∨
      ∃ target addr, e = .queued (.host_unreachable req p.addr) target
        ⟨addr, icmp_t3_frame heap buf ifc 1 p.buf, rtentry.interface⟩)

theorem icmp_t3_frame_drop (heap : Heap) (buf : Nat) (ifc : SrIf) (frame : RawFrame) :
    (icmp_t3_frame heap buf ifc 1 frame).drop ETHER_ADDR_LEN =
      unreachable_bytes ifc (ip_hdr frame) (icmp_data heap buf frame) := by
  simp [icmp_t3_frame, unreachable_bytes, SrEthernetHdr.toBytes, icmp_error_ethernet]

/-- The fields of a frame with these bytes. -/
theorem unreachable_fields {buf : RawFrame} {ifc : SrIf} {i_hdr0 : SrIpHdr}
    {data : Vector uint8_t ICMP_DATA_SIZE}
    (h : buf.drop ETHER_ADDR_LEN = unreachable_bytes ifc i_hdr0 data) :
    (SrEthernetHdr.ofBytes buf).ether_shost = ifc.addr ∧
      (SrEthernetHdr.ofBytes buf).ether_type = htons ethertype_ip ∧
      ip_hdr buf = icmp_error_ip ifc i_hdr0 SrIcmpT3Hdr.size ∧
      (icmp_hdr buf).icmp_type = 3 ∧ (icmp_hdr buf).icmp_code = 1 ∧
      (buf.drop (SrEthernetHdr.size + SrIpHdr.size + 8)).take ICMP_DATA_SIZE = data.toList := by
  have hrest : ∀ n, buf.drop (6 + n) = (unreachable_bytes ifc i_hdr0 data).drop n := by
    intro n
    rw [← h, List.drop_drop]
  -- the IP header begins at index 14, the ICMP message at index 34
  have h14 : buf.drop 14 = (icmp_error_ip ifc i_hdr0 SrIcmpT3Hdr.size).toBytes ++
      (icmp_t3 1 data).toBytes := by
    rw [hrest 8, unreachable_bytes, List.append_assoc]
    exact List.drop_left' (by simp [ETHER_ADDR_LEN])
  have h34 : buf.drop 34 = (icmp_t3 1 data).toBytes := by
    rw [show (34 : Nat) = 14 + 20 from rfl, ← List.drop_drop, h14]
    exact List.drop_left' (by simp [SrIpHdr.size])
  have hdata : (icmp_t3 1 data).toBytes.drop 8 = data.toList := rfl
  refine ⟨?_, ?_, ?_, ?_, ?_, ?_⟩
  · show array 6 buf (6 + 0) = _
    rw [← array_drop, hrest 0, List.drop_zero, unreachable_bytes, List.append_assoc,
      List.append_assoc]
    exact array_append_left _ _
  · have h12 : buf.drop 12 = le16 (htons ethertype_ip) ++
        ((icmp_error_ip ifc i_hdr0 SrIcmpT3Hdr.size).toBytes ++ (icmp_t3 1 data).toBytes) := by
      rw [hrest 6, unreachable_bytes, List.append_assoc, List.append_assoc]
      exact List.drop_left' (by simp [ETHER_ADDR_LEN])
    show u16 buf (12 + 0) = _
    rw [← u16_drop, h12, u16_le16]
  · show SrIpHdr.ofBytes (buf.drop 14) = _
    rw [h14, SrIpHdr.ofBytes_toBytes]
  · show u8 (buf.drop 34) 0 = 3
    rw [h34]
    rfl
  · show u8 (buf.drop 34) 1 = 1
    rw [h34]
    rfl
  · show (buf.drop (34 + 8)).take ICMP_DATA_SIZE = _
    rw [← List.drop_drop, h34, hdata]
    exact List.take_of_length_le (by simp)

variable (heap) in
/-- The code quotes what follows the frame, unless the frame is long enough. -/
theorem icmp_data_toList_iff (buf : Nat) {frame : RawFrame} :
    (icmp_data heap buf frame).toList = quoted frame ↔
      SrEthernetHdr.size + ICMP_DATA_SIZE ≤ frame.length := by
  constructor
  · intro h
    have hlen : ICMP_DATA_SIZE = min ICMP_DATA_SIZE (frame.length - SrEthernetHdr.size) := by
      simpa [quoted] using congrArg List.length h
    have hsize : SrEthernetHdr.size = 14 := rfl
    have hdata : ICMP_DATA_SIZE = 28 := rfl
    omega
  · intro h
    apply List.ext_getElem (by simp [quoted]; omega)
    intro i hi hi'
    have hi28 : i < ICMP_DATA_SIZE := by simpa using hi
    have hget : SrEthernetHdr.size + i < frame.length := by omega
    simp [icmp_data, quoted, List.getD_eq_getElem?_getD, hget]

/-- The answer that the code makes is the right one exactly for frames that have the
    bytes it quotes. -/
theorem AnswerMade.answeredBy_iff {req : Nat} {p : SrPacket} {e : Event}
    (h : AnswerMade sr heap req p e) :
    AnsweredBy sr req p e ↔ SrEthernetHdr.size + ICMP_DATA_SIZE ≤ p.buf.length := by
  obtain ⟨rtentry, ifc, b, hrt, hifc, hevent⟩ := h
  -- sent at once or stored, the bytes behind the destination are the same
  obtain ⟨buf, hproduced, hdrop⟩ : ∃ buf,
      produced e = some (.host_unreachable req p.addr, buf, rtentry.interface) ∧
        buf.drop ETHER_ADDR_LEN = unreachable_bytes ifc (ip_hdr p.buf) (icmp_data heap b p.buf) := by
    rcases hevent with ⟨mac, rfl⟩ | ⟨target, addr, rfl⟩
    · exact ⟨_, rfl, by rw [set_ether_dhost_drop, icmp_t3_frame_drop]⟩
    · exact ⟨_, rfl, icmp_t3_frame_drop _ _ _ _⟩
  obtain ⟨hshost, htype, hip, hicmp_type, hicmp_code, hquote⟩ := unreachable_fields hdrop
  rw [← icmp_data_toList_iff heap b]
  constructor
  · intro hanswered
    obtain ⟨buf', iface', hproduced', hright⟩ := hanswered
    obtain ⟨rfl, -⟩ : buf = buf' ∧ rtentry.interface = iface' := by
      simpa [hproduced] using hproduced'
    rw [← hquote, hright.quote]
  · intro hdata
    refine ⟨buf, rtentry.interface, hproduced, ?_⟩
    exact
      { route := ⟨rtentry, ifc, hrt, hifc, rfl, hshost, by rw [hip]; rfl, _, hdata, hdrop⟩
        ether_type := htype
        ip_p := by rw [hip]; rfl
        ip_dst := by rw [hip]; rfl
        icmp_type := hicmp_type
        icmp_code := hicmp_code
        quote := hquote.trans hdata }

/-! ### One answer for each frame -/

/-- The sender accepts the answers: they carry the address of their interface. -/
theorem answer_accepted {b : Nat} {ifc : SrIf} {iface : IfName} {frame : RawFrame}
    (mac : EtherAddr) (hifc : sr_get_interface sr iface = some ifc) :
    (decide (SrEthernetHdr.size ≤ (set_ether_dhost (icmp_t3_frame heap b ifc 1 frame) mac).length) &&
      sr_ether_addrs_match_interface sr
        (set_ether_dhost (icmp_t3_frame heap b ifc 1 frame) mac) iface) = true := by
  have hlen : SrEthernetHdr.size ≤ (icmp_t3_frame heap b ifc 1 frame).length := by
    rw [icmp_t3_frame_length]
    decide
  apply send_accepted hifc
  · rwa [set_ether_dhost_length hlen]
  · rw [ether_shost_set_ether_dhost]
    exact (unreachable_fields (icmp_t3_frame_drop heap b ifc frame)).1

/-- What was logged by a call that returned: answers to frames of requests that are
    gone, and if the request had expired, one answer for each of its frames from a
    routed source. -/
structure LogOf (sr : SrInstance) (heap : Heap) (now : time_t) (s : RouterState) (r : SrArpreq)
    (s' : RouterState) (L : List Event) : Prop where
  log : s'.log = s.log ++ L
  dead : ∀ e ∈ L, ∀ a, answers_for a e → a < s'.brk ∧ ¬ (s'.reqAt a).isSome
  answers : Expired now r → List.Forall₂ (AnswerMade sr heap r.addr)
    (r.packets.filter (source_routed sr)) (L.filter (answers_for r.addr))

/-- What was logged while the frames `d` of request `req` were discarded: answers to
    these, and to frames of requests that are gone. -/
structure LogOfFrames (sr : SrInstance) (heap : Heap) (req : Nat) (s : RouterState)
    (d : List SrPacket) (v : RouterState) (L : List Event) : Prop where
  log : v.log = s.log ++ L
  dead : ∀ e ∈ L, ∀ a, answers_for a e → a = req ∨ a < v.brk ∧ ¬ (v.reqAt a).isSome
  answers : List.Forall₂ (AnswerMade sr heap req) (d.filter (source_routed sr))
    (L.filter (answers_for req))

theorem LogOfFrames.start (req : Nat) (s : RouterState) : LogOfFrames sr heap req s [] s [] :=
  ⟨by simp, by simp, by simp⟩

/-- The frames `d'` after the frames `d`. -/
theorem LogOfFrames.append {req : Nat} {d d' : List SrPacket} {v w : RouterState}
    {L M : List Event} (h : LogOfFrames sr heap req s d v L)
    (h' : LogOfFrames sr heap req v d' w M) (hvw : Evolves sr now v w) :
    LogOfFrames sr heap req s (d ++ d') w (L ++ M) where
  log := by rw [h'.log, h.log, List.append_assoc]
  dead := by
    intro e he a ha
    rcases List.mem_append.mp he with he | he
    · rcases h.dead e he a ha with hreq | ⟨hlt, hdead⟩
      · exact .inl hreq
      · exact .inr ⟨Nat.lt_of_lt_of_le hlt hvw.brk_le, hvw.dead hlt hdead⟩
    · exact h'.dead e he a ha
  answers := by
    rw [List.filter_append, List.filter_append]
    exact List.rel_append h.answers h'.answers

/-- The answer to one frame, when nested calls log what they should. -/
theorem answer_sender_answers {fuel req : Nat} {p : SrPacket} {v v' : RouterState}
    (ih : ∀ {s s' : RouterState} {r : SrArpreq}, WellFormed s → r ∈ s.reqs →
      sr_arpcache_handle_arpreq sr heap now fuel r.addr s = (.returned (), s') →
      ∃ L, LogOf sr heap now s r s' L)
    (hv : WellFormed v) (hlive : (v'.reqAt req).isSome)
    (hrun : answer_sender sr heap (sr_arpcache_handle_arpreq sr heap now fuel) req p v =
      (.returned (), v')) :
    ∃ M, LogOfFrames sr heap req v [p] v' M := by
  cases answer_sender_returned hrun with
  | unrouted hrt hs' =>
    refine ⟨[], by simp [hs'], by simp, ?_⟩
    simp [source_routed, hrt]
  | @sent rtentry ifc entry hrt hifc hentry hs' =>
    -- the address of the source is known: the answer goes out now
    rw [sr_send_packet_apply, answer_accepted entry.mac hifc] at hs'
    let sent : Event := .sent (.host_unreachable req p.addr)
      (set_ether_dhost (icmp_t3_frame heap v.brk ifc 1 p.buf) entry.mac) rtentry.interface true
    have hmade : AnswerMade sr heap req p sent :=
      ⟨rtentry, ifc, v.brk, hrt, hifc, .inl ⟨entry.mac, rfl⟩⟩
    refine ⟨[sent], ?_, ?_, ?_⟩
    · rw [← (Prod.mk.inj hs').2]
      rfl
    · intro e he a ha
      obtain rfl := List.mem_singleton.mp he
      exact .inl (of_decide_eq_true ha).symm
    · rw [List.filter_cons_of_pos (by simp [source_routed, hrt]),
        List.filter_cons_of_pos (by simp [sent, answers_for])]
      exact .cons hmade .nil
  | @stored rtentry ifc r hrt hifc hmiss hr hip hans hcall =>
    -- it is not: the answer waits, and the nested call logs `L`
    obtain ⟨L, hL⟩ := ih (queueAnswer_handles heap now req hrt hifc hv).1 hr hcall
    let queued : Event := .queued (.host_unreachable req p.addr) (v.alloc.queueTarget (source p))
      ⟨(v.alloc.queueReady (source p)).brk, icmp_t3_frame heap v.brk ifc 1 p.buf,
        rtentry.interface⟩
    have hmade : AnswerMade sr heap req p queued :=
      ⟨rtentry, ifc, v.brk, hrt, hifc, .inr ⟨_, _, rfl⟩⟩
    -- the request is still there, so nothing in `L` is for its frames
    have hother : L.filter (answers_for req) = [] :=
      List.filter_eq_nil_iff.mpr fun e he ha => (hL.dead e he _ ha).2 hlive
    refine ⟨queued :: L, ?_, ?_, ?_⟩
    · rw [hL.log, queueAnswer, queuePacket_log, List.append_assoc]
      rfl
    · intro e he a ha
      rcases List.mem_cons.mp he with rfl | he
      · exact .inl (of_decide_eq_true ha).symm
      · exact .inr (hL.dead e he a ha)
    · rw [List.filter_cons_of_pos (by simp [source_routed, hrt]),
        List.filter_cons_of_pos (by simp [queued, answers_for]), hother]
      exact .cons hmade .nil

/-- In the end the request is destroyed, and what was logged is for dead requests only. -/
theorem LogOfFrames.destroy {r : SrArpreq} {L : List Event}
    (h : LogOfFrames sr heap r.addr s r.packets t L) (ht : WellFormed t)
    (hlive : (t.reqAt r.addr).isSome) :
    LogOf sr heap now s r (t.destroyReq r.addr) (L ++ [.destroyed r.addr]) where
  log := by
    show t.log ++ [.destroyed r.addr] = _
    rw [h.log, List.append_assoc]
  dead := by
    have hgone : ∀ a, ¬ ((t.destroyReq r.addr).reqAt a).isSome ↔ (t.reqAt a).isSome → a = r.addr := by
      intro a
      simp only [reqAt_isSome, mem_destroyReq ht]
      grind
    intro e he a ha
    rcases List.mem_append.mp he with he | he
    · obtain ⟨r', hr', haddr⟩ := reqAt_isSome.mp hlive
      rcases h.dead e he a ha with rfl | ⟨hlt, hdead⟩
      · exact ⟨haddr ▸ ht.lt_brk hr', (hgone _).mpr fun _ => rfl⟩
      · exact ⟨hlt, (hgone a).mpr fun hlive => absurd hlive hdead⟩
    · obtain rfl := List.mem_singleton.mp he
      simp [answers_for] at ha
  answers := by
    intro _
    rw [List.filter_append, List.filter_cons_of_neg (by simp [answers_for]), List.filter_nil,
      List.append_nil]
    exact h.answers

theorem handle_answers {fuel : Nat} {s' : RouterState} {r : SrArpreq} (hs : WellFormed s)
    (hr : r ∈ s.reqs)
    (hrun : sr_arpcache_handle_arpreq sr heap now fuel r.addr s = (.returned (), s')) :
    ∃ L, LogOf sr heap now s r s' L := by
  -- on the fuel, for the calls that answering a sender makes
  induction fuel generalizing s s' r with
  | zero => simp [sr_arpcache_handle_arpreq] at hrun
  | succ fuel ih =>
    obtain ⟨n, ⟨⟩, hdone⟩ := handle_arpreq_returned hs hr hrun
    cases hdone with
    | idle hdue hs' => exact ⟨[], by simp [hs'], by simp, fun hexp => absurd hexp.1 hdue⟩
    | asked _ hne hask =>
      obtain ⟨_, ifc, accepted, -, -, rfl⟩ := send_arp_request_returned hask
      exact ⟨[_], rfl, by simp [answers_for], fun hexp => absurd hexp hne⟩
    | @discarded t hexp hloop hlive hs' =>
      -- each frame adds its own answer, and what the nested call logged for others
      have hI : InLoop sr now s r t ∧ ∃ L, LogOfFrames sr heap r.addr s r.packets t L := by
        refine Prog.forEach_returned
          (I := fun d v => InLoop sr now s r v ∧ ∃ L, LogOfFrames sr heap r.addr s d v L)
          ⟨InLoop.start hs hr, [], .start r.addr s⟩ ?_ hloop
        intro d p d' v v' _ h hbody
        obtain ⟨hv, L, hL⟩ := h
        have hv' := hv.next hs hbody
        have hans := (discard_packet_returned hbody).1
        obtain ⟨M, hM⟩ := answer_sender_answers ih hv.wellFormed hv'.live hans
        exact ⟨hv', L ++ M, hL.append hM (answer_sender_evolves hv.wellFormed hans).2⟩
      obtain ⟨ht, L, hL⟩ := hI
      exact ⟨_, hs' ▸ hL.destroy ht.wellFormed hlive⟩

theorem answered_forall₂_iff {req : Nat} {pcks : List SrPacket} {events : List Event}
    (h : List.Forall₂ (AnswerMade sr heap req) pcks events) :
    List.Forall₂ (AnsweredBy sr req) pcks events ↔
      ∀ p ∈ pcks, SrEthernetHdr.size + ICMP_DATA_SIZE ≤ p.buf.length := by
  induction h with
  | nil => simp
  | cons hmade _ ih => rw [List.forall₂_cons, hmade.answeredBy_iff, ih, List.forall_mem_cons]

theorem sendersAnswered_iff {fuel : Nat} {s' : RouterState} {r : SrArpreq} (hs : WellFormed s)
    (hr : r ∈ s.reqs) (hexp : Expired now r)
    (hrun : sr_arpcache_handle_arpreq sr heap now fuel r.addr s = (.returned (), s')) :
    SendersAnswered sr s r s' ↔
      ∀ p ∈ r.packets, source_routed sr p → SrEthernetHdr.size + ICMP_DATA_SIZE ≤ p.buf.length := by
  obtain ⟨L, hL⟩ := handle_answers hs hr hrun
  have hiff := answered_forall₂_iff (hL.answers hexp)
  rw [SendersAnswered, exists_new_events_iff hL.log, hiff]
  simp only [List.mem_filter, and_imp]

/-- **The senders of discarded frames are answered exactly when the frames have the
    28 bytes to quote**, in every reachable state and whatever is in memory. -/
theorem host_unreachable_iff (hs : Reachable sr heap System.always s) {fuel : Nat}
    {s' : RouterState} {r : SrArpreq} (hr : r ∈ s.reqs) (hexp : Expired now r)
    (hrun : sr_arpcache_handle_arpreq sr heap now fuel r.addr s = (.returned (), s')) :
    SendersAnswered sr s r s' ↔
      ∀ p ∈ r.packets, source_routed sr p → SrEthernetHdr.size + ICMP_DATA_SIZE ≤ p.buf.length :=
  sendersAnswered_iff (Reachable.wellFormed hs) hr hexp hrun

namespace Sample

/-- A packet from 172.64.3.9 to 192.168.2.7 with this payload, and four sweeps. -/
def unanswered (payload : List uint8_t) : List Label :=
  [.packet 10 (ip_frame (inet_addr 172 64 3 9) (inet_addr 192 168 2 7) 64 17 payload) (eth 2),
    .sweep 12, .sweep 14, .sweep 16, .sweep 18]

/-- A packet without payload is answered with eight bytes that are not its own. -/
theorem no_payload_misquoted : ∃ r s',
    Reachable net mem System.always (run 20 (unanswered [])).2 ∧
      r ∈ (run 20 (unanswered [])).2.reqs ∧ Expired 20 r ∧
      sr_arpcache_handle_arpreq net mem 20 20 r.addr (run 20 (unanswered [])).2 =
        (.returned (), s') ∧
      ¬ SendersAnswered net (run 20 (unanswered [])).2 r s' := by
  have hreach : Reachable net mem System.always (run 20 (unanswered [])).2 :=
    run_reachable (by decide +kernel)
  have hpending : ∃ r ∈ (run 20 (unanswered [])).2.reqs, Expired 20 r ∧
      (sr_arpcache_handle_arpreq net mem 20 20 r.addr (run 20 (unanswered [])).2).1 = .returned () ∧
      ∃ p ∈ r.packets, source_routed net p ∧ p.buf.length = 34 := by decide +kernel
  obtain ⟨r, hr, hexp, hret, p, hp, hrouted, hlen⟩ := hpending
  refine ⟨r, _, hreach, hr, hexp, Prod.ext hret rfl, fun hanswered => ?_⟩
  have hquoted := (sendersAnswered_iff (Reachable.wellFormed hreach) hr hexp
    (Prod.ext hret rfl)).mp hanswered p hp hrouted
  rw [hlen] at hquoted
  exact absurd hquoted (by decide)

/-- With a payload of eight bytes it is answered as it should be. -/
theorem payload_quoted : ∃ r s',
    Reachable net mem System.always (run 20 (unanswered (List.replicate 8 7))).2 ∧
      SendersAnswered net (run 20 (unanswered (List.replicate 8 7))).2 r s' := by
  have hreach : Reachable net mem System.always (run 20 (unanswered (List.replicate 8 7))).2 :=
    run_reachable (by decide +kernel)
  have hpending : ∃ r ∈ (run 20 (unanswered (List.replicate 8 7))).2.reqs, Expired 20 r ∧
      (sr_arpcache_handle_arpreq net mem 20 20 r.addr
        (run 20 (unanswered (List.replicate 8 7))).2).1 = .returned () ∧
      ∀ p ∈ r.packets, source_routed net p → SrEthernetHdr.size + ICMP_DATA_SIZE ≤ p.buf.length := by
    decide +kernel
  obtain ⟨r, hr, hexp, hret, hlen⟩ := hpending
  exact ⟨r, _, hreach, (host_unreachable_iff hreach hr hexp (Prod.ext hret rfl)).mpr hlen⟩

end Sample

end SimpleRouter
