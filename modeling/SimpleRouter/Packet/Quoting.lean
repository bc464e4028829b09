import SimpleRouter.Packet.Checksums
import SimpleRouter.Queue.HostUnreachable

/-! # What ICMP errors quote

    Every ICMP error quotes 28 bytes of the frame that it is about, from its IP
    header on. Four places copy them, and only one of them looks at the length
    of the frame first. The others copy what lies behind a short frame.

    * `ErrorMade`: how an error came about.
    * `step_quotes`: every error of a step did.
    * `errors_quote_iff`: when what an error quotes is in the frame.
-/

namespace SimpleRouter

open Framework Framework.Prog Framework.Bytes RouterState

variable {sr : SrInstance} {heap : Heap} {now : time_t} {s t u : RouterState} {l : Label}
  {packet frame : RawFrame} {interface iface : IfName} {msg : Message} {buf : RawFrame}

/-! ### The quote -/

/-- What an ICMP error quotes, behind its headers. -/
def quote (buf : RawFrame) : List uint8_t :=
  (buf.drop (SrEthernetHdr.size + SrIpHdr.size + 8)).take ICMP_DATA_SIZE

/-- The bytes that the error `buf` quotes are the frame's own, all 28. -/
structure QuotesWithin (frame buf : RawFrame) : Prop where
  own : quote buf = quoted frame
  all : (quoted frame).length = ICMP_DATA_SIZE

/-- A frame this long has the bytes that are quoted. -/
abbrev quote_end : Nat := SrEthernetHdr.size + ICMP_DATA_SIZE

/-- The quote ends the message that the error carries. -/
theorem quote_of_message {message : List uint8_t} {data : Vector uint8_t ICMP_DATA_SIZE}
    (hmessage : buf.drop (SrEthernetHdr.size + SrIpHdr.size) = message)
    (hdata : message.drop 8 = data.toList) : quote buf = data.toList := by
  rw [quote, ← List.drop_drop, hmessage, hdata]
  exact List.take_of_length_le (by simp)

theorem icmp_t3_frame_quote (heap : Heap) (b : Nat) (ifc : SrIf) (code : uint8_t)
    (frame : RawFrame) :
    quote (icmp_t3_frame heap b ifc code frame) = (icmp_data heap b frame).toList := by
  have hmessage : (icmp_t3_frame heap b ifc code frame).drop (SrEthernetHdr.size + SrIpHdr.size) =
      (icmp_t3 code (icmp_data heap b frame)).toBytes := List.drop_left' (by simp)
  exact quote_of_message hmessage rfl

theorem icmp_t11_frame_quote (heap : Heap) (b : Nat) (ifc : SrIf) (frame : RawFrame) :
    quote (icmp_t11_frame heap b ifc frame) = (icmp_data heap b frame).toList := by
  have hmessage : (icmp_t11_frame heap b ifc frame).drop (SrEthernetHdr.size + SrIpHdr.size) =
      (icmp_t11 (icmp_data heap b frame)).toBytes := List.drop_left' (by simp)
  exact quote_of_message hmessage rfl

/-- Filling in the destination address leaves the quote as it is. -/
@[simp] theorem quote_set_ether_dhost (buf : RawFrame) (mac : EtherAddr) :
    quote (set_ether_dhost buf mac) = quote buf :=
  congrArg (List.take ICMP_DATA_SIZE) (set_ether_dhost_sum mac 36)

theorem ErrorReply.quote {b : Nat} {ifc : SrIf} {branch : IpBranch}
    (h : ErrorReply heap b packet ifc branch msg frame) :
    quote frame = (icmp_data heap b packet).toList := by
  cases h with
  | port_unreachable => exact icmp_t3_frame_quote ..
  | time_exceeded => exact icmp_t11_frame_quote ..
  | net_unreachable => exact icmp_t3_frame_quote ..

/-- A port is only said to be unreachable in answer to a packet that is long enough. -/
theorem port_unreachable_long (h : sr_ip_branch sr packet = .port_unreachable) :
    quote_end ≤ packet.length := by
  obtain ⟨hvalid, -⟩ := accepted_of_branch (h ▸ by simp : sr_ip_branch sr packet ≠ .drop)
  have hheader : SrIpHdr.size ≤ packet.length - SrEthernetHdr.size := by
    simp only [ip_valid, decide_eq_true_eq] at hvalid
    exact hvalid.1
  have hguard : ¬ packet.length - SrEthernetHdr.size - SrIpHdr.size + SrIpHdr.size <
      ICMP_DATA_SIZE := by
    intro hshort
    simp only [sr_ip_branch, hshort, if_true] at h
    grind
  simp only [quote_end, SrEthernetHdr.size, SrIpHdr.size, ICMP_DATA_SIZE] at hheader hguard ⊢
  omega

/-- A frame that is made for a packet has room for a quote if the packet has. -/
theorem Resolves.quote_end_le {b : Nat} {ip : uint32_t}
    (h : Resolves sr heap b packet interface msg ip frame iface)
    (hlong : quote_end ≤ packet.length) : quote_end ≤ frame.length := by
  simp only [quote_end, SrEthernetHdr.size, ICMP_DATA_SIZE] at hlong ⊢
  cases h with
  | echo_reply =>
    simp only [echo_reply_frame, icmp_rest, SrIcmpHdr.toBytes, List.length_append,
      SrEthernetHdr.toBytes_length, SrIpHdr.toBytes_length, List.length_drop, SrEthernetHdr.size,
      SrIpHdr.size, SrIcmpHdr.size, List.length_cons, List.length_nil, le16_length]
    omega
  | forward =>
    simp only [transit_frame, List.length_append, SrEthernetHdr.toBytes_length,
      SrIpHdr.toBytes_length, List.length_drop, SrEthernetHdr.size, SrIpHdr.size]
    omega
  | error herror =>
    rw [herror.length]
    decide

/-! ### What an error is about -/

/-- What an event sends or stores. -/
def Event.carries : Event → Option (Message × RawFrame)
  | .sent msg buf _ _ => some (msg, buf)
  | .queued msg _ pck => some (msg, pck.buf)
  | _ => none

/-- The frame that an error is about: the one that was received, or one that was stored. -/
inductive About (l : Label) (log : List Event) : Message → RawFrame → Prop where
  | received {now : time_t} {packet : RawFrame} {interface : IfName} {msg : Message}
      (hl : l = .packet now packet interface) (hmsg : msg.forPacket) : About l log msg packet
  | stored {req : Nat} {pck : SrPacket} (hqueued : (req, pck) ∈ queuedFrames log) :
      About l log (.host_unreachable req pck.addr) pck.buf

theorem About.mono {log log' : List Event} (h : About l log msg frame) (hlog : log ⊆ log') :
    About l log' msg frame := by
  cases h with
  | received hl hmsg => exact .received hl hmsg
  | stored hqueued =>
    obtain ⟨msg, he⟩ := mem_queuedFrames.mp hqueued
    exact .stored (mem_queuedFrames.mpr ⟨msg, hlog he⟩)

/-- There is only one such frame. -/
theorem About.unique (ht : Ledger t) {frame' : RawFrame} (h : About l t.log msg frame)
    (h' : About l t.log msg frame') : frame = frame' := by
  cases h with
  | received hl hmsg =>
    cases h' with
    | received hl' => exact (Label.packet.inj (hl.symm.trans hl')).2.1
    | stored => cases hmsg
  | @stored req pck hqueued =>
    generalize hm : Message.host_unreachable req pck.addr = msg' at h'
    cases h' with
    | received _ hmsg =>
      rw [← hm] at hmsg
      cases hmsg
    | stored hqueued' =>
      obtain ⟨rfl, haddr⟩ := Message.host_unreachable.inj hm
      exact congrArg (·.2.buf) (ht.frame_eq hqueued hqueued' haddr)

/-! ### Frames that are long enough -/

/-- No frame is too short for what a step may quote of it. -/
structure LongEnough (sr : SrInstance) (s : RouterState) (l : Label) : Prop where
  /-- It is answered with an error. -/
  answered : ∀ now packet interface, l = .packet now packet interface →
    sr_ip_branch sr packet = .time_exceeded ∨ sr_ip_branch sr packet = .net_unreachable →
    quote_end ≤ packet.length
  /-- It waits on a request that is given up. -/
  waiting : ∀ r ∈ s.reqs, Expired l.now r → ∀ pck ∈ r.packets, quote_end ≤ pck.buf.length
  /-- It comes in, to be stored on one. -/
  joining : ∀ now packet interface, l = .packet now packet interface →
    sr_ip_branch sr packet ≠ .drop →
    (∃ r ∈ s.reqs, Expired l.now r ∧
      (r.ip = (ip_hdr packet).ip_src ∨ r.ip = (ip_hdr packet).ip_dst)) →
    quote_end ≤ packet.length

/-- How an error came about, in a step from `s`: what it quotes lay where the frame lies, and
    behind it. -/
structure ErrorMade (sr : SrInstance) (heap : Heap) (l : Label) (s : RouterState)
    (log : List Event) (msg : Message) (buf frame : RawFrame) : Prop where
  about : About l log msg frame
  quote : ∃ b, quote buf = (icmp_data heap b frame).toList
  long : LongEnough sr s l → quote_end ≤ frame.length

/-- An error quotes nothing but the frame exactly if the frame is long enough. -/
theorem ErrorMade.within_iff {log : List Event} (h : ErrorMade sr heap l s log msg buf frame) :
    QuotesWithin frame buf ↔ quote_end ≤ frame.length := by
  obtain ⟨b, hquote⟩ := h.quote
  rw [← icmp_data_toList_iff heap b, ← hquote]
  constructor
  · exact fun hwithin => hwithin.own
  · intro hown
    refine ⟨hown, ?_⟩
    rw [← hown, hquote, Vector.length_toList]

/-! ### The errors of a step -/

/-- Every error in the events `L` came about in that way. -/
def ErrorsMade (sr : SrInstance) (heap : Heap) (l : Label) (s : RouterState) (log L : List Event) :
    Prop :=
  ∀ e ∈ L, ∀ msg buf, e.carries = some (msg, buf) → msg.icmp_error →
    ∃ frame, ErrorMade sr heap l s log msg buf frame

/-- What was done so far in a step from `s`. -/
structure StepQuotes (sr : SrInstance) (heap : Heap) (l : Label) (s t : RouterState) : Prop where
  ledger : Ledger t
  follows : Follows l.now s t
  waiting : LongEnough sr s l →
    ∀ r ∈ t.reqs, Expired l.now r → ∀ pck ∈ r.packets, quote_end ≤ pck.buf.length
  errors : ∃ L, t.log = s.log ++ L ∧ ErrorsMade sr heap l s t.log L

namespace StepQuotes

theorem start (hs : Ledger s) : StepQuotes sr heap l s s where
  ledger := hs
  follows := .refl s
  waiting hlong := hlong.waiting
  errors := ⟨[], (List.append_nil _).symm, fun e he => by cases he⟩

/-- The next change logs `L`. -/
theorem next (h : StepQuotes sr heap l s t) (hmove : Move sr heap l t u) {L : List Event}
    (hlog : u.log = t.log ++ L) (hL : ErrorsMade sr heap l s u.log L)
    (hwaiting : LongEnough sr s l →
      ∀ r ∈ u.reqs, Expired l.now r → ∀ pck ∈ r.packets, quote_end ≤ pck.buf.length) :
    StepQuotes sr heap l s u where
  ledger := (ledger_moves sr heap).move l t u trivial h.ledger hmove
  follows := h.follows.trans (hmove.follows h.ledger.wellFormed)
  waiting := hwaiting
  errors := by
    obtain ⟨L₀, hlog₀, hL₀⟩ := h.errors
    refine ⟨L₀ ++ L, by rw [hlog, hlog₀, List.append_assoc], fun e he msg buf hcarries hmsg => ?_⟩
    rcases List.mem_append.mp he with he | he
    · obtain ⟨frame, hmade⟩ := hL₀ e he msg buf hcarries hmsg
      have hmono : t.log ⊆ u.log := by
        rw [hlog]
        exact List.subset_append_left _ _
      exact ⟨frame, hmade.about.mono hmono, hmade.quote, hmade.long⟩
    · exact hL e he msg buf hcarries hmsg

/-- The next change logs one event, for a frame that was made. -/
theorem next_frame (h : StepQuotes sr heap l s t) (hmove : Move sr heap l t u) {e : Event}
    (hlog : u.log = t.log ++ [e]) (hcarries : e.carries = some (msg, buf))
    (hmade : msg.icmp_error → ∃ frame, ErrorMade sr heap l s u.log msg buf frame)
    (hwaiting : LongEnough sr s l →
      ∀ r ∈ u.reqs, Expired l.now r → ∀ pck ∈ r.packets, quote_end ≤ pck.buf.length) :
    StepQuotes sr heap l s u := by
  refine h.next hmove hlog (fun e' he' msg' buf' hcarries' hmsg' => ?_) hwaiting
  rw [List.mem_singleton.mp he', hcarries] at hcarries'
  obtain ⟨rfl, rfl⟩ := Prod.mk.inj (Option.some.inj hcarries')
  exact hmade hmsg'

/-- A change that makes no error, and stores nothing. -/
theorem other (h : StepQuotes sr heap l s t) (hmove : Move sr heap l t u) {L : List Event}
    (hlog : u.log = t.log ++ L)
    (hL : ∀ e ∈ L, ∀ msg buf, e.carries = some (msg, buf) → msg.icmp_error = false)
    (hreqs : ∀ r' ∈ u.reqs, Expired l.now r' → ∃ r ∈ t.reqs, Expired l.now r ∧
      r'.packets = r.packets) : StepQuotes sr heap l s u := by
  refine h.next hmove hlog (fun e he msg buf hcarries hmsg => ?_) fun hlong r' hr' hexp => ?_
  · rw [hL e he msg buf hcarries] at hmsg
    cases hmsg
  · obtain ⟨r, hr, hexp', hpackets⟩ := hreqs r' hr' hexp
    rw [hpackets]
    exact h.waiting hlong r hr hexp'

/-- A frame is stored for `ip`. -/
theorem queued (h : StepQuotes sr heap l s t) {ip : uint32_t}
    (hframe : LongEnough sr s l → ∀ r ∈ t.reqs, Expired l.now r → r.ip = ip →
      quote_end ≤ frame.length) (hlong : LongEnough sr s l) :
    ∀ r' ∈ (t.queuePacket msg ip frame iface).reqs, Expired l.now r' →
      ∀ pck ∈ r'.packets, quote_end ≤ pck.buf.length := by
  intro r' hr' hexp
  rcases mem_queuePacket h.ledger.wellFormed hr' with hr' | ⟨r, addr, hr, hip, rfl⟩
  · exact h.waiting hlong r' hr' hexp
  · rcases hr with hr | rfl
    · refine List.forall_mem_cons.mpr ⟨hframe hlong r hr hexp hip, ?_⟩
      exact h.waiting hlong r hr hexp
    · -- a new request has not expired
      exact absurd hexp.2 (by simp)

/-- A request that a frame could join has been there since the step began. -/
theorem old_request (h : StepQuotes sr heap l s t) {r : SrArpreq} (hr : r ∈ t.reqs)
    (hexp : Expired l.now r) : ∃ r₀ ∈ s.reqs, Expired l.now r₀ ∧ r₀.ip = r.ip := by
  obtain ⟨r₀, hr₀, hcont⟩ := h.follows.expired_old hr hexp
  exact ⟨r₀, hr₀, hcont.expired.mp hexp, hcont.ip.symm⟩

end StepQuotes

/-- The error that is made for a packet. -/
theorem Resolves.errorMade {b : Nat} {ip : uint32_t} {log : List Event}
    (h : Resolves sr heap b packet interface msg ip frame iface)
    (hl : l = .packet now packet interface) (hmsg : msg.icmp_error)
    (hquote : quote buf = quote frame) :
    ErrorMade sr heap l s log msg buf packet where
  about := .received hl h.forPacket
  quote := by
    cases h with
    | echo_reply => cases hmsg
    | forward => cases hmsg
    | error herror => exact ⟨b, hquote.trans herror.quote⟩
  long hlong := by
    cases h with
    | echo_reply => cases hmsg
    | forward => cases hmsg
    | error herror =>
      generalize hbranch : sr_ip_branch sr packet = branch at herror
      cases herror with
      | port_unreachable => exact port_unreachable_long hbranch
      | time_exceeded => exact hlong.answered _ _ _ hl (.inl hbranch)
      | net_unreachable => exact hlong.answered _ _ _ hl (.inr hbranch)

/-- The packet that a frame is made for is not dropped, and the frame is for one of its ends. -/
theorem Resolves.ends {b : Nat} {ip : uint32_t}
    (h : Resolves sr heap b packet interface msg ip frame iface) :
    sr_ip_branch sr packet ≠ .drop ∧
      (ip = (ip_hdr packet).ip_src ∨ ip = (ip_hdr packet).ip_dst) := by
  cases h with
  | echo_reply hbranch => exact ⟨by simp [hbranch], .inl rfl⟩
  | forward hbranch => exact ⟨by simp [hbranch], .inr rfl⟩
  | error herror => exact ⟨herror.branch_ne_drop, .inl rfl⟩

/-- The error that is made for a frame waiting on a request that is given up. -/
theorem StepQuotes.answerMade (h : StepQuotes sr heap l s t) {r : SrArpreq} {pck : SrPacket}
    (hr : r ∈ t.reqs) (hexp : Expired l.now r) (hpck : pck ∈ r.packets) {log : List Event}
    (hlog : t.log ⊆ log) {b : Nat} (hquote : quote buf = (icmp_data heap b pck.buf).toList) :
    ErrorMade sr heap l s log (.host_unreachable r.addr pck.addr) buf pck.buf where
  about := (About.stored ((h.ledger.mem_packets hr).mp hpck)).mono hlog
  quote := ⟨b, hquote⟩
  long hlong := h.waiting hlong r hr hexp pck hpck

theorem StepQuotes.move (h : StepQuotes sr heap l s t) (hmove : Move sr heap l t u) :
    StepQuotes sr heap l s u := by
  have hsame : ∀ r ∈ t.reqs, Expired l.now r → ∃ r₀ ∈ t.reqs, Expired l.now r₀ ∧
      r.packets = r₀.packets := fun r hr hexp => ⟨r, hr, hexp, rfl⟩
  have hmove' := hmove
  cases hmove with
  | alloc => exact h.other hmove' (List.append_nil _).symm (by simp) hsame
  | took => exact h.other hmove' rfl (by simp [Event.carries]) hsame
  | replied =>
    exact h.other hmove' rfl (by simp [Event.carries, Message.icmp_error, Message.icmp]) hsame
  | sent hl hip hres =>
    exact h.next_frame hmove' rfl rfl (fun hmsg => ⟨_, hres.errorMade hl hmsg (by simp)⟩) h.waiting
  | stored hl hip hres =>
    refine h.next_frame hmove' (queuePacket_log ..) rfl
      (fun hmsg => ⟨_, hres.errorMade hl hmsg rfl⟩) (h.queued fun hlong r hr hexp hrip => ?_)
    obtain ⟨r₀, hr₀, hexp₀, hip₀⟩ := h.old_request hr hexp
    obtain ⟨hbranch, hends⟩ := hres.ends
    rw [← hrip, ← hip₀] at hends
    exact hres.quote_end_le (hlong.joining _ _ _ hl hbranch ⟨r₀, hr₀, hexp₀, hends⟩)
  | @asked r rtentry ifc hr =>
    refine h.other hmove' rfl (by simp [Event.carries, Message.icmp_error, Message.icmp])
      fun r' hr' hexp => ?_
    obtain ⟨r₀, hr₀, rfl⟩ := mem_updateReq.mp hr'
    by_cases haddr : r₀.addr = r.addr
    · rw [if_pos haddr] at hexp
      exact absurd hexp (not_expired_asked r₀)
    · rw [if_neg haddr] at hexp ⊢
      exact ⟨r₀, hr₀, hexp, rfl⟩
  | @answered r pck rtentry ifc entry hr hexp hpck =>
    refine h.next_frame hmove' rfl rfl (fun hmsg => ⟨pck.buf, ?_⟩) h.waiting
    apply h.answerMade hr hexp hpck (List.subset_append_left _ _) (b := t.brk)
    rw [quote_set_ether_dhost, icmp_t3_frame_quote]
  | @answer_stored r pck rtentry ifc hr hexp hpck =>
    have hlog : (t.queueAnswer heap r.addr pck rtentry ifc).log = t.log ++ _ := queuePacket_log ..
    have halloc : StepQuotes sr heap l s t.alloc :=
      h.other .alloc (List.append_nil _).symm (by simp) hsame
    refine h.next_frame hmove' hlog rfl (fun hmsg => ⟨pck.buf, ?_⟩)
      (halloc.queued fun _ _ _ _ _ => by rw [icmp_t3_frame_length]; decide)
    apply h.answerMade hr hexp hpck ?_ (icmp_t3_frame_quote ..)
    rw [hlog]
    exact List.subset_append_left _ _
  | discarded hr hexp =>
    refine h.other hmove' rfl (by simp [Event.carries]) fun r' hr' hexp' => ?_
    exact ⟨r', ((mem_destroyReq h.ledger.wellFormed).mp hr').1, hexp', rfl⟩

theorem path_quotes (hs : Ledger s) (h : Path sr heap l s t) : StepQuotes sr heap l s t := by
  induction h with
  | refl => exact .start hs
  | tail _ hmove ih => exact ih.move hmove

variable (sr heap l) in
/-- **The errors of a step**, however it ends, came about in that way. -/
theorem step_quotes (hs : Ledger s) (fuel : Nat) :
    ∃ L, (run_label sr heap fuel l s).2.log = s.log ++ L ∧
      ErrorsMade sr heap l s (run_label sr heap fuel l s).2.log L := by
  cases run_label_stepped sr heap fuel l s hs.wellFormed with
  | moved _ _ hpath => exact (path_quotes hs hpath).errors
  | passed _ hpath =>
    obtain ⟨L, hlog, hL⟩ := (path_quotes (hs.setEntries _) hpath).errors
    refine ⟨L, hlog, fun e he msg buf hcarries hmsg => ?_⟩
    obtain ⟨frame, hmade⟩ := hL e he msg buf hcarries hmsg
    -- that old entries go first changes no request
    exact ⟨frame, hmade.about, hmade.quote, fun hlong =>
      hmade.long ⟨hlong.answered, hlong.waiting, hlong.joining⟩⟩
  | @learned mac ip s' _ hs' =>
    -- frames that waited are sent, none of which is an error made now
    obtain ⟨L, hlog, hL⟩ := release_logs sr s.alloc mac ip l.now
    rw [hs']
    refine ⟨L, hlog, fun e he msg buf hcarries hmsg => ?_⟩
    cases hL e he with
    | sent =>
      obtain ⟨rfl, rfl⟩ := Prod.mk.inj (Option.some.inj hcarries)
      cases hmsg
    | destroyed => cases hcarries

/-- **An ICMP error quotes nothing but the frame that it is about exactly if** that frame has
    the 28 bytes, in every step from every reachable state, however the step ends; and no step
    that finds every frame long enough quotes anything else. -/
theorem errors_quote_iff (hs : Reachable sr heap System.always s) (l : Label) (fuel : Nat) :
    ∃ L, (run_label sr heap fuel l s).2.log = s.log ++ L ∧
      ∀ e ∈ L, ∀ msg buf, e.carries = some (msg, buf) → msg.icmp_error →
        (∃ frame, About l (run_label sr heap fuel l s).2.log msg frame) ∧
        ∀ frame, About l (run_label sr heap fuel l s).2.log msg frame →
          (QuotesWithin frame buf ↔ quote_end ≤ frame.length) ∧
          (LongEnough sr s l → QuotesWithin frame buf) := by
  have hledger := Reachable.ledger hs
  obtain ⟨L, hlog, hL⟩ := step_quotes sr heap l hledger fuel
  refine ⟨L, hlog, fun e he msg buf hcarries hmsg => ?_⟩
  obtain ⟨frame, hmade⟩ := hL e he msg buf hcarries hmsg
  refine ⟨⟨frame, hmade.about⟩, fun frame' habout => ?_⟩
  have hafter := (ledger_moves sr heap).run_label (l := l) trivial hledger fuel
  obtain rfl := hmade.about.unique hafter habout
  exact ⟨hmade.within_iff, fun hlong => hmade.within_iff.mpr (hmade.long hlong)⟩

namespace Sample

/-- A packet on its last hop without a payload. The error quotes its 20 bytes, and then 8 bytes
    of the heap. -/
theorem heap_quoted :
    let packet := ip_frame (inet_addr 172 64 3 9) (inet_addr 192 168 2 7) 1 17 []
    Reachable net mem System.always RouterState.empty ∧
      ∃ e ∈ (run_label net mem 20 (.packet 10 packet (eth 2)) RouterState.empty).2.log,
        ∃ buf, e.carries = some (.time_exceeded, buf) ∧ ¬ QuotesWithin packet buf ∧
          quote buf = packet.drop SrEthernetHdr.size ++ List.replicate 8 0xbb := by
  intro packet
  let ifc : SrIf := ⟨eth 2, mac 2, inet_addr 172 64 3 1⟩
  let answer : SrPacket := ⟨3, icmp_t11_frame mem 1 ifc packet, eth 2⟩
  have hqueued : .queued .time_exceeded 2 answer ∈
      (run_label net mem 20 (.packet 10 packet (eth 2)) RouterState.empty).2.log := by
    decide +kernel
  refine ⟨.init rfl, _, hqueued, _, rfl, fun hwithin => ?_, by decide +kernel⟩
  have hall := hwithin.all
  revert hall
  decide +kernel

/-- With 8 bytes of payload it quotes these. -/
theorem payload_quoted_on_last_hop :
    let packet := ip_frame (inet_addr 172 64 3 9) (inet_addr 192 168 2 7) 1 17 (List.replicate 8 0)
    ∃ e ∈ (run_label net mem 20 (.packet 10 packet (eth 2)) RouterState.empty).2.log,
      ∃ buf, e.carries = some (.time_exceeded, buf) ∧ QuotesWithin packet buf := by
  intro packet
  let l : Label := .packet 10 packet (eth 2)
  let ifc : SrIf := ⟨eth 2, mac 2, inet_addr 172 64 3 1⟩
  let answer : SrPacket := ⟨3, icmp_t11_frame mem 1 ifc packet, eth 2⟩
  have hqueued : .queued .time_exceeded 2 answer ∈
      (run_label net mem 20 l RouterState.empty).2.log := by decide +kernel
  obtain ⟨L, hlog, hL⟩ := errors_quote_iff (.init rfl : Reachable net mem System.always _) l 20
  have hnew : .queued .time_exceeded 2 answer ∈ L := by
    have hqueued' := hqueued
    rwa [hlog] at hqueued'
  obtain ⟨-, hall⟩ := hL _ hnew _ _ rfl rfl
  exact ⟨_, hqueued, _, rfl, (hall packet (.received rfl rfl)).1.mpr (by decide +kernel)⟩

end Sample

end SimpleRouter
