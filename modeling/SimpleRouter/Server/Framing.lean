import Mathlib.Data.List.Induction
import SimpleRouter.Server.Reading
import SimpleRouter.Server.Session

/-! # Frames there and back

    What `sr_send_packet` writes is what `sr_read_from_server` reads: the
    length in front covers header and frame, the frame's length is worked out
    from it again by way of another header, and the name is padded by zeros, at
    the first of which a comparison ends.

    * `OutFrame.whole`, `OutFrame.packet`, `OutFrame.interface`: one message.
    * `read_frame`: one call.
    * `framing_round_trip`: any number of calls, however the bytes come.
-/

namespace SimpleRouter

open Framework Framework.Bytes Framework.Source

/-! ### Messages -/

/-- A frame that can be sent in one message, and a name that fits in it. -/
structure OutFrame where
  buf : RawFrame
  iface : IfName
  long : SrEthernetHdr.size ≤ buf.length
  short : buf.length ≤ 9976
  name : iface.chars.length < mInterfaceName_size

namespace OutFrame

variable (m : OutFrame)

/-- What is written to the socket. -/
def bytes : List uint8_t := sr_pkt m.buf m.iface

/-- The two words in front. -/
def base : List uint8_t :=
  le32 (ntohl (BitVec.ofNat 32 m.buf.length + BitVec.ofNat 32 c_packet_header_size)) ++
    le32 (ntohl VNSPACKET)

/-- What comes before the frame. -/
def header : List uint8_t := m.base ++ strncpy mInterfaceName_size m.iface.chars

theorem base_length : m.base.length = c_base_size := rfl

theorem bytes_eq : m.bytes = m.header ++ m.buf := rfl

/-- The name is followed by a zero. -/
theorem name_terminated : ∃ zeros, strncpy mInterfaceName_size m.iface.chars =
    m.iface.chars ++ 0 :: zeros ∧
      zeros.length = mInterfaceName_size - m.iface.chars.length - 1 := by
  have hname := m.name
  refine ⟨List.replicate (mInterfaceName_size - m.iface.chars.length - 1) 0, ?_,
    List.length_replicate⟩
  have hpad : mInterfaceName_size - m.iface.chars.length =
      mInterfaceName_size - m.iface.chars.length - 1 + 1 := by omega
  rw [strncpy, List.take_of_length_le (Nat.le_of_lt hname), hpad, List.replicate_succ]
  rfl

theorem header_length : m.header.length = c_packet_header_size := by
  obtain ⟨zeros, hname, hzeros⟩ := m.name_terminated
  have hlt := m.name
  rw [header, hname]
  simp only [List.length_append, List.length_cons, base_length, hzeros, mInterfaceName_size,
    c_base_size, c_packet_header_size] at hlt ⊢
  omega

theorem bytes_length : m.bytes.length = c_packet_header_size + m.buf.length := by
  rw [bytes_eq, List.length_append, header_length]

/-- The length word counts the header and the frame. -/
theorem length_toNat : (message_length m.bytes).toNat = m.bytes.length := by
  have hshort := m.short
  have hword : message_length m.bytes =
      BitVec.ofNat 32 m.buf.length + BitVec.ofNat 32 c_packet_header_size := by
    rw [message_length, bytes, sr_pkt, List.append_assoc, List.append_assoc, u32_le32]
    exact swap32_swap32 _
  rw [hword, bytes_length, BitVec.toNat_add, BitVec.toNat_ofNat, BitVec.toNat_ofNat,
    c_packet_header_size]
  omega

/-- **The reader** gets all of it, and no more. -/
theorem whole : WholeMessage m.bytes := by
  have hlong := m.long
  have hshort := m.short
  have hlen := m.length_toNat
  have hbytes := m.bytes_length
  simp only [SrEthernetHdr.size, c_packet_header_size] at hlong hbytes
  have hint : (message_length m.bytes).toInt = (message_length m.bytes).toNat :=
    BitVec.toInt_eq_toNat_of_lt (by omega)
  constructor
  · rw [LengthAdmitted, hint]
    omega
  · omega

/-! ### What is in them -/

variable (env : Surroundings)

theorem command : message_command env m.bytes = VNSPACKET := by
  have hbase : c_base_size ≤ m.bytes.length := by
    rw [bytes_length, c_base_size, c_packet_header_size]
    omega
  have htake : m.bytes.take c_base_size = m.base := by
    rw [bytes_eq, header, List.append_assoc, List.take_left' m.base_length]
  have hword : u32 m.base 4 = ntohl VNSPACKET := by
    have hdrop : m.base.drop 4 = le32 (ntohl VNSPACKET) ++ [] := by
      rw [base, List.drop_left' (le32_length _), List.append_nil]
    have hread := u32_drop m.base 4 0
    rw [hdrop, u32_le32] at hread
    exact hread.symm
  rw [message_command, bytes_at_eq hbase, htake, hword]
  exact swap32_swap32 _

/-- **The frame** comes out as it was, in its length. -/
theorem packet : message_packet env m.bytes = m.buf := by
  have hshort := m.short
  have hlen := m.length_toNat
  have hbytes := m.bytes_length
  simp only [c_packet_header_size] at hbytes
  have hpacket : (packet_len (message_length m.bytes)).toNat = m.buf.length := by
    rw [packet_len_toNat (by omega)]
    simp only [c_packet_header_size]
    omega
  rw [message_packet, hpacket, bytes_at_eq (Nat.le_of_eq m.bytes_length.symm), ← m.bytes_length,
    List.take_length, bytes_eq, List.drop_left' m.header_length]

/-- A name ends at its terminator. -/
theorem ofChars_terminated (name : IfName) (h : name.chars.length < sr_IFACE_NAMELEN)
    (rest : List uint8_t) : IfName.ofChars (name.chars ++ 0 :: rest) = name := by
  have hkeep : ∀ c ∈ name.chars, decide (c ≠ 0) = true := by
    intro c hc
    exact decide_eq_true fun hzero => name.unterminated (hzero ▸ hc)
  have hchars : (IfName.ofChars (name.chars ++ 0 :: rest)).chars = name.chars := by
    obtain ⟨k, hk⟩ : ∃ k, sr_IFACE_NAMELEN - name.chars.length = k + 1 :=
      ⟨_, (Nat.sub_add_cancel (Nat.sub_pos_of_lt h)).symm⟩
    show (List.takeWhile _ (List.take _ _)) = _
    rw [List.take_append, List.take_of_length_le (Nat.le_of_lt h), hk, List.take_succ_cons,
      List.takeWhile_append_of_pos hkeep, List.takeWhile_cons_of_neg (by simp), List.append_nil]
  cases hof : IfName.ofChars (name.chars ++ 0 :: rest)
  cases name
  rw [hof] at hchars
  simp only at hchars
  subst hchars
  rfl

/-- **The name** comes out as it was. -/
theorem interface : message_interface env m.bytes = m.iface := by
  let b := bytes_at env.behind m.bytes (c_base_size + sr_IFACE_NAMELEN)
  have hheader : b.take c_packet_header_size = m.header := by
    have htake : b.take c_packet_header_size = m.bytes.take c_packet_header_size :=
      bytes_at_take (by decide) (m.bytes_length ▸ Nat.le_add_right _ _)
    rw [htake, bytes_eq, List.take_left' m.header_length]
  obtain ⟨zeros, hname, -⟩ := m.name_terminated
  have hdrop : b.drop c_base_size =
      m.iface.chars ++ 0 :: (zeros ++ b.drop c_packet_header_size) := by
    calc b.drop c_base_size
        = (m.header ++ b.drop c_packet_header_size).drop c_base_size := by
          rw [← hheader, List.take_append_drop]
      _ = m.iface.chars ++ 0 :: (zeros ++ b.drop c_packet_header_size) := by
          rw [header, List.append_assoc, List.drop_left' m.base_length, hname, List.append_assoc,
            List.cons_append]
  have hfits : m.iface.chars.length < sr_IFACE_NAMELEN := Nat.lt_trans m.name (by decide)
  rw [message_interface, hdrop, ofChars_terminated m.iface hfits]

end OutFrame

/-! ### One call -/

section Calls

variable {heap : Heap} {env : Surroundings} {reads : Nat} {rs : List (Recv uint8_t)}
  {s s' : Session} {src src' : Socket}

/-- Where a frame is handed: to the filter and, unless that drops it, to the router. -/
def dispatched (sr : SrInstance) (m : OutFrame) : List Call :=
  .sr_arp_req_not_for_us m.buf m.iface ::
    if sr_arp_req_not_for_us sr m.buf m.iface = some true then []
    else [.sr_handlepacket sr m.buf m.iface]

/-- A call reads the message of a frame up to what is `left`, and hands on the frame. It returns
    1 unless the router does not return. -/
structure FrameRead (heap : Heap) (env : Surroundings) (s : Session) (m : OutFrame)
    (left : Socket) (result : Outcome SessionFault Int × Session × Socket) : Prop where
  tables : result.2.1.sr = s.sr
  calls : result.2.1.calls = s.calls ++ dispatched s.sr m
  left : result.2.2 = left
  returned : result.1 = .returned 1 ∨
    (sr_handlepacket s.sr heap env.now env.fuel m.buf m.iface s.router).1 ≠ .returned ()

variable (heap env) in
/-- **One call** for the message in front. -/
theorem read_frame (src : Socket) {m : OutFrame} {rest : List uint8_t}
    (hfound : (sr_get_interface s.sr m.iface).isSome) (hrs : Steady rs)
    (hcontents : contents rs = m.bytes ++ rest) (hreads : rs.length < reads) :
    ∃ rs', Steady rs' ∧ rs'.length ≤ rs.length ∧ contents rs' = rest ∧
      FrameRead heap env s m (rs' ++ₛ src)
        (sr_read_from_server heap env reads (s, rs ++ₛ src)) := by
  obtain ⟨rs', hrs', hle, hrest, hread⟩ := read_command_message src hrs m.whole hcontents hreads
  refine ⟨rs', hrs', hle, hrest, ?_⟩
  have hcall : sr_read_from_server heap env reads (s, rs ++ₛ src) =
      ((run_packet heap env m.buf m.iface s).1,
        (run_packet heap env m.buf m.iface s).2, rs' ++ₛ src) := by
    rw [sr_read_from_server, hread]
    simp only [run_command_packet heap env (m.command env), m.packet env, m.interface env]
  rw [hcall]
  obtain ⟨drop, hfilter⟩ := filter_found m.buf hfound
  cases drop with
  | true =>
    rw [run_packet_dropped heap env hfilter]
    constructor
    · rfl
    · rw [dispatched, if_pos hfilter]
      rfl
    · rfl
    · exact .inl rfl
  | false =>
    obtain ⟨⟨router, hstate⟩, -, hreturned⟩ := run_packet_passed heap env hfilter
    rw [hstate]
    constructor
    · rfl
    · rw [dispatched, if_neg (by rw [hfilter]; simp)]
      rfl
    · rfl
    · exact (Classical.em _).imp_left hreturned

/-! ### Call after call -/

/-- Some calls that return 1, one after the other. The other thread may have run in between. -/
inductive CallsReturned (heap : Heap) (reads : Nat) (st : Session × Socket) :
    Nat → Session × Socket → Prop where
  | zero : CallsReturned heap reads st 0 st
  | next {n : Nat} {s : Session} {src : Socket} {env : Surroundings} {router : RouterState}
      {st' : Session × Socket} : CallsReturned heap reads st n (s, src) →
      sr_read_from_server heap env reads (s.setRouter router, src) = (.returned 1, st') →
      CallsReturned heap reads st (n + 1) st'

theorem CallsReturned.one (h : (sr_read_from_server heap env reads (s, src)).1 = .returned 1) :
    CallsReturned heap reads (s, src) 1 (sr_read_from_server heap env reads (s, src)).2 := by
  have hcall : sr_read_from_server heap env reads (s.setRouter s.router, src) =
      (.returned 1, (sr_read_from_server heap env reads (s, src)).2) := Prod.ext h rfl
  exact .next .zero hcall

/-- What is written for some frames. -/
def written (frames : List OutFrame) : List uint8_t := frames.flatMap OutFrame.bytes

/-- The calls so far have read the messages of the frames so far. -/
theorem calls_read {frames done todo : List OutFrame}
    (hfound : ∀ m ∈ frames, (sr_get_interface s.sr m.iface).isSome) (hrs : Steady rs)
    (hcontents : contents rs = written frames) (hreads : rs.length < reads)
    (hframes : frames = done ++ todo)
    (hcalls : CallsReturned heap reads (s, rs ++ₛ src) done.length (s', src')) :
    s'.sr = s.sr ∧ s'.calls = s.calls ++ done.flatMap (dispatched s.sr) ∧
      ∃ rs', src' = rs' ++ₛ src ∧ Steady rs' ∧ rs'.length < reads ∧
        contents rs' = written todo := by
  induction done using List.reverseRecOn generalizing todo s' src' with
  | nil =>
    cases hcalls
    rw [List.nil_append] at hframes
    exact ⟨rfl, (List.append_nil _).symm, rs, rfl, hrs, hreads, hframes ▸ hcontents⟩
  | append_singleton done m ih =>
    rw [List.length_append] at hcalls
    cases hcalls with
    | @next _ s₁ src₁ env router _ hbefore hcall =>
      rw [List.append_assoc] at hframes
      obtain ⟨hsr, hlog, rs₁, rfl, hrs₁, hlt, hcontents₁⟩ := ih hframes hbefore
      have hm : m ∈ frames := by
        rw [hframes]
        simp
      have hfound₁ : (sr_get_interface (s₁.setRouter router).sr m.iface).isSome :=
        hsr.symm ▸ hfound m hm
      obtain ⟨rs₂, hrs₂, hle, hcontents₂, hread⟩ :=
        read_frame heap env src hfound₁ hrs₁ hcontents₁ hlt
      rw [hcall] at hread
      refine ⟨hread.tables.trans hsr, ?_, rs₂, hread.left, hrs₂, Nat.lt_of_le_of_lt hle hlt,
        hcontents₂⟩
      have hcalls : s'.calls = s₁.calls ++ dispatched s₁.sr m := hread.calls
      rw [hcalls, hlog, hsr, List.flatMap_append, List.append_assoc]
      simp

/-- **Framing round trip**: however the written bytes come, the calls read the frames that were
    sent, in their order. With the calls for some frames behind it, the next call hands on the
    next frame, and leaves the bytes of the frames after that. -/
theorem framing_round_trip {frames : List OutFrame}
    (hfound : ∀ m ∈ frames, (sr_get_interface s.sr m.iface).isSome) (hrs : Steady rs)
    (hcontents : contents rs = written frames) (hreads : rs.length < reads)
    {done todo : List OutFrame} {m : OutFrame} (hframes : frames = done ++ m :: todo)
    (hcalls : CallsReturned heap reads (s, rs ++ₛ src) done.length (s', src'))
    (env : Surroundings) (router : RouterState) :
    s'.sr = s.sr ∧ s'.calls = s.calls ++ done.flatMap (dispatched s.sr) ∧
      ∃ rs', Steady rs' ∧ contents rs' = written todo ∧
        FrameRead heap env (s'.setRouter router) m (rs' ++ₛ src)
          (sr_read_from_server heap env reads (s'.setRouter router, src')) := by
  obtain ⟨hsr, hlog, rs₁, rfl, hrs₁, hlt, hcontents₁⟩ :=
    calls_read hfound hrs hcontents hreads hframes hcalls
  have hm : m ∈ frames := by
    rw [hframes]
    simp
  have hfound₁ : (sr_get_interface (s'.setRouter router).sr m.iface).isSome :=
    hsr.symm ▸ hfound m hm
  obtain ⟨rs₂, hrs₂, -, hcontents₂, hread⟩ :=
    read_frame heap env src hfound₁ hrs₁ hcontents₁ hlt
  exact ⟨hsr, hlog, rs₂, hrs₂, hcontents₂, hread⟩

end Calls

namespace Sample

/-- A frame of `n` zeros for `e1`. -/
def zeros (n : Nat) (long : SrEthernetHdr.size ≤ n) (short : n ≤ 9976) : OutFrame where
  buf := List.replicate n 0
  iface := IfName.ofChars [101, 49]
  long := by rwa [List.length_replicate]
  short := by rwa [List.length_replicate]
  name := by decide

def shortest : OutFrame := zeros 14 (by decide) (by omega)

def longer : OutFrame := zeros 60 (by decide) (by omega)

/-- Their bytes in two pieces that are cut in the first length word, with an interruption. -/
def in_pieces : List (Recv uint8_t) :=
  [.data ((written [shortest, longer]).take 3), .interrupted,
    .data ((written [shortest, longer]).drop 3)]

/-- The second of two frames, after a call for the first. -/
theorem second_frame_read :
    let st := sr_read_from_server mem still 4 (configured, in_pieces ++ₛ closed)
    CallsReturned mem 4 (configured, in_pieces ++ₛ closed) 1 st.2 ∧
      ∃ rs', Steady rs' ∧ contents rs' = [] ∧
        FrameRead mem still (st.2.1.setRouter RouterState.empty) longer (rs' ++ₛ closed)
          (sr_read_from_server mem still 4 (st.2.1.setRouter RouterState.empty, st.2.2)) := by
  intro st
  have hfirst : st.1 = .returned 1 := by decide +kernel
  have hcalls : CallsReturned mem 4 (configured, in_pieces ++ₛ closed) 1 st.2 := .one hfirst
  refine ⟨hcalls, ?_⟩
  -- from here on, it does not matter what the first call came to
  clear_value st
  obtain ⟨_, s, src⟩ := st
  have hfound : ∀ m ∈ [shortest, longer], (sr_get_interface configured.sr m.iface).isSome := by
    decide +kernel
  have hframes : [shortest, longer] = [shortest] ++ longer :: [] := rfl
  exact (framing_round_trip hfound (by decide +kernel) (by decide +kernel) (by decide) hframes
    hcalls still RouterState.empty).2.2

end Sample

end SimpleRouter
