import SimpleRouter.Model.Comm
import SimpleRouter.Safety.MessageLengths

/-! # Reading a message

    The loops go on until all bytes are there. Interruptions only repeat the
    call, and an error ends the loop; but a closed connection gives 0 bytes each
    time, which brings the loop no further and does not end it.

    * `read_loop_enough`, `read_loop_short`: what a loop takes of steady results.
    * `read_loop_returned`: where a loop that came back has been.
    * `reader_comes_back_iff`: when the reader comes back.
-/

namespace SimpleRouter

open Framework Framework.Bytes Framework.Source

variable {fuel n : Nat} {buf : List uint8_t} {rs : List (Recv uint8_t)} {src src' s : Socket}

/-! ### One call -/

/-- With enough bytes, the loop is over. -/
theorem read_loop_done (h : n ≤ buf.length) :
    read_loop (fuel + 1) n buf src = some (some buf, src) := by
  rw [read_loop, if_pos h]

theorem read_loop_failed (h : buf.length < n) (hhead : src.head = .failed) :
    read_loop (fuel + 1) n buf src = some (none, src.tail) := by
  rw [read_loop, if_neg (Nat.not_le.mpr h), recv, hhead]

/-- Data is put behind what is there, and an interruption changes nothing. -/
theorem read_loop_next {r : Recv uint8_t} (h : buf.length < n) (hr : r.Flows)
    (hrecv : src.recv (n - buf.length) = (r, src')) :
    read_loop (fuel + 1) n buf src = read_loop fuel n (buf ++ r.contents) src' := by
  rw [read_loop, if_neg (Nat.not_le.mpr h), hrecv]
  cases r with
  | data chunk => rfl
  | interrupted =>
    show read_loop fuel n buf src' = read_loop fuel n (buf ++ []) src'
    rw [List.append_nil]
  | failed => exact absurd hr not_false

/-- The beginning of a piece that is too long, which is all that was missing. -/
theorem read_loop_last {chunk : List uint8_t} (h : buf.length < n)
    (hlen : n - buf.length < chunk.length)
    (hrecv : src.recv (n - buf.length) = (.data (chunk.take (n - buf.length)), src')) :
    read_loop (fuel + 1) n buf src =
      if fuel = 0 then none else some (some (buf ++ chunk.take (n - buf.length)), src') := by
  have htake : (chunk.take (n - buf.length)).length = n - buf.length :=
    List.length_take_of_le (Nat.le_of_lt hlen)
  have hflows : (Recv.data (chunk.take (n - buf.length))).Flows := by
    intro hnil
    rw [hnil, List.length_nil] at htake
    omega
  rw [read_loop_next h hflows hrecv]
  cases fuel with
  | zero => rfl
  | succ fuel =>
    have hfull : n ≤ (buf ++ chunk.take (n - buf.length)).length := by
      rw [List.length_append, htake]
      omega
    exact read_loop_done hfull

/-! ### Steady results -/

/-- **Enough bytes** fill the buffer, and the others stay. -/
theorem read_loop_enough (s : Socket) (hrs : Steady rs) (hbuf : buf.length ≤ n)
    (hn : n ≤ buf.length + (contents rs).length) (hfuel : rs.length < fuel) :
    ∃ rs', Steady rs' ∧ rs'.length ≤ rs.length ∧
      contents rs' = (contents rs).drop (n - buf.length) ∧
      read_loop fuel n buf (rs ++ₛ s) =
        some (some (buf ++ (contents rs).take (n - buf.length)), rs' ++ₛ s) := by
  induction rs generalizing buf fuel with
  | nil =>
    obtain ⟨fuel, rfl⟩ := Nat.exists_eq_add_of_lt hfuel
    rw [contents_nil, List.length_nil] at hn
    refine ⟨[], steady_nil, Nat.le_refl _, List.drop_nil.symm, ?_⟩
    rw [read_loop_done hn, contents_nil, List.take_nil, List.append_nil]
  | cons r rs ih =>
    obtain ⟨fuel, rfl⟩ := Nat.exists_eq_add_of_lt hfuel
    rw [List.length_cons, show rs.length + 1 + fuel + 1 = rs.length + fuel + 1 + 1 by omega]
    by_cases hdone : n ≤ buf.length
    · have hzero : n - buf.length = 0 := by omega
      refine ⟨r :: rs, hrs, Nat.le_refl _, by rw [hzero]; rfl, ?_⟩
      rw [read_loop_done hdone, hzero, List.take_zero, List.append_nil]
    have hlt : buf.length < n := Nat.not_le.mp hdone
    rw [contents_cons] at hn ⊢
    rw [List.length_append] at hn
    rcases recv_steady hrs (n - buf.length) s with ⟨hrecv, hlen⟩ | ⟨chunk, rfl, hlen, hrecv, hrs'⟩
    · -- the whole piece, and the rest by induction
      obtain ⟨hr, hrs⟩ := steady_cons.mp hrs
      rw [read_loop_next hlt hr hrecv]
      have hmore : (buf ++ r.contents).length = buf.length + r.contents.length :=
        List.length_append
      have hbuf' : (buf ++ r.contents).length ≤ n := by omega
      have hn' : n ≤ (buf ++ r.contents).length + (contents rs).length := by omega
      have hfuel' : rs.length < rs.length + fuel + 1 := by omega
      obtain ⟨rs', hsteady, hle, hcontents, hloop⟩ := ih hrs hbuf' hn' hfuel'
      have hsub : n - (buf ++ r.contents).length = n - buf.length - r.contents.length := by omega
      rw [hsub] at hcontents hloop
      refine ⟨rs', hsteady, Nat.le_succ_of_le hle, ?_, ?_⟩
      · rw [hcontents, List.drop_append, List.drop_of_length_le hlen, List.nil_append]
      · rw [hloop, List.take_append, List.take_of_length_le hlen, List.append_assoc]
    · -- a part of it, which is all that was missing
      have hle : n - buf.length ≤ chunk.length := Nat.le_of_lt hlen
      refine ⟨_, hrs', Nat.le_refl _, ?_, ?_⟩
      · rw [contents_cons, Recv.contents, Recv.contents, List.drop_append_of_le_length hle]
      · rw [read_loop_last hlt hlen hrecv, if_neg (by omega), Recv.contents,
          List.take_append_of_le_length hle]

/-- **Too few bytes** are all taken, and the loop goes on behind them. -/
theorem read_loop_short (fuel : Nat) (s : Socket) (hrs : Steady rs)
    (hn : buf.length + (contents rs).length < n) :
    read_loop (fuel + rs.length) n buf (rs ++ₛ s) = read_loop fuel n (buf ++ contents rs) s := by
  induction rs generalizing buf with
  | nil =>
    rw [contents_nil, List.append_nil]
    rfl
  | cons r rs ih =>
    rw [contents_cons, List.length_append] at hn
    have hlt : buf.length < n := by omega
    rcases recv_steady hrs (n - buf.length) s with ⟨hrecv, -⟩ | ⟨chunk, rfl, hlen, -, -⟩
    · obtain ⟨hr, hrs⟩ := steady_cons.mp hrs
      have hmore : (buf ++ r.contents).length + (contents rs).length < n := by
        rw [List.length_append]
        omega
      rw [List.length_cons, ← Nat.add_assoc, read_loop_next hlt hr hrecv, ih hrs hmore,
        contents_cons, List.append_assoc]
    · rw [Recv.contents] at hn
      omega

/-! ### The end of the stream -/

/-- **A closed connection** keeps the loop going. -/
theorem read_loop_closed (h : buf.length < n) (fuel : Nat) :
    read_loop fuel n buf closed = none := by
  induction fuel with
  | zero => rfl
  | succ fuel ih =>
    rw [read_loop, if_neg (Nat.not_le.mpr h), recv_closed]
    show read_loop fuel n (buf ++ []) closed = none
    rw [List.append_nil, ih]

/-- What a loop that came back has gone through. -/
inductive LoopReturned (n : Nat) (buf : List uint8_t) (src : Socket) :
    Option (List uint8_t) → Socket → Prop where
  | filled {rs rs' : List (Recv uint8_t)} {s : Socket} {taken : List uint8_t} :
      src = rs ++ₛ s → Steady rs → Steady rs' → contents rs = taken ++ contents rs' →
      taken.length = n - buf.length → LoopReturned n buf src (some (buf ++ taken)) (rs' ++ₛ s)
  | failed {rs : List (Recv uint8_t)} {s : Socket} : src = rs ++ₛ s → Steady rs →
      buf.length + (contents rs).length < n → s.head = .failed → LoopReturned n buf src none s.tail

namespace LoopReturned

variable {r : Option (List uint8_t)}

theorem done (h : n ≤ buf.length) : LoopReturned n buf src (some buf) src := by
  have hfull : LoopReturned n buf src (some (buf ++ [])) ([] ++ₛ src) :=
    .filled (Stream'.nil_append_stream src).symm steady_nil steady_nil rfl
      (by rw [List.length_nil]; omega)
  rwa [List.append_nil, Stream'.nil_append_stream] at hfull

/-- A result that was taken whole comes in front. -/
theorem cons {x : Recv uint8_t} (hx : x.Flows) (hlen : x.contents.length ≤ n - buf.length)
    (h : LoopReturned n (buf ++ x.contents) src r src') :
    LoopReturned n buf (Stream'.cons x src) r src' := by
  cases h with
  | filled hsrc hrs hrs' hcontents htaken =>
    subst hsrc
    rw [List.append_assoc]
    refine .filled (Stream'.cons_append_stream _ _ _).symm (steady_cons.mpr ⟨hx, hrs⟩) hrs' ?_ ?_
    · rw [contents_cons, hcontents, List.append_assoc]
    · rw [List.length_append] at htaken ⊢
      omega
  | failed hsrc hrs hshort hhead =>
    subst hsrc
    refine .failed (Stream'.cons_append_stream _ _ _).symm (steady_cons.mpr ⟨hx, hrs⟩) ?_ hhead
    rw [contents_cons, List.length_append]
    rw [List.length_append] at hshort
    omega

end LoopReturned

/-- **A loop that came back** has filled its buffer, or has met an error. -/
theorem read_loop_returned {r : Option (List uint8_t)} (hsrc : EndsOnce src)
    (h : read_loop fuel n buf src = some (r, src')) : LoopReturned n buf src r src' := by
  induction fuel generalizing buf src with
  | zero => cases h
  | succ fuel ih =>
    by_cases hdone : n ≤ buf.length
    · rw [read_loop_done hdone] at h
      cases h
      exact .done hdone
    have hlt : buf.length < n := Nat.not_le.mp hdone
    have hsplit : src = src.head :: [] ++ₛ src.tail := (Stream'.append_stream_head_tail src).symm
    by_cases hend : src.head = .data []
    · -- the loop does not get past the end
      rw [hsrc.eq_closed hend, read_loop_closed hlt] at h
      cases h
    by_cases hflows : src.head.Flows
    · have hsteady : Steady [src.head] := steady_cons.mpr ⟨hflows, steady_nil⟩
      rcases recv_steady hsteady (n - buf.length) src.tail with
        ⟨hrecv, hlen⟩ | ⟨chunk, hchunk, hlen, hrecv, hsteady'⟩
      · rw [← hsplit] at hrecv
        rw [read_loop_next hlt hflows hrecv] at h
        rw [← Stream'.eta src]
        exact (ih hsrc.tail h).cons hflows hlen
      · -- the rest of the piece is left, and the buffer is full
        rw [← hsplit] at hrecv
        rw [read_loop_last hlt hlen hrecv] at h
        by_cases hfuel : fuel = 0
        · rw [if_pos hfuel] at h
          cases h
        · rw [if_neg hfuel] at h
          cases h
          refine .filled hsplit hsteady hsteady' ?_ (List.length_take_of_le (Nat.le_of_lt hlen))
          rw [contents_cons, contents_nil, List.append_nil, contents_cons, contents_nil,
            List.append_nil, hchunk]
          exact (List.take_append_drop _ _).symm
    · have hfailed : src.head = .failed := Recv.eq_failed hflows hend
      rw [read_loop_failed hlt hfailed] at h
      cases h
      exact .failed (Stream'.nil_append_stream src).symm steady_nil hlt hfailed

/-! ### Messages -/

/-- A message with its length in front, which the reader takes to be there even when it says
    less than four. -/
structure WholeMessage (m : List uint8_t) : Prop where
  admitted : LengthAdmitted (message_length m)
  length : m.length = max 4 (message_length m).toNat

/-- Some of these bytes' message is missing. -/
def Unfinished (bytes : List uint8_t) : Prop :=
  bytes.length < 4 ∨
    LengthAdmitted (message_length bytes) ∧ bytes.length < (message_length bytes).toNat

theorem u32_append {bytes rest : List uint8_t} (h : 4 ≤ bytes.length) :
    u32 (bytes ++ rest) 0 = u32 bytes 0 := by
  have hbyte : ∀ i, i < 4 → u8 (bytes ++ rest) i = u8 bytes i := by
    intro i hi
    simp only [u8, List.getD_eq_getElem?_getD, List.getElem?_append_left (Nat.lt_of_lt_of_le hi h)]
  simp only [u32, hbyte 0 (by decide), hbyte 1 (by decide), hbyte 2 (by decide),
    hbyte 3 (by decide)]

/-- The length word is the one in front, however many bytes follow. -/
theorem message_length_append {bytes : List uint8_t} (rest : List uint8_t) (h : 4 ≤ bytes.length) :
    message_length (bytes ++ rest) = message_length bytes := by
  rw [message_length, u32_append h, message_length]

theorem message_length_take {bytes : List uint8_t} {k : Nat} (hk : 4 ≤ k)
    (h : 4 ≤ bytes.length) : message_length (bytes.take k) = message_length bytes := by
  have htake : 4 ≤ (bytes.take k).length := by
    rw [List.length_take]
    exact Nat.le_min.mpr ⟨hk, h⟩
  have happend := message_length_append (bytes.drop k) htake
  rw [List.take_append_drop] at happend
  exact happend.symm

/-- The word that is put in front of the body is the one that was read. -/
theorem le32_message_length {bytes : List uint8_t} (h : 4 ≤ bytes.length) :
    le32 (ntohl (message_length bytes)) = bytes.take 4 := by
  rw [message_length, ntohl, ntohl, swap32_swap32, le32_u32, take_eq_map_u8 bytes h]
  rfl

/-- The first loop reads the length word. -/
theorem read_word (s : Socket) (hrs : Steady rs) (hfour : 4 ≤ (contents rs).length)
    (hfuel : rs.length < fuel) :
    ∃ rs', Steady rs' ∧ rs'.length ≤ rs.length ∧ contents rs' = (contents rs).drop 4 ∧
      read_loop fuel 4 [] (rs ++ₛ s) = some (some ((contents rs).take 4), rs' ++ₛ s) := by
  have hempty : ([] : List uint8_t).length ≤ 4 := Nat.zero_le 4
  exact read_loop_enough s hrs hempty (by rw [List.length_nil]; omega) hfuel

/-- Then the second loop reads the body. -/
theorem read_command_word {bytes : List uint8_t} (hfour : 4 ≤ bytes.length)
    (hword : read_loop fuel 4 [] src = some (some (bytes.take 4), src'))
    (hadmitted : LengthAdmitted (message_length bytes)) :
    read_command fuel src = (read_loop fuel ((message_length bytes).toNat - 4) [] src').map
      fun result => (result.1.map (bytes.take 4 ++ ·), result.2) := by
  have hlength : message_length (bytes.take 4) = message_length bytes :=
    message_length_take (Nat.le_refl 4) hfour
  rw [read_command, hword]
  simp only [hlength, le32_message_length hfour]
  rw [if_neg hadmitted]
  rcases read_loop fuel ((message_length bytes).toNat - 4) [] src' with _ | ⟨_ | body, src₂⟩
  · exact rfl
  · exact rfl
  · exact rfl

/-- A length that is too great ends the reading. -/
theorem read_command_too_large {bytes : List uint8_t} (hfour : 4 ≤ bytes.length)
    (hword : read_loop fuel 4 [] src = some (some (bytes.take 4), src'))
    (h : ¬ LengthAdmitted (message_length bytes)) : read_command fuel src = some (none, src') := by
  have hlength : message_length (bytes.take 4) = message_length bytes :=
    message_length_take (Nat.le_refl 4) hfour
  rw [read_command, hword]
  simp only [hlength]
  rw [if_pos (not_not.mp h)]

/-- **A whole message** is read, and nothing behind it. -/
theorem read_command_message (s : Socket) {m rest : List uint8_t} (hrs : Steady rs)
    (hm : WholeMessage m) (hcontents : contents rs = m ++ rest) (hfuel : rs.length < fuel) :
    ∃ rs', Steady rs' ∧ rs'.length ≤ rs.length ∧ contents rs' = rest ∧
      read_command fuel (rs ++ₛ s) = some (some m, rs' ++ₛ s) := by
  have hmax := hm.length
  have hfour : 4 ≤ m.length := hmax ▸ Nat.le_max_left _ _
  have hlen : (contents rs).length = m.length + rest.length := by rw [hcontents, List.length_append]
  have hbody : (m.drop 4).length = (message_length m).toNat - 4 := by
    rw [List.length_drop]
    omega
  obtain ⟨rs₁, hrs₁, hle₁, hrest₁, hword⟩ := read_word s hrs (by omega) hfuel
  rw [hcontents, List.take_append_of_le_length hfour] at hword
  rw [hcontents, List.drop_append_of_le_length hfour] at hrest₁
  -- the second loop reads the rest of the message
  have hempty : ([] : List uint8_t).length ≤ (message_length m).toNat - 4 := Nat.zero_le _
  obtain ⟨rs₂, hrs₂, hle₂, hrest₂, hloop⟩ := read_loop_enough s hrs₁ hempty
    (by rw [hrest₁, List.length_append, hbody, List.length_nil]; omega)
    (Nat.lt_of_le_of_lt hle₁ hfuel)
  rw [List.length_nil, Nat.sub_zero, hrest₁, ← hbody, List.drop_left] at hrest₂
  rw [List.length_nil, Nat.sub_zero, hrest₁, List.nil_append, ← hbody, List.take_left,
    hbody] at hloop
  refine ⟨rs₂, hrs₂, Nat.le_trans hle₂ hle₁, hrest₂, ?_⟩
  rw [read_command_word hfour hword hm.admitted, hloop]
  simp only [Option.map_some, List.take_append_drop]

theorem read_command_rejected (s : Socket) (hrs : Steady rs) (hfour : 4 ≤ (contents rs).length)
    (h : ¬ LengthAdmitted (message_length (contents rs))) :
    ∃ fuel src', read_command fuel (rs ++ₛ s) = some (none, src') := by
  obtain ⟨rs₁, -, -, -, hword⟩ := read_word s hrs hfour (Nat.lt_succ_self rs.length)
  exact ⟨rs.length + 1, rs₁ ++ₛ s, read_command_too_large hfour hword h⟩

/-- An error in the middle of a loop ends it. -/
theorem read_loop_broken (hrs : Steady rs) (hshort : (contents rs).length < n)
    (hs : s.head = .failed) (hfuel : rs.length < fuel) :
    read_loop fuel n [] (rs ++ₛ s) = some (none, s.tail) := by
  have hlt : ([] : List uint8_t).length + (contents rs).length < n := by
    rw [List.length_nil]
    omega
  have hsplit : fuel = fuel - rs.length - 1 + 1 + rs.length := by omega
  rw [hsplit, read_loop_short _ s hrs hlt]
  exact read_loop_failed (by rwa [List.nil_append]) hs

theorem read_command_failed (hrs : Steady rs) (h : Unfinished (contents rs))
    (hs : s.head = .failed) : ∃ fuel src', read_command fuel (rs ++ₛ s) = some (none, src') := by
  refine ⟨rs.length + 1, s.tail, ?_⟩
  by_cases hfour : 4 ≤ (contents rs).length
  · obtain ⟨hadmitted, hlen⟩ := h.resolve_left (Nat.not_lt.mpr hfour)
    obtain ⟨rs₁, hrs₁, hle₁, hrest₁, hword⟩ := read_word s hrs hfour (Nat.lt_succ_self rs.length)
    have hshort : (contents rs₁).length < (message_length (contents rs)).toNat - 4 := by
      rw [hrest₁, List.length_drop]
      omega
    rw [read_command_word hfour hword hadmitted,
      read_loop_broken hrs₁ hshort hs (Nat.lt_succ_of_le hle₁)]
    rfl
  · rw [read_command, read_loop_broken hrs (Nat.not_le.mp hfour) hs (Nat.lt_succ_self _)]

/-! ### Coming back -/

/-- What the reader should give: a message when enough bytes came, and nothing when the length
    is too great, or when the stream failed or ended in the middle of a message. -/
inductive Answer (src : Socket) : Option (List uint8_t) → Prop where
  | message {rs : List (Recv uint8_t)} {s : Socket} {m rest : List uint8_t} : src = rs ++ₛ s →
      Steady rs → WholeMessage m → contents rs = m ++ rest → Answer src (some m)
  | rejected {rs : List (Recv uint8_t)} {s : Socket} : src = rs ++ₛ s → Steady rs →
      4 ≤ (contents rs).length → ¬ LengthAdmitted (message_length (contents rs)) → Answer src none
  | cut {rs : List (Recv uint8_t)} {s : Socket} : src = rs ++ₛ s → Steady rs →
      Unfinished (contents rs) → s.head = .failed ∨ s.head = .data [] → Answer src none

/-- After finitely many calls the reader is back, with the right answer. -/
def ReaderComesBack (src : Socket) : Prop :=
  ∃ fuel r src', read_command fuel src = some (r, src') ∧ Answer src r

/-- Before the stream ends, it fails or has brought all that the reader waits for. -/
def Completes (src : Socket) : Prop :=
  ∃ rs s, src = rs ++ₛ s ∧ Steady rs ∧ (¬ Unfinished (contents rs) ∨ s.head = .failed)

/-- Bytes with a whole message in front. -/
theorem whole_message {bytes : List uint8_t} (hadmitted : LengthAdmitted (message_length bytes))
    (h : ¬ Unfinished bytes) : ∃ m rest, WholeMessage m ∧ bytes = m ++ rest := by
  rw [Unfinished, not_or, not_and, not_lt, not_lt] at h
  obtain ⟨hfour, hlen⟩ := h
  have hbytes := hlen hadmitted
  let k := max 4 (message_length bytes).toNat
  have hk : k ≤ bytes.length := Nat.max_le.mpr ⟨hfour, hbytes⟩
  have htake : (bytes.take k).length = k := List.length_take_of_le hk
  have hsame : message_length (bytes.take k) = message_length bytes :=
    message_length_take (Nat.le_max_left 4 _) hfour
  refine ⟨bytes.take k, bytes.drop k, ⟨?_, ?_⟩, (List.take_append_drop k bytes).symm⟩
  · rw [hsame]
    exact hadmitted
  · rw [hsame]
    exact htake

/-- A loop that came back from what an earlier one had left. -/
theorem LoopReturned.behind {rs : List (Recv uint8_t)} {s : Socket} {r : Option (List uint8_t)}
    (hrs : Steady rs) (h : LoopReturned n [] (rs ++ₛ s) r src') :
    ∃ more s', s = more ++ₛ s' ∧ Steady more ∧
      (n ≤ (contents (rs ++ more)).length ∨ s'.head = .failed) := by
  -- the loop has gone past what was left, or not even to its end
  cases h with
  | filled hsplit hrs₂ _ hcontents htaken =>
    have hlen := congrArg List.length hcontents
    rw [List.length_append, htaken, List.length_nil] at hlen
    rcases append_eq_append hsplit with ⟨more, rfl, hs⟩ | ⟨more, rfl, -⟩
    · exact ⟨more, _, hs, (List.forall_mem_append.mp hrs₂).2, .inl (by omega)⟩
    · refine ⟨[], s, rfl, steady_nil, .inl ?_⟩
      rw [List.append_nil, contents_append, List.length_append]
      omega
  | failed hsplit hrs₂ _ hhead =>
    rcases append_eq_append hsplit with ⟨more, rfl, hs⟩ | ⟨more, rfl, hs⟩
    · exact ⟨more, _, hs, (List.forall_mem_append.mp hrs₂).2, .inr hhead⟩
    · cases more with
      | nil => exact ⟨[], s, rfl, steady_nil, .inr (by rw [← hhead, hs]; rfl)⟩
      | cons x more =>
        rw [hs] at hhead
        have hx : x.Flows := hrs x (by simp)
        rw [show x = .failed from hhead] at hx
        exact absurd hx not_false

/-- Nothing is missing of what comes after four bytes of a message and as many more as it
    says. -/
theorem finished_of_length {bytes more : List uint8_t} (hfour : 4 ≤ bytes.length)
    (h : (message_length bytes).toNat ≤ (bytes ++ more).length) : ¬ Unfinished (bytes ++ more) := by
  rw [Unfinished, message_length_append more hfour]
  rw [List.length_append] at h ⊢
  omega

/-- A reader that came back has seen an error, or no message is unfinished. -/
theorem read_command_returned {r : Option (List uint8_t)} (hsrc : EndsOnce src)
    (h : read_command fuel src = some (r, src')) : Completes src := by
  cases hword : read_loop fuel 4 [] src with
  | none =>
    rw [read_command, hword] at h
    cases h
  | some result =>
    obtain ⟨word, src₁⟩ := result
    cases read_loop_returned hsrc hword with
    | failed hsplit hrs _ hhead => exact ⟨_, _, hsplit, hrs, .inr hhead⟩
    | @filled rs rs₁ s taken hsplit hrs hrs₁ hcontents htaken =>
      subst hsplit
      rw [List.length_nil, Nat.sub_zero] at htaken
      have hfour : 4 ≤ (contents rs).length := by
        rw [hcontents, List.length_append, htaken]
        exact Nat.le_add_right _ _
      have htake : (contents rs).take 4 = taken := by
        rw [hcontents, ← htaken, List.take_left]
      rw [List.nil_append, ← htake] at hword
      by_cases hadmitted : LengthAdmitted (message_length (contents rs))
      · rw [read_command_word hfour hword hadmitted] at h
        cases hbody : read_loop fuel ((message_length (contents rs)).toNat - 4) [] (rs₁ ++ₛ s) with
        | none =>
          rw [hbody] at h
          cases h
        | some result =>
          obtain ⟨body, src₂⟩ := result
          have hreturned := read_loop_returned (hsrc.right.append hrs₁) hbody
          obtain ⟨more, s', rfl, hmore, hcase⟩ := hreturned.behind hrs₁
          refine ⟨rs ++ more, s', (Stream'.append_append_stream _ _ _).symm, hrs.append hmore, ?_⟩
          refine hcase.imp (fun hlen => ?_) id
          rw [contents_append] at hlen ⊢
          apply finished_of_length hfour
          rw [hcontents, List.append_assoc, List.length_append, htaken, ← hcontents]
          omega
      · refine ⟨rs, s, rfl, hrs, .inl ?_⟩
        rw [Unfinished]
        exact not_or.mpr ⟨Nat.not_lt.mpr hfour, fun hboth => hadmitted hboth.1⟩

/-- **The reader comes back exactly** when the stream brings a message, or fails, before it
    ends. -/
theorem reader_comes_back_iff (hsrc : EndsOnce src) : ReaderComesBack src ↔ Completes src := by
  constructor
  · intro h
    obtain ⟨fuel, r, src', hread, -⟩ := h
    exact read_command_returned hsrc hread
  · intro h
    obtain ⟨rs, s, rfl, hrs, hcase⟩ := h
    by_cases hunfinished : Unfinished (contents rs)
    · have hs := hcase.resolve_left (not_not.mpr hunfinished)
      obtain ⟨fuel, src', hread⟩ := read_command_failed hrs hunfinished hs
      exact ⟨fuel, none, src', hread, .cut rfl hrs hunfinished (.inl hs)⟩
    by_cases hadmitted : LengthAdmitted (message_length (contents rs))
    · obtain ⟨m, rest, hm, hcontents⟩ := whole_message hadmitted hunfinished
      obtain ⟨rs', -, -, -, hread⟩ :=
        read_command_message s hrs hm hcontents (Nat.lt_succ_self rs.length)
      exact ⟨_, some m, _, hread, .message rfl hrs hm hcontents⟩
    · have hfour : 4 ≤ (contents rs).length := by
        rw [Unfinished, not_or, not_lt] at hunfinished
        exact hunfinished.1
      obtain ⟨fuel, src', hread⟩ := read_command_rejected s hrs hfour hadmitted
      exact ⟨fuel, none, src', hread, .rejected rfl hrs hfour hadmitted⟩

namespace Sample

/-- The server goes away after two bytes of a length word, and the reader stays. -/
theorem waits_for_closed :
    let src : Socket := [.data [0, 0]] ++ₛ closed
    EndsOnce src ∧ (∀ fuel, read_command fuel src = none) ∧ Answer src none ∧
      ¬ ReaderComesBack src := by
  intro src
  have hsteady : Steady [Recv.data [(0 : uint8_t), 0]] := by decide
  have hloop : ∀ fuel, read_loop fuel 4 [] src = none := by
    intro fuel
    cases fuel with
    | zero => rfl
    | succ fuel =>
      have hshort := read_loop_short fuel closed hsteady
        (show ([] : List uint8_t).length + 2 < 4 by decide)
      exact hshort.trans (read_loop_closed (by decide) fuel)
  have hread : ∀ fuel, read_command fuel src = none := by
    intro fuel
    rw [read_command, hloop fuel]
  refine ⟨endsOnce_closed.append hsteady, hread, .cut rfl hsteady (.inl (by decide)) (.inr rfl),
    fun h => ?_⟩
  obtain ⟨fuel, r, src', hback, -⟩ := h
  rw [hread fuel] at hback
  cases hback

/-- A banner of nine bytes in three pieces, with an interruption. -/
theorem comes_back_with_banner :
    let rs : List (Recv uint8_t) :=
      [.data [0, 0], .interrupted, .data [0, 9, 0, 0, 0], .data [8, 0x21]]
    EndsOnce (rs ++ₛ closed) ∧ ReaderComesBack (rs ++ₛ closed) := by
  intro rs
  have hsteady : Steady rs := by decide
  have hsrc : EndsOnce (rs ++ₛ closed) := endsOnce_closed.append hsteady
  have hfinished : ¬ Unfinished (contents rs) := by
    unfold Unfinished
    decide
  exact ⟨hsrc, (reader_comes_back_iff hsrc).mpr ⟨rs, closed, rfl, hsteady, .inl hfinished⟩⟩

end Sample

end SimpleRouter
