import SimpleRouter.Server.Connect

/-! # The main loop and the stream of messages

    The server's messages come in pieces that have nothing to do with where a
    message ends. Still the main loop carries out the messages one after the
    other: what it does, and what it leaves unread, is a matter of the messages
    alone, whatever they are and however they are carried out.

    * `carry_out_socket`: a message is carried out without looking at what comes
      behind it.
    * `carry_all`: the messages one after the other.
    * `main_loop_carries_messages`: the main loop does that.
-/

namespace SimpleRouter

open Framework

variable {heap : Heap} {names : Names} {reads : Nat} {c : Client} {src : Socket}

/-! ### One message -/

/-- The same, with another socket. -/
def onSocket {α : Type} (src : Socket) (result : Outcome ClientFault α × Client) :
    Outcome ClientFault α × Client :=
  (result.1, result.2.setSocket src)

/-- A part of `main` that does not look at the socket. -/
def IgnoresSocket {α : Type} (m : Connection α) : Prop :=
  ∀ c src, m (c.setSocket src) = onSocket src (m c)

namespace IgnoresSocket

variable {α β : Type}

theorem pure (a : α) : IgnoresSocket (pure a : Connection α) := fun _ _ => rfl

theorem bind {m : Connection α} {f : α → Connection β} (hm : IgnoresSocket m)
    (hf : ∀ a, IgnoresSocket (f a)) : IgnoresSocket (m >>= f) := by
  intro c src
  have hsame := hm c src
  rcases h : m c with ⟨a | e | _, c'⟩
  · rw [h] at hsame
    rw [Prog.bind_of_returned h, Prog.bind_of_returned hsame]
    exact hf a c' src
  · rw [h] at hsame
    rw [Prog.bind_of_fault h, Prog.bind_of_fault hsame]
    rfl
  · rw [h] at hsame
    rw [Prog.bind_of_exhausted h, Prog.bind_of_exhausted hsame]
    rfl

theorem in_session (m : Main α) : IgnoresSocket (in_session m) := by
  intro c src
  show Prog.within _ _ _ m (c.setSocket src) = _
  unfold SimpleRouter.in_session Prog.within
  have hsession : (c.setSocket src).session = c.session := rfl
  rw [hsession]
  rcases m c.session with ⟨_ | _ | _, _⟩ <;> rfl

theorem handle_auth_request (names : Names) (o : Outside) (req : List uint8_t) :
    IgnoresSocket (sr_handle_auth_request names o req) := by
  intro c src
  have hfiles : (c.setSocket src).files = c.files := rfl
  rw [auth_request_eq, auth_request_eq, hfiles]
  cases key_line c.files with
  | none => rfl
  | some line => cases o.malloc <;> rfl

theorem handle_rtable (o : Outside) (rtable : List uint8_t) :
    IgnoresSocket (sr_handle_rtable o rtable) := by
  unfold sr_handle_rtable
  intro c src
  dsimp only
  split
  · rfl
  · split <;> rfl

end IgnoresSocket

/-- **A message** is carried out without looking at what comes behind it. -/
theorem carry_out_socket (heap : Heap) (names : Names) (o : Outside) (cmd : uint32_t)
    (buf : List uint8_t) : IgnoresSocket (carry_out heap names o cmd buf) := by
  unfold carry_out
  dsimp only
  split
  · exact .pure _
  split
  · exact .in_session _
  split
  · exact .pure _
  split
  · exact .in_session _
  split
  · exact (IgnoresSocket.handle_rtable o buf).bind fun _ => .pure _
  split
  · exact (IgnoresSocket.handle_auth_request names o buf).bind fun _ => .pure _
  split
  · exact .pure _
  · exact .pure _

/-! ### All messages -/

/-- The messages are carried out as long as 1 is returned, and those behind are left. -/
def carry_all (heap : Heap) (names : Names) :
    List (MainTurn × List uint8_t) → Client →
      (Outcome ClientFault Int × Client) × List (MainTurn × List uint8_t)
  | [], c => ((.exhausted, c), [])
  | (turn, m) :: calls, c =>
    match carry_out heap names turn.outside 0 m (turn.enter c) with
    | (.returned n, c') =>
      if n = 1 then carry_all heap names calls c' else ((.returned n, c'), calls)
    | result => (result, calls)

/-- The bytes of some messages. -/
def message_bytes (calls : List (MainTurn × List uint8_t)) : List uint8_t := calls.flatMap (·.2)

variable (heap names) in
/-- A call reads one message and carries it out. -/
theorem read_carries (o : Outside) {m : List uint8_t} {src src' : Socket}
    (hread : read_command reads src = some (some m, src')) (c : Client) :
    read_from_server_expect heap names reads o 0 (c.setSocket src) =
      onSocket src' (carry_out heap names o 0 m c) := by
  have hsocket : (c.setSocket src).socket = src := rfl
  rw [read_from_server_expect, hsocket, hread]
  exact carry_out_socket heap names o 0 m c src'

/-- **The main loop carries out the messages** that the server sends, in their order, with what
    the other thread does in between; in which pieces the bytes come changes nothing but how
    they are left over. -/
theorem main_loop_carries_messages (heap : Heap) (names : Names) (src : Socket)
    {calls : List (MainTurn × List uint8_t)} {rs : List (Recv uint8_t)} {rest : List uint8_t}
    (hcalls : ∀ x ∈ calls, WholeMessage x.2) (hrs : Source.Steady rs) (hreads : rs.length < reads)
    (hcontents : Source.contents rs = message_bytes calls ++ rest) (c : Client) :
    ∃ rs', Source.Steady rs' ∧
      Source.contents rs' = message_bytes (carry_all heap names calls c).2 ++ rest ∧
      main_loop heap names reads (calls.map (·.1)) (c.setSocket (rs ++ₛ src)) =
        onSocket (rs' ++ₛ src) (carry_all heap names calls c).1 := by
  -- on the messages: each call leaves the pieces for the ones behind
  induction calls generalizing rs c with
  | nil => exact ⟨rs, hrs, hcontents, rfl⟩
  | cons call calls ih =>
    obtain ⟨turn, m⟩ := call
    have hm : WholeMessage m := hcalls (turn, m) (by simp)
    have hall : Source.contents rs = m ++ (message_bytes calls ++ rest) := by
      rw [hcontents, message_bytes, List.flatMap_cons, List.append_assoc]
      rfl
    obtain ⟨rs₁, hrs₁, hle, hrest, hread⟩ := read_command_message src hrs hm hall hreads
    have hcall := read_carries heap names turn.outside hread (turn.enter c)
    rw [List.map_cons, main_loop, Prog.modify_bind, carry_all]
    show ∃ rs', _ ∧ _ ∧ (read_from_server_expect heap names reads turn.outside 0 >>= _)
      ((turn.enter c).setSocket (rs ++ₛ src)) = _
    rcases hcarried : carry_out heap names turn.outside 0 m (turn.enter c) with ⟨n | e | _, c'⟩
    · rw [hcarried] at hcall
      rw [Prog.bind_of_returned hcall]
      by_cases hn : n = 1
      · simp only [if_pos hn]
        exact ih (fun x hx => hcalls x (by simp [hx])) hrs₁ (Nat.lt_of_le_of_lt hle hreads) hrest c'
      · simp only [if_neg hn]
        exact ⟨rs₁, hrs₁, hrest, rfl⟩
    · rw [hcarried] at hcall
      rw [Prog.bind_of_fault hcall]
      exact ⟨rs₁, hrs₁, hrest, rfl⟩
    · rw [hcarried] at hcall
      rw [Prog.bind_of_exhausted hcall]
      exact ⟨rs₁, hrs₁, hrest, rfl⟩

namespace Sample

/-- The other thread is not there. -/
def alone : MainTurn := ⟨outdoors, fun s => s.router⟩

def close : List uint8_t := words_bytes [ntohl 8, ntohl VNSCLOSE]

/-- The hardware information, the end of the session, and a message that is not read. -/
def last_messages : List (MainTurn × List uint8_t) :=
  [(alone, hardware), (alone, close), (alone, close)]

/-- A client with a route to `e1`. -/
def in_loop : Client := (Client.start Source.closed keyed).setSession unconfigured

/-- They come in two pieces that are cut in the first length word. -/
def last_pieces : List (Recv uint8_t) :=
  [.data ((message_bytes last_messages).take 3), .interrupted,
    .data ((message_bytes last_messages).drop 3)]

theorem session_closed : ∃ rs' c', Source.contents rs' = close ∧
    main_loop mem named 4 (last_messages.map (·.1))
      (in_loop.setSocket (last_pieces ++ₛ Source.closed)) =
        (.returned 0, c') := by
  have hcalls : ∀ x ∈ last_messages, WholeMessage x.2 := by
    have hclose : WholeMessage close := ⟨by unfold LengthAdmitted; decide, by decide⟩
    have hhardware : WholeMessage hardware :=
      ⟨by unfold LengthAdmitted; decide +kernel, by decide +kernel⟩
    simp [last_messages, hclose, hhardware]
  have hcontents : Source.contents last_pieces = message_bytes last_messages ++ [] := by
    simp [last_pieces, Source.contents, Recv.contents]
  obtain ⟨rs', -, hleft, hloop⟩ := main_loop_carries_messages mem named Source.closed hcalls
    (by decide +kernel) (show _ < 4 by decide) hcontents in_loop
  have hbytes : message_bytes
      (carry_all mem named last_messages in_loop).2 = close := by
    decide +kernel
  have hreturned : (carry_all mem named last_messages in_loop).1.1 =
      .returned 0 := by
    decide +kernel
  rw [onSocket, hreturned] at hloop
  exact ⟨rs', _, hleft.trans ((List.append_nil _).trans hbytes), hloop⟩

end Sample

end SimpleRouter
