import SimpleRouter.Model.Connect
import SimpleRouter.Server.Reading
import SimpleRouter.Server.Session
import SimpleRouter.Server.Sha1

/-! # Opening a session

    The server speaks first: it sends some salt, and the client answers with
    its name and a digest of the salt and its key. Only when the server has
    agreed does the client ask for a topology, and no frame is handled before
    that.

    * `auth_reply`, `auth_request_eq`: what the client answers.
    * `Authenticated`: the server's first two messages.
    * `connected_iff`: what it takes to open a session.
-/

namespace SimpleRouter

open Framework Framework.Bytes Framework.SecureHash

variable {heap : Heap} {names : Names} {reads : Nat} {o : Outside} {c c' : Client}
  {buf : List uint8_t}

/-! ### The reply -/

theorem le32_swap32 (x : uint32_t) : le32 (swap32 x) = (le32 x).reverse := by
  simp only [swap32, le32, byteAt_append_zero, byteAt_append_succ, byteAt_byte]
  rfl

/-- The digest is written out as the standard has it. -/
theorem digest_bytes (sha1 : SHA1Context) :
    words_bytes (sha1.Message_Digest.toList.map ntohl) = sha1.buffer.toBytes := by
  have hlist : sha1.Message_Digest.toList = [sha1.buffer.A, sha1.buffer.B, sha1.buffer.C,
      sha1.buffer.D, sha1.buffer.E] := by
    apply List.ext_getElem
    · simp
    · intro i hi _
      have hlt : i < 5 := by simpa using hi
      match i, hlt with
      | 0, _ => rfl
      | 1, _ => rfl
      | 2, _ => rfl
      | 3, _ => rfl
      | 4, _ => rfl
  rw [hlist, words_bytes, Buffer.toBytes, List.flatMap_map]
  simp only [ntohl, le32_swap32]

/-- What is to be answered: the name, and the digest of a message. -/
def auth_reply (username message : List uint8_t) : List uint8_t :=
  let len_username : uint32_t := BitVec.ofNat 32 username.length
  let len := BitVec.ofNat 32 c_auth_reply_size + len_username + BitVec.ofNat 32 SHA1_LEN
  words_bytes [ntohl len, ntohl VNS_AUTH_REPLY, ntohl len_username] ++ username ++
    (digest message).toBytes

/-- Salt and key are hashed without an overrun, and there is a result. -/
theorem salted_sha1_eq (sha1 : SHA1Context) {salt key : List uint8_t}
    (h : (salt ++ key).length < 2 ^ 61) :
    ∃ result, salted_sha1 sha1 salt key = some (result, true) ∧
      result.buffer = digest (salt ++ key) := by
  have hstart : Collects [] (SHA1Reset sha1) := ⟨rfl, reset_streams sha1⟩
  obtain ⟨salted, hsalted, hcollects⟩ := hstart.input salt
  obtain ⟨keyed, hkeyed, hcollects⟩ := hcollects.input key
  rw [List.nil_append] at hcollects
  obtain ⟨result, hresult, hdigest, -⟩ := hcollects.result h
  refine ⟨result, ?_, hdigest⟩
  rw [salted_sha1, bind_of_eq hsalted, bind_of_eq hkeyed, hresult]

theorem key_array_length (uninit : Vector uint8_t 65) (line : List uint8_t) :
    (key_array uninit line).length ≤ AUTH_KEY_LEN := by
  rw [key_array]
  exact List.length_take_le _ _

theorem message_salt_length (o : Outside) (req : List uint8_t) :
    (message_salt o req).length = (salt_len (message_length req)).toNat := by
  simp [message_salt, bytes_at]

/-- What the client hashes: the salt of the request, and its key. -/
def hashed (o : Outside) (req line : List uint8_t) : List uint8_t :=
  message_salt o req ++ key_array o.auth_key line

theorem hashed_length (o : Outside) (req line : List uint8_t) :
    (hashed o req line).length < 2 ^ 61 := by
  have hsalt := (salt_len (message_length req)).isLt
  have hkey := key_array_length o.auth_key line
  rw [hashed, List.length_append, message_salt_length]
  simp only [AUTH_KEY_LEN] at hkey
  omega

/-- The line of the key file. -/
def key_line (files : Filename → Option (List uint8_t)) : Option (List uint8_t) :=
  (files auth_key_file).bind (fgets (AUTH_KEY_LEN + 1))

/-- **A request** is answered if there is a key, and a buffer for the reply. -/
theorem auth_request_eq (names : Names) (o : Outside) (req : List uint8_t) (c : Client) :
    sr_handle_auth_request names o req c =
      match key_line c.files with
      | none => (.returned false, c)
      | some line =>
        if o.malloc then send_all o (auth_reply names.username (hashed o req line)) c
        else (.returned false, c) := by
  rw [sr_handle_auth_request, Prog.read_bind, key_line]
  cases hfile : c.files auth_key_file with
  | none => rfl
  | some file =>
    rw [Option.bind_some]
    cases hline : fgets (AUTH_KEY_LEN + 1) file with
    | none => simp only [hline]; rfl
    | some line =>
      obtain ⟨result, hresult, hdigest⟩ := salted_sha1_eq o.sha1 (hashed_length o req line)
      have hreply : c_auth_reply names.username result =
          auth_reply names.username (hashed o req line) := by
        rw [c_auth_reply, auth_reply, digest_bytes, hdigest]
        rfl
      simp only [hline, hresult, hreply]
      cases o.malloc <;> rfl

theorem auth_reply_length (username message : List uint8_t) :
    (auth_reply username message).length = c_auth_reply_size + username.length + SHA1_LEN := by
  have hwords (x y z : uint32_t) : (words_bytes [x, y, z]).length = c_auth_reply_size := rfl
  rw [auth_reply, List.length_append, List.length_append, hwords, toBytes_length]

/-- The name and the rest of a reply, as its own lengths have them. -/
structure ReadsBack (reply username rest : List uint8_t) : Prop where
  length : (message_length reply).toNat = reply.length
  type : ntohl (u32 reply 4) = VNS_AUTH_REPLY
  username : (reply.drop c_auth_reply_size).take (ntohl (u32 reply 8)).toNat = username
  rest : reply.drop (c_auth_reply_size + (ntohl (u32 reply 8)).toNat) = rest

theorem u32_words (x y z : uint32_t) (rest : List uint8_t) :
    u32 (words_bytes [x, y, z] ++ rest) 0 = x ∧ u32 (words_bytes [x, y, z] ++ rest) 4 = y ∧
      u32 (words_bytes [x, y, z] ++ rest) 8 = z :=
  ⟨u32_le32 x (le32 y ++ (le32 z ++ rest)), u32_le32 y (le32 z ++ rest), u32_le32 z rest⟩

/-- **A reply** reads back as the name and the digest. -/
theorem auth_reply_reads_back (message : List uint8_t) {username : List uint8_t}
    (h : username.length + c_auth_reply_size + SHA1_LEN < 2 ^ 32) :
    ReadsBack (auth_reply username message) username (digest message).toBytes := by
  have hlength := auth_reply_length username message
  simp only [c_auth_reply_size, SHA1_LEN] at h hlength
  have hname : (BitVec.ofNat 32 username.length).toNat = username.length := by
    rw [BitVec.toNat_ofNat]
    omega
  let len : uint32_t := BitVec.ofNat 32 c_auth_reply_size + BitVec.ofNat 32 username.length +
    BitVec.ofNat 32 SHA1_LEN
  let words := words_bytes
    [ntohl len, ntohl VNS_AUTH_REPLY, ntohl (BitVec.ofNat 32 username.length)]
  have hreply : auth_reply username message = words ++ (username ++ (digest message).toBytes) :=
    List.append_assoc ..
  have hwords : words.length = c_auth_reply_size := rfl
  obtain ⟨hlen, htype, hcount⟩ := u32_words (ntohl len) (ntohl VNS_AUTH_REPLY)
    (ntohl (BitVec.ofNat 32 username.length)) (username ++ (digest message).toBytes)
  have hcount' : (ntohl (u32 (auth_reply username message) 8)).toNat = username.length := by
    rw [hreply, hcount, ntohl, ntohl, swap32_swap32, hname]
  constructor
  · rw [hlength, message_length, hreply, hlen, ntohl, ntohl, swap32_swap32]
    simp only [len, BitVec.toNat_add, BitVec.toNat_ofNat, c_auth_reply_size, SHA1_LEN]
    omega
  · rw [hreply, htype, ntohl, ntohl, swap32_swap32]
  · rw [hcount', hreply, List.drop_left' hwords, List.take_left' rfl]
  · rw [hcount', hreply, ← List.drop_drop, List.drop_left' hwords, List.drop_left' rfl]

/-- What is hashed does not depend on what was in the array exactly if the line fills it, but
    for the terminator. -/
theorem key_array_determined (line : List uint8_t) :
    (∀ uninit uninit', key_array uninit line = key_array uninit' line) ↔
      AUTH_KEY_LEN ≤ line.length + 1 := by
  constructor
  · intro hsame
    by_contra hshort
    have hzeros := hsame (Vector.replicate 65 0) (Vector.replicate 65 1)
    have hat (uninit : Vector uint8_t 65) : (key_array uninit line)[line.length + 1]? =
        uninit.toList[line.length + 1]? := by
      have hone : line.length + 1 - line.length = 0 + 1 := by omega
      rw [key_array, List.getElem?_take_of_lt (by omega),
        List.getElem?_append_right (Nat.le_succ _), hone, List.getElem?_cons_succ,
        List.getElem?_drop]
    have hbyte := (hat (Vector.replicate 65 0)).symm.trans
      ((congrArg (·[line.length + 1]?) hzeros).trans (hat (Vector.replicate 65 1)))
    have hlt : line.length + 1 < 65 := by
      simp only [AUTH_KEY_LEN] at hshort
      omega
    simp only [Vector.toList_replicate, List.getElem?_replicate, if_pos hlt] at hbyte
    exact absurd hbyte (by decide)
  · intro hfull uninit uninit'
    have harray (uninit : Vector uint8_t 65) :
        key_array uninit line = (line ++ [0]).take AUTH_KEY_LEN := by
      rw [key_array, List.append_cons, List.take_append_of_le_length]
      rw [List.length_append]
      exact hfull
    rw [harray uninit, harray uninit']

/-- The salt is what comes behind the two words of the message. -/
theorem message_salt_eq (o : Outside) {req : List uint8_t} (hreq : WholeMessage req)
    (hlen : c_auth_request_size ≤ req.length) :
    message_salt o req = req.drop c_auth_request_size := by
  have hlength := hreq.length
  simp only [c_auth_request_size] at hlen
  have hwhole : c_base_size ≤ (message_length req).toNat := by
    simp only [c_base_size]
    omega
  have hcount : c_auth_request_size + (salt_len (message_length req)).toNat = req.length := by
    rw [salt_len_toNat hwhole]
    simp only [c_auth_request_size, c_base_size] at hwhole ⊢
    omega
  rw [message_salt, hcount, bytes_at_eq (Nat.le_refl _), List.take_length]

/-- **The client authenticates itself** whatever is in its variables before they are set: a
    request is answered whenever there is a key, a buffer and room, and what is sent then reads
    back as the name and the digest of the salt and the key. The key is what the file says if
    its line fills the array, up to the terminator, and only then. -/
theorem reply_authenticates (names : Names) (o : Outside) (c : Client) {req : List uint8_t}
    (hname : names.username.length + c_auth_reply_size + SHA1_LEN < 2 ^ 32)
    (hreq : WholeMessage req) (hlen : c_auth_request_size ≤ req.length) :
    ∃ accepted c', sr_handle_auth_request names o req c = (.returned accepted, c') ∧
      (accepted = true ↔ (key_line c.files).isSome ∧ o.malloc = true ∧
        c_auth_reply_size + names.username.length + SHA1_LEN ≤ o.room) ∧
      (accepted = true → ∃ line reply, key_line c.files = some line ∧ c' = c.append reply ∧
        ReadsBack reply names.username
          (digest (req.drop c_auth_request_size ++ key_array o.auth_key line)).toBytes ∧
        ((∀ uninit uninit', key_array uninit line = key_array uninit' line) ↔
          AUTH_KEY_LEN ≤ line.length + 1)) := by
  rw [auth_request_eq]
  cases hline : key_line c.files with
  | none => exact ⟨false, c, rfl, by simp, by simp⟩
  | some line =>
    cases hmalloc : o.malloc with
    | false => exact ⟨false, c, rfl, by simp, by simp⟩
    | true =>
      let reply := auth_reply names.username (hashed o req line)
      have hreply : reply.length = c_auth_reply_size + names.username.length + SHA1_LEN :=
        auth_reply_length _ _
      refine ⟨decide (reply.length ≤ o.room), c.append (reply.take o.room), rfl, ?_, ?_⟩
      · rw [decide_eq_true_eq, hreply]
        simp
      · intro hroom
        have hroom' : reply.length ≤ o.room := of_decide_eq_true hroom
        refine ⟨line, reply, rfl, by rw [List.take_of_length_le hroom'], ?_,
          key_array_determined line⟩
        rw [← message_salt_eq o hreq hlen]
        exact auth_reply_reads_back _ hname

/-! ### One message -/

/-- `command` of a message. -/
abbrev command_of (o : Outside) (buf : List uint8_t) : uint32_t :=
  message_command (o.surroundings true) buf

variable (heap names) in
/-- Another command than the one that is waited for is not carried out. -/
theorem carry_out_other {cmd : uint32_t} (hcmd : cmd ≠ 0) (h : command_of o buf ≠ cmd)
    (c : Client) : ∃ n, n ≠ 1 ∧ carry_out heap names o cmd buf c = (.returned n, c) := by
  unfold carry_out
  by_cases hclose : command_of o buf = VNSCLOSE
  · refine ⟨0, by decide, ?_⟩
    simp only [hclose, ne_eq, not_true_eq_false, and_false, if_false]
    rfl
  · refine ⟨-1, by decide, ?_⟩
    simp only [if_pos (show cmd ≠ 0 ∧ command_of o buf ≠ cmd ∧ command_of o buf ≠ VNSCLOSE from
      ⟨hcmd, h, hclose⟩)]
    rfl

theorem carry_out_auth_request (h : command_of o buf = VNS_AUTH_REQUEST) :
    carry_out heap names o VNS_AUTH_REQUEST buf =
      sr_handle_auth_request names o buf >>= fun replied => pure (if replied then 1 else -1) := by
  unfold carry_out
  simp only [h]
  rfl

theorem carry_out_auth_status (h : command_of o buf = VNS_AUTH_STATUS) :
    carry_out heap names o VNS_AUTH_STATUS buf =
      pure (if sr_handle_auth_status o buf then 1 else -1) := by
  unfold carry_out
  simp only [h]
  rfl

theorem carry_out_rtable (h : command_of o buf = VNS_RTABLE) :
    carry_out heap names o VNS_RTABLE buf =
      sr_handle_rtable o buf >>= fun written => pure (if written then 1 else -1) := by
  unfold carry_out
  simp only [h]
  rfl

variable {src : Socket} {cmd : uint32_t}

/-- The next message that is read, with its command. -/
def NextMessage (reads : Nat) (o : Outside) (cmd : uint32_t) (c : Client) (buf : List uint8_t)
    (src : Socket) : Prop :=
  read_command reads c.socket = some (some buf, src) ∧ command_of o buf = cmd

theorem NextMessage.read (h : NextMessage reads o cmd c buf src) :
    read_from_server_expect heap names reads o cmd c =
      carry_out heap names o cmd buf (c.setSocket src) := by
  rw [read_from_server_expect, h.1]

/-- Without it nothing happens, and the call does not return 1. -/
theorem read_without (hcmd : cmd ≠ 0) (h : ∀ buf src, ¬ NextMessage reads o cmd c buf src) :
    ∃ src, (read_from_server_expect heap names reads o cmd c).2 = c.setSocket src ∧
      (read_from_server_expect heap names reads o cmd c).1 ≠ .returned 1 := by
  rw [read_from_server_expect]
  rcases hread : read_command reads c.socket with _ | ⟨_ | buf, src⟩
  · exact ⟨c.socket, rfl, by simp⟩
  · exact ⟨src, rfl, by simp⟩
  · have hother : command_of o buf ≠ cmd := fun hcommand => h buf src ⟨hread, hcommand⟩
    obtain ⟨n, hn, hcarry⟩ :=
      carry_out_other heap names hcmd hother (c.setSocket src)
    refine ⟨src, congrArg Prod.snd hcarry, ?_⟩
    simp only [hcarry, ne_eq, Outcome.returned.injEq]
    exact hn

/-! ### What is waited for -/

/-- The server asks who it is, and there is a key to answer with. -/
structure Replied (names : Names) (reads : Nat) (o : Outside) (c : Client)
    (reply : List uint8_t) (src : Socket) : Prop where
  request : ∃ req line, NextMessage reads o VNS_AUTH_REQUEST c req src ∧
    key_line c.files = some line ∧ reply = auth_reply names.username (hashed o req line)
  malloc : o.malloc = true

/-- The server agrees. -/
def Granted (reads : Nat) (o : Outside) (c : Client) (src : Socket) : Prop :=
  ∃ status, NextMessage reads o VNS_AUTH_STATUS c status src ∧
    sr_handle_auth_status o status = true

/-- The server sends a routing table, which is written to a file. -/
def Received (reads : Nat) (o : Outside) (c : Client) (fn : Filename) (table : List uint8_t)
    (src : Socket) : Prop :=
  ∃ rtable, NextMessage reads o VNS_RTABLE c rtable src ∧
    fn = rtable_stem ++ message_host o rtable ∧ fn.length < fn_size ∧ o.writable fn = true ∧
    table = message_rtable o rtable

variable (heap) in
theorem Replied.read {reply : List uint8_t} (h : Replied names reads o c reply src) :
    read_from_server_expect heap names reads o VNS_AUTH_REQUEST c =
      (.returned (if reply.length ≤ o.room then 1 else -1),
        (c.setSocket src).append (reply.take o.room)) := by
  obtain ⟨⟨req, line, hnext, hline, rfl⟩, hmalloc⟩ := h
  have hreply := auth_request_eq names o req (c.setSocket src)
  have hfiles : key_line (c.setSocket src).files = some line := hline
  simp only [hfiles, hmalloc, if_true] at hreply
  rw [hnext.read, carry_out_auth_request hnext.2, Prog.bind_of_returned hreply]
  simp only [Prog.pure_apply, decide_eq_true_eq]

variable (heap) in
theorem read_unanswered (h : ¬ ∃ reply src, Replied names reads o c reply src) :
    ∃ src, (read_from_server_expect heap names reads o VNS_AUTH_REQUEST c).2 = c.setSocket src ∧
      (read_from_server_expect heap names reads o VNS_AUTH_REQUEST c).1 ≠ .returned 1 := by
  by_cases hnext : ∃ req src, NextMessage reads o VNS_AUTH_REQUEST c req src
  · obtain ⟨req, src, hnext⟩ := hnext
    have hrefused : sr_handle_auth_request names o req (c.setSocket src) =
        (.returned false, c.setSocket src) := by
      rw [auth_request_eq]
      cases hline : key_line (c.setSocket src).files with
      | none => rfl
      | some line =>
        have hmalloc : o.malloc = false := by
          rw [← Bool.not_eq_true]
          exact fun hmalloc => h ⟨_, src, ⟨req, line, hnext, hline, rfl⟩, hmalloc⟩
        simp only [hmalloc]
        rfl
    refine ⟨src, ?_⟩
    rw [hnext.read, carry_out_auth_request hnext.2, Prog.bind_of_returned hrefused]
    exact ⟨rfl, by simp⟩
  · exact read_without (by decide) fun req src hreq => hnext ⟨req, src, hreq⟩

theorem Granted.read (h : Granted reads o c src) :
    read_from_server_expect heap names reads o VNS_AUTH_STATUS c =
      (.returned 1, c.setSocket src) := by
  obtain ⟨status, hnext, hok⟩ := h
  rw [hnext.read, carry_out_auth_status hnext.2, hok]
  rfl

variable (heap names) in
theorem read_refused (h : ¬ ∃ src, Granted reads o c src) :
    ∃ src, (read_from_server_expect heap names reads o VNS_AUTH_STATUS c).2 = c.setSocket src ∧
      (read_from_server_expect heap names reads o VNS_AUTH_STATUS c).1 ≠ .returned 1 := by
  by_cases hnext : ∃ status src, NextMessage reads o VNS_AUTH_STATUS c status src
  · obtain ⟨status, src, hnext⟩ := hnext
    have hno : sr_handle_auth_status o status = false := by
      rw [← Bool.not_eq_true]
      exact fun hok => h ⟨src, status, hnext, hok⟩
    refine ⟨src, ?_⟩
    rw [hnext.read, carry_out_auth_status hnext.2, hno]
    exact ⟨rfl, by simp⟩
  · exact read_without (by decide) fun status src hstatus => hnext ⟨status, src, hstatus⟩

theorem Received.read {fn : Filename} {table : List uint8_t} (h : Received reads o c fn table src) :
    read_from_server_expect heap names reads o VNS_RTABLE c =
      (.returned 1, (c.setSocket src).write fn table) := by
  obtain ⟨rtable, hnext, rfl, hlen, hwritable, rfl⟩ := h
  rw [hnext.read, carry_out_rtable hnext.2, sr_handle_rtable]
  simp only [if_neg (Nat.not_le.mpr hlen), hwritable]
  rfl

variable (heap names) in
theorem read_unreceived (h : ¬ ∃ fn table src, Received reads o c fn table src) :
    ∃ src, (read_from_server_expect heap names reads o VNS_RTABLE c).2 = c.setSocket src ∧
      (read_from_server_expect heap names reads o VNS_RTABLE c).1 ≠ .returned 1 := by
  by_cases hnext : ∃ rtable src, NextMessage reads o VNS_RTABLE c rtable src
  · obtain ⟨rtable, src, hnext⟩ := hnext
    refine ⟨src, ?_⟩
    rw [hnext.read, carry_out_rtable hnext.2, sr_handle_rtable]
    by_cases hlen : fn_size ≤ (rtable_stem ++ message_host o rtable).length
    · simp only [if_pos hlen]
      exact ⟨rfl, by simp⟩
    · have hunwritable : o.writable (rtable_stem ++ message_host o rtable) = false := by
        rw [← Bool.not_eq_true]
        exact fun hwritable =>
          h ⟨_, _, src, rtable, hnext, rfl, Nat.not_le.mp hlen, hwritable, rfl⟩
      simp only [if_neg hlen, hunwritable]
      exact ⟨rfl, by simp⟩
  · exact read_without (by decide) fun rtable src hrtable => hnext ⟨rtable, src, hrtable⟩

/-! ### The handshake -/

variable {outside : Nat → Outside} {connects : Bool} {reply : List uint8_t} {c₁ : Client}

/-- The server's first two messages: it asks, and agrees to what was answered. -/
structure Authenticated (names : Names) (reads : Nat) (outside : Nat → Outside) (c : Client)
    (reply : List uint8_t) (c₁ : Client) : Prop where
  whole : reply.length ≤ (outside 0).room
  messages : ∃ src₁ src₂, Replied names reads (outside 0) c reply src₁ ∧
    Granted reads (outside 1) (c.setSocket src₁) src₂ ∧ c₁ = (c.setSocket src₂).append reply

/-- The rest of `sr_connect_to_server`. -/
def open_session (heap : Heap) (names : Names) (reads : Nat) (outside : Nat → Outside) :
    Connection Int := do
  let opened ← send_all (outside 2) (open_message names)
  if !opened then pure (-1)
  else if names.has_template then do
    let rtable ← read_from_server_expect heap names reads (outside 3) VNS_RTABLE
    if rtable ≠ 1 then pure (-1) else pure 0
  else pure 0

theorem connect_authenticated (h : Authenticated names reads outside c reply c₁) :
    sr_connect_to_server heap names reads true outside c =
      open_session heap names reads outside c₁ := by
  obtain ⟨hwhole, src₁, src₂, hanswered, hgranted, rfl⟩ := h
  have hrequest := hanswered.read heap
  rw [if_pos hwhole, List.take_of_length_le hwhole] at hrequest
  have hgranted' : Granted reads (outside 1) ((c.setSocket src₁).append reply) src₂ := hgranted
  rw [sr_connect_to_server]
  simp only [Bool.not_true, Bool.false_eq_true, if_false]
  rw [Prog.bind_of_returned hrequest, if_neg (by decide)]
  rw [Prog.bind_of_returned hgranted'.read, if_neg (by decide)]
  rfl

/-- What is sent to a server that does not agree: nothing, or what fits of the reply. -/
def RefusedPart (names : Names) (reads : Nat) (outside : Nat → Outside) (c : Client)
    (part : List uint8_t) : Prop :=
  part = [] ∨ ∃ reply src, Replied names reads (outside 0) c reply src ∧
    part = reply.take (outside 0).room

theorem bind_not_one {m : Connection Int} {f : Connection Int} {c₁ : Client}
    (hstate : (m c).2 = c₁) (hone : (m c).1 ≠ .returned 1) :
    ((m >>= fun n => if n ≠ 1 then pure (-1) else f) c).2 = c₁ ∧
      ∀ n, ((m >>= fun n => if n ≠ 1 then pure (-1) else f) c).1 = .returned n → n = -1 := by
  subst hstate
  rcases hm : m c with ⟨n | e | _, c'⟩
  · have hn : n ≠ 1 := fun hn => hone (by rw [hm, hn])
    rw [Prog.bind_of_returned hm, if_pos hn]
    exact ⟨rfl, fun n hn => (Outcome.returned.inj hn).symm⟩
  · rw [Prog.bind_of_fault hm]
    exact ⟨rfl, by simp⟩
  · rw [Prog.bind_of_exhausted hm]
    exact ⟨rfl, by simp⟩

variable (heap connects) in
theorem connect_unauthenticated (h : ¬ ∃ reply c₁, Authenticated names reads outside c reply c₁) :
    ∃ src part, RefusedPart names reads outside c part ∧
      (sr_connect_to_server heap names reads connects outside c).2 =
        (c.setSocket src).append part ∧
      ∀ n, (sr_connect_to_server heap names reads connects outside c).1 = .returned n →
        n = -1 := by
  have hnil : ∀ c : Client, c.append [] = c := fun c => by
    simp only [Client.append, List.append_nil]
  cases connects with
  | false =>
    refine ⟨c.socket, [], .inl rfl, (hnil c).symm, fun n hn => ?_⟩
    exact (Outcome.returned.inj hn).symm
  | true =>
    rw [sr_connect_to_server]
    simp only [Bool.not_true, Bool.false_eq_true, if_false]
    by_cases hasked : ∃ reply src, Replied names reads (outside 0) c reply src
    · obtain ⟨reply, src₁, hanswered⟩ := hasked
      have hrequest := hanswered.read heap
      by_cases hwhole : reply.length ≤ (outside 0).room
      · -- the reply is sent, and the server does not agree
        rw [if_pos hwhole] at hrequest
        have hrefused : ¬ ∃ src, Granted reads (outside 1)
            ((c.setSocket src₁).append (reply.take (outside 0).room)) src := by
          rintro ⟨src₂, hgranted⟩
          exact h ⟨reply, _, hwhole, src₁, src₂, hanswered, hgranted, rfl⟩
        obtain ⟨src, hstate, hone⟩ := read_refused heap names hrefused
        rw [Prog.bind_of_returned hrequest, if_neg (by decide)]
        exact ⟨src, _, .inr ⟨reply, src₁, hanswered, rfl⟩, bind_not_one hstate hone⟩
      · rw [if_neg hwhole] at hrequest
        rw [Prog.bind_of_returned hrequest, if_pos (by decide)]
        refine ⟨src₁, _, .inr ⟨reply, src₁, hanswered, rfl⟩, rfl, fun n hn => ?_⟩
        exact (Outcome.returned.inj hn).symm
    · obtain ⟨src, hstate, hone⟩ := read_unanswered heap hasked
      exact ⟨src, [], .inl rfl, bind_not_one (hstate.trans (hnil _).symm) hone⟩

/-! ### The session that is opened -/

/-- What the client has once it has asked for a topology. -/
inductive Opened (names : Names) (reads : Nat) (outside : Nat → Outside) (c₁ : Client) :
    Client → Prop where
  | plain (htemplate : names.has_template = false) :
      Opened names reads outside c₁ (c₁.append (open_message names))
  | template {fn : Filename} {table : List uint8_t} {src : Socket}
      (htemplate : names.has_template = true)
      (hreceived : Received reads (outside 3) c₁ fn table src) :
      Opened names reads outside c₁
        (((c₁.append (open_message names)).setSocket src).write fn table)

theorem open_session_iff : open_session heap names reads outside c₁ = (.returned 0, c') ↔
    (open_message names).length ≤ (outside 2).room ∧ Opened names reads outside c₁ c' := by
  have hsend : send_all (outside 2) (open_message names) c₁ =
      (.returned (decide ((open_message names).length ≤ (outside 2).room)),
        c₁.append ((open_message names).take (outside 2).room)) := rfl
  rw [open_session, Prog.bind_of_returned hsend]
  by_cases hwhole : (open_message names).length ≤ (outside 2).room
  · rw [List.take_of_length_le hwhole]
    simp only [hwhole, decide_true, Bool.not_true, Bool.false_eq_true, if_false, true_and]
    cases htemplate : names.has_template with
    | false =>
      constructor
      · intro hreturned
        obtain rfl := (Prod.mk.inj hreturned).2
        exact .plain htemplate
      · rintro (- | ⟨hyes, -⟩)
        · rfl
        · exact absurd (hyes.symm.trans htemplate) (by decide)
    | true =>
      simp only [if_true]
      by_cases hreceived : ∃ fn table src,
          Received reads (outside 3) (c₁.append (open_message names)) fn table src
      · obtain ⟨fn, table, src, hreceived⟩ := hreceived
        rw [Prog.bind_of_returned hreceived.read, if_neg (by decide)]
        constructor
        · intro hreturned
          obtain rfl := (Prod.mk.inj hreturned).2
          exact .template htemplate hreceived
        · rintro (hno | ⟨-, hreceived'⟩)
          · exact absurd (hno.symm.trans htemplate) (by decide)
          · obtain ⟨rtable, hnext, rfl, -, -, rfl⟩ := hreceived
            obtain ⟨rtable', hnext', rfl, -, -, rfl⟩ := hreceived'
            have hsame := hnext.1.symm.trans hnext'.1
            simp only [Option.some.injEq, Prod.mk.injEq] at hsame
            obtain ⟨rfl, rfl⟩ := hsame
            rfl
      · obtain ⟨src, hstate, hone⟩ := read_unreceived heap names hreceived
        refine iff_of_false (fun hreturned => ?_) ?_
        · exact absurd ((bind_not_one hstate hone).2 0 (congrArg Prod.fst hreturned)) (by decide)
        · rintro (hno | ⟨-, hreceived'⟩)
          · exact absurd (hno.symm.trans htemplate) (by decide)
          · exact hreceived ⟨_, _, _, hreceived'⟩
  · simp only [hwhole, decide_false, Bool.not_false, if_true, false_and, iff_false]
    intro hreturned
    exact absurd (congrArg Prod.fst hreturned) (by simp)

/-- **A session is opened** when the server asks and agrees, and the messages that go out are
    taken whole; with a template, it also has to send a routing table. -/
theorem connected_iff : sr_connect_to_server heap names reads true outside c = (.returned 0, c') ↔
    ∃ reply c₁, Authenticated names reads outside c reply c₁ ∧
      (open_message names).length ≤ (outside 2).room ∧ Opened names reads outside c₁ c' := by
  constructor
  · intro hreturned
    by_cases hauth : ∃ reply c₁, Authenticated names reads outside c reply c₁
    · obtain ⟨reply, c₁, hauth⟩ := hauth
      rw [connect_authenticated hauth] at hreturned
      exact ⟨reply, c₁, hauth, open_session_iff.mp hreturned⟩
    · obtain ⟨-, -, -, -, hzero⟩ :=
        connect_unauthenticated heap true hauth
      exact absurd (hzero 0 (congrArg Prod.fst hreturned)) (by decide)
  · rintro ⟨reply, c₁, hauth, hopened⟩
    rw [connect_authenticated hauth]
    exact open_session_iff.mpr hopened

/-! ### Any server -/

/-- Asking for a topology handles no frame. -/
theorem open_session_quiet (heap : Heap) (names : Names) (reads : Nat)
    (outside : Nat → Outside) (c₁ : Client) :
    (open_session heap names reads outside c₁).2.session = c₁.session ∧
      (open_session heap names reads outside c₁).2.sent =
        c₁.sent ++ (open_message names).take (outside 2).room := by
  have hsend : send_all (outside 2) (open_message names) c₁ =
      (.returned (decide ((open_message names).length ≤ (outside 2).room)),
        c₁.append ((open_message names).take (outside 2).room)) := rfl
  rw [open_session, Prog.bind_of_returned hsend]
  split
  · exact ⟨rfl, rfl⟩
  · split
    · generalize hopen : c₁.append ((open_message names).take (outside 2).room) = c₂
      have hsent : c₂.session = c₁.session ∧
          c₂.sent = c₁.sent ++ (open_message names).take (outside 2).room := by
        rw [← hopen]
        exact ⟨rfl, rfl⟩
      by_cases hreceived : ∃ fn table src, Received reads (outside 3) c₂ fn table src
      · obtain ⟨fn, table, src, hreceived⟩ := hreceived
        rw [Prog.bind_of_returned hreceived.read, if_neg (by decide)]
        exact hsent
      · obtain ⟨src, hstate, hone⟩ := read_unreceived heap names hreceived
        rw [(bind_not_one hstate hone).1]
        exact hsent
    · exact ⟨rfl, rfl⟩

/-- No frame is handled, and no table changed. -/
theorem connect_session (heap : Heap) (names : Names) (reads : Nat) (connects : Bool)
    (outside : Nat → Outside) (c : Client) :
    (sr_connect_to_server heap names reads connects outside c).2.session = c.session := by
  by_cases hauth : connects = true ∧ ∃ reply c₁, Authenticated names reads outside c reply c₁
  · obtain ⟨rfl, reply, c₁, hauth⟩ := hauth
    obtain ⟨-, src₁, src₂, -, -, hstate⟩ := id hauth
    rw [connect_authenticated hauth, (open_session_quiet heap names reads outside c₁).1, hstate]
    rfl
  · cases connects with
    | false => rfl
    | true =>
      obtain ⟨src, part, -, hstate, -⟩ :=
        connect_unauthenticated heap true fun h => hauth ⟨rfl, h⟩
      rw [hstate]
      rfl

/-- **Nothing before authentication**: whatever the server sends, and however the call ends, no
    frame is handled and no table changed. A server that has not asked and agreed gets at most
    the reply, and only after that the message that opens a session goes out. -/
theorem silent_until_authenticated (heap : Heap) (names : Names) (reads : Nat) (connects : Bool)
    (outside : Nat → Outside) (c : Client) :
    (sr_connect_to_server heap names reads connects outside c).2.session = c.session ∧
      ∃ part, (sr_connect_to_server heap names reads connects outside c).2.sent = c.sent ++ part ∧
        (RefusedPart names reads outside c part ∨
          ∃ reply c₁, Authenticated names reads outside c reply c₁ ∧
            part = reply ++ (open_message names).take (outside 2).room) := by
  refine ⟨connect_session heap names reads connects outside c, ?_⟩
  by_cases hauth : connects = true ∧ ∃ reply c₁, Authenticated names reads outside c reply c₁
  · obtain ⟨rfl, reply, c₁, hauth⟩ := hauth
    rw [connect_authenticated hauth]
    obtain ⟨-, src₁, src₂, -, -, hstate⟩ := id hauth
    refine ⟨_, ?_, .inr ⟨reply, c₁, hauth, rfl⟩⟩
    rw [(open_session_quiet heap names reads outside c₁).2, hstate, ← List.append_assoc]
    rfl
  · cases connects with
    | false => exact ⟨[], (List.append_nil _).symm, .inl (.inl rfl)⟩
    | true =>
      obtain ⟨src, part, hpart, hstate, -⟩ :=
        connect_unauthenticated heap true fun h => hauth ⟨rfl, h⟩
      rw [hstate]
      exact ⟨part, rfl, .inl hpart⟩

/-! ### A server that sends whole messages -/

section messages
open Source
variable {rs : List (Recv uint8_t)} {m₁ m₂ m₃ rest : List uint8_t} {src : Socket}

/-- What the client needs to answer and to go on, apart from the server. -/
structure Prepared (names : Names) (outside : Nat → Outside) (c : Client)
    (m₁ m₃ reply : List uint8_t) : Prop where
  key : ∃ line, key_line c.files = some line ∧
    reply = auth_reply names.username (hashed (outside 0) m₁ line)
  malloc : (outside 0).malloc = true
  whole : reply.length ≤ (outside 0).room
  opened : (open_message names).length ≤ (outside 2).room
  /-- The file for the routing table has a name that fits, and can be written. -/
  file : names.has_template = true →
    (rtable_stem ++ message_host (outside 3) m₃).length < fn_size ∧
      (outside 3).writable (rtable_stem ++ message_host (outside 3) m₃) = true

/-- What the messages have to be. -/
structure Agreeing (names : Names) (outside : Nat → Outside) (m₁ m₂ m₃ : List uint8_t) : Prop where
  asks : command_of (outside 0) m₁ = VNS_AUTH_REQUEST
  agrees : command_of (outside 1) m₂ = VNS_AUTH_STATUS ∧
    sr_handle_auth_status (outside 1) m₂ = true
  routes : names.has_template = true → command_of (outside 3) m₃ = VNS_RTABLE

/-- The client after that. -/
def opened_client (names : Names) (outside : Nat → Outside) (c : Client)
    (m₃ reply : List uint8_t) (src : Socket) : Client :=
  let opened := ((c.setSocket src).append reply).append (open_message names)
  if names.has_template then
    opened.write (rtable_stem ++ message_host (outside 3) m₃) (message_rtable (outside 3) m₃)
  else opened

/-- What is read is the next message. -/
theorem NextMessage.of_read {o : Outside} {m buf : List uint8_t} {cmd : uint32_t}
    {src src' : Socket} (hread : read_command reads c.socket = some (some m, src'))
    (h : NextMessage reads o cmd c buf src) : buf = m ∧ src = src' := by
  have hsame := hread.symm.trans h.1
  simp only [Option.some.injEq, Prod.mk.injEq] at hsame
  exact ⟨hsame.1.symm, hsame.2.symm⟩

variable (names outside reply c₁) in
theorem authenticated_iff {src₁ src₂ : Socket}
    (hread₁ : read_command reads c.socket = some (some m₁, src₁))
    (hread₂ : read_command reads src₁ = some (some m₂, src₂)) :
    Authenticated names reads outside c reply c₁ ↔ command_of (outside 0) m₁ = VNS_AUTH_REQUEST ∧
      (command_of (outside 1) m₂ = VNS_AUTH_STATUS ∧
        sr_handle_auth_status (outside 1) m₂ = true) ∧
      (∃ line, key_line c.files = some line ∧
        reply = auth_reply names.username (hashed (outside 0) m₁ line)) ∧
      (outside 0).malloc = true ∧ reply.length ≤ (outside 0).room ∧
      c₁ = (c.setSocket src₂).append reply := by
  constructor
  · rintro ⟨hwhole, src₁', src₂', ⟨⟨req, line, hreq, hline, rfl⟩, hmalloc⟩, ⟨status, hstatus, hok⟩,
      rfl⟩
    obtain ⟨rfl, rfl⟩ := hreq.of_read hread₁
    obtain ⟨rfl, rfl⟩ := hstatus.of_read (c := c.setSocket src₁') hread₂
    exact ⟨hreq.2, ⟨hstatus.2, hok⟩, ⟨line, hline, rfl⟩, hmalloc, hwhole, rfl⟩
  · rintro ⟨hasks, ⟨hagrees, hok⟩, ⟨line, hline, rfl⟩, hmalloc, hwhole, rfl⟩
    exact ⟨hwhole, src₁, src₂, ⟨⟨m₁, line, ⟨hread₁, hasks⟩, hline, rfl⟩, hmalloc⟩,
      ⟨m₂, ⟨hread₂, hagrees⟩, hok⟩, rfl⟩

/-- **A session is opened** by a server whose messages come in any pieces exactly when they are
    the ones that are waited for and the client is prepared for them. What has been sent then
    is the reply and the message that opens a session, and what comes next is left to the main
    loop. -/
theorem session_opens_iff (heap : Heap) (names : Names) (outside : Nat → Outside)
    (hrs : Steady rs) (hreads : rs.length < reads)
    (hsocket : c.socket = rs ++ₛ src) (hm₁ : WholeMessage m₁) (hm₂ : WholeMessage m₂)
    (hm₃ : names.has_template = true → WholeMessage m₃)
    (hcontents : contents rs =
      m₁ ++ (m₂ ++ (if names.has_template then m₃ ++ rest else rest))) :
    ∃ rs', Steady rs' ∧ contents rs' = rest ∧ ∀ c',
      sr_connect_to_server heap names reads true outside c = (.returned 0, c') ↔
        Agreeing names outside m₁ m₂ m₃ ∧ ∃ reply, Prepared names outside c m₁ m₃ reply ∧
          c' = opened_client names outside c m₃ reply (rs' ++ₛ src) := by
  obtain ⟨rs₁, hrs₁, hle₁, hrest₁, hread₁⟩ :=
    read_command_message src hrs hm₁ hcontents hreads
  rw [← hsocket] at hread₁
  obtain ⟨rs₂, hrs₂, hle₂, hrest₂, hread₂⟩ :=
    read_command_message src hrs₁ hm₂ hrest₁ (Nat.lt_of_le_of_lt hle₁ hreads)
  have hauth (reply : List uint8_t) (c₁ : Client) :=
    authenticated_iff names outside reply c₁ hread₁ hread₂
  cases htemplate : names.has_template with
  | false =>
    rw [htemplate, if_neg Bool.false_ne_true] at hrest₂
    refine ⟨rs₂, hrs₂, hrest₂, fun c' => connected_iff.trans ?_⟩
    simp only [hauth, opened_client, htemplate, Bool.false_eq_true, if_false]
    constructor
    · rintro ⟨reply, c₁, ⟨hasks, hagrees, hkey, hmalloc, hwhole, rfl⟩, hroom, hopened⟩
      cases hopened with
      | plain => exact ⟨⟨hasks, hagrees, by simp [htemplate]⟩, reply,
          ⟨hkey, hmalloc, hwhole, hroom, by simp [htemplate]⟩, rfl⟩
      | template hyes => exact absurd (hyes.symm.trans htemplate) (by decide)
    · rintro ⟨⟨hasks, hagrees, -⟩, reply, ⟨hkey, hmalloc, hwhole, hroom, -⟩, rfl⟩
      exact ⟨reply, _, ⟨hasks, hagrees, hkey, hmalloc, hwhole, rfl⟩, hroom, .plain htemplate⟩
  | true =>
    rw [htemplate, if_pos rfl] at hrest₂
    have hreads₂ : rs₂.length < reads :=
      Nat.lt_of_le_of_lt (Nat.le_trans hle₂ hle₁) hreads
    obtain ⟨rs₃, hrs₃, -, hrest₃, hread₃⟩ :=
      read_command_message src hrs₂ (hm₃ htemplate) hrest₂ hreads₂
    refine ⟨rs₃, hrs₃, hrest₃, fun c' => connected_iff.trans ?_⟩
    simp only [hauth, opened_client, htemplate, if_true]
    constructor
    · rintro ⟨reply, c₁, ⟨hasks, hagrees, hkey, hmalloc, hwhole, rfl⟩, hroom, hopened⟩
      cases hopened with
      | plain hno => exact absurd (hno.symm.trans htemplate) (by decide)
      | template _ hreceived =>
        obtain ⟨rtable, hnext, rfl, hfits, hwritable, rfl⟩ := hreceived
        obtain ⟨rfl, rfl⟩ := hnext.of_read hread₃
        exact ⟨⟨hasks, hagrees, fun _ => hnext.2⟩, reply,
          ⟨hkey, hmalloc, hwhole, hroom, fun _ => ⟨hfits, hwritable⟩⟩, rfl⟩
    · rintro ⟨⟨hasks, hagrees, hroutes⟩, reply, ⟨hkey, hmalloc, hwhole, hroom, hfile⟩, rfl⟩
      obtain ⟨hfits, hwritable⟩ := hfile htemplate
      refine ⟨reply, _, ⟨hasks, hagrees, hkey, hmalloc, hwhole, rfl⟩, hroom, ?_⟩
      exact .template htemplate
        ⟨m₃, ⟨hread₃, hroutes htemplate⟩, rfl, hfits, hwritable, rfl⟩

end messages

namespace Sample

/-- The server asks with two bytes of salt, agrees, and sends a routing table. -/
def greeting : List uint8_t := words_bytes [ntohl 10, ntohl VNS_AUTH_REQUEST] ++ [1, 2]

def welcome : List uint8_t := words_bytes [ntohl 9, ntohl VNS_AUTH_STATUS] ++ [1]

def routes : List uint8_t := words_bytes [ntohl 40, ntohl VNS_RTABLE] ++ strncpy IDSIZE [118]

/-- A user with a key, and a template. -/
def named : Names := ⟨strncpy 32 [117], strncpy 32 [118], strncpy 30 [116], 0, []⟩

def keyed : Filename → Option (List uint8_t) := fun fn =>
  if fn = auth_key_file then some [107, 101, 121] else none

def outdoors : Outside where
  behind := fun _ => 0
  now := 0
  fuel := 10
  auth_key := Vector.replicate 65 0
  sha1 := ⟨Vector.replicate 5 0, 0, 0, Vector.replicate 64 0, 0, false, false⟩
  malloc := true
  room := 1000
  writable := fun _ => true

theorem greeting_whole : WholeMessage greeting := ⟨by unfold LengthAdmitted; decide, by decide⟩

theorem greeting_answered : ∃ line reply, keyed auth_key_file = some line ∧
    ReadsBack reply [117] (digest ([1, 2] ++ key_array outdoors.auth_key line)).toBytes := by
  obtain ⟨accepted, c', -, haccepted, hreply⟩ := reply_authenticates named outdoors
    (.start Source.closed keyed) (by decide) greeting_whole (by decide)
  have hyes : accepted = true := haccepted.mpr ⟨by decide, rfl, by decide⟩
  obtain ⟨line, reply, hline, -, hreads, -⟩ := hreply hyes
  obtain rfl : [107, 101, 121] = line := Option.some.inj hline
  exact ⟨_, reply, rfl, hreads⟩

/-- All messages come in one piece. -/
def one_piece : List (Recv uint8_t) := [.data (greeting ++ (welcome ++ routes))]

theorem session_opened : ∃ c', sr_connect_to_server mem named 2 true (fun _ => outdoors)
    (.start (one_piece ++ₛ Source.closed) keyed) = (.returned 0, c') := by
  have hwelcome : WholeMessage welcome := ⟨by unfold LengthAdmitted; decide, by decide⟩
  have hroutes : WholeMessage routes := ⟨by unfold LengthAdmitted; decide, by decide⟩
  have hsteady : Source.Steady one_piece := by decide
  have hpieces : one_piece.length < 2 := by decide
  have hcontents : Source.contents one_piece =
      greeting ++ (welcome ++ (if named.has_template then routes ++ [] else [])) := by decide
  have hsocket : (Client.start (one_piece ++ₛ Source.closed) keyed).socket =
      one_piece ++ₛ Source.closed := rfl
  obtain ⟨rs', -, -, hopens⟩ := session_opens_iff mem named (fun _ => outdoors) hsteady hpieces
    hsocket greeting_whole hwelcome (fun _ => hroutes) hcontents
  refine ⟨_, (hopens _).mpr ⟨⟨by decide, by decide, fun _ => by decide⟩, _,
    ⟨⟨[107, 101, 121], rfl, rfl⟩, rfl, ?_, by decide, fun _ => by decide⟩, rfl⟩⟩
  rw [auth_reply_length]
  decide

end Sample

end SimpleRouter
