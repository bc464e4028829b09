import SimpleRouter.Model.LoadRt
import SimpleRouter.Model.Session
import SimpleRouter.Model.Sha1

/-! # Connecting to the server (`sr_vns_comm.c`, `sr_main.c`)

    Before the main loop, `main` loads a routing table and opens a session: it
    answers the server's authentication request, waits for the status, asks for
    a topology, and for one from a template receives the routing table in a
    message. Here are the commands that `Session` takes as done, with the files
    they read and write, and what is sent apart from frames.
-/

namespace SimpleRouter

open Framework Framework.Bytes

/-! ### The state -/

/-- What comes before the end of a string in memory. -/
def c_string (memory : List uint8_t) : List uint8_t := memory.takeWhile (· ≠ 0)

/-- The arrays of `struct sr_instance` that are filled from the command line, with what comes
    behind them. -/
structure Names where
  user : List uint8_t
  host : List uint8_t
  template : List uint8_t
  topo_id : uint16_t
  behind : List uint8_t
  deriving DecidableEq

/-- `sr->user`, which goes on where the array has no terminator. -/
def Names.username (names : Names) : List uint8_t :=
  c_string (names.user ++ names.host ++ names.template ++ names.behind)

/-- `strlen(sr->template) > 0` -/
def Names.has_template (names : Names) : Bool := names.template.head?.any (· ≠ 0)

abbrev Filename := List uint8_t

/-- The program with its files and its connection. -/
structure Client where
  session : Session
  socket : Socket
  files : Filename → Option (List uint8_t)
  /-- What was sent to the server, apart from frames. -/
  sent : List uint8_t

namespace Client

variable (c : Client)

def setSession (session : Session) : Client := { c with session := session }

def setSocket (socket : Socket) : Client := { c with socket := socket }

def write (fn : Filename) (contents : List uint8_t) : Client :=
  { c with files := Function.update c.files fn (some contents) }

def append (bytes : List uint8_t) : Client := { c with sent := c.sent ++ bytes }

end Client

/-- What a call of the reader depends on besides the message. -/
structure Outside where
  /-- The bytes at and behind the end of the message, by their offset in it. -/
  behind : Nat → uint8_t
  now : time_t
  fuel : Nat
  /-- What is in the variables of `sr_handle_auth_request` before they are set. -/
  auth_key : Vector uint8_t 65
  sha1 : SHA1Context
  /-- `malloc` gives a buffer for the reply. -/
  malloc : Bool
  /-- How many bytes `send` takes. -/
  room : Nat
  writable : Filename → Bool

def Outside.surroundings (o : Outside) (succeeds : Bool) : Surroundings :=
  ⟨o.behind, succeeds, o.now, o.fuel⟩

/-- What ends the program early. -/
inductive ClientFault where
  | session (f : SessionFault)
  /-- A write outside of an array. -/
  | overrun
  | exit (status : Int)
  deriving DecidableEq, Repr

/-- A part of `main`. -/
abbrev Connection (α : Type) := Prog ClientFault Client α

/-- A part of the main thread, as a part of `main`. -/
def in_session {α : Type} (m : Main α) : Connection α :=
  Prog.within Client.session (fun session c => c.setSession session) ClientFault.session m

/-! ### Sending -/

/-- `send(..) == len` -/
def send_all (o : Outside) (buf : List uint8_t) : Connection Bool := do
  Prog.modify fun c => c.append (buf.take o.room)
  pure (buf.length ≤ o.room)

def words_bytes (words : List uint32_t) : List uint8_t := words.flatMap le32

/-! ### Authentication -/

def VNS_AUTH_REPLY : uint32_t := 256

abbrev AUTH_KEY_LEN : Nat := 64
abbrev SHA1_LEN : Nat := 20

/-- `sizeof(c_auth_reply)`, without the name. -/
abbrev c_auth_reply_size : Nat := 12

/-- `"auth_key"` -/
def auth_key_file : Filename := [0x61, 0x75, 0x74, 0x68, 0x5f, 0x6b, 0x65, 0x79]

/-- The line that `fgets(s, n, fp)` reads from a file that was just opened, if any. -/
def fgets (n : Nat) (file : List uint8_t) : Option (List uint8_t) :=
  let line := file.take (n - 1)
  if line = [] then none
  else some (line.takeWhile (· ≠ newline) ++ (line.dropWhile (· ≠ newline)).take 1)

/-- The array that a line was read to, as far as it is hashed. -/
def key_array (uninit : Vector uint8_t 65) (line : List uint8_t) : List uint8_t :=
  (line ++ 0 :: uninit.toList.drop (line.length + 1)).take AUTH_KEY_LEN

/-- The salted SHA1 of the key; `none` is an overrun. -/
def salted_sha1 (sha1 : SHA1Context) (salt key : List uint8_t) : Option (SHA1Context × Bool) := do
  let sha1 ← SHA1Input (SHA1Reset sha1) salt
  let sha1 ← SHA1Input sha1 key
  SHA1Result sha1

/-- The reply, with the digest in network byte order. -/
def c_auth_reply (username : List uint8_t) (sha1 : SHA1Context) : List uint8_t :=
  let len_username : uint32_t := BitVec.ofNat 32 username.length
  let len := BitVec.ofNat 32 c_auth_reply_size + len_username + BitVec.ofNat 32 SHA1_LEN
  words_bytes [ntohl len, ntohl VNS_AUTH_REPLY, ntohl len_username] ++ username ++
    words_bytes (sha1.Message_Digest.toList.map ntohl)

/-- `req->salt`, in the length that is passed with it. -/
def message_salt (o : Outside) (req : List uint8_t) : List uint8_t :=
  (bytes_at o.behind req (c_auth_request_size + (salt_len (message_length req)).toNat)).drop
    c_auth_request_size

def sr_handle_auth_request (names : Names) (o : Outside) (req : List uint8_t) :
    Connection Bool := do
  let c ← Prog.read
  match c.files auth_key_file with
  -- "unable to read credentials from 'auth_key' file"
  | none => pure false
  | some file =>
    match fgets (AUTH_KEY_LEN + 1) file with
    | none => pure false
    | some line =>
      match salted_sha1 o.sha1 (message_salt o req) (key_array o.auth_key line) with
      | none => Prog.fail .overrun
      | some (_, false) => pure false
      | some (sha1, true) =>
        if !o.malloc then pure false
        else send_all o (c_auth_reply names.username sha1)

/-- `sr_handle_auth_status`: `status->auth_ok`. -/
def sr_handle_auth_status (o : Outside) (status : List uint8_t) : Bool :=
  u8 (bytes_at o.behind status c_auth_status_size) c_base_size ≠ 0

/-! ### The routing table -/

/-- `"rtable."` -/
def rtable_stem : Filename := [0x72, 0x74, 0x61, 0x62, 0x6c, 0x65, 0x2e]

/-- `sizeof(fn)` -/
abbrev fn_size : Nat := 7 + IDSIZE + 1

/-- `rtable->mVirtualHostID`, as far as it matters that it ends. -/
def message_host (o : Outside) (rtable : List uint8_t) : List uint8_t :=
  c_string ((bytes_at o.behind rtable (c_base_size + fn_size)).drop c_base_size)

/-- `rtable->rtable`, in the length that is written. -/
def message_rtable (o : Outside) (rtable : List uint8_t) : List uint8_t :=
  (bytes_at o.behind rtable (c_rtable_size + (rtable_len (message_length rtable)).toNat)).drop
    c_rtable_size

def sr_handle_rtable (o : Outside) (rtable : List uint8_t) : Connection Bool := do
  let fn := rtable_stem ++ message_host o rtable
  if fn_size ≤ fn.length then Prog.fail .overrun
  else if o.writable fn then do
    Prog.modify fun c => c.write fn (message_rtable o rtable)
    pure true
  else pure false

/-! ### Messages -/

/-- The second half of `sr_read_from_server_expect`. -/
def carry_out (heap : Heap) (names : Names) (o : Outside) (expected_cmd : uint32_t)
    (buf : List uint8_t) : Connection Int :=
  let env := o.surroundings true
  let command := message_command env buf
  if expected_cmd ≠ 0 ∧ command ≠ expected_cmd ∧ command ≠ VNSCLOSE then pure (-1)
  else if command = VNSPACKET then
    in_session (run_packet heap env (message_packet env buf) (message_interface env buf))
  else if command = VNSCLOSE then pure 0
  else if command = VNSHWINFO then in_session (run_hwinfo heap (message_hwinfo env buf))
  else if command = VNS_RTABLE then do
    let written ← sr_handle_rtable o buf
    pure (if written then 1 else -1)
  else if command = VNS_AUTH_REQUEST then do
    let replied ← sr_handle_auth_request names o buf
    pure (if replied then 1 else -1)
  else if command = VNS_AUTH_STATUS then pure (if sr_handle_auth_status o buf then 1 else -1)
  else pure 1

/-- `sr_read_from_server_expect`, where the reader has fuel for `reads` calls in either loop. -/
def read_from_server_expect (heap : Heap) (names : Names) (reads : Nat) (o : Outside)
    (expected_cmd : uint32_t) : Connection Int := fun c =>
  match read_command reads c.socket with
  | none => (.exhausted, c)
  | some (none, src) => (.returned (-1), c.setSocket src)
  | some (some buf, src) => carry_out heap names o expected_cmd buf (c.setSocket src)

/-! ### Opening a session -/

def VNSOPEN : uint32_t := 1
def VNS_OPEN_TEMPLATE : uint32_t := 64

/-- `sizeof(c_open)`. -/
abbrev c_open_size : Nat := 108
/-- `sizeof(c_open_template)`. -/
abbrev c_open_template_size : Nat := 70

/-- `command` -/
def c_open (names : Names) : List uint8_t :=
  words_bytes [ntohl (BitVec.ofNat 32 c_open_size), ntohl VNSOPEN] ++
    le16 (htons names.topo_id) ++ le16 0 ++ strncpy IDSIZE (c_string names.host) ++
    strncpy IDSIZE (c_string names.user) ++ List.replicate IDSIZE 0

/-- `ot` -/
def c_open_template (names : Names) : List uint8_t :=
  words_bytes [ntohl (BitVec.ofNat 32 c_open_template_size), ntohl VNS_OPEN_TEMPLATE] ++
    strncpy 30 (c_string names.template) ++ strncpy IDSIZE (c_string names.host)

def open_message (names : Names) : List uint8_t :=
  if names.has_template then c_open_template names else c_open names

/-- `sr_connect_to_server`, with what each of its calls finds outside. -/
def sr_connect_to_server (heap : Heap) (names : Names) (reads : Nat) (connects : Bool)
    (outside : Nat → Outside) : Connection Int := do
  -- the host is found, and the connection made
  if !connects then pure (-1)
  else do
    let requested ← read_from_server_expect heap names reads (outside 0) VNS_AUTH_REQUEST
    if requested ≠ 1 then pure (-1)
    else do
      let status ← read_from_server_expect heap names reads (outside 1) VNS_AUTH_STATUS
      if status ≠ 1 then pure (-1)
      else do
        let opened ← send_all (outside 2) (open_message names)
        if !opened then pure (-1)
        else if names.has_template then do
          let rtable ← read_from_server_expect heap names reads (outside 3) VNS_RTABLE
          if rtable ≠ 1 then pure (-1) else pure 0
        else pure 0

/-! ### `main` -/

/-- The options of the command line, where `user` is there in any case. -/
structure Options where
  user : List uint8_t
  host : List uint8_t
  template : Option (List uint8_t)
  topo : uint16_t
  rtable : Filename
  deriving DecidableEq

/-- The arrays as `main` fills them. -/
def Options.names (options : Options) (behind : List uint8_t) : Names where
  user := strncpy 32 options.user
  host := strncpy 32 options.host
  template :=
    match options.template with
    | none => [0]
    | some template => strncpy 30 template
  topo_id := options.topo
  behind := behind

/-- `"rtable.vrhost"` -/
def rtable_vrhost : Filename := rtable_stem ++ [0x76, 0x72, 0x68, 0x6f, 0x73, 0x74]

/-- `sr_load_rt_wrap`, with what is in the buffers of `sr_load_rt`. -/
def sr_load_rt_wrap (uninit : RtFields) (rtable : Filename) : Connection Unit := do
  let c ← Prog.read
  match sr_load_rt uninit c.session.sr (c.files rtable) with
  | none => Prog.fail .overrun
  | some (sr, n) => do
    Prog.modify fun c => c.setSession (c.session.setSr sr)
    -- "Error setting up routing table from file %s"
    if n ≠ 0 then Prog.fail (.exit 1) else pure ()

/-- The routing table that `main` loads when it has connected. -/
def load_rtable (options : Options) (uninit : RtFields) : Connection Unit :=
  if options.template ≠ none ∧ options.rtable = rtable_vrhost then
    sr_load_rt_wrap uninit rtable_vrhost
  else sr_load_rt_wrap uninit options.rtable

/-- `sr_init` -/
def sr_init : Connection Unit :=
  Prog.modify fun c => c.setSession (c.session.setRouter RouterState.empty)

/-- `main` from `sr_connect_to_server` to the main loop; the result is 1 where it returns that,
    and 0 where it goes on. -/
def main_connect (heap : Heap) (options : Options) (behind : List uint8_t) (reads : Nat)
    (connects : Bool) (outside : Nat → Outside) (uninit : RtFields) : Connection Int := do
  let connected ← sr_connect_to_server heap (options.names behind) reads connects outside
  if connected = -1 then pure 1
  else do
    load_rtable options uninit
    sr_init
    pure 0

/-- `main` up to the main loop. -/
def main_startup (heap : Heap) (options : Options) (behind : List uint8_t) (reads : Nat)
    (connects : Bool) (outside : Nat → Outside) (uninit : Nat → RtFields) : Connection Int :=
  let connect := main_connect heap options behind reads connects outside (uninit 1)
  if options.template = none then do
    sr_load_rt_wrap (uninit 0) options.rtable
    connect
  else connect

/-- One turn of the main loop: what the call finds outside, and what the other thread has made of
    the cache before it. -/
structure MainTurn where
  outside : Outside
  passes : Session → RouterState

def MainTurn.enter (turn : MainTurn) (c : Client) : Client :=
  c.setSession (c.session.setRouter (turn.passes c.session))

/-- `while (sr_read_from_server(&sr) == 1)`, for some turns; it is exhausted where it goes on. -/
def main_loop (heap : Heap) (names : Names) (reads : Nat) : List MainTurn → Connection Int
  | [] => Prog.exhaust
  | turn :: turns => do
    Prog.modify turn.enter
    let n ← read_from_server_expect heap names reads turn.outside 0
    if n = 1 then main_loop heap names reads turns else pure n

/-- What happens in the main loop: a message is read and carried out, or the other thread makes
    a pass. -/
inductive ClientLabel where
  | read (reads : Nat) (o : Outside)
  | timeout (now : time_t)

/-- The client before `main`: nothing is configured, and nothing was sent. -/
def Client.start (socket : Socket) (files : Filename → Option (List uint8_t)) : Client :=
  ⟨⟨⟨[], []⟩, RouterState.empty, []⟩, socket, files, []⟩

/-- The main loop of a client that has been started, which goes on while 1 is returned. -/
def client (heap : Heap) (options : Options) (behind : List uint8_t) :
    System Client ClientLabel where
  init := fun c => ∃ socket files reads connects outside uninit,
    main_startup heap options behind reads connects outside uninit (.start socket files) =
      (.returned 0, c)
  step := fun c l c' =>
    match l with
    | .read reads o => read_from_server_expect heap (options.names behind) reads o 0 c =
        (.returned 1, c')
    | .timeout now => ∃ fuel router,
        sr_arpcache_timeout c.session.sr heap now fuel c.session.router = (.returned (), router) ∧
          c' = c.setSession (c.session.setRouter router)

end SimpleRouter
