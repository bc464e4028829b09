import SimpleRouter.Server.Connect
import SimpleRouter.Tables.LoadRt

/-! # From `main` to its main loop

    `main` loads a routing table before it connects, unless there is a template,
    and in any case again after that; with a template, the server has sent one
    that is in a file by then. From there on the main loop is the one of
    `Session`.

    * `started`: what `main` has done when it gets to its main loop.
    * `routes_of_startup`: where the routing table comes from.
    * `client_runs_session`: what the main loop does.
-/

namespace SimpleRouter

open Framework Framework.Bytes

variable {heap : Heap} {names : Names} {options : Options} {behind : List uint8_t} {reads : Nat}
  {connects : Bool} {outside : Nat → Outside} {uninit : Nat → RtFields} {socket : Socket}
  {files : Filename → Option (List uint8_t)} {c c' : Client}

/-! ### Loading -/

theorem load_wrap_returned {fields : RtFields} {fn : Filename}
    (h : sr_load_rt_wrap fields fn c = (.returned (), c')) :
    ∃ sr, sr_load_rt fields c.session.sr (c.files fn) = some (sr, 0) ∧
      c' = c.setSession (c.session.setSr sr) := by
  rw [sr_load_rt_wrap, Prog.read_bind] at h
  cases hload : sr_load_rt fields c.session.sr (c.files fn) with
  | none =>
    rw [hload] at h
    cases congrArg Prod.fst h
  | some result =>
    obtain ⟨sr, n⟩ := result
    simp only [hload, Prog.modify_bind] at h
    by_cases hn : n = 0
    · subst hn
      rw [if_neg (by decide)] at h
      exact ⟨sr, rfl, (Prod.mk.inj h).2.symm⟩
    · rw [if_pos hn] at h
      cases congrArg Prod.fst h

theorem load_wrap_loaded {fields : RtFields} {fn : Filename} {sr : SrInstance}
    (h : sr_load_rt fields c.session.sr (c.files fn) = some (sr, 0)) :
    sr_load_rt_wrap fields fn c = (.returned (), c.setSession (c.session.setSr sr)) := by
  rw [sr_load_rt_wrap, Prog.read_bind, h]
  rfl

theorem round_if_list {st st' : RtLoad} {line : List uint8_t}
    (h : sr_load_rt_round st line = .ok st') : st'.sr.if_list = st.sr.if_list := by
  unfold sr_load_rt_round at h
  -- a round that goes on has found all four fields
  split at h
  · cases h
  · split at h
    · cases h
    · split at h
      · cases h
      · split at h
        · cases h
        · obtain rfl := Except.ok.inj h
          show SrInstance.if_list (if st.clear_routing_table then st.sr else
            { st.sr with routing_table := [] }) = st.sr.if_list
          split <;> rfl

theorem rounds_if_list {st st' : RtLoad} {lines : List (List uint8_t)}
    (h : sr_load_rt_rounds st lines = .ok st') : st'.sr.if_list = st.sr.if_list := by
  induction lines generalizing st with
  | nil =>
    obtain rfl := Except.ok.inj h
    rfl
  | cons line lines ih =>
    obtain ⟨st₁, hround, hrest⟩ := rounds_cons_ok.mp h
    rw [ih hrest, round_if_list hround]

/-- Loading leaves the interfaces alone. -/
theorem load_if_list {fields : RtFields} {sr sr' : SrInstance} {file : Option (List uint8_t)}
    (h : sr_load_rt fields sr file = some (sr', 0)) : sr'.if_list = sr.if_list := by
  unfold sr_load_rt at h
  cases file with
  | none => simp at h
  | some file =>
    simp only at h
    split at h
    · next st hst =>
      obtain ⟨rfl, -⟩ := Prod.mk.inj (Option.some.inj h)
      exact rounds_if_list hst
    · cases (Prod.mk.inj (Option.some.inj h)).2
    · cases h

/-- A file that can be read line by line: none is too long, and each has its four fields. -/
structure Loadable (file : List uint8_t) : Prop where
  nonempty : file ≠ []
  short : ∀ line ∈ file_lines file, line.length < BUFSIZ
  fit : ∀ line ∈ file_lines file, FieldsFit line
  complete : ∀ line ∈ file_lines file, Complete line

/-- Its entries replace the table, whatever was in the buffers. -/
theorem Loadable.table {file : List uint8_t} (h : Loadable file) {fields : RtFields}
    {sr sr' : SrInstance} (hload : sr_load_rt fields sr (some file) = some (sr', 0)) :
    sr'.routing_table = (file_lines file).filterMap line_entry := by
  obtain ⟨-, st, hrounds, rfl⟩ | ⟨hn, -⟩ := load_cases h.short hload
  swap
  · exact absurd hn (by decide)
  have hne : file_lines file ≠ [] := by
    obtain ⟨b, rest, rfl⟩ := List.exists_cons_of_ne_nil h.nonempty
    obtain ⟨first, lines, hcons⟩ := file_lines_cons b rest
    rw [hcons]
    exact List.cons_ne_nil _ _
  rw [rounds_table h.fit hne hrounds, rounds_complete h.fit h.complete hrounds]
  rfl

/-! ### `main` before the main loop -/

/-- The client when it gets to the main loop. -/
structure Started (heap : Heap) (options : Options) (behind : List uint8_t) (reads : Nat)
    (connects : Bool) (outside : Nat → Outside) (uninit : Nat → RtFields) (socket : Socket)
    (files : Filename → Option (List uint8_t)) (c : Client) : Prop where
  /-- Without a template, a routing table is loaded that is not used yet. -/
  steps : ∃ sr₀ c₁ sr,
    (if options.template = none then
        sr_load_rt (uninit 0) ⟨[], []⟩ (files options.rtable) = some (sr₀, 0)
      else sr₀ = ⟨[], []⟩) ∧
    sr_connect_to_server heap (options.names behind) reads connects outside
      ⟨⟨sr₀, RouterState.empty, []⟩, socket, files, []⟩ = (.returned 0, c₁) ∧
    sr_load_rt (uninit 1) sr₀ (c₁.files options.rtable) = some (sr, 0) ∧
    c = c₁.setSession ⟨sr, RouterState.empty, []⟩

theorem open_session_returned {c₁ : Client} {n : Int}
    (h : (open_session heap names reads outside c₁).1 = .returned n) : n = 0 ∨ n = -1 := by
  have hsend : send_all (outside 2) (open_message names) c₁ =
      (.returned (decide ((open_message names).length ≤ (outside 2).room)),
        c₁.append ((open_message names).take (outside 2).room)) := rfl
  rw [open_session, Prog.bind_of_returned hsend] at h
  split at h
  · exact .inr (Outcome.returned.inj h).symm
  · split at h
    · have hn (m : Connection Int) (c : Client)
          (hm : ((m >>= fun r => if r ≠ 1 then pure (-1) else pure 0) c).1 = .returned n) :
          n = 0 ∨ n = -1 := by
        obtain ⟨r, c₂, -, hr⟩ := Prog.bind_eq_returned.mp
          (show (m >>= fun r => if r ≠ 1 then pure (-1) else pure 0) c =
            (.returned n, ((m >>= fun r => if r ≠ 1 then pure (-1) else pure 0) c).2) from
            Prod.ext hm rfl)
        split at hr
        · exact .inr (Outcome.returned.inj (Prod.mk.inj hr).1).symm
        · exact .inl (Outcome.returned.inj (Prod.mk.inj hr).1).symm
      exact hn _ _ h
    · exact .inl (Outcome.returned.inj h).symm

/-- The session is opened, or it is not. -/
theorem connect_returned {n : Int}
    (h : (sr_connect_to_server heap names reads connects outside c).1 = .returned n) :
    n = 0 ∨ n = -1 := by
  by_cases hauth : connects = true ∧ ∃ reply c₁, Authenticated names reads outside c reply c₁
  · obtain ⟨rfl, reply, c₁, hauth⟩ := hauth
    rw [connect_authenticated hauth] at h
    exact open_session_returned h
  · cases connects with
    | false => exact .inr (Outcome.returned.inj h).symm
    | true =>
      obtain ⟨-, -, -, -, hminus⟩ := connect_unauthenticated heap true fun h => hauth ⟨rfl, h⟩
      exact .inr (hminus n h)

theorem load_rtable_eq (options : Options) (fields : RtFields) :
    load_rtable options fields = sr_load_rt_wrap fields options.rtable := by
  unfold load_rtable
  split
  · next h => rw [h.2]
  · rfl

/-- `main` gets on only with a session, and with a routing table. -/
theorem main_connect_returned {fields : RtFields} {c₀ : Client}
    (h : main_connect heap options behind reads connects outside fields c₀ = (.returned 0, c)) :
    ∃ c₁ sr, sr_connect_to_server heap (options.names behind) reads connects outside c₀ =
        (.returned 0, c₁) ∧
      sr_load_rt fields c₀.session.sr (c₁.files options.rtable) = some (sr, 0) ∧
      c = c₁.setSession ⟨sr, RouterState.empty, c₀.session.calls⟩ := by
  rw [main_connect] at h
  obtain ⟨connected, c₁, hconnect, hrest⟩ := Prog.bind_eq_returned.mp h
  have hsession := connect_session heap (options.names behind) reads connects outside c₀
  rw [hconnect] at hsession
  rcases connect_returned (congrArg Prod.fst hconnect) with rfl | rfl
  · rw [if_neg (by decide), load_rtable_eq] at hrest
    obtain ⟨⟨⟩, c₂, hload, hinit⟩ := Prog.bind_eq_returned.mp hrest
    obtain ⟨sr, hsr, rfl⟩ := load_wrap_returned hload
    rw [← hsession]
    exact ⟨c₁, sr, hconnect, hsr, (Prod.mk.inj hinit).2.symm⟩
  · rw [if_pos rfl] at hrest
    exact absurd (Outcome.returned.inj (Prod.mk.inj hrest).1) (by decide)

/-- **When `main` gets to its main loop**, it has connected, and loaded the routing table that
    it was told to. -/
theorem started (h : main_startup heap options behind reads connects outside uninit
    (.start socket files) = (.returned 0, c)) :
    Started heap options behind reads connects outside uninit socket files c := by
  unfold main_startup at h
  by_cases htemplate : options.template = none
  · rw [if_pos htemplate] at h
    obtain ⟨⟨⟩, c₀, hload, hconnect⟩ := Prog.bind_eq_returned.mp h
    obtain ⟨sr₀, hsr₀, rfl⟩ := load_wrap_returned hload
    obtain ⟨c₁, sr, hc₁, hsr, rfl⟩ := main_connect_returned hconnect
    exact ⟨sr₀, c₁, sr, by rwa [if_pos htemplate], hc₁, hsr, rfl⟩
  · rw [if_neg htemplate] at h
    obtain ⟨c₁, sr, hc₁, hsr, rfl⟩ := main_connect_returned h
    exact ⟨⟨[], []⟩, c₁, sr, by rw [if_neg htemplate], hc₁, hsr, rfl⟩

/-- **Where the routing table comes from**: in the main loop it is what the file says that `main`
    was told to load. With a template, the server has written one file before that, so where
    this is the one, the routes are those that the server has sent. -/
theorem routes_of_startup {file : List uint8_t}
    (h : main_startup heap options behind reads connects outside uninit (.start socket files) =
      (.returned 0, c))
    (hfile : c.files options.rtable = some file) (hloadable : Loadable file) :
    c.session = ⟨⟨[], (file_lines file).filterMap line_entry⟩, RouterState.empty, []⟩ ∧
      if (options.names behind).has_template then
        ∃ rtable src, read_command reads src = some (some rtable, c.socket) ∧
          command_of (outside 3) rtable = VNS_RTABLE ∧
          c.files = Function.update files (rtable_stem ++ message_host (outside 3) rtable)
            (some (message_rtable (outside 3) rtable)) ∧
          (options.rtable = rtable_stem ++ message_host (outside 3) rtable →
            file = message_rtable (outside 3) rtable)
      else c.files = files := by
  obtain ⟨sr₀, c₁, sr, hfirst, hconnect, hload, rfl⟩ := (started h).steps
  have hfiles : c₁.files options.rtable = some file := hfile
  rw [hfiles] at hload
  have hempty : sr₀.if_list = [] := by
    split at hfirst
    · exact load_if_list hfirst
    · rw [hfirst]
  have hsr : sr = ⟨[], (file_lines file).filterMap line_entry⟩ := by
    rw [← hloadable.table hload, ← hempty, ← load_if_list hload]
  refine ⟨by rw [hsr]; rfl, ?_⟩
  cases connects with
  | false => exact absurd (Outcome.returned.inj (congrArg Prod.fst hconnect)) (by decide)
  | true =>
    obtain ⟨reply, c₂, ⟨-, src₁, src₂, -, -, rfl⟩, -, hopened⟩ := connected_iff.mp hconnect
    cases hopened with
    | plain htemplate =>
      rw [htemplate, if_neg Bool.false_ne_true]
      rfl
    | @template fn table src htemplate hreceived =>
      rw [if_pos htemplate]
      obtain ⟨rtable, ⟨hread, hcommand⟩, rfl, -, -, rfl⟩ := hreceived
      refine ⟨rtable, _, hread, hcommand, rfl, fun hname => ?_⟩
      rw [hname] at hfiles
      exact (Option.some.inj ((Function.update_self _ _ files).symm.trans hfiles)).symm

/-! ### The main loop -/

variable {o : Outside} {buf : List uint8_t} {env : Surroundings} {s s' : Session}

theorem in_session_returned {m : Main Int} {n : Int} (h : in_session m c = (.returned n, c')) :
    m c.session = (.returned n, c'.session) ∧ c'.sent = c.sent := by
  rw [in_session, Prog.within] at h
  rcases hm : m c.session with ⟨_ | _ | _, s⟩
  · rw [hm] at h
    obtain ⟨houtcome, rfl⟩ := Prod.mk.inj h
    obtain rfl := Outcome.returned.inj houtcome
    exact ⟨rfl, rfl⟩
  · rw [hm] at h
    cases congrArg Prod.fst h
  · rw [hm] at h
    cases congrArg Prod.fst h

theorem returned_one {m : Connection Bool}
    (h : (m >>= fun done => pure (if done then 1 else -1)) c = (.returned (1 : Int), c')) :
    m c = (.returned true, c') := by
  obtain ⟨done, c₁, hm, hpure⟩ := Prog.bind_eq_returned.mp h
  obtain ⟨hone, rfl⟩ := Prod.mk.inj hpure
  cases done with
  | true => exact hm
  | false => exact absurd (Outcome.returned.inj hone) (by decide)

theorem auth_request_sent (h : sr_handle_auth_request names o buf c = (.returned true, c')) :
    c'.session = c.session ∧ c.sent <+: c'.sent := by
  rw [auth_request_eq] at h
  split at h
  · cases congrArg Prod.fst h
  · split at h
    · obtain rfl := (Prod.mk.inj h).2
      exact ⟨rfl, List.prefix_append _ _⟩
    · cases congrArg Prod.fst h

theorem rtable_sent (h : sr_handle_rtable o buf c = (.returned true, c')) :
    c'.session = c.session ∧ c'.sent = c.sent := by
  rw [sr_handle_rtable] at h
  split at h
  · cases congrArg Prod.fst h
  · split at h
    · obtain rfl := (Prod.mk.inj h).2
      exact ⟨rfl, rfl⟩
    · cases congrArg Prod.fst h

/-- **One message** of the main loop is one of a session. -/
theorem carry_out_session (h : carry_out heap names o 0 buf c = (.returned 1, c')) :
    run_command heap (o.surroundings true) 0 buf c.session = (.returned 1, c'.session) ∧
      c.sent <+: c'.sent := by
  simp only [carry_out] at h
  simp only [run_command]
  rw [if_neg (expects_any _)] at h ⊢
  by_cases hpacket : command_of o buf = VNSPACKET
  · rw [if_pos hpacket] at h ⊢
    obtain ⟨hrun, hsent⟩ := in_session_returned h
    exact ⟨hrun, hsent ▸ List.prefix_refl _⟩
  rw [if_neg hpacket] at h ⊢
  by_cases hclose : command_of o buf = VNSCLOSE
  · rw [if_pos hclose] at h
    exact absurd (Outcome.returned.inj (congrArg Prod.fst h)) (by decide)
  rw [if_neg hclose] at h ⊢
  by_cases hhwinfo : command_of o buf = VNSHWINFO
  · rw [if_pos hhwinfo] at h ⊢
    obtain ⟨hrun, hsent⟩ := in_session_returned h
    exact ⟨hrun, hsent ▸ List.prefix_refl _⟩
  rw [if_neg hhwinfo] at h ⊢
  by_cases hrtable : command_of o buf = VNS_RTABLE
  · rw [if_pos hrtable] at h
    rw [if_pos (.inl hrtable)]
    obtain ⟨hsession, hsent⟩ := rtable_sent (returned_one h)
    exact ⟨hsession ▸ rfl, hsent ▸ List.prefix_refl _⟩
  rw [if_neg hrtable] at h
  by_cases hrequest : command_of o buf = VNS_AUTH_REQUEST
  · rw [if_pos hrequest] at h
    rw [if_pos (.inr hrequest)]
    obtain ⟨hsession, hsent⟩ := auth_request_sent (returned_one h)
    exact ⟨hsession ▸ rfl, hsent⟩
  rw [if_neg hrequest] at h
  rw [if_neg (not_or.mpr ⟨hrtable, hrequest⟩)]
  by_cases hstatus : command_of o buf = VNS_AUTH_STATUS
  · rw [if_pos hstatus] at h ⊢
    obtain ⟨houtcome, rfl⟩ := Prod.mk.inj h
    refine ⟨?_, List.prefix_refl _⟩
    cases hok : sr_handle_auth_status o buf with
    | true =>
      have hnonzero : u8 (bytes_at (o.surroundings true).behind buf c_auth_status_size)
          c_base_size ≠ 0 := of_decide_eq_true hok
      rw [if_pos hnonzero]
      rfl
    | false =>
      rw [hok] at houtcome
      exact absurd (Outcome.returned.inj houtcome) (by decide)
  · rw [if_neg hstatus] at h ⊢
    obtain rfl := (Prod.mk.inj h).2
    exact ⟨rfl, List.prefix_refl _⟩

theorem read_session (h : read_from_server_expect heap names reads o 0 c = (.returned 1, c')) :
    (∃ buf, run_command heap (o.surroundings true) 0 buf c.session =
      (.returned 1, c'.session)) ∧ c.sent <+: c'.sent := by
  rw [read_from_server_expect] at h
  rcases hread : read_command reads c.socket with _ | ⟨_ | buf, src⟩
  · rw [hread] at h
    cases congrArg Prod.fst h
  · rw [hread] at h
    exact absurd (Outcome.returned.inj (congrArg Prod.fst h)) (by decide)
  · rw [hread] at h
    obtain ⟨hrun, hsent⟩ := carry_out_session h
    exact ⟨⟨buf, hrun⟩, hsent⟩

/-! ### The routing table stays -/

theorem hw_entry_table {a : Nat} {sr sr' : SrInstance} {entry : CHwEntry}
    (h : sr_handle_hw_entry heap a sr entry = some sr') :
    sr'.routing_table = sr.routing_table := by
  rw [sr_handle_hw_entry, sr_set_ether_ip, sr_set_ether_addr] at h
  split at h
  · obtain rfl := Option.some.inj h
    rfl
  · split at h
    · split at h
      · cases h
      · obtain rfl := Option.some.inj h
        rfl
    · split at h
      · split at h
        · cases h
        · obtain rfl := Option.some.inj h
          rfl
      · obtain rfl := Option.some.inj h
        rfl

theorem hwinfo_loop_table {brk i n : Nat} {hwinfo : List uint8_t} {sr sr' : SrInstance}
    (h : sr_handle_hwinfo_loop heap brk hwinfo i n sr = some sr') :
    sr'.routing_table = sr.routing_table := by
  induction n generalizing i sr with
  | zero =>
    obtain rfl := Option.some.inj h
    rfl
  | succ n ih =>
    rw [sr_handle_hwinfo_loop] at h
    obtain ⟨sr₁, hentry, hrest⟩ := Option.bind_eq_some_iff.mp h
    rw [ih hrest, hw_entry_table hentry]

/-- No message changes the routing table. -/
theorem run_command_table (heap : Heap) (env : Surroundings) (buf : List uint8_t) (s : Session) :
    (run_command heap env 0 buf s).2.sr.routing_table = s.sr.routing_table := by
  by_cases hpacket : message_command env buf = VNSPACKET
  · rw [run_command_packet heap env hpacket, run_packet_sr]
  · simp only [run_command]
    rw [if_neg (expects_any _), if_neg hpacket]
    split
    · rfl
    · split
      · rw [run_hwinfo, Prog.read_bind]
        cases hhandle : sr_handle_hwinfo heap s.router.brk s.sr (message_hwinfo env buf) with
        | none => rfl
        | some result =>
          obtain ⟨sr, n⟩ := result
          obtain ⟨sr₁, hloop, hresult⟩ := Option.bind_eq_some_iff.mp hhandle
          obtain ⟨rfl, -⟩ := Prod.mk.inj (Option.some.inj hresult)
          have htable := hwinfo_loop_table hloop
          simp only [Prog.modify_bind]
          split <;> exact htable
      · split
        · rfl
        · split <;> rfl

/-- **The main loop** of `main`, with any server and with the other thread between messages, is
    one of a session: there are no interfaces, or there are routes and each of them goes to one.
    The routing table is the one that was loaded at first, and what has been sent starts with an
    answer to the server and the message that opens a session. -/
theorem client_runs_session (h : (client heap options behind).Reachable System.always c) :
    (session heap).Reachable System.always c.session ∧
      (c.session.sr.if_list = [] ∨ c.session.sr.routing_table ≠ [] ∧
        ∀ rt ∈ c.session.sr.routing_table, ∃ ifc ∈ c.session.sr.if_list,
          ifc.name = rt.interface) ∧
      ∃ c₀, (client heap options behind).init c₀ ∧
        c.session.sr.routing_table = c₀.session.sr.routing_table ∧
        ∃ message, auth_reply (options.names behind).username message ++
          open_message (options.names behind) <+: c.sent := by
  have hall : (session heap).Reachable System.always c.session ∧
      ∃ c₀, (client heap options behind).init c₀ ∧
        c.session.sr.routing_table = c₀.session.sr.routing_table ∧ c₀.sent <+: c.sent := by
    induction h with
    | @init c hinit =>
      refine ⟨?_, c, hinit, rfl, List.prefix_refl _⟩
      obtain ⟨socket, files, reads, connects, outside, uninit, hstartup⟩ := hinit
      obtain ⟨sr₀, c₁, sr, hfirst, -, hload, rfl⟩ := (started hstartup).steps
      have hempty : sr.if_list = [] := by
        rw [load_if_list hload]
        split at hfirst
        · exact load_if_list hfirst
        · rw [hfirst]
      refine .init ⟨sr.routing_table, ?_⟩
      rw [← hempty]
      rfl
    | @step c c' l _ _ hstep ih =>
      obtain ⟨hsession, c₀, hinit, htable, hsent⟩ := ih
      cases l with
      | read reads o =>
        obtain ⟨⟨buf, hrun⟩, hmore⟩ := read_session hstep
        refine ⟨hsession.step (l := .message (o.surroundings true) buf) trivial hrun, c₀, hinit, ?_,
          hsent.trans hmore⟩
        have hsame := run_command_table heap (o.surroundings true) buf c.session
        rw [hrun] at hsame
        exact hsame.trans htable
      | timeout now =>
        obtain ⟨fuel, router, hpass, rfl⟩ := hstep
        exact ⟨hsession.step (l := .timeout now) trivial ⟨fuel, router, hpass, rfl⟩, c₀, hinit,
          htable, hsent⟩
  obtain ⟨hsession, c₀, hinit, htable, hsent⟩ := hall
  refine ⟨hsession, (session_verified heap hsession).routes_named, c₀, hinit, htable, ?_⟩
  obtain ⟨socket, files, reads, connects, outside, uninit, hstartup⟩ := hinit
  obtain ⟨sr₀, c₁, sr, -, hconnect, -, rfl⟩ := (started hstartup).steps
  cases connects with
  | false => exact absurd (Outcome.returned.inj (congrArg Prod.fst hconnect)) (by decide)
  | true =>
    obtain ⟨reply, c₂, ⟨-, src₁, src₂, hreplied, -, rfl⟩, -, hopened⟩ := connected_iff.mp hconnect
    obtain ⟨⟨req, line, -, -, rfl⟩, -⟩ := hreplied
    refine ⟨hashed (outside 0) req line, List.IsPrefix.trans ?_ hsent⟩
    cases hopened with
    | plain => exact List.prefix_refl _
    | template => exact List.prefix_refl _

namespace Sample

/-- `-T t -r rtable.vrhost` -/
def templated : Options where
  user := [117]
  host := [118]
  template := some [116]
  topo := 0
  rtable := rtable_vrhost

/-- The server asks, agrees and sends one route to `e`. -/
def one_route_message : List uint8_t :=
  words_bytes [ntohl 68, ntohl VNS_RTABLE] ++
    strncpy IDSIZE [0x76, 0x72, 0x68, 0x6f, 0x73, 0x74] ++ one_route

/-- The hardware information for `e`. -/
def one_interface : List uint8_t :=
  hwinfo_message (ntohl 188) (ntohl VNSHWINFO) [twice_set [0x65] 1]

/-- All of that in one piece. -/
def negotiation : List (Recv uint8_t) :=
  [.data (greeting ++ (welcome ++ (one_route_message ++ one_interface)))]

theorem one_route_whole : WholeMessage one_route_message :=
  ⟨by unfold LengthAdmitted; decide +kernel, by decide +kernel⟩

/-- The session with that route. -/
def route_loaded : Session :=
  ⟨⟨[], (file_lines one_route).filterMap line_entry⟩, RouterState.empty, []⟩

theorem one_route_loaded : sr_load_rt no_fields ⟨[], []⟩ (some one_route) =
    some (route_loaded.sr, 0) := by
  decide +kernel

/-- The message says which file it is for. -/
theorem one_route_named : command_of outdoors one_route_message = VNS_RTABLE ∧
    rtable_stem ++ message_host outdoors one_route_message = rtable_vrhost ∧
    message_rtable outdoors one_route_message = one_route := by
  decide +kernel

/-- The client in its main loop, where the hardware information is still to be read. -/
theorem main_loop_reached : ∃ rs c, Source.Steady rs ∧ Source.contents rs = one_interface ∧
    rs.length < 2 ∧ c.socket = rs ++ₛ Source.closed ∧
    c.session = route_loaded ∧ c.files rtable_vrhost = some one_route ∧
    main_startup mem templated [] 2 true (fun _ => outdoors) (fun _ => no_fields)
      (.start (negotiation ++ₛ Source.closed) keyed) = (.returned 0, c) := by
  have hsteady : Source.Steady negotiation := by decide
  have hwelcome : WholeMessage welcome := ⟨by unfold LengthAdmitted; decide, by decide⟩
  have hcontents : Source.contents negotiation =
      greeting ++ (welcome ++ (one_route_message ++ one_interface)) := List.append_nil _
  have hone : negotiation.length < 2 := by decide
  obtain ⟨asks, hanswered⟩ : ∃ c, c = Client.start (negotiation ++ₛ Source.closed) keyed :=
    ⟨_, rfl⟩
  have hsocket : asks.socket = negotiation ++ₛ Source.closed := by rw [hanswered]; rfl
  have hkey : key_line asks.files = some [107, 101, 121] := by rw [hanswered]; rfl
  have hsession : asks.session = ⟨⟨[], []⟩, RouterState.empty, []⟩ := by rw [hanswered]; rfl
  -- the three messages that are read before the main loop
  obtain ⟨rs₁, hrs₁, hle₁, hrest₁, hread₁⟩ :=
    read_command_message Source.closed hsteady greeting_whole hcontents hone
  obtain ⟨rs₂, hrs₂, hle₂, hrest₂, hread₂⟩ :=
    read_command_message Source.closed hrs₁ hwelcome hrest₁ (Nat.lt_of_le_of_lt hle₁ hone)
  have hle₂ : rs₂.length < 2 := Nat.lt_of_le_of_lt (Nat.le_trans hle₂ hle₁) hone
  obtain ⟨rs₃, hrs₃, hle₃, hrest₃, hread₃⟩ :=
    read_command_message Source.closed hrs₂ one_route_whole hrest₂ hle₂
  rw [← hsocket] at hread₁
  obtain ⟨reply, hreply⟩ : ∃ reply, reply = auth_reply (templated.names []).username
    (hashed outdoors greeting [107, 101, 121]) := ⟨_, rfl⟩
  have hwhole : reply.length ≤ 1000 := by
    rw [hreply, auth_reply_length]
    decide
  have hauth := (authenticated_iff (templated.names []) (fun _ => outdoors) reply _
    hread₁ hread₂).mpr ⟨by decide, by decide, ⟨_, hkey, hreply⟩, rfl, hwhole, rfl⟩
  have hreceived : Received 2 outdoors
      (((asks.setSocket (rs₂ ++ₛ Source.closed)).append reply).append
        (open_message (templated.names []))) rtable_vrhost one_route (rs₃ ++ₛ Source.closed) :=
    ⟨one_route_message, ⟨hread₃, one_route_named.1⟩, one_route_named.2.1.symm, by decide, rfl,
      one_route_named.2.2.symm⟩
  obtain ⟨c₁, hc₁⟩ : ∃ c₁, c₁ = ((((asks.setSocket (rs₂ ++ₛ Source.closed)).append reply).append
    (open_message (templated.names []))).setSocket (rs₃ ++ₛ Source.closed)).write rtable_vrhost
      one_route := ⟨_, rfl⟩
  have hconnected : sr_connect_to_server mem (templated.names []) 2 true (fun _ => outdoors) asks =
      (.returned 0, c₁) := by
    rw [hc₁]
    exact connected_iff.mpr ⟨reply, _, hauth, by decide, .template (by decide) hreceived⟩
  have hfile : c₁.files rtable_vrhost = some one_route := by
    rw [hc₁]
    exact Function.update_self rtable_vrhost (some one_route) asks.files
  have hloaded : sr_load_rt no_fields c₁.session.sr (c₁.files rtable_vrhost) =
      some (route_loaded.sr, 0) := by
    rw [hfile, hc₁]
    show sr_load_rt no_fields asks.session.sr (some one_route) = _
    rw [hsession]
    exact one_route_loaded
  have hstarted : main_startup mem templated [] 2 true (fun _ => outdoors) (fun _ => no_fields)
      asks = (.returned 0,
        c₁.setSession ⟨route_loaded.sr, RouterState.empty, c₁.session.calls⟩) := by
    unfold main_startup main_connect
    rw [if_neg (show templated.template ≠ none by decide), Prog.bind_of_returned hconnected,
      if_neg (by decide), load_rtable_eq]
    exact Prog.bind_of_returned (load_wrap_loaded hloaded)
  rw [hanswered] at hstarted
  refine ⟨rs₃, c₁.setSession ⟨route_loaded.sr, RouterState.empty, c₁.session.calls⟩, hrs₃, hrest₃,
    Nat.lt_of_le_of_lt hle₃ hle₂, ?_, ?_, hfile, hstarted⟩
  · rw [hc₁]
    rfl
  · show Session.mk _ _ c₁.session.calls = _
    rw [hc₁]
    show Session.mk _ _ asks.session.calls = _
    rw [hsession]
    rfl

/-- What the server has sent is the routing table. -/
theorem table_started : ∃ c, (client mem templated []).init c ∧ c.session = route_loaded := by
  obtain ⟨-, c, -, -, -, -, -, hfile, hstarted⟩ := main_loop_reached
  have hloadable : Loadable one_route := ⟨by decide, by decide +kernel,
    by unfold FieldsFit; decide +kernel, by decide +kernel⟩
  exact ⟨c, ⟨_, _, _, _, _, _, hstarted⟩, (routes_of_startup hstarted hfile hloadable).1⟩

/-- The hardware information is read in the main loop, and the route goes to an interface. -/
theorem interfaces_started : ∃ c, (client mem templated []).Reachable System.always c ∧
    c.session.sr.if_list ≠ [] ∧ c.session.sr.routing_table ≠ [] ∧
    ∀ rt ∈ c.session.sr.routing_table, ∃ ifc ∈ c.session.sr.if_list, ifc.name = rt.interface := by
  obtain ⟨rs, c, hsteady, hcontents, hfuel, hsocket, hsession, -, hstarted⟩ := main_loop_reached
  have hinit : (client mem templated []).Reachable System.always c :=
    .init ⟨_, _, _, _, _, _, hstarted⟩
  have hwhole : WholeMessage one_interface :=
    ⟨by unfold LengthAdmitted; decide +kernel, by decide +kernel⟩
  obtain ⟨rs', -, -, -, hread⟩ := read_command_message Source.closed hsteady hwhole
    (hcontents.trans (List.append_nil _).symm) hfuel
  rw [← hsocket] at hread
  have hcmd : message_command (outdoors.surroundings true) one_interface = VNSHWINFO := by
    decide +kernel
  obtain ⟨s', hs'⟩ : ∃ s', s' = (run_hwinfo mem (message_hwinfo (outdoors.surroundings true)
    one_interface) route_loaded).2 := ⟨_, rfl⟩
  have hrun : run_hwinfo mem (message_hwinfo (outdoors.surroundings true) one_interface)
      (c.setSocket (rs' ++ₛ Source.closed)).session = (.returned 1, s') := by
    show run_hwinfo mem _ c.session = _
    rw [hsession, hs']
    exact Prod.ext (by decide +kernel) rfl
  have hcarried : carry_out mem (templated.names []) outdoors 0 one_interface
      (c.setSocket (rs' ++ₛ Source.closed)) =
      (.returned 1, (c.setSocket (rs' ++ₛ Source.closed)).setSession s') := by
    simp only [carry_out]
    rw [if_neg (expects_any _), hcmd, if_neg (by decide), if_neg (by decide), if_pos rfl,
      in_session, Prog.within, hrun]
  have hstep : (client mem templated []).step c (.read 2 outdoors)
      ((c.setSocket (rs' ++ₛ Source.closed)).setSession s') := by
    show read_from_server_expect mem (templated.names []) 2 outdoors 0 c = _
    rw [read_from_server_expect, hread]
    exact hcarried
  have hmore : s'.sr.if_list ≠ [] := by
    rw [hs']
    decide +kernel
  have hreach := hinit.step trivial hstep
  obtain ⟨-, hempty | hnamed, -⟩ := client_runs_session hreach
  · exact absurd hempty hmore
  · exact ⟨_, hreach, hmore, hnamed⟩

end Sample

end SimpleRouter
