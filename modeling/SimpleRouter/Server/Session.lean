import SimpleRouter.Model.Session
import SimpleRouter.Tables.Hwinfo
import SimpleRouter.Packet.Frames

/-! # Frames and configuration

    Nothing records that hardware information has come. But until it has, there
    are no interfaces, and a session does not go on when its tables do not
    verify; so where an interface is found at all, every route's interface is.
    The filter does not ask whether an interface is found: it asserts it for
    frames that are long enough to be ARP, and lets shorter ones pass.

    * `run_packet_found`, `run_packet_lost`: the ways of a frame.
    * `Reachable.verified`: the tables of a running session.
    * `frames_configured_iff`: which frames are handled on a configured router.
-/

namespace SimpleRouter

open Framework Framework.Bytes

variable {heap : Heap} {env : Surroundings} {buf : List uint8_t} {s s' : Session}
  {packet : RawFrame} {interface : IfName}

/-! ### Calls -/

/-- A call of the filter, or one of the router on tables in which the frame's interface and
    that of every route are found. -/
def Call.Configured : Call → Prop
  | .sr_arp_req_not_for_us _ _ => True
  | .sr_handlepacket sr _ interface => (sr_get_interface sr interface).isSome ∧
      ∀ rt ∈ sr.routing_table, (sr_get_interface sr rt.interface).isSome

def Call.IsFilter : Call → Prop
  | .sr_arp_req_not_for_us _ _ => True
  | .sr_handlepacket _ _ _ => False

/-! ### A frame -/

theorem filter_found (packet : RawFrame) (h : (sr_get_interface s.sr interface).isSome) :
    ∃ drop, sr_arp_req_not_for_us s.sr packet interface = some drop := by
  obtain ⟨ifc, hifc⟩ := Option.isSome_iff_exists.mp h
  unfold sr_arp_req_not_for_us
  split
  · exact ⟨false, rfl⟩
  · rw [hifc]
    exact ⟨_, rfl⟩

/-- Without an interface, the filter lets a frame pass, or fails. -/
theorem filter_lost (h : ¬ (sr_get_interface s.sr interface).isSome) :
    sr_arp_req_not_for_us s.sr packet interface ≠ some true := by
  have hnone := Option.not_isSome_iff_eq_none.mp h
  unfold sr_arp_req_not_for_us
  split
  · simp
  · simp [hnone]

variable (heap env)

theorem run_packet_failed (h : sr_arp_req_not_for_us s.sr packet interface = none) :
    run_packet heap env packet interface s =
      (.fault .no_interface, s.logCall (.sr_arp_req_not_for_us packet interface)) := by
  unfold run_packet
  simp only [Prog.read_bind, Prog.modify_bind, h, Prog.fail_apply]

theorem run_packet_dropped (h : sr_arp_req_not_for_us s.sr packet interface = some true) :
    run_packet heap env packet interface s =
      (.returned 1, s.logCall (.sr_arp_req_not_for_us packet interface)) := by
  unfold run_packet
  simp only [Prog.read_bind, Prog.modify_bind, h, Prog.pure_apply]

/-- The session after a frame was handled; the router is in some state then. -/
def Session.handled (s : Session) (packet : RawFrame) (interface : IfName) (router : RouterState) :
    Session :=
  { s with
    router := router
    calls := s.calls ++
      [.sr_arp_req_not_for_us packet interface, .sr_handlepacket s.sr packet interface] }

/-- **A frame that passes the filter** is handled, and what comes of it is up to the router. -/
theorem run_packet_passed (h : sr_arp_req_not_for_us s.sr packet interface = some false) :
    (∃ router, (run_packet heap env packet interface s).2 = s.handled packet interface router) ∧
      (∀ e, (run_packet heap env packet interface s).1 = .fault e → ∃ f, e = .router f) ∧
      ((sr_handlepacket s.sr heap env.now env.fuel packet interface s.router).1 = .returned () →
        (run_packet heap env packet interface s).1 = .returned 1) := by
  let logged := (s.logCall (.sr_arp_req_not_for_us packet interface)).logCall
    (.sr_handlepacket s.sr packet interface)
  let handle : Main Unit :=
    Prog.within Session.router (fun router s => s.setRouter router) SessionFault.router
      (sr_handlepacket s.sr heap env.now env.fuel packet interface)
  have hrun : run_packet heap env packet interface s = (handle >>= fun _ => pure 1) logged := by
    unfold run_packet
    simp only [Prog.read_bind, Prog.modify_bind, h]
    rfl
  have hcalls : logged.calls = s.calls ++
      [.sr_arp_req_not_for_us packet interface, .sr_handlepacket s.sr packet interface] := by
    simp [logged, Session.logCall]
  rw [hrun]
  refine ⟨⟨(sr_handlepacket s.sr heap env.now env.fuel packet interface s.router).2, ?_⟩, ?_, ?_⟩
  · rw [Prog.bind_pure_state, Prog.within_state, Session.handled, ← hcalls]
    rfl
  · intro e he
    exact Prog.within_fault _ _ _ _ _ (Prog.bind_pure_fault he)
  · intro hreturned
    exact Prog.bind_pure_returned (Prog.within_returned _ _ _ _ _ hreturned)

theorem run_packet_sr (s : Session) (packet : RawFrame) (interface : IfName) :
    (run_packet heap env packet interface s).2.sr = s.sr := by
  cases hfilter : sr_arp_req_not_for_us s.sr packet interface with
  | none =>
    rw [run_packet_failed heap env hfilter]
    rfl
  | some drop =>
    cases drop with
    | true =>
      rw [run_packet_dropped heap env hfilter]
      rfl
    | false =>
      obtain ⟨⟨router, hstate⟩, -⟩ := run_packet_passed heap env hfilter
      rw [hstate]
      rfl

/-! ### Other commands -/

/-- No frame is handed on, and a session that goes on has its old tables, or verified ones. -/
structure HandsOnNothing (s : Session) (result : Outcome SessionFault Int × Session) : Prop where
  calls : result.2.calls = s.calls
  not_asserted : result.1 ≠ .fault .no_interface
  tables : result.1 = .returned 1 → result.2.sr = s.sr ∨ sr_verify_routing_table result.2.sr = 0

theorem HandsOnNothing.of_pure (s : Session) (x : Int) :
    HandsOnNothing s ((pure x : Main Int) s) := by
  constructor
  · rfl
  · simp
  · exact fun _ => .inl rfl

theorem run_hwinfo_quiet (s : Session) (hwinfo : List uint8_t) :
    HandsOnNothing s (run_hwinfo heap hwinfo s) := by
  unfold run_hwinfo
  rw [Prog.read_bind]
  cases hhandle : sr_handle_hwinfo heap s.router.brk s.sr hwinfo with
  | none =>
    constructor
    · rfl
    · simp
    · simp
  | some result =>
    obtain ⟨sr, n⟩ := result
    simp only [Prog.modify_bind]
    by_cases hverify : sr_verify_routing_table sr = 0
    · rw [if_neg (not_not.mpr hverify), Prog.pure_apply]
      constructor
      · rfl
      · simp
      · exact fun _ => .inr hverify
    · rw [if_pos hverify, Prog.pure_apply]
      constructor
      · rfl
      · simp
      · intro h
        exact absurd (Outcome.returned.inj h) (by decide)

/-- The main loop expects no command, so it never refuses one. -/
theorem expects_any (cmd : uint32_t) :
    ¬ ((0 : uint32_t) ≠ 0 ∧ cmd ≠ 0 ∧ cmd ≠ VNSCLOSE) := by
  intro h
  exact h.1 rfl

theorem run_command_packet (h : message_command env buf = VNSPACKET) :
    run_command heap env 0 buf =
      run_packet heap env (message_packet env buf) (message_interface env buf) := by
  rw [run_command, if_neg (expects_any _), if_pos h]

theorem run_command_other (h : message_command env buf ≠ VNSPACKET) (s : Session) :
    HandsOnNothing s (run_command heap env 0 buf s) := by
  rw [run_command, if_neg (expects_any _), if_neg h]
  -- only hardware information does anything
  split
  · exact .of_pure s _
  · split
    · exact run_hwinfo_quiet heap s _
    · split
      · exact .of_pure s _
      · split
        · exact .of_pure s _
        · exact .of_pure s _

/-! ### Running sessions -/

/-- There are no interfaces yet, or the tables verify. -/
def Session.Verified (s : Session) : Prop := s.sr.if_list = [] ∨ sr_verify_routing_table s.sr = 0

/-- Where an interface is found, so is that of every route. -/
theorem Session.Verified.routes_found (h : s.Verified)
    (hfound : (sr_get_interface s.sr interface).isSome) :
    ∀ rt ∈ s.sr.routing_table, (sr_get_interface s.sr rt.interface).isSome := by
  intro rt hrt
  rcases h with hempty | hverify
  · obtain ⟨ifc, hifc⟩ := Option.isSome_iff_exists.mp hfound
    have hmem := (sr_get_interface_mem hifc).1
    rw [hempty] at hmem
    cases hmem
  · exact Option.isSome_iff_exists.mpr (sr_get_interface_of_verify hverify hrt)

/-- Once there are interfaces, there are routes, and each of them goes to one. -/
theorem Session.Verified.routes_named (h : s.Verified) :
    s.sr.if_list = [] ∨ s.sr.routing_table ≠ [] ∧
      ∀ rt ∈ s.sr.routing_table, ∃ ifc ∈ s.sr.if_list, ifc.name = rt.interface := by
  refine h.imp_right fun hverify => ?_
  obtain ⟨hroutes, -, hnamed⟩ := sr_verify_routing_table_eq_zero.mp hverify
  exact ⟨hroutes, hnamed⟩

variable {guard : Session → SessionLabel → Prop}

/-- **A running session** has no interfaces, or verified tables. -/
theorem session_verified (h : (session heap).Reachable guard s) : s.Verified := by
  apply h.invariant
  · intro s hinit
    obtain ⟨routing_table, rfl⟩ := hinit
    exact .inl rfl
  · intro s l s' hverified _ hstep
    cases l with
    | message env buf =>
      have hrun : run_command heap env 0 buf s = (.returned 1, s') := hstep
      by_cases hcmd : message_command env buf = VNSPACKET
      · have hsr := run_packet_sr heap env s (message_packet env buf) (message_interface env buf)
        rw [← run_command_packet heap env hcmd, hrun] at hsr
        unfold Session.Verified
        rw [hsr]
        exact hverified
      · have hquiet := run_command_other heap env hcmd s
        rw [hrun] at hquiet
        rcases hquiet.tables rfl with hsr | hverify
        · unfold Session.Verified
          rw [show s'.sr = s.sr from hsr]
          exact hverified
        · exact .inr hverify
    | timeout now =>
      obtain ⟨fuel, router, -, rfl⟩ := hstep
      exact hverified

/-! ### Every message -/

/-- A frame comes with the name of an interface. -/
def PacketResolves (s : Session) : SessionLabel → Prop
  | .message env buf => message_command env buf = VNSPACKET →
      (sr_get_interface s.sr (message_interface env buf)).isSome
  | .timeout _ => True

/-- How a message should be carried out: frames are handled on a configured router, and the
    interface of a frame is asserted only where it is found. A frame whose interface is not
    found is dropped. -/
def HandledConfigured (heap : Heap) (s : Session) (env : Surroundings) (buf : List uint8_t) :
    Prop :=
  ∃ new, (run_command heap env 0 buf s).2.calls = s.calls ++ new ∧
    (∀ call ∈ new, call.Configured) ∧
    (run_command heap env 0 buf s).1 ≠ .fault .no_interface ∧
    (¬ PacketResolves s (.message env buf) →
      (run_command heap env 0 buf s).1 = .returned 1 ∧ ∀ call ∈ new, call.IsFilter)

/-- A frame whose interface is found. -/
theorem handled_of_found (hverified : s.Verified) (hcmd : message_command env buf = VNSPACKET)
    (hfound : (sr_get_interface s.sr (message_interface env buf)).isSome) :
    HandledConfigured heap s env buf := by
  unfold HandledConfigured
  rw [run_command_packet heap env hcmd]
  have hresolves : PacketResolves s (.message env buf) := fun _ => hfound
  obtain ⟨drop, hfilter⟩ := filter_found (message_packet env buf) hfound
  cases drop with
  | true =>
    rw [run_packet_dropped heap env hfilter]
    refine ⟨[.sr_arp_req_not_for_us _ _], rfl, ?_, by simp, fun h => absurd hresolves h⟩
    intro call hcall
    obtain rfl := List.mem_singleton.mp hcall
    trivial
  | false =>
    obtain ⟨⟨router, hstate⟩, hfault, -⟩ := run_packet_passed heap env hfilter
    rw [hstate]
    refine ⟨_, rfl, ?_, ?_, fun h => absurd hresolves h⟩
    · simp only [List.forall_mem_cons, List.not_mem_nil, false_implies, implies_true, and_true]
      exact ⟨trivial, hfound, hverified.routes_found hfound⟩
    · intro h
      obtain ⟨f, hf⟩ := hfault _ h
      cases hf

/-- A frame whose interface is not found is handled all the same, or fails the assertion. -/
theorem not_handled_of_lost (hcmd : message_command env buf = VNSPACKET)
    (hlost : ¬ (sr_get_interface s.sr (message_interface env buf)).isSome) :
    ¬ HandledConfigured heap s env buf := by
  unfold HandledConfigured
  rw [run_command_packet heap env hcmd]
  intro h
  obtain ⟨new, hcalls, hconfigured, hasserted, -⟩ := h
  cases hfilter : sr_arp_req_not_for_us s.sr (message_packet env buf)
      (message_interface env buf) with
  | none =>
    rw [run_packet_failed heap env hfilter] at hasserted
    exact hasserted rfl
  | some drop =>
    cases drop with
    | true => exact filter_lost hlost hfilter
    | false =>
      obtain ⟨⟨router, hstate⟩, -⟩ := run_packet_passed heap env hfilter
      rw [hstate] at hcalls
      have hnew := List.append_cancel_left hcalls
      have hcall := hconfigured (.sr_handlepacket s.sr (message_packet env buf)
        (message_interface env buf)) (by rw [← hnew]; simp)
      exact hlost hcall.1

/-- A message is carried out as it should be exactly when a frame in it resolves. -/
theorem handled_iff (hverified : s.Verified) :
    HandledConfigured heap s env buf ↔ PacketResolves s (.message env buf) := by
  by_cases hcmd : message_command env buf = VNSPACKET
  · by_cases hfound : (sr_get_interface s.sr (message_interface env buf)).isSome
    · exact iff_of_true (handled_of_found heap env hverified hcmd hfound) fun _ => hfound
    · exact iff_of_false (not_handled_of_lost heap env hcmd hfound) fun h => hfound (h hcmd)
  · have hresolves : PacketResolves s (.message env buf) := fun h => absurd h hcmd
    have hquiet := run_command_other heap env hcmd s
    refine iff_of_true ⟨[], ?_, ?_, hquiet.not_asserted, fun h => absurd hresolves h⟩ hresolves
    · rw [hquiet.calls, List.append_nil]
    · intro call hcall
      cases hcall

/-- **Frames are handled on a configured router** in every run in which each frame comes with
    the name of an interface, and the next message goes on like this exactly if it does. -/
theorem frames_configured_iff (h : (session heap).Reachable PacketResolves s) :
    (∀ call ∈ s.calls, call.Configured) ∧
      ∀ env buf, HandledConfigured heap s env buf ↔ PacketResolves s (.message env buf) := by
  refine ⟨?_, fun env buf => handled_iff heap env (session_verified heap h)⟩
  induction h with
  | init hinit =>
    obtain ⟨routing_table, rfl⟩ := hinit
    intro call hcall
    cases hcall
  | @step s s' l hs hguard hstep ih =>
    cases l with
    | message env buf =>
      obtain ⟨new, hcalls, hnew, -⟩ := (handled_iff heap env (session_verified heap hs)).mpr hguard
      have hrun : run_command heap env 0 buf s = (.returned 1, s') := hstep
      rw [hrun] at hcalls
      rw [show s'.calls = s.calls ++ new from hcalls]
      exact List.forall_mem_append.mpr ⟨ih, hnew⟩
    | timeout now =>
      obtain ⟨fuel, router, -, rfl⟩ := hstep
      exact ih

namespace Sample

def still : Surroundings := ⟨fun _ => 0, true, 0, 10⟩

/-- One route, to `e1`, and no interfaces yet. -/
def unconfigured : Session := ⟨⟨[], [⟨0, 0, 0, IfName.ofChars [101, 49]⟩]⟩, RouterState.empty, []⟩

/-- A frame of zeros for `e1`. -/
def early_frame (n : Nat) : List uint8_t := sr_pkt (List.replicate n 0) (IfName.ofChars [101, 49])

/-- Before there are interfaces, a short frame is handled and a longer one fails the
    assertion. -/
theorem early_frames :
    let frame : RawFrame := List.replicate 14 0
    (session mem).Reachable PacketResolves unconfigured ∧
      message_command still (early_frame 14) = VNSPACKET ∧
      (run_command mem still 0 (early_frame 14) unconfigured).2.calls =
        [.sr_arp_req_not_for_us frame (IfName.ofChars [101, 49]),
          .sr_handlepacket unconfigured.sr frame (IfName.ofChars [101, 49])] ∧
      (run_command mem still 0 (early_frame 42) unconfigured).1 = .fault .no_interface ∧
      ¬ HandledConfigured mem unconfigured still (early_frame 14) ∧
      ¬ HandledConfigured mem unconfigured still (early_frame 42) := by
  refine ⟨.init ⟨_, rfl⟩, by decide +kernel, by decide +kernel, by decide +kernel, ?_, ?_⟩
  · exact not_handled_of_lost mem still (by decide +kernel) (by decide +kernel)
  · exact not_handled_of_lost mem still (by decide +kernel) (by decide +kernel)

/-- The hardware information for `e1`. -/
def hardware : List uint8_t :=
  hwinfo_message (ntohl 188) (ntohl VNSHWINFO) [twice_set [101, 49] 1]

/-- The session once that has come, and then with a frame. -/
def configured : Session := (run_command mem still 0 hardware unconfigured).2

def with_frame : Session := (run_command mem still 0 (early_frame 14) configured).2

theorem frame_configured :
    (session mem).Reachable PacketResolves with_frame ∧ with_frame.calls.length = 2 ∧
      (∀ call ∈ with_frame.calls, call.Configured) ∧
      ∀ env buf, HandledConfigured mem with_frame env buf ↔
        PacketResolves with_frame (.message env buf) := by
  have hinit : (session mem).Reachable PacketResolves unconfigured := .init ⟨_, rfl⟩
  have hconfigured : (session mem).Reachable PacketResolves configured := by
    refine hinit.step (l := .message still hardware) ?_ ?_
    · intro hcmd
      revert hcmd
      decide +kernel
    · show run_command mem still 0 hardware unconfigured = _
      decide +kernel
  have hframe : (session mem).Reachable PacketResolves with_frame := by
    refine hconfigured.step (l := .message still (early_frame 14)) ?_ ?_
    · intro _
      decide +kernel
    · show run_command mem still 0 (early_frame 14) configured = _
      decide +kernel
  exact ⟨hframe, by decide +kernel, frames_configured_iff mem hframe⟩

end Sample

end SimpleRouter
