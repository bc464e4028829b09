import SimpleRouter.Queue.Produced

/-! # The sender's sanity check

    `sr_send_packet` drops a frame, with no more than a line on `stderr`, if it
    is not from the address of the interface it is sent on. The source address
    and the interface of a frame are chosen in different places, and a frame
    that waits for ARP keeps both until it is released.

    * `sender_accepts`: no frame is ever dropped there.
-/

namespace SimpleRouter

open Framework Framework.Bytes RouterState

variable {sr : SrInstance} {heap : Heap} {now : time_t} {s : RouterState} {packet frame : RawFrame}
  {interface iface : IfName}

/-- A frame that is sent from the address of its interface. -/
structure Sendable (sr : SrInstance) (frame : RawFrame) (iface : IfName) : Prop where
  length : SrEthernetHdr.size ≤ frame.length
  shost : ∃ ifc, sr_get_interface sr iface = some ifc ∧
    (SrEthernetHdr.ofBytes frame).ether_shost = ifc.addr

namespace Sendable

theorem accepts (h : Sendable sr frame iface) : accepts sr frame iface = true := by
  obtain ⟨ifc, hifc, hshost⟩ := h.shost
  exact send_accepted hifc h.length hshost

theorem set_ether_dhost (h : Sendable sr frame iface) (mac : EtherAddr) :
    Sendable sr (set_ether_dhost frame mac) iface where
  length := by rw [set_ether_dhost_length h.length]; exact h.length
  shost := by rw [ether_shost_set_ether_dhost]; exact h.shost

theorem of_resolves {buf : Nat} {msg : Message} {ip : uint32_t}
    (h : Resolves sr heap buf packet interface msg ip frame iface) : Sendable sr frame iface := by
  obtain ⟨ifc, hifc, hshost, hlen⟩ := h.shost
  exact ⟨hlen, ifc, hifc, hshost⟩

/-- The answer to the sender of a frame that is given up. -/
theorem icmp_t3_frame {ifc : SrIf} (hifc : sr_get_interface sr iface = some ifc) (buf : Nat)
    (code : uint8_t) (frame : RawFrame) :
    Sendable sr (icmp_t3_frame heap buf ifc code frame) iface where
  length := by rw [icmp_t3_frame_length]; decide
  shost := by
    refine ⟨ifc, hifc, ?_⟩
    rw [SimpleRouter.icmp_t3_frame, List.append_assoc, SrEthernetHdr.ofBytes_toBytes,
      icmp_error_ethernet]

theorem arp_request_frame {ifc : SrIf} (hifc : sr_get_interface sr iface = some ifc)
    (ip : uint32_t) : Sendable sr (arp_request_frame ifc ip) ifc.name where
  length := by simp [SimpleRouter.arp_request_frame]
  shost := by
    refine ⟨ifc, by rwa [(sr_get_interface_mem hifc).2], ?_⟩
    rw [SimpleRouter.arp_request_frame, SrEthernetHdr.ofBytes_toBytes]

theorem arp_reply_frame {ifc : SrIf} (hifc : sr_get_interface sr iface = some ifc)
    (packet : RawFrame) : Sendable sr (arp_reply_frame packet ifc) iface where
  length := by simp [SimpleRouter.arp_reply_frame]
  shost := by
    refine ⟨ifc, hifc, ?_⟩
    rw [SimpleRouter.arp_reply_frame, List.append_assoc, SrEthernetHdr.ofBytes_toBytes]

end Sendable

variable (sr heap) in
theorem sendable_rules : ProducedRules sr heap (fun _ => True) (fun _ => True)
    (fun _ => Sendable sr) (fun _ => Sendable sr) where
  resolve _ _ _ _ _ _ _ _ _ _ hres := ⟨trivial, .of_resolves hres, .of_resolves hres⟩
  answer buf _ frame _ _ _ _ _ _ _ hifc :=
    ⟨trivial, .icmp_t3_frame hifc buf 1 frame, .icmp_t3_frame hifc buf 1 frame⟩
  known _ _ _ _ mac _ h := h.set_ether_dhost mac
  release _ _ _ mac _ _ h := h.set_ether_dhost mac
  ask ip _ _ _ _ _ _ hifc := .arp_request_frame hifc ip
  reply packet _ _ _ hifc := .arp_reply_frame hifc packet

/-- **The sender's check never fails**: every frame that was handed to `sr_send_packet`, even
    by a step that crashes, has an Ethernet header with the address of its interface as its
    source, and so has every frame that waits. -/
theorem sender_accepts (hs : Reachable sr heap System.always s) :
    (∀ r ∈ s.reqs, ∀ p ∈ r.packets, Sendable sr p.buf p.iface) ∧
      ∀ l fuel msg buf iface accepted,
        .sent msg buf iface accepted ∈ (run_label sr heap fuel l s).2.log →
        Sendable sr buf iface ∧ sr_ether_addrs_match_interface sr buf iface = true ∧
          accepted = true := by
  have hrules := sendable_rules sr heap
  have hreach := hrules.reachable hs
  refine ⟨hreach.pending.frames, fun l fuel msg buf iface accepted he => ?_⟩
  obtain ⟨hsend, haccepted⟩ := (hrules.run_label (l := l) trivial hreach fuel).log _ he
  have haccepts := hsend.accepts
  refine ⟨hsend, ?_, by rw [haccepted, haccepts]⟩
  simpa only [accepts, Bool.and_eq_true, decide_eq_true_eq, hsend.length, true_and] using haccepts

namespace Sample

/-- The answer to a packet on its last hop waits for ARP, and will be accepted. -/
theorem waiting_answer_accepted : ∃ s : RouterState, s.reqs ≠ [] ∧
    (∀ r ∈ s.reqs, ∀ p ∈ r.packets, Sendable net p.buf p.iface) ∧
    ∀ l fuel msg buf iface accepted,
      .sent msg buf iface accepted ∈ (run_label net mem fuel l s).2.log →
      Sendable net buf iface ∧ sr_ether_addrs_match_interface net buf iface = true ∧
        accepted = true :=
  ⟨(run 20 [.packet 10 (ip_frame (inet_addr 172 64 3 9) (inet_addr 192 168 2 7) 1 17 []) (eth 2)]).2,
    by decide +kernel, sender_accepts (run_reachable (by decide +kernel))⟩

end Sample

end SimpleRouter
