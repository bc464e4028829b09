import SimpleRouter.Cache.Store
import SimpleRouter.Safety.Networks

/-! # Whom frames are sent to

    A router believes every ARP reply that is for it. So what it sends reaches
    the right one as far as the replies are right: where no host lies about
    addresses, and the routers are given the right ones, each IP frame is sent
    to an address that has the IP destination of its packet.

    * `RightReply`, `RightAddress`: what is told, and what is made of it.
    * `Overlapped.resolved`: one step of either thread.
    * `addressed_rightly`: a whole network.
-/

namespace SimpleRouter

open Framework RouterState Relation

variable {sr : SrInstance} {heap : Heap} {Right : uint32_t → EtherAddr → Prop} {now : time_t}
  {s t : RouterState} {l : Label}

/-! ### Right addresses -/

/-- An ARP reply gives an address that has the IP. -/
def RightReply (Right : uint32_t → EtherAddr → Prop) (frame : RawFrame) : Prop :=
  has_ether_type frame ethertype_arp → (arp_hdr frame).ar_op = htons arp_op_reply →
    Right (arp_hdr frame).ar_sip (arp_hdr frame).ar_sha

/-- An IP frame is sent to an address that has the IP destination. -/
def RightAddress (Right : uint32_t → EtherAddr → Prop) (frame : RawFrame) : Prop :=
  has_ether_type frame ethertype_ip →
    Right (ip_hdr frame).ip_dst (SrEthernetHdr.ofBytes frame).ether_dhost

theorem RightAddress.of_type {frame : RawFrame}
    (h : (SrEthernetHdr.ofBytes frame).ether_type = htons ethertype_arp) :
    RightAddress Right frame :=
  fun hip => absurd hip (not_ip_of_type h)

theorem RightAddress.set_ether_dhost {frame : RawFrame} {ip : uint32_t} {mac : EtherAddr}
    (hdst : (ip_hdr frame).ip_dst = ip) (h : Right ip mac) :
    RightAddress Right (set_ether_dhost frame mac) := by
  intro _
  rwa [ip_hdr_set_ether_dhost, ether_dhost_set_ether_dhost, hdst]

/-- ARP replies that come in are right. -/
def Label.Honest (Right : uint32_t → EtherAddr → Prop) : Label → Prop
  | .packet _ frame _ => RightReply Right frame
  | _ => True

theorem Label.Honest.announced {mac : EtherAddr} {ip : uint32_t} (h : l.Honest Right)
    (hl : announced sr l = some (mac, ip)) : Right ip mac := by
  cases l with
  | packet now packet interface =>
    simp only [SimpleRouter.announced, Option.ite_none_right_eq_some, Option.some.injEq,
      Prod.mk.injEq] at hl
    obtain ⟨⟨harp, -, hop, -⟩, rfl, rfl⟩ := hl
    exact h harp hop
  | sweep => cases hl
  | timeout => cases hl

/-! ### What waits for an IP -/

variable (heap) in
/-- A frame that waits for an IP is for that IP, and replies give the router's own
    addresses. -/
theorem right_rules (hown : ∀ ifc ∈ sr.if_list, Right ifc.ip ifc.addr) :
    ProducedRules sr heap (Label.Honest Right) (fun _ => True)
      (fun ip frame _ => IpFrame frame ∧ (ip_hdr frame).ip_dst = ip)
      (fun _ frame _ => RightReply Right frame) where
  resolve := by
    intro now packet interface buf msg ip frame iface _ hip hres
    have hframe := hres.ip_frame hip
    refine ⟨trivial, ⟨hframe, hres.dst⟩, fun harp => ?_⟩
    exact absurd hframe.has_ether_type (not_ip_of_arp harp)
  answer := by
    intro buf ip frame iface rtentry ifc req pck _ _ _
    have hframe := icmp_t3_frame_ip heap buf ifc 1 frame
    refine ⟨trivial, ⟨hframe, ?_⟩, fun harp => absurd hframe.has_ether_type (not_ip_of_arp harp)⟩
    rw [ip_hdr_icmp_t3_frame, icmp_error_ip_dst]
  known := by
    intro ip msg frame iface mac hP _ harp
    exact absurd (hP.1.set_ether_dhost mac).has_ether_type (not_ip_of_arp harp)
  release := by
    intro ip frame iface mac req pck hP harp
    exact absurd (hP.1.set_ether_dhost mac).has_ether_type (not_ip_of_arp harp)
  ask := by
    intro ip req now rtentry ifc _ _ _ _ hop
    rw [arp_hdr_request_frame] at hop
    exact absurd (show htons arp_op_request = htons arp_op_reply from hop) (by decide)
  reply := by
    intro packet interface ifc _ hifc _ _
    rw [arp_hdr_reply_frame]
    exact hown ifc (sr_get_interface_mem hifc).1

abbrev Replies (sr : SrInstance) (Right : uint32_t → EtherAddr → Prop) : RouterState → Prop :=
  ProducedAll sr (fun _ => True) (fun ip frame _ => IpFrame frame ∧ (ip_hdr frame).ip_dst = ip)
    (fun _ frame _ => RightReply Right frame)

/-! ### What is known, and what was sent -/

structure Resolved (Right : uint32_t → EtherAddr → Prop) (s : RouterState) : Prop where
  known : ∀ m ∈ live s.cache.entries, Right m.ip m.mac
  log : ∀ msg frame iface accepted, .sent msg frame iface accepted ∈ s.log →
    RightAddress Right frame

namespace Resolved

theorem empty : Resolved Right RouterState.empty where
  known m hm := by
    rw [live_empty] at hm
    exact absurd hm (Multiset.notMem_zero m)
  log msg frame iface accepted h := by cases h

theorem found (h : Resolved Right s) {ip : uint32_t} {entry : SrArpentry}
    (hentry : sr_arpcache_lookup s.cache ip = some entry) : Right ip entry.mac := by
  obtain ⟨rfl, hm⟩ := lookup_some hentry
  exact h.known _ hm

/-- Other changes of the state are none of the cache. -/
theorem same (h : Resolved Right s) (hentries : t.cache.entries = s.cache.entries)
    {L : List Event} (hlog : t.log = s.log ++ L)
    (hL : ∀ msg frame iface accepted, .sent msg frame iface accepted ∈ L →
      RightAddress Right frame) : Resolved Right t where
  known := hentries ▸ h.known
  log msg frame iface accepted hsent := by
    rw [hlog] at hsent
    rcases List.mem_append.mp hsent with hsent | hsent
    · exact h.log _ _ _ _ hsent
    · exact hL _ _ _ _ hsent

theorem send (h : Resolved Right s) {msg : Message} {frame : RawFrame} {iface : IfName}
    (hframe : RightAddress Right frame) (hentries : t.cache.entries = s.cache.entries)
    (hlog : t.log = s.log) : Resolved Right (t.send sr msg frame iface) := by
  refine h.same hentries (congrArg (· ++ _) hlog) fun msg' frame' iface' accepted hsent => ?_
  simp only [List.mem_singleton, Event.sent.injEq] at hsent
  exact hsent.2.1 ▸ hframe

theorem queuePacket (h : Resolved Right s) (msg : Message) (ip : uint32_t) (buf : RawFrame)
    (iface : IfName) : Resolved Right (s.queuePacket msg ip buf iface) :=
  h.same (queuePacket_entries ..) (queuePacket_log ..) (by simp)

theorem expire (h : Resolved Right s) (now : time_t) :
    Resolved Right (s.setEntries (sr_arpcache_expire s.cache.entries now)) where
  known m hm := by
    rw [setEntries_entries, live_expire, Store.expire, Multiset.mem_filter] at hm
    exact h.known m hm.1
  log := h.log

theorem learnFor (h : Resolved Right s) {mac : EtherAddr} {ip : uint32_t} (hright : Right ip mac) :
    Resolved Right (s.learnFor mac ip now) where
  known m hm := by
    have hentries : (s.learnFor mac ip now).cache.entries =
        sr_arpcache_fill s.cache.entries mac ip now := rfl
    rw [hentries, live_fill] at hm
    rcases Store.mem_learn hm with rfl | hm
    · exact hright
    · exact h.known m hm
  log := by
    rw [learnFor_log]
    exact h.log

end Resolved

/-! ### One section -/

/-- A frame goes to what was found for its IP. -/
theorem Move.resolved (h : Move sr heap l s t) (hs : Resolved Right s) : Resolved Right t := by
  cases h with
  | alloc => exact hs.same rfl (List.append_nil _).symm (by simp)
  | took => exact hs.same rfl rfl (by simp)
  | replied _ htype => exact hs.send (.of_type ((arp_reply_frame_type _).trans htype)) rfl rfl
  | sent _ _ hres hentry => exact hs.send (.set_ether_dhost hres.dst (hs.found hentry)) rfl rfl
  | stored => exact hs.queuePacket ..
  | asked => exact hs.send (.of_type (arp_request_frame_type ..)) rfl rfl
  | answered _ _ _ _ _ hentry =>
    refine hs.send (.set_ether_dhost ?_ (hs.found hentry)) rfl rfl
    rw [ip_hdr_icmp_t3_frame, icmp_error_ip_dst, source]
  | answer_stored =>
    have halloc : Resolved Right s.alloc := hs.same rfl (List.append_nil _).symm (by simp)
    exact halloc.queuePacket ..
  | discarded => exact hs.same rfl rfl (by simp)

theorem Path.resolved (h : Path sr heap l s t) (hs : Resolved Right s) : Resolved Right t := by
  induction h with
  | refl => exact hs
  | tail _ hmove ih => exact hmove.resolved ih

/-- The frames of a request go to the address that was learned for its IP. -/
theorem Resolved.release (h : Resolved Right s) (hreplies : Replies sr Right s) {mac : EtherAddr}
    {arpreq : SrArpreq} (hheld : arpreq ∈ s.detached) (hright : Right arpreq.ip mac) :
    Resolved Right (s.emits (release_events sr mac arpreq)) := by
  refine h.same rfl rfl fun msg frame iface accepted hsent => ?_
  obtain ⟨p, hp, he⟩ := List.mem_map.mp hsent
  obtain ⟨-, rfl, -, -⟩ := Event.sent.inj he
  exact .set_ether_dhost (hreplies.held arpreq hheld p hp).2 hright

/-- The mapping that the packet thread has in hand is right. -/
def Phase.HoldsRight (Right : uint32_t → EtherAddr → Prop) : Phase → Prop
  | .releasing mac arpreq => Right arpreq.ip mac
  | _ => True

theorem Phase.HoldsRight.of_attached {phase : Phase} (h : phase.detaches = false) :
    phase.HoldsRight Right := by
  cases phase with
  | releasing => cases h
  | _ => trivial

/-- **One section** of either thread. -/
theorem Sectioned.resolved {st st' : Threads} {l : ThreadLabel}
    (h : Sectioned sr heap (Label.Honest Right) st l st')
    (hc : Carried sr heap (Label.Honest Right) st.1 st.2) (hreplies : Replies sr Right st.1)
    (hs : Resolved Right st.1) (hphase : st.2.HoldsRight Right) :
    Resolved Right st'.1 ∧ st'.2.HoldsRight Right := by
  cases h with
  | received _ hto hpath => exact ⟨(hpath 0).resolved hs, .of_attached hto⟩
  | moved _ _ hto hpath => exact ⟨hpath.resolved hs, .of_attached hto⟩
  | passed _ hpath => exact ⟨hpath.resolved (hs.expire _), hphase⟩
  | learned =>
    obtain ⟨-, packet, interface, hhonest, hann⟩ := hc
    exact ⟨hs.learnFor ((hhonest 0).announced (hann 0)), trivial⟩
  | taken hreq =>
    obtain ⟨-, packet, interface, hhonest, hann⟩ := hc
    have hright := (hhonest 0).announced (hann 0)
    exact ⟨hs.learnFor hright, (reqFor_some hreq).2.symm ▸ hright⟩
  | released hheld =>
    exact ⟨hs.release hreplies (hheld ▸ List.mem_singleton.mpr rfl) hphase, trivial⟩
  | freed => exact ⟨hs.same rfl rfl (by simp), trivial⟩

/-- What is answered goes to what was found for its IP. -/
theorem Parted.resolved {W : SrPacket → Prop} {A : uint32_t → Prop}
    (h : Parted sr heap W A s t) (hs : Resolved Right s) : Resolved Right t := by
  cases h with
  | kept => exact hs
  | alloc => exact hs.same rfl (List.append_nil _).symm (by simp)
  | marked => exact hs.same rfl (List.append_nil _).symm (by simp)
  | asked => exact hs.send (.of_type (arp_request_frame_type ..)) rfl rfl
  | answered hanswer hentry =>
    cases hanswer
    refine hs.send (.set_ether_dhost ?_ (hs.found hentry)) rfl rfl
    rw [ip_hdr_icmp_t3_frame, icmp_error_ip_dst, source]
  | answer_stored => exact hs.queuePacket ..
  | discarded => exact hs.same rfl rfl (by simp)

def Point.HoldsRight (Right : uint32_t → EtherAddr → Prop) : Point → Prop
  | .outside phase => phase.HoldsRight Right
  | .inside _ => True

/-- **One step** of either thread. -/
theorem Overlapped.resolved {W : SrPacket → Prop} {A : uint32_t → Prop} {st st' : Overlap}
    {l : ThreadLabel} (h : Overlapped sr heap (Label.Honest Right) W A st l st')
    (hk : st.Known sr heap (Label.Honest Right) W A) (hreplies : Replies sr Right st.router)
    (hs : Resolved Right st.router) (hpoint : st.point.HoldsRight Right) :
    Resolved Right st'.router ∧ st'.point.HoldsRight Right := by
  cases h with
  | sectioned hsection => exact hsection.resolved hk.point hreplies hs hpoint
  | entered => exact ⟨hs, trivial⟩
  | left => exact ⟨hs, trivial⟩
  | parted hpart => exact ⟨hpart.resolved hs, trivial⟩
  | begun => exact ⟨hs.expire _, hpoint⟩
  | passed hpart => exact ⟨hpart.resolved hs, hpoint⟩

/-- **A router** that is only told right addresses only tells and uses right ones. -/
theorem resolved_of_reachable (hown : ∀ ifc ∈ sr.if_list, Right ifc.ip ifc.addr) {st : Overlap}
    (hst : (overlapping sr heap).Reachable (fun _ l => l.Allowed (Label.Honest Right)) st) :
    Replies sr Right st.router ∧ Resolved Right st.router := by
  obtain ⟨W, A, hrules⟩ :
      ∃ W A, OverlapRules sr heap (Label.Honest Right) W A (Replies sr Right) :=
    ⟨_, _, (right_rules heap hown).overlaps⟩
  have hall : (Replies sr Right st.router ∧ st.Known sr heap (Label.Honest Right) W A) ∧
      Resolved Right st.router ∧ st.point.HoldsRight Right := by
    refine System.Reachable.invariant (I := fun st => (Replies sr Right st.router ∧
      st.Known sr heap (Label.Honest Right) W A) ∧ Resolved Right st.router ∧
        st.point.HoldsRight Right) ?_ ?_ hst
    · rintro st rfl
      exact ⟨⟨⟨.empty, by simp [Overlap.empty, RouterState.empty]⟩, rfl, by simp [Overlap.empty]⟩,
        .empty, trivial⟩
    · rintro st l st' ⟨⟨hr, hk⟩, hs, hpoint⟩ hl hstep
      obtain ⟨hoverlapped, hk'⟩ :=
        step_overlapped hr.produced.pending.wellFormed (hrules.waited _ hr) hk hl hstep
      exact ⟨⟨hrules.overlapped hr hoverlapped, hk'⟩, hoverlapped.resolved hk hr hs hpoint⟩
  exact ⟨hall.1.1, hall.2.1⟩

/-! ### The network -/

section networks
variable {Name : Type} {topo : Topology Name} {st : Name → Overlap}

/-- No one lies about addresses. -/
structure Topology.Honest (topo : Topology Name) (Right : uint32_t → EtherAddr → Prop) :
    Prop where
  host : ∀ i iface frame, topo.host i iface frame → RightReply Right frame
  router : ∀ i, ∀ ifc ∈ (topo.sr i).if_list, Right ifc.ip ifc.addr

theorem Topology.Honest.resolved (h : topo.Honest Right) (i : Name) {st : Overlap}
    (hst : (topo.network.party i).Reachable
      (topo.network.Takes fun x => RightReply Right x.1) st) :
    Replies (topo.sr i) Right st.router ∧ Resolved Right st.router := by
  apply resolved_of_reachable (h.router i)
  apply System.Reachable.mono ?_ hst
  intro st l htakes
  cases l with
  | receive packet interface => exact fun _ => htakes (packet, interface) rfl
  | resume now => trivial
  | timeout now => trivial

theorem Topology.Honest.contract (h : topo.Honest Right) :
    Network.Contract topo.network (fun _ x => RightReply Right x.1)
      (fun _ y => RightReply Right y.1) where
  outside i x hhost := h.host i x.2 x.1 hhost
  link j y i x hpromise hwire := by
    rw [hwire.1]
    exact hpromise
  party i st hst y := by
    rintro ⟨msg, hsent⟩
    exact ((h.resolved i hst).1.produced.log _ hsent).1

/-- **Frames are addressed rightly.** In a network where the replies of hosts and the addresses
    of routers are right, however the threads of each router overlap, what every router has cached
    is right, and every IP frame that it sends goes to an address that has the packet's IP
    destination. -/
theorem addressed_rightly (hhonest : topo.Honest Right)
    (hst : topo.network.system.Reachable System.always st) (i : Name) :
    (∀ ip entry, sr_arpcache_lookup (st i).router.cache ip = some entry → Right ip entry.mac) ∧
      ∀ msg frame iface accepted, .sent msg frame iface accepted ∈ (st i).router.log →
        has_ether_type frame ethertype_ip →
          Right (ip_hdr frame).ip_dst (SrEthernetHdr.ofBytes frame).ether_dhost := by
  obtain ⟨-, hresolved⟩ := hhonest.resolved i (hhonest.contract.reachable hst i)
  exact ⟨fun ip entry hentry => hresolved.found hentry, hresolved.log⟩

end networks

namespace Sample

/-- The host that is asked for, and the interfaces of the routers. -/
def ring_right (ip : uint32_t) (addr : EtherAddr) : Prop :=
  (ip = inet_addr 192 168 2 7 ∧ addr = mac 9) ∨ ∃ ifc ∈ net.if_list, ifc.ip = ip ∧ ifc.addr = addr

theorem ring_honest : ring.Honest ring_right where
  host i iface frame h := by
    rcases h with ⟨-, rfl⟩ | ⟨-, rfl⟩
    · intro harp
      exact absurd harp (by decide +kernel)
    · exact fun _ _ => .inl (by decide +kernel)
  router i ifc hifc := .inr ⟨ifc, hifc, rfl, rfl⟩

/-- Both routers have found the host, and the second sends it the packet. -/
theorem ring_addressed : ∃ st : Bool → Overlap,
    .sent .forward passed_again (eth 1) true ∈ (st true).router.log ∧
    (∀ ip entry, sr_arpcache_lookup (st true).router.cache ip = some entry →
      ring_right ip entry.mac) ∧
    ∀ msg frame iface accepted, .sent msg frame iface accepted ∈ (st true).router.log →
      has_ether_type frame ethertype_ip →
        ring_right (ip_hdr frame).ip_dst (SrEthernetHdr.ofBytes frame).ether_dhost := by
  obtain ⟨st, hreachable, hsent⟩ := ring_passed
  exact ⟨st, hsent, addressed_rightly ring_honest hreachable true⟩

end Sample

end SimpleRouter
