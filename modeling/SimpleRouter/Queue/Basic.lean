import Mathlib.Data.List.Nodup
import SimpleRouter.Model.Arpcache

/-! # The request queue: basic facts

    What each operation on the queue does to its requests, the shape of the
    queue that all of them keep, and the one equation for
    `sr_arpcache_queuereq` that later proofs use.
-/

namespace SimpleRouter

open Framework

namespace RouterState

variable (s : RouterState)

/-- The pending requests. -/
abbrev reqs : List SrArpreq := s.cache.requests

/-- The addresses of the pending requests, in order. -/
def addrs : List Nat := s.reqs.map (·.addr)

/-! ### One field at a time -/

@[simp] theorem emit_cache (e : Event) : (s.emit e).cache = s.cache := rfl
@[simp] theorem emit_detached (e : Event) : (s.emit e).detached = s.detached := rfl
@[simp] theorem emit_brk (e : Event) : (s.emit e).brk = s.brk := rfl
@[simp] theorem emit_log (e : Event) : (s.emit e).log = s.log ++ [e] := rfl

@[simp] theorem alloc_cache : s.alloc.cache = s.cache := rfl
@[simp] theorem alloc_detached : s.alloc.detached = s.detached := rfl
@[simp] theorem alloc_brk : s.alloc.brk = s.brk + 1 := rfl
@[simp] theorem alloc_log : s.alloc.log = s.log := rfl

@[simp] theorem setRequests_requests (reqs : List SrArpreq) :
    (s.setRequests reqs).cache.requests = reqs := rfl
@[simp] theorem setRequests_entries (reqs : List SrArpreq) :
    (s.setRequests reqs).cache.entries = s.cache.entries := rfl
@[simp] theorem setRequests_detached (reqs : List SrArpreq) :
    (s.setRequests reqs).detached = s.detached := rfl
@[simp] theorem setRequests_brk (reqs : List SrArpreq) : (s.setRequests reqs).brk = s.brk := rfl
@[simp] theorem setRequests_log (reqs : List SrArpreq) : (s.setRequests reqs).log = s.log := rfl

@[simp] theorem setEntries_requests (entries : Vector SrArpentry SR_ARPCACHE_SZ) :
    (s.setEntries entries).cache.requests = s.cache.requests := rfl
@[simp] theorem setEntries_entries (entries : Vector SrArpentry SR_ARPCACHE_SZ) :
    (s.setEntries entries).cache.entries = entries := rfl
@[simp] theorem setEntries_detached (entries : Vector SrArpentry SR_ARPCACHE_SZ) :
    (s.setEntries entries).detached = s.detached := rfl
@[simp] theorem setEntries_brk (entries : Vector SrArpentry SR_ARPCACHE_SZ) :
    (s.setEntries entries).brk = s.brk := rfl
@[simp] theorem setEntries_log (entries : Vector SrArpentry SR_ARPCACHE_SZ) :
    (s.setEntries entries).log = s.log := rfl

/-! ### Finding requests -/

variable {s} {req : Nat} {ip : uint32_t} {r : SrArpreq}

theorem reqAt_some (h : s.reqAt req = some r) : r ∈ s.reqs ∧ r.addr = req :=
  ⟨List.mem_of_find?_eq_some h, by simpa using List.find?_some h⟩

theorem reqFor_some (h : s.reqFor ip = some r) : r ∈ s.reqs ∧ r.ip = ip :=
  ⟨List.mem_of_find?_eq_some h, by simpa using List.find?_some h⟩

theorem reqFor_none : s.reqFor ip = none ↔ ∀ r ∈ s.reqs, r.ip ≠ ip := by
  simp [reqFor]

theorem reqAt_isSome : (s.reqAt req).isSome ↔ ∃ r ∈ s.reqs, r.addr = req := by
  simp [reqAt]

/-! ### The shape of the queue -/

/-- Requests lie at distinct allocated addresses, whether on the queue or off
    it, and there is at most one request per IP. -/
structure WellFormed (s : RouterState) : Prop where
  addr_nodup : ((s.reqs ++ s.detached).map (·.addr)).Nodup
  ip_nodup : (s.reqs.map (·.ip)).Nodup
  addr_lt : ∀ r ∈ s.reqs ++ s.detached, r.addr < s.brk

theorem WellFormed.empty : WellFormed RouterState.empty where
  addr_nodup := List.nodup_nil
  ip_nodup := List.nodup_nil
  addr_lt := by
    intro r hr
    cases hr

namespace WellFormed

variable (h : WellFormed s)
include h

theorem addrs_nodup : s.addrs.Nodup := by
  have := h.addr_nodup
  rw [List.map_append] at this
  exact (List.nodup_append.mp this).1

theorem addr_inj {r₁ r₂ : SrArpreq} (h₁ : r₁ ∈ s.reqs) (h₂ : r₂ ∈ s.reqs)
    (he : r₁.addr = r₂.addr) : r₁ = r₂ :=
  List.inj_on_of_nodup_map h.addrs_nodup h₁ h₂ he

theorem ip_inj {r₁ r₂ : SrArpreq} (h₁ : r₁ ∈ s.reqs) (h₂ : r₂ ∈ s.reqs)
    (he : r₁.ip = r₂.ip) : r₁ = r₂ :=
  List.inj_on_of_nodup_map h.ip_nodup h₁ h₂ he

theorem lt_brk (hr : r ∈ s.reqs) : r.addr < s.brk := h.addr_lt r (by simp [hr])

theorem reqAt_eq (hr : r ∈ s.reqs) : s.reqAt r.addr = some r := by
  have hsome : (s.reqAt r.addr).isSome := reqAt_isSome.mpr ⟨r, hr, rfl⟩
  obtain ⟨r', hr'⟩ := Option.isSome_iff_exists.mp hsome
  obtain ⟨hmem, haddr⟩ := reqAt_some hr'
  rw [hr', h.addr_inj hmem hr haddr]

theorem reqFor_eq (hr : r ∈ s.reqs) : s.reqFor r.ip = some r := by
  have hne : s.reqFor r.ip ≠ none := fun hn => reqFor_none.mp hn r hr rfl
  obtain ⟨r', hr'⟩ := Option.ne_none_iff_exists'.mp hne
  obtain ⟨hmem, hip⟩ := reqFor_some hr'
  rw [hr', h.ip_inj hmem hr hip]

theorem emit (e : Event) : WellFormed (s.emit e) := ⟨h.addr_nodup, h.ip_nodup, h.addr_lt⟩

theorem alloc : WellFormed s.alloc :=
  ⟨h.addr_nodup, h.ip_nodup, fun r hr => Nat.lt_succ_of_lt (h.addr_lt r hr)⟩

theorem setEntries (entries : Vector SrArpentry SR_ARPCACHE_SZ) :
    WellFormed (s.setEntries entries) :=
  ⟨h.addr_nodup, h.ip_nodup, h.addr_lt⟩

end WellFormed

/-! ### Writing to a request -/

variable {f : SrArpreq → SrArpreq}

theorem mem_updateReq {r' : SrArpreq} :
    r' ∈ (s.updateReq req f).reqs ↔
      ∃ r ∈ s.reqs, r' = if r.addr = req then f r else r := by
  simp [updateReq, eq_comm]

/-- Only the time and the number of the broadcasts are written. -/
def Marks (f : SrArpreq → SrArpreq) : Prop :=
  ∀ r, (f r).addr = r.addr ∧ (f r).ip = r.ip ∧ (f r).packets = r.packets

/-- A request that was marked waits for the same IP, with the same frames. -/
theorem mem_marked (hf : Marks f) {r' : SrArpreq} (hr' : r' ∈ (s.updateReq req f).reqs) :
    ∃ r ∈ s.reqs, r'.addr = r.addr ∧ r'.ip = r.ip ∧ r'.packets = r.packets := by
  obtain ⟨r, hr, rfl⟩ := mem_updateReq.mp hr'
  refine ⟨r, hr, ?_⟩
  split
  · exact hf r
  · exact ⟨rfl, rfl, rfl⟩

theorem updateReq_addrs (hf : ∀ r, (f r).addr = r.addr) : (s.updateReq req f).addrs = s.addrs := by
  simp only [addrs, updateReq, setRequests_requests, List.map_map]
  apply List.map_congr_left
  intro r _
  by_cases hr : r.addr = req <;> simp [hr, hf]

theorem WellFormed.updateReq (h : WellFormed s) (hf : ∀ r, (f r).addr = r.addr)
    (hip : ∀ r, (f r).ip = r.ip) : WellFormed (s.updateReq req f) where
  addr_nodup := by
    have haddrs : (s.updateReq req f).reqs.map (·.addr) = s.reqs.map (·.addr) :=
      updateReq_addrs hf
    rw [List.map_append, haddrs, ← List.map_append]
    exact h.addr_nodup
  ip_nodup := by
    have hips : (s.updateReq req f).reqs.map (·.ip) = s.reqs.map (·.ip) := by
      simp only [RouterState.updateReq, setRequests_requests, List.map_map]
      apply List.map_congr_left
      intro r _
      by_cases hr : r.addr = req <;> simp [hr, hip]
    rw [hips]
    exact h.ip_nodup
  addr_lt := by
    intro r hr
    rcases List.mem_append.mp hr with hr | hr
    · obtain ⟨r₀, hr₀, rfl⟩ := mem_updateReq.mp hr
      have := h.lt_brk hr₀
      split
      · rwa [hf]
      · exact this
    · exact h.addr_lt r (List.mem_append_right _ hr)

theorem WellFormed.marked (h : WellFormed s) (hf : Marks f) : WellFormed (s.updateReq req f) :=
  h.updateReq (fun r => (hf r).1) fun r => (hf r).2.1

/-! ### Adding a request -/

theorem WellFormed.appendReq (h : WellFormed s) (hip : s.reqFor ip = none) :
    WellFormed (s.appendReq ip) where
  addr_nodup := by
    have hnew : s.brk ∉ (s.reqs ++ s.detached).map (·.addr) := by
      intro hmem
      obtain ⟨r, hr, he⟩ := List.mem_map.mp hmem
      exact absurd (h.addr_lt r hr) (by omega)
    have hperm : ((s.appendReq ip).reqs ++ (s.appendReq ip).detached).Perm
        (⟨s.brk, ip, 0, 0, []⟩ :: (s.reqs ++ s.detached)) := by
      show ((s.reqs ++ [_]) ++ s.detached).Perm _
      rw [List.append_assoc]
      exact List.perm_middle
    apply (hperm.map (·.addr)).nodup_iff.mpr
    exact List.nodup_cons.mpr ⟨hnew, h.addr_nodup⟩
  ip_nodup := by
    show (List.map SrArpreq.ip (s.reqs ++ [⟨s.brk, ip, 0, 0, []⟩])).Nodup
    rw [List.map_append, List.nodup_append]
    refine ⟨h.ip_nodup, by simp, ?_⟩
    rintro a ha b hb rfl
    obtain ⟨r, hr, hra⟩ := List.mem_map.mp ha
    simp only [List.map_cons, List.map_nil, List.mem_singleton] at hb
    exact reqFor_none.mp hip r hr (hra.trans hb)
  addr_lt := by
    intro r hr
    show r.addr < s.brk + 1
    rcases List.mem_append.mp hr with hr | hr
    · rcases List.mem_append.mp hr with hr | hr
      · exact Nat.lt_succ_of_lt (h.lt_brk hr)
      · rw [List.mem_singleton.mp hr]; exact Nat.lt_succ_self _
    · exact Nat.lt_succ_of_lt (h.addr_lt r (List.mem_append_right _ hr))

/-! ### Storing a frame -/

theorem WellFormed.pushPacket (h : WellFormed s) (msg : Message) (req : Nat) (buf : RawFrame)
    (iface : IfName) : WellFormed (s.pushPacket msg req buf iface) :=
  ((h.updateReq (f := fun r => { r with packets := ⟨s.brk, buf, iface⟩ :: r.packets })
    (fun _ => rfl) (fun _ => rfl)).alloc).emit _

/-- The request that a frame for `ip` is stored on. -/
def queueTarget (s : RouterState) (ip : uint32_t) : Nat :=
  match s.reqFor ip with
  | some r => r.addr
  | none => s.brk

/-- The state in which a frame for `ip` is stored: the request is there. -/
def queueReady (s : RouterState) (ip : uint32_t) : RouterState :=
  match s.reqFor ip with
  | some _ => s
  | none => s.appendReq ip

/-- The state after a frame for `ip` was stored. -/
def queuePacket (s : RouterState) (msg : Message) (ip : uint32_t) (buf : RawFrame)
    (iface : IfName) : RouterState :=
  (s.queueReady ip).pushPacket msg (s.queueTarget ip) buf iface

theorem WellFormed.queueReady (h : WellFormed s) (ip : uint32_t) :
    WellFormed (s.queueReady ip) := by
  unfold RouterState.queueReady
  split
  · exact h
  · next hnone => exact h.appendReq hnone

theorem WellFormed.queuePacket (h : WellFormed s) (msg : Message) (ip : uint32_t)
    (buf : RawFrame) (iface : IfName) : WellFormed (s.queuePacket msg ip buf iface) :=
  (h.queueReady ip).pushPacket ..

/-- The request for `ip` is at the target once the queue is ready. -/
theorem exists_queueReady (s : RouterState) (ip : uint32_t) :
    ∃ r ∈ (s.queueReady ip).reqs, r.addr = s.queueTarget ip ∧ r.ip = ip := by
  unfold queueReady queueTarget
  split
  · next r hr => exact ⟨r, (reqFor_some hr).1, rfl, (reqFor_some hr).2⟩
  · exact ⟨⟨s.brk, ip, 0, 0, []⟩, List.mem_append_right _ (List.mem_singleton.mpr rfl), rfl, rfl⟩

theorem queuePacket_log (s : RouterState) (msg : Message) (ip : uint32_t) (buf : RawFrame)
    (iface : IfName) : (s.queuePacket msg ip buf iface).log =
      s.log ++ [.queued msg (s.queueTarget ip) ⟨(s.queueReady ip).brk, buf, iface⟩] := by
  have hready : (s.queueReady ip).log = s.log := by
    unfold RouterState.queueReady
    split <;> rfl
  show (s.queueReady ip).log ++ _ = _
  rw [hready]

theorem queuePacket_entries (s : RouterState) (msg : Message) (ip : uint32_t) (buf : RawFrame)
    (iface : IfName) : (s.queuePacket msg ip buf iface).cache.entries = s.cache.entries := by
  show (s.queueReady ip).cache.entries = _
  unfold RouterState.queueReady
  split <;> rfl

/-- A request that was left alone, or the one that the frame was stored on. -/
theorem mem_queuePacket (h : WellFormed s) {msg : Message} {buf : RawFrame} {iface : IfName}
    {r' : SrArpreq} (hr' : r' ∈ (s.queuePacket msg ip buf iface).reqs) :
    r' ∈ s.reqs ∨ ∃ r addr, (r ∈ s.reqs ∨ r = ⟨s.brk, ip, 0, 0, []⟩) ∧ r.ip = ip ∧
      r' = { r with packets := ⟨addr, buf, iface⟩ :: r.packets } := by
  obtain ⟨r, hr, rfl⟩ := mem_updateReq.mp hr'
  obtain ⟨r₀, hr₀, haddr₀, hip₀⟩ := exists_queueReady s ip
  have hready : r ∈ s.reqs ∨ r = ⟨s.brk, ip, 0, 0, []⟩ := by
    unfold RouterState.queueReady at hr
    split at hr
    · exact .inl hr
    · exact (List.mem_append.mp hr).imp_right List.mem_singleton.mp
  by_cases haddr : r.addr = s.queueTarget ip
  · rw [if_pos haddr]
    obtain rfl := (h.queueReady ip).addr_inj hr hr₀ (haddr.trans haddr₀.symm)
    exact .inr ⟨r, _, hready, hip₀, rfl⟩
  · rw [if_neg haddr]
    refine hready.imp_right fun hnew => absurd ?_ haddr
    rw [← (h.queueReady ip).ip_inj hr hr₀ (by rw [hnew, hip₀])] at haddr₀
    exact haddr₀

/-- The frame was stored on the request for its IP. -/
theorem queuePacket_target (h : WellFormed s) {msg : Message} {buf : RawFrame} {iface : IfName}
    (hr : (s.queuePacket msg ip buf iface).reqAt (s.queueTarget ip) = some r) : r.ip = ip := by
  obtain ⟨hmem, haddr⟩ := reqAt_some hr
  obtain ⟨r₁, hr₁, rfl⟩ := mem_updateReq.mp hmem
  obtain ⟨r₀, hr₀, haddr₀, hip₀⟩ := exists_queueReady s ip
  have haddr₁ : r₁.addr = s.queueTarget ip := by
    split at haddr
    · assumption
    · exact haddr
  rw [if_pos haddr₁, ← hip₀, (h.queueReady ip).addr_inj hr₁ hr₀ (haddr₁.trans haddr₀.symm)]

end RouterState

open RouterState

/-- What `sr_arpcache_queuereq` does with a frame that is not empty. -/
theorem sr_arpcache_queuereq_eq {msg : Message} {ip : uint32_t} {packet : RawFrame}
    {iface : IfName} (hp : packet.length ≠ 0) (s : RouterState) :
    sr_arpcache_queuereq msg ip packet iface s =
      (.returned (s.queueTarget ip), s.queuePacket msg ip packet iface) := by
  simp only [sr_arpcache_queuereq, Prog.read_bind, if_pos hp]
  unfold queuePacket queueReady queueTarget
  cases s.reqFor ip <;> rfl

end SimpleRouter
