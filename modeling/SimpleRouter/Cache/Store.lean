import Mathlib.Data.Multiset.Filter
import SimpleRouter.Cache.Lifetime
import SimpleRouter.Queue.Follows

/-! # The cache as a timed store

    What the cache is for: a store of mappings, each with the time when it was
    learned. A mapping comes when a reply announces it and there is room, and
    goes at the first timeout pass that finds it older than `SR_ARPCACHE_TO`
    seconds. Slots, validity flags and the order of slots do not matter.

    * `Store.step`: the store, one step at a time.
    * `live`: the mappings in the valid slots of the table.
    * `cache_refines_store`: after every run, the table holds what the store holds.
-/

namespace SimpleRouter

open Framework Framework.Prog RouterState Relation

variable {sr : SrInstance} {heap : Heap} {now : time_t} {s t : RouterState} {l : Label}
  {τ : List (System.Taken RouterState Label)} {entries : Entries} {ip : uint32_t}

/-! ### The store -/

/-- A mapping, and when it was learned. -/
structure Mapping where
  ip : uint32_t
  mac : EtherAddr
  added : time_t
  deriving DecidableEq

abbrev Store : Type := Multiset Mapping

namespace Store

/-- A mapping is learned, if there is room. -/
def learn (S : Store) (m : Mapping) : Store := if S.card < SR_ARPCACHE_SZ then m ::ₘ S else S

/-- The mappings that are too old go. -/
def expire (S : Store) (now : time_t) : Store := S.filter fun m => now - m.added ≤ SR_ARPCACHE_TO

def step (sr : SrInstance) (S : Store) (l : Label) : Store :=
  match l with
  | .timeout now => S.expire now
  | _ =>
    match announced sr l with
    | some (mac, ip) => S.learn ⟨ip, mac, l.now⟩
    | none => S

/-- The store after a run from the empty one. -/
def after (sr : SrInstance) (τ : List (System.Taken RouterState Label)) : Store :=
  τ.foldl (fun S x => S.step sr x.label) 0

variable {S : Store} {m : Mapping}

theorem step_of_announced {mac : EtherAddr} (hl : announced sr l = some (mac, ip)) :
    S.step sr l = S.learn ⟨ip, mac, l.now⟩ := by
  cases l with
  | timeout now => cases hl
  | _ => simp only [step, hl]

theorem step_of_silent (hl : announced sr l = none) (htimeout : ∀ now, l ≠ .timeout now) :
    S.step sr l = S := by
  cases l with
  | timeout now => exact absurd rfl (htimeout now)
  | _ => simp only [step, hl]

theorem mem_learn {new : Mapping} (h : m ∈ S.learn new) : m = new ∨ m ∈ S := by
  unfold learn at h
  split at h
  · exact Multiset.mem_cons.mp h
  · exact .inr h

/-- Only a timeout pass takes a mapping away. -/
theorem le_step (htimeout : ∀ now, l ≠ .timeout now) : S ≤ S.step sr l := by
  cases hl : announced sr l with
  | none => rw [step_of_silent hl htimeout]
  | some mapping =>
    rw [step_of_announced hl, learn]
    split
    · exact Multiset.le_cons_self S _
    · exact le_refl S

/-- What is in the store after a step was there, or is announced by it. -/
theorem mem_step (h : m ∈ S.step sr l) : m ∈ S ∨
    announced sr l = some (m.mac, m.ip) ∧ l.now = m.added := by
  cases l with
  | timeout now => exact .inl (Multiset.mem_of_mem_filter h)
  | sweep now => exact .inl h
  | packet now packet interface =>
    cases hl : announced sr (.packet now packet interface) with
    | none => exact .inl (step_of_silent (S := S) hl (by simp) ▸ h)
    | some mapping =>
      rw [step_of_announced hl, learn] at h
      split at h
      · rcases Multiset.mem_cons.mp h with rfl | h
        · exact .inr ⟨rfl, rfl⟩
        · exact .inl h
      · exact .inl h

end Store

/-! ### The table -/

/-- The mapping of a valid entry. -/
def SrArpentry.mapping (e : SrArpentry) : Option Mapping :=
  if e.valid then some ⟨e.ip, e.mac, e.added⟩ else none

/-- The mappings in the valid slots. -/
def live (entries : Entries) : Store := contents SrArpentry.mapping entries

theorem mapping_eq_none {e : SrArpentry} : e.mapping = none ↔ ¬ e.valid := by
  simp [SrArpentry.mapping]

theorem mem_live {m : Mapping} : m ∈ live entries ↔
    ∃ e ∈ entries.toList, e.valid ∧ (⟨e.ip, e.mac, e.added⟩ : Mapping) = m := by
  simp [live, contents, SrArpentry.mapping]

theorem live_empty : live RouterState.empty.cache.entries = 0 := by
  rw [Multiset.eq_zero_iff_forall_notMem]
  intro m hm
  obtain ⟨e, he, hvalid, -⟩ := mem_live.mp hm
  rw [RouterState.empty, Vector.toList_replicate] at he
  rw [(List.mem_replicate.mp he).2] at hvalid
  cases hvalid

/-- A mapping is put into the first free slot, and lost if there is none. -/
theorem live_fill (entries : Entries) (mac : EtherAddr) (ip : uint32_t) (now : time_t) :
    live (sr_arpcache_fill entries mac ip now) = (live entries).learn ⟨ip, mac, now⟩ := by
  have hroom : Multiset.card (live entries) < SR_ARPCACHE_SZ ↔
      ∃ k : Slot, ¬ entries[k].valid := by
    rw [live, card_contents_lt]
    simp only [mapping_eq_none]
  unfold sr_arpcache_fill Store.learn
  rcases firstSlot_cases (fun e : SrArpentry => !e.valid) entries with
    ⟨f, hfind, hfree, -⟩ | ⟨hfind, hfull⟩
  · have hfree' : ¬ entries[f].valid := by simpa using hfree
    rw [if_pos (hroom.mpr ⟨f, hfree'⟩)]
    simp only [hfind]
    exact contents_set (mapping_eq_none.mpr hfree') rfl
  · rw [if_neg]
    · simp only [hfind]
    · intro hlt
      obtain ⟨k, hk⟩ := hroom.mp hlt
      have hused := hfull k
      simp only [Bool.not_eq_false'] at hused
      exact hk hused

theorem live_expire (entries : Entries) (now : time_t) :
    live (sr_arpcache_expire entries now) = (live entries).expire now := by
  refine contents_map fun e => ?_
  by_cases hvalid : e.valid
  · by_cases hold : now - e.added > SR_ARPCACHE_TO
    · have hgone : ¬ now - e.added ≤ SR_ARPCACHE_TO := not_le.mpr hold
      simp only [SrArpentry.mapping, hvalid, hold, and_self, if_true, Bool.false_eq_true, if_false]
      exact (Option.filter_some_eq_none.mpr (by simpa only [decide_eq_true_eq] using hgone)).symm
    · have hstays : now - e.added ≤ SR_ARPCACHE_TO := not_lt.mp hold
      simp only [SrArpentry.mapping, hvalid, hold, and_false, if_true, if_false]
      exact (Option.filter_some_eq_some.mpr (by simpa only [decide_eq_true_eq] using hstays)).symm
  · simp [SrArpentry.mapping, hvalid]

/-! ### Steps -/

/-- Handling packets and requests touches no entry, but for a mapping that is learned. -/
theorem Move.entries_eq (h : Move sr heap l s t) : t.cache.entries = s.cache.entries := by
  cases h with
  | stored => exact queuePacket_entries ..
  | answer_stored => exact queuePacket_entries ..
  | _ => rfl

theorem Path.entries_eq (h : Path sr heap l s t) : t.cache.entries = s.cache.entries := by
  induction h with
  | refl => rfl
  | tail _ hmove ih => exact hmove.entries_eq.trans ih

/-- **One step** of the router is one step of the store, however it ends. -/
theorem step_live (hs : WellFormed s) (fuel : Nat) (l : Label) :
    live (run_label sr heap fuel l s).2.cache.entries =
      (live s.cache.entries).step sr l := by
  cases run_label_stepped sr heap fuel l s hs with
  | learned hl hs' =>
    rw [hs', release_entries, live_fill, Store.step_of_announced hl]
    rfl
  | moved hl htimeout hpath => rw [Path.entries_eq hpath, Store.step_of_silent hl htimeout]
  | passed hl hpath =>
    rw [Path.entries_eq hpath, hl]
    exact live_expire ..

/-! ### Runs -/

theorem live_after (hrun : (router sr heap).Run System.always RouterState.empty τ s) :
    WellFormed s ∧ live s.cache.entries = Store.after sr τ := by
  refine hrun.invariant (I := fun τ s => WellFormed s ∧ live s.cache.entries = Store.after sr τ)
    ⟨.empty, live_empty⟩ ?_
  intro τ t l u _ hboth _ hstep
  obtain ⟨ht, ih⟩ := hboth
  obtain ⟨fuel, hu⟩ := hstep
  have hu' : u = (run_label sr heap fuel l t).2 := by rw [hu]
  refine ⟨?_, ?_⟩
  · rw [hu']
    exact keeps_iff.mp (run_label_wellFormed fuel l) t ht
  · rw [hu', step_live ht, ih, Store.after, Store.after, List.foldl_append]
    rfl

/-- What is in the store was announced by a step of the run that found room. -/
theorem mem_after (τ : List (System.Taken RouterState Label)) {m : Mapping}
    (h : m ∈ Store.after sr τ) :
    ∃ x ∈ τ, announced sr x.label = some (m.mac, m.ip) ∧ x.label.now = m.added := by
  induction τ using List.reverseRecOn with
  | nil => simp [Store.after] at h
  | append_singleton τ x ih =>
    rw [Store.after, List.foldl_append] at h
    rcases Store.mem_step h with hold | ⟨hl, hnow⟩
    · obtain ⟨y, hy, hrest⟩ := ih hold
      exact ⟨y, List.mem_append_left _ hy, hrest⟩
    · exact ⟨x, List.mem_append_right _ (List.mem_singleton.mpr rfl), hl, hnow⟩

theorem lookup_some {cache : SrArpcache} {e : SrArpentry}
    (h : sr_arpcache_lookup cache ip = some e) :
    e.ip = ip ∧ (⟨ip, e.mac, e.added⟩ : Mapping) ∈ live cache.entries := by
  obtain ⟨k, hk, ⟨hvalid, rfl⟩, -⟩ := lastMatch_some (lookup_eq cache ip ▸ h)
  exact ⟨rfl, mem_live.mpr ⟨e, by simp [← hk], hvalid, rfl⟩⟩

/-- **The table holds what the store holds**, after every run. So what a lookup finds was
    announced by a reply in the run, mappings are only lost to timeout passes, and such a
    pass leaves none that is older than `SR_ARPCACHE_TO` seconds. -/
theorem cache_refines_store
    (hrun : (router sr heap).Run System.always RouterState.empty τ s) :
    live s.cache.entries = Store.after sr τ ∧
      (∀ ip entry, sr_arpcache_lookup s.cache ip = some entry → entry.ip = ip ∧
        ∃ x ∈ τ, announced sr x.label = some (entry.mac, ip) ∧ x.label.now = entry.added) ∧
      ∀ x ∈ τ,
        ((∀ now, x.label ≠ .timeout now) →
          live x.before.cache.entries ≤ live x.after.cache.entries) ∧
        ∀ now, x.label = .timeout now →
          live x.after.cache.entries = (live x.before.cache.entries).expire now ∧
          ∀ e ∈ x.after.cache.entries.toList, e.valid → now - e.added ≤ SR_ARPCACHE_TO := by
  have hlive := (live_after hrun).2
  refine ⟨hlive, fun ip entry hfound => ?_, fun x hx => ?_⟩
  · obtain ⟨hip, hmem⟩ := lookup_some hfound
    exact ⟨hip, mem_after τ (hlive ▸ hmem)⟩
  · obtain ⟨τ₁, hbefore, -, fuel, hstep⟩ := hrun.taken hx
    have hafter : live x.after.cache.entries = (live x.before.cache.entries).step sr x.label := by
      rw [← step_live (live_after hbefore).1 fuel x.label, hstep]
    refine ⟨fun htimeout => ?_, fun now hl => ?_⟩
    · exact hafter ▸ Store.le_step htimeout
    · rw [hl] at hafter
      refine ⟨hafter, fun e he hvalid => ?_⟩
      have hmem : (⟨e.ip, e.mac, e.added⟩ : Mapping) ∈ live x.after.cache.entries :=
        mem_live.mpr ⟨e, he, hvalid, rfl⟩
      rw [hafter, Store.step, Store.expire, Multiset.mem_filter] at hmem
      exact hmem.2

namespace Sample

/-- Two mappings are learned, and the first one is lost when it is 16 seconds old. -/
theorem newer_mapping_left : ∃ τ s,
    (router net mem).Run System.always RouterState.empty τ s ∧
    live s.cache.entries = {⟨inet_addr 172 64 3 8, mac 9, 12⟩} ∧
    live s.cache.entries = Store.after net τ ∧
      (∀ ip entry, sr_arpcache_lookup s.cache ip = some entry → entry.ip = ip ∧
        ∃ x ∈ τ, announced net x.label = some (entry.mac, ip) ∧ x.label.now = entry.added) ∧
      ∀ x ∈ τ,
        ((∀ now, x.label ≠ .timeout now) →
          live x.before.cache.entries ≤ live x.after.cache.entries) ∧
        ∀ now, x.label = .timeout now →
          live x.after.cache.entries = (live x.before.cache.entries).expire now ∧
          ∀ e ∈ x.after.cache.entries.toList, e.valid → now - e.added ≤ SR_ARPCACHE_TO := by
  let ifc : SrIf := ⟨eth 2, mac 2, inet_addr 172 64 3 1⟩
  let labels : List Label :=
    [.packet 10 (arp_reply (inet_addr 172 64 3 9) ifc) (eth 2),
      .packet 12 (arp_reply (inet_addr 172 64 3 8) ifc) (eth 2), .timeout 25, .timeout 26]
  have hreach : Reachable net mem System.always (run 20 labels).2 :=
    run_reachable (by decide +kernel)
  obtain ⟨s₀, τ, rfl, hrun⟩ := hreach.run
  exact ⟨τ, _, hrun, by decide +kernel, cache_refines_store hrun⟩

end Sample

end SimpleRouter
