import Mathlib.Tactic.Linarith
import SimpleRouter.Framework.Slots
import SimpleRouter.Queue.Rules

/-! # The life of a learned mapping

    `sr_arpcache_insert` fills the first free slot and leaves other entries for
    the same IP alone; `sr_arpcache_lookup` takes the last entry for the IP. So
    a mapping is the one that is used only if nothing behind its slot says
    otherwise.

    * `lookup_eq`, `fill_cases`, `expire_entry`: the table, slot by slot.
    * `Outlives`: what becomes of the entries for an IP until it is learned anew.
    * `learned_mapping_used_iff`: when the mapping that was learned is used.
-/

namespace SimpleRouter

open Framework Framework.Prog RouterState

/-! ### The table, slot by slot -/

abbrev Entries : Type := Vector SrArpentry SR_ARPCACHE_SZ

abbrev Slot : Type := Fin SR_ARPCACHE_SZ

/-- A valid entry for `ip`. -/
def SrArpentry.For (e : SrArpentry) (ip : uint32_t) : Prop := e.valid ∧ e.ip = ip

instance (e : SrArpentry) (ip : uint32_t) : Decidable (e.For ip) :=
  inferInstanceAs (Decidable (_ ∧ _))

variable {cache : SrArpcache} {entries E₁ E₂ : Entries} {mac : EtherAddr} {ip : uint32_t}
  {now : time_t}

theorem lookup_eq (cache : SrArpcache) (ip : uint32_t) :
    sr_arpcache_lookup cache ip = lastMatch (fun e : SrArpentry => e.For ip) cache.entries := rfl

/-- An entry was put into the first free slot, or there was none. -/
theorem fill_cases (entries : Entries) (mac : EtherAddr) (ip : uint32_t) (now : time_t) :
    (∃ f : Slot, ¬ entries[f].valid ∧ (∀ k < f, entries[k].valid) ∧
      ∀ k : Slot, (sr_arpcache_fill entries mac ip now)[k] =
        if k = f then ⟨mac, ip, now, true⟩ else entries[k]) ∨
    (∀ k : Slot, entries[k].valid) ∧ sr_arpcache_fill entries mac ip now = entries := by
  unfold sr_arpcache_fill
  rcases firstSlot_cases (fun e : SrArpentry => !e.valid) entries with
    ⟨f, hfind, hfree, hbefore⟩ | ⟨hfind, hfull⟩
  · refine .inl ⟨f, by simpa using hfree, fun k hk => by simpa using hbefore k hk, fun k => ?_⟩
    simp only [hfind]
    rw [Fin.getElem_fin, Vector.getElem_set]
    simp [Fin.ext_iff, eq_comm]
  · exact .inr ⟨fun k => by simpa using hfull k, by simp only [hfind]⟩

theorem expire_entry (entries : Entries) (now : time_t) (k : Slot) :
    (sr_arpcache_expire entries now)[k] =
      if entries[k].valid ∧ now - entries[k].added > SR_ARPCACHE_TO then
        { entries[k] with valid := false }
      else entries[k] := by
  simp [sr_arpcache_expire]

/-- A pass leaves the entries that are not too old. -/
theorem expire_for {k : Slot} : (sr_arpcache_expire entries now)[k].For ip ↔
    entries[k].For ip ∧ now ≤ entries[k].added + SR_ARPCACHE_TO := by
  rw [expire_entry]
  split
  · next hexp =>
    constructor
    · exact fun hfor => absurd hfor.1 (by simp)
    · exact fun ⟨_, hyoung⟩ => absurd hexp.2 (by linarith)
  · next hexp =>
    refine ⟨fun hfor => ⟨hfor, ?_⟩, fun h => h.1⟩
    have hyoung := not_lt.mp fun hlt => hexp ⟨hfor.1, hlt⟩
    linarith

theorem expire_young {k : Slot} (h : now ≤ entries[k].added + SR_ARPCACHE_TO) :
    (sr_arpcache_expire entries now)[k] = entries[k] := by
  rw [expire_entry, if_neg]
  intro hfor
  obtain ⟨-, hold⟩ := hfor
  linarith

/-! ### Lookups -/

/-- Nothing is found exactly when no entry is for `ip`. -/
theorem lookup_none {cache : SrArpcache} {ip : uint32_t} :
    sr_arpcache_lookup cache ip = none ↔ ∀ k : Slot, ¬ cache.entries[k].For ip := by
  constructor
  · intro h k
    exact lastMatch_none (lookup_eq cache ip ▸ h) k
  · intro h
    cases hl : sr_arpcache_lookup cache ip with
    | none => rfl
    | some e =>
      obtain ⟨k, rfl, hfor, -⟩ := lastMatch_some (lookup_eq cache ip ▸ hl)
      exact absurd hfor (h k)

/-- Old entries go, and none comes. -/
theorem lookup_expire {cache cache' : SrArpcache} {ip : uint32_t}
    (hcache : cache'.entries = sr_arpcache_expire cache.entries now)
    (h : sr_arpcache_lookup cache ip = none) : sr_arpcache_lookup cache' ip = none := by
  rw [lookup_none] at h ⊢
  intro k hk
  rw [hcache] at hk
  exact h k (expire_for.mp hk).1

/-- A mapping for another IP comes. -/
theorem lookup_fill {cache cache' : SrArpcache} {mac : EtherAddr} {ip ip' : uint32_t}
    (hcache : cache'.entries = sr_arpcache_fill cache.entries mac ip' now) (hne : ip ≠ ip')
    (h : sr_arpcache_lookup cache ip = none) : sr_arpcache_lookup cache' ip = none := by
  rw [lookup_none] at h ⊢
  intro k hk
  rw [hcache] at hk
  rcases fill_cases cache.entries mac ip' now with ⟨f, -, -, hfill⟩ | ⟨-, hfull⟩
  · rw [hfill] at hk
    split at hk
    · exact hne hk.2.symm
    · exact h k hk
  · exact h k (hfull ▸ hk)

/-! ### What is left of the entries for an IP -/

/-- What has become of the entries for `ip` since `now`, while it was not learned anew and
    no more than `SR_ARPCACHE_TO` seconds passed: older ones went before newer ones. -/
structure Outlives (ip : uint32_t) (now : time_t) (E₁ E₂ : Entries) : Prop where
  same : ∀ k : Slot, E₂[k].For ip → E₂[k] = E₁[k]
  /-- An entry that is left is not older than the ones that went, or too old for any
      pass to have been made. -/
  newer : ∀ g h : Slot, E₂[g].For ip → E₁[h].For ip →
    (E₁[g].added ≤ E₁[h].added ∨ E₁[g].added + SR_ARPCACHE_TO < now) → E₂[h] = E₁[h]
  fresh : ∀ h : Slot, E₁[h].For ip → now ≤ E₁[h].added → E₂[h] = E₁[h]

namespace Outlives

theorem refl (ip : uint32_t) (now : time_t) (E : Entries) : Outlives ip now E E :=
  ⟨fun _ _ => rfl, fun _ _ _ _ _ => rfl, fun _ _ _ => rfl⟩

/-- Another IP is learned. -/
theorem fill (h : Outlives ip now E₁ E₂) {mac' : EtherAddr} {ip' : uint32_t} {now' : time_t}
    (hne : ip' ≠ ip) : Outlives ip now E₁ (sr_arpcache_fill E₂ mac' ip' now') := by
  rcases fill_cases E₂ mac' ip' now' with ⟨f, hfree, -, hfill⟩ | ⟨-, hfull⟩
  · -- the slot that is filled held no entry for `ip`, and holds none now
    have hold : ∀ k : Slot, (sr_arpcache_fill E₂ mac' ip' now')[k].For ip →
        (sr_arpcache_fill E₂ mac' ip' now')[k] = E₂[k] := by
      intro k hk
      rw [hfill] at hk ⊢
      split
      · next hkf =>
        rw [if_pos hkf] at hk
        exact absurd hk.2 hne
      · rfl
    have hkeep : ∀ k : Slot, E₁[k].For ip → E₂[k] = E₁[k] →
        (sr_arpcache_fill E₂ mac' ip' now')[k] = E₁[k] := by
      intro k hk heq
      rw [hfill, if_neg, heq]
      rintro rfl
      exact hfree (heq ▸ hk.1)
    exact
      { same := fun k hk => by
          have hk' := hold k hk
          exact hk'.trans (h.same k (hk' ▸ hk))
        newer := fun g k hg hk hage => hkeep k hk (h.newer g k (hold g hg ▸ hg) hk hage)
        fresh := fun k hk hage => hkeep k hk (h.fresh k hk hage) }
  · rwa [hfull]

/-- A pass is made. -/
theorem expire (h : Outlives ip now E₁ E₂) {now' : time_t} (hle : now ≤ now')
    (hage : now' ≤ now + SR_ARPCACHE_TO) : Outlives ip now E₁ (sr_arpcache_expire E₂ now') := by
  have hkeep : ∀ k : Slot, E₂[k] = E₁[k] → now' ≤ E₁[k].added + SR_ARPCACHE_TO →
      (sr_arpcache_expire E₂ now')[k] = E₁[k] :=
    fun k heq hyoung => (expire_young (heq ▸ hyoung)).trans heq
  exact
    { same := fun k hk => by
        obtain ⟨hk', hyoung⟩ := expire_for.mp hk
        exact (expire_young hyoung).trans (h.same k hk')
      newer := fun g k hg hk hor => by
        obtain ⟨hg', hyoung⟩ := expire_for.mp hg
        rw [h.same g hg'] at hyoung
        have hle' : E₁[g].added ≤ E₁[k].added := hor.resolve_right (by linarith)
        exact hkeep k (h.newer g k hg' hk (.inl hle')) (by linarith)
      fresh := fun k hk hnew => hkeep k (h.fresh k hk hnew) (by linarith) }

end Outlives

/-! ### Mappings that are used -/

/-- Behind every entry for `ip` that says something other than `mac` there is one that says
    `mac`, for as long as the first is there, and one of them is new. -/
structure Uncontested (entries : Entries) (mac : EtherAddr) (ip : uint32_t) (now : time_t) :
    Prop where
  fresh : ∃ h : Slot, entries[h].For ip ∧ entries[h].mac = mac ∧ now ≤ entries[h].added
  beaten : ∀ g : Slot, entries[g].For ip → entries[g].mac ≠ mac →
    ∃ h > g, entries[h].For ip ∧ entries[h].mac = mac ∧
      (entries[g].added ≤ entries[h].added ∨ entries[g].added + SR_ARPCACHE_TO < now)

/-- The mapping is the one that is used. -/
def Used (cache : SrArpcache) (mac : EtherAddr) (ip : uint32_t) : Prop :=
  ∃ entry, sr_arpcache_lookup cache ip = some entry ∧ entry.mac = mac

/-- A mapping that finds a free slot is used, if the IP was not known. -/
theorem Used.fill {cache cache' : SrArpcache}
    (hcache : cache'.entries = sr_arpcache_fill cache.entries mac ip now)
    (h : sr_arpcache_lookup cache ip = none) (hfree : ∃ e ∈ cache.entries, e.valid = false) :
    Used cache' mac ip := by
  rw [lookup_none] at h
  rcases fill_cases cache.entries mac ip now with ⟨f, -, -, hfill⟩ | ⟨hfull, -⟩
  · rw [← hcache] at hfill
    -- the new entry is the only one for `ip`
    cases hl : sr_arpcache_lookup cache' ip with
    | none =>
      have hnot := lookup_none.mp hl f
      rw [hfill, if_pos rfl] at hnot
      exact absurd ⟨rfl, rfl⟩ hnot
    | some entry =>
      obtain ⟨k, rfl, hfor, -⟩ := lastMatch_some (lookup_eq cache' ip ▸ hl)
      refine ⟨_, hl, ?_⟩
      rw [hfill] at hfor ⊢
      by_cases hk : k = f
      · rw [if_pos hk]
      · rw [if_neg hk] at hfor
        exact absurd hfor (h k)
  · obtain ⟨e, he, hinvalid⟩ := hfree
    obtain ⟨k, hk, rfl⟩ := Vector.getElem_of_mem he
    have hvalid := hfull ⟨k, hk⟩
    rw [Fin.getElem_fin, hinvalid] at hvalid
    cases hvalid

theorem Uncontested.used (h : Uncontested E₁ mac ip now)
    (hout : Outlives ip now E₁ cache.entries) : Used cache mac ip := by
  obtain ⟨k, hk, -, hfresh⟩ := h.fresh
  have hkept : cache.entries[k].For ip := by rwa [hout.fresh k hk hfresh]
  cases hl : sr_arpcache_lookup cache ip with
  | none => exact absurd hkept (lastMatch_none (lookup_eq cache ip ▸ hl) k)
  | some entry =>
    refine ⟨entry, hl, ?_⟩
    obtain ⟨g, rfl, hg, hlast⟩ := lastMatch_some (lookup_eq cache ip ▸ hl)
    by_contra hmac
    -- the last entry is not the last if it says something else
    have hsame := hout.same g hg
    obtain ⟨h', hlt, hfor, -, hage⟩ := h.beaten g (hsame ▸ hg) (hsame ▸ hmac)
    exact hlast h' hlt (by rwa [hout.newer g h' hg hfor hage])

theorem Used.last (h : Used cache mac ip) : ∃ k : Slot, cache.entries[k].For ip ∧
    cache.entries[k].mac = mac ∧ ∀ j > k, ¬ cache.entries[j].For ip := by
  obtain ⟨entry, hl, hmac⟩ := h
  obtain ⟨k, rfl, hk, hlast⟩ := lastMatch_some (lookup_eq cache ip ▸ hl)
  exact ⟨k, hk, hmac, hlast⟩

/-- If the mapping is used now, and after a pass at any time until it is too old, then
    nothing contests it. -/
theorem Uncontested.of_used
    (hadded : ∀ k : Slot, cache.entries[k].valid → cache.entries[k].added ≤ now)
    (hused : Used cache mac ip)
    (hpass : ∀ now', now ≤ now' → now' ≤ now + SR_ARPCACHE_TO →
      Used { cache with entries := sr_arpcache_expire cache.entries now' } mac ip) :
    Uncontested cache.entries mac ip now := by
  -- what a pass leaves is young, and was there before
  have hleft : ∀ now', now ≤ now' → now' ≤ now + SR_ARPCACHE_TO → ∃ h : Slot,
      cache.entries[h].For ip ∧ cache.entries[h].mac = mac ∧
        now' ≤ cache.entries[h].added + SR_ARPCACHE_TO ∧
        ∀ j > h, cache.entries[j].For ip → cache.entries[j].added + SR_ARPCACHE_TO < now' := by
    intro now' hle hage
    obtain ⟨h, hfor, hmac, hlast⟩ := (hpass now' hle hage).last
    obtain ⟨hfor', hyoung⟩ := expire_for.mp hfor
    refine ⟨h, hfor', ?_, hyoung, fun j hj hfor => not_le.mp fun hyoung => hlast j hj ?_⟩
    · rwa [← expire_young hyoung]
    · exact expire_for.mpr ⟨hfor, hyoung⟩
  constructor
  · obtain ⟨h, hfor, hmac, hyoung, -⟩ := hleft (now + SR_ARPCACHE_TO) (by simp) le_rfl
    exact ⟨h, hfor, hmac, by linarith⟩
  · intro g hg hne
    by_cases hold : cache.entries[g].added + SR_ARPCACHE_TO < now
    · obtain ⟨h, hfor, hmac, hlast⟩ := hused.last
      have hle : g ≤ h := Fin.not_lt.mp fun hlt => hlast g hlt hg
      have hgh : g ≠ h := by rintro rfl; exact hne hmac
      exact ⟨h, Fin.lt_iff_le_and_ne.mpr ⟨hle, hgh⟩, hfor, hmac, .inr hold⟩
    · -- a pass when `g` is about to be too old
      obtain ⟨h, hfor, hmac, hyoung, hlast⟩ := hleft (cache.entries[g].added + SR_ARPCACHE_TO)
        (not_lt.mp hold) (by linarith [hadded g hg.1])
      have hle : g ≤ h := Fin.not_lt.mp fun hlt => lt_irrefl _ (hlast g hlt hg)
      have hgh : g ≠ h := by rintro rfl; exact hne hmac
      exact ⟨h, Fin.lt_iff_le_and_ne.mpr ⟨hle, hgh⟩, hfor, hmac, .inl (by linarith)⟩

/-! ### Runs of the cache -/

/-- What happens to the mappings. -/
inductive CacheLabel where
  | insert (mac : EtherAddr) (ip : uint32_t)
  | timeout
  deriving DecidableEq

/-- Learning mappings and timing them out, on a clock that does not go back. -/
def cacheRuns (sr : SrInstance) (heap : Heap) (init : RouterState × time_t → Prop) :
    System (RouterState × time_t) CacheLabel where
  init := init
  step := fun st l st' => st.2 ≤ st'.2 ∧ match l with
    | .insert mac ip => ∃ req, sr_arpcache_insert mac ip st'.2 st.1 = (.returned req, st'.1)
    | .timeout => ∃ fuel, sr_arpcache_timeout sr heap st'.2 fuel st.1 = (.returned (), st'.1)

/-- What that does to the entries. -/
def CacheLabel.run (l : CacheLabel) (now : time_t) (entries : Entries) : Entries :=
  match l with
  | .insert mac ip => sr_arpcache_fill entries mac ip now
  | .timeout => sr_arpcache_expire entries now

/-- No request is pending, and no entry is from the future. -/
structure Timely (st : RouterState × time_t) : Prop where
  no_request : st.1.reqs = []
  added : ∀ k : Slot, st.1.cache.entries[k].valid → st.1.cache.entries[k].added ≤ st.2

section runs
variable {sr : SrInstance} {heap : Heap} {s : RouterState} {st st' : RouterState × time_t}
  {init : RouterState × time_t → Prop} {l : CacheLabel}

theorem learnFor_eq (h : s.reqs = []) (mac : EtherAddr) (ip : uint32_t) :
    s.learnFor mac ip now = s.setEntries (sr_arpcache_fill s.cache.entries mac ip now) := by
  have hnone : s.reqFor ip = none := reqFor_none.mpr (by simp [h])
  simp only [RouterState.learnFor, hnone]

/-- A pass with no request to handle. -/
theorem timeout_eq (h : s.reqs = []) (fuel : Nat) :
    sr_arpcache_timeout sr heap now fuel s =
      (.returned (), s.setEntries (sr_arpcache_expire s.cache.entries now)) := by
  have hnone : (s.setEntries (sr_arpcache_expire s.cache.entries now)).reqs.head?.map (·.addr) =
      none := by
    simp [h]
  rw [sr_arpcache_timeout, modify_bind, sr_arpcache_sweepreqs, read_bind, hnone, sweep_from]
  rfl

/-- **A step changes the entries** as its label says, and leaves no request pending. -/
theorem cache_step (hst : Timely st) (hstep : (cacheRuns sr heap init).step st l st') :
    st'.1.reqs = [] ∧ st'.1.cache.entries = l.run st'.2 st.1.cache.entries := by
  obtain ⟨s', now⟩ := st'
  cases l with
  | insert mac ip =>
    obtain ⟨-, req, hrun⟩ := hstep
    rw [sr_arpcache_insert_eq, learnFor_eq hst.no_request] at hrun
    have hs' : st.1.setEntries (sr_arpcache_fill _ mac ip now) = s' := (Prod.mk.inj hrun).2
    subst hs'
    exact ⟨hst.no_request, rfl⟩
  | timeout =>
    obtain ⟨-, fuel, hrun⟩ := hstep
    rw [timeout_eq hst.no_request] at hrun
    have hs' : st.1.setEntries (sr_arpcache_expire _ now) = s' := (Prod.mk.inj hrun).2
    subst hs'
    exact ⟨hst.no_request, rfl⟩

theorem run_added (l : CacheLabel) {entries : Entries}
    (h : ∀ k : Slot, entries[k].valid → entries[k].added ≤ now) (k : Slot)
    (hk : (l.run now entries)[k].valid) : (l.run now entries)[k].added ≤ now := by
  cases l with
  | insert mac ip =>
    rw [CacheLabel.run] at hk ⊢
    rcases fill_cases entries mac ip now with ⟨f, -, -, hfill⟩ | ⟨-, hfull⟩
    · rw [hfill] at hk ⊢
      split
      · exact le_rfl
      · next hkf => exact h k (by rwa [if_neg hkf] at hk)
    · rw [hfull] at hk ⊢
      exact h k hk
  | timeout =>
    obtain ⟨hfor, hyoung⟩ := expire_for.mp ⟨hk, rfl⟩
    rw [CacheLabel.run, expire_young hyoung]
    exact h k hfor.1

theorem Timely.step (hst : Timely st) (hstep : (cacheRuns sr heap init).step st l st') :
    Timely st' := by
  obtain ⟨hreqs, hentries⟩ := cache_step hst hstep
  refine ⟨hreqs, ?_⟩
  rw [hentries]
  exact run_added l fun k hk => le_trans (hst.added k hk) hstep.1

theorem Timely.empty (h : st.1 = RouterState.empty) : Timely st := by
  rw [Prod.ext h rfl (y := (RouterState.empty, st.2))]
  refine ⟨rfl, fun k hk => ?_⟩
  simp [RouterState.empty] at hk

theorem Timely.reachable {guard : RouterState × time_t → CacheLabel → Prop}
    (hinit : ∀ st, init st → Timely st) (hs : (cacheRuns sr heap init).Reachable guard st) :
    Timely st := by
  exact System.Reachable.invariant hinit (fun st l st' hst _ hstep => hst.step hstep) hs

/-- No mapping for `ip` is learned. -/
def NotLearned (ip : uint32_t) (_ : RouterState × time_t) (l : CacheLabel) : Prop :=
  ∀ mac, l ≠ .insert mac ip

/-- The entries for `ip` after a run that does not learn it anew. -/
theorem outlives_of_run (hst : Timely st)
    (hs : (cacheRuns sr heap (· = st)).Reachable (NotLearned ip) st') :
    st.2 ≤ st'.2 ∧ (st'.2 ≤ st.2 + SR_ARPCACHE_TO →
      Outlives ip st.2 st.1.cache.entries st'.1.cache.entries) := by
  refine (System.Reachable.invariant (I := fun st' => Timely st' ∧ st.2 ≤ st'.2 ∧
    (st'.2 ≤ st.2 + SR_ARPCACHE_TO →
      Outlives ip st.2 st.1.cache.entries st'.1.cache.entries)) ?_ ?_ hs).2
  · rintro st rfl
    exact ⟨hst, le_rfl, fun _ => .refl ..⟩
  · intro st₁ l st₂ h hl hstep
    obtain ⟨hst₁, hle, hout⟩ := h
    obtain ⟨-, hentries⟩ := cache_step hst₁ hstep
    refine ⟨hst₁.step hstep, le_trans hle hstep.1, fun hage => ?_⟩
    have hout₁ := hout (le_trans hstep.1 hage)
    rw [hentries]
    cases l with
    | insert mac ip' => exact hout₁.fill fun hip => hl mac (by rw [hip])
    | timeout => exact hout₁.expire (le_trans hle hstep.1) hage

/-- A mapping that was put into the cache at `st` is the one that is used until it is
    learned anew or too old. -/
def StaysUsed (sr : SrInstance) (heap : Heap) (mac : EtherAddr) (ip : uint32_t)
    (st : RouterState × time_t) : Prop :=
  ∀ st', (cacheRuns sr heap (· = st)).Reachable (NotLearned ip) st' →
    st'.2 ≤ st.2 + SR_ARPCACHE_TO → Used st'.1.cache mac ip

theorem staysUsed_iff (hst : Timely st) :
    StaysUsed sr heap mac ip st ↔ Uncontested st.1.cache.entries mac ip st.2 := by
  constructor
  · intro hused
    refine .of_used hst.added (hused st (.init rfl) (by simp)) fun now' hle hage => ?_
    refine hused (st.1.setEntries (sr_arpcache_expire st.1.cache.entries now'), now')
      (.step (l := .timeout) (.init rfl) (fun mac => by simp) ⟨hle, 0, ?_⟩) hage
    exact timeout_eq hst.no_request 0
  · intro huncontested st' hs hage
    exact huncontested.used ((outlives_of_run hst hs).2 hage)

end runs

/-! ### Before the mapping is learned -/

/-- Some slot is free, or an entry that was added in the same second says `mac`; and every
    entry for `ip` that says something else lies before the first free slot, or has an
    entry behind it that says `mac` and is there for as long as it is. -/
structure Learnable (entries : Entries) (mac : EtherAddr) (ip : uint32_t) (now : time_t) :
    Prop where
  stored : (∃ f : Slot, ¬ entries[f].valid) ∨
    ∃ h : Slot, entries[h].For ip ∧ entries[h].mac = mac ∧ entries[h].added = now
  beaten : ∀ g : Slot, entries[g].For ip → entries[g].mac ≠ mac →
    ((∃ f > g, ¬ entries[f].valid) ∧ ∀ k < g, entries[k].valid) ∨
    ∃ h > g, entries[h].For ip ∧ entries[h].mac = mac ∧
      (entries[g].added ≤ entries[h].added ∨ entries[g].added + SR_ARPCACHE_TO < now)

/-- A mapping that found no slot. -/
theorem uncontested_full_iff (hfull : ∀ k : Slot, entries[k].valid)
    (hadded : ∀ k : Slot, entries[k].valid → entries[k].added ≤ now) :
    Uncontested entries mac ip now ↔ Learnable entries mac ip now := by
  constructor
  · intro hlast
    obtain ⟨⟨h, hfor, hmac, hnew⟩, hbeaten⟩ := hlast
    exact ⟨.inr ⟨h, hfor, hmac, le_antisymm (hadded h hfor.1) hnew⟩,
      fun g hg hne => .inr (hbeaten g hg hne)⟩
  · intro hlearn
    obtain ⟨hstored, hbeaten⟩ := hlearn
    constructor
    · rcases hstored with ⟨f, hfree⟩ | ⟨h, hfor, hmac, hnew⟩
      · exact absurd (hfull f) hfree
      · exact ⟨h, hfor, hmac, le_of_eq hnew.symm⟩
    · intro g hg hne
      rcases hbeaten g hg hne with ⟨⟨f, -, hfree⟩, -⟩ | hbehind
      · exact absurd (hfull f) hfree
      · exact hbehind

/-- A mapping that was put into the first free slot. -/
theorem uncontested_set_iff {f : Slot} (hfree : ¬ entries[f].valid)
    (hbefore : ∀ k < f, entries[k].valid)
    (hfill : ∀ k : Slot, E₂[k] = if k = f then ⟨mac, ip, now, true⟩ else entries[k])
    (hadded : ∀ k : Slot, entries[k].valid → entries[k].added ≤ now) :
    Uncontested E₂ mac ip now ↔ Learnable entries mac ip now := by
  have hf : E₂[f] = ⟨mac, ip, now, true⟩ := by rw [hfill, if_pos rfl]
  have hfor : E₂[f].For ip := by rw [hf]; exact ⟨rfl, rfl⟩
  have hold : ∀ k : Slot, k ≠ f → E₂[k] = entries[k] := fun k hk => by rw [hfill, if_neg hk]
  have hother : ∀ k : Slot, entries[k].For ip → E₂[k] = entries[k] :=
    fun k hk => hold k (by rintro rfl; exact hfree hk.1)
  constructor
  · intro hlast
    obtain ⟨-, hbeaten⟩ := hlast
    refine ⟨.inl ⟨f, hfree⟩, fun g hg hne => ?_⟩
    -- an entry that says something else is beaten in the table, or by the new one
    have hgE := hother g hg
    obtain ⟨h, hlt, hh, hmac, hage⟩ := hbeaten g (hgE ▸ hg) (hgE ▸ hne)
    by_cases hhf : h = f
    · subst hhf
      exact .inl ⟨⟨h, hlt, hfree⟩, fun k hk => hbefore k (Fin.lt_trans hk hlt)⟩
    · rw [hold h hhf] at hh hmac hage
      exact .inr ⟨h, hlt, hh, hmac, hgE ▸ hage⟩
  · intro hlearn
    obtain ⟨-, hbeaten⟩ := hlearn
    refine ⟨⟨f, hfor, by rw [hf], by rw [hf]⟩, fun g hg hne => ?_⟩
    have hgf : g ≠ f := by
      rintro rfl
      exact hne (by rw [hf])
    rw [hold g hgf] at hg hne ⊢
    rcases hbeaten g hg hne with ⟨-, hvalid⟩ | ⟨h, hlt, hh, hmac, hage⟩
    · -- the new entry lies behind
      have hle : g ≤ f := Fin.not_lt.mp fun hlt => hfree (hvalid f hlt)
      exact ⟨f, Fin.lt_iff_le_and_ne.mpr ⟨hle, hgf⟩, hfor, by rw [hf],
        .inl (by rw [hf]; exact hadded g hg.1)⟩
    · have hhE := hother h hh
      exact ⟨h, hlt, hhE ▸ hh, hhE ▸ hmac, hhE ▸ hage⟩

/-- **A mapping that is learned is the one that is used**, until it is learned anew or too
    old, exactly when it finds a slot and nothing behind that slot contests it. -/
theorem learned_mapping_used_iff {sr : SrInstance} {heap : Heap} {s s' : RouterState}
    {clock : time_t} {req : Option SrArpreq}
    (hs : (cacheRuns sr heap fun st => st.1 = RouterState.empty).Reachable System.always (s, clock))
    (hnow : clock ≤ now) (hrun : sr_arpcache_insert mac ip now s = (.returned req, s')) :
    StaysUsed sr heap mac ip (s', now) ↔ Learnable s.cache.entries mac ip now := by
  have hst : Timely (s, clock) := Timely.reachable (fun st hst => Timely.empty hst) hs
  have hstep : (cacheRuns sr heap fun _ => True).step (s, clock) (.insert mac ip) (s', now) :=
    ⟨hnow, req, hrun⟩
  have hadded : ∀ k : Slot, s.cache.entries[k].valid → s.cache.entries[k].added ≤ now :=
    fun k hk => le_trans (hst.added k hk) hnow
  have hentries : s'.cache.entries = sr_arpcache_fill s.cache.entries mac ip now :=
    (cache_step hst hstep).2
  rw [staysUsed_iff (hst.step hstep), hentries]
  rcases fill_cases s.cache.entries mac ip now with ⟨f, hfree, hbefore, hfill⟩ | ⟨hfull, hsame⟩
  · exact uncontested_set_iff hfree hbefore hfill hadded
  · rw [hsame]
    exact uncontested_full_iff hfull hadded

namespace Sample

/-- 10.0.1.100 is learned at 0 and 192.168.2.7 at 10; a pass at 16 frees the first slot. -/
def hole : RouterState :=
  ((RouterState.empty.learnFor (Sample.mac 7) (inet_addr 10 0 1 100) 0).learnFor (Sample.mac 8)
    (inet_addr 192 168 2 7) 10).setEntries (sr_arpcache_expire
      ((RouterState.empty.learnFor (Sample.mac 7) (inet_addr 10 0 1 100) 0).learnFor (Sample.mac 8)
        (inet_addr 192 168 2 7) 10).cache.entries 16)

theorem hole_reachable :
    (cacheRuns net mem fun st => st.1 = RouterState.empty).Reachable System.always (hole, 16) := by
  let s₁ := RouterState.empty.learnFor (Sample.mac 7) (inet_addr 10 0 1 100) 0
  let s₂ := s₁.learnFor (Sample.mac 8) (inet_addr 192 168 2 7) 10
  have h₀ : (cacheRuns net mem fun st => st.1 = RouterState.empty).Reachable System.always
      (RouterState.empty, 0) := .init rfl
  have h₁ : (cacheRuns net mem fun st => st.1 = RouterState.empty).Reachable System.always
      (s₁, 0) :=
    .step h₀ (l := .insert (Sample.mac 7) (inet_addr 10 0 1 100)) trivial
      ⟨by decide, _, sr_arpcache_insert_eq ..⟩
  have h₂ : (cacheRuns net mem fun st => st.1 = RouterState.empty).Reachable System.always
      (s₂, 10) :=
    .step h₁ (l := .insert (Sample.mac 8) (inet_addr 192 168 2 7)) trivial
      ⟨by decide, _, sr_arpcache_insert_eq ..⟩
  exact h₂.step (l := .timeout) trivial ⟨by decide, 0, timeout_eq rfl 0⟩

/-- When 192.168.2.7 is learned anew, the old mapping is used. -/
theorem old_mapping_used : ∃ s s' req,
    (cacheRuns net mem fun st => st.1 = RouterState.empty).Reachable System.always (s, 16) ∧
      sr_arpcache_insert (Sample.mac 9) (inet_addr 192 168 2 7) 17 s = (.returned req, s') ∧
      ¬ Used s'.cache (Sample.mac 9) (inet_addr 192 168 2 7) ∧
      ¬ StaysUsed net mem (Sample.mac 9) (inet_addr 192 168 2 7) (s', 17) := by
  have hused : ¬ Used (hole.learnFor (Sample.mac 9) (inet_addr 192 168 2 7) 17).cache (Sample.mac 9)
      (inet_addr 192 168 2 7) := by
    have hold : (sr_arpcache_lookup (hole.learnFor (Sample.mac 9) (inet_addr 192 168 2 7) 17).cache
        (inet_addr 192 168 2 7)).map (·.mac) = some (Sample.mac 8) := by decide +kernel
    intro h
    obtain ⟨entry, hl, hmac⟩ := h
    rw [hl, Option.map_some, hmac] at hold
    exact absurd hold (by decide)
  exact ⟨hole, _, _, hole_reachable, sr_arpcache_insert_eq .., hused,
    fun h => hused (h _ (.init rfl) (by decide))⟩

/-- 192.168.2.7 is learned at 10, into the first slot. -/
def behind : RouterState := RouterState.empty.learnFor (Sample.mac 8) (inet_addr 192 168 2 7) 10

/-- When it is learned anew, the new mapping gets a slot behind the old one and is used, although
    the old one is there until 25. -/
theorem newer_mapping_used : ∃ s' req,
    sr_arpcache_insert (Sample.mac 9) (inet_addr 192 168 2 7) 17 behind = (.returned req, s') ∧
      (∃ entry ∈ s'.cache.entries, entry.For (inet_addr 192 168 2 7) ∧
        entry.mac = Sample.mac 8) ∧
      StaysUsed net mem (Sample.mac 9) (inet_addr 192 168 2 7) (s', 17) := by
  have hempty : (cacheRuns net mem fun st => st.1 = RouterState.empty).Reachable System.always
      (RouterState.empty, 0) := .init rfl
  have hs : (cacheRuns net mem fun st => st.1 = RouterState.empty).Reachable System.always
      (behind, 10) :=
    .step hempty (l := .insert (Sample.mac 8) (inet_addr 192 168 2 7)) trivial
      ⟨by decide, _, sr_arpcache_insert_eq ..⟩
  have hfirst : ∀ g : Slot, behind.cache.entries[g].valid → g = 0 := by decide +kernel
  have hfree : ¬ behind.cache.entries[(1 : Slot)].valid := fun h => absurd (hfirst 1 h) (by decide)
  refine ⟨_, _, sr_arpcache_insert_eq .., ?_, (learned_mapping_used_iff hs (by decide)
    (sr_arpcache_insert_eq ..)).mpr ⟨.inl ⟨1, hfree⟩, fun g hg _ => .inl ⟨⟨1, ?_, hfree⟩, ?_⟩⟩⟩
  · decide +kernel
  · rw [hfirst g hg.1]
    decide
  · rw [hfirst g hg.1]
    exact fun k hk => absurd hk (Fin.not_lt_zero k)

end Sample

end SimpleRouter
