import SimpleRouter.Model.Tables

/-! # The longest match in the routing table

    `sr_findLPMentry` keeps the best entry so far with its mask and starts from
    mask 0, which only a greater mask can replace. So it returns the first entry
    with the greatest mask among those that cover the address, but never one
    with mask 0: a default route covers every address and is never taken.
-/

namespace SimpleRouter

open Framework.Bytes

/-- The entry is for a network that `ip` is in. -/
def SrRt.Covers (entry : SrRt) (ip : uint32_t) : Prop := ip &&& entry.mask = entry.dest &&& entry.mask

instance (entry : SrRt) (ip : uint32_t) : Decidable (entry.Covers ip) :=
  inferInstanceAs (Decidable (_ = _))

/-- The comparison that the code makes in host byte order. -/
theorem covers_iff {entry : SrRt} {ip : uint32_t} :
    ntohl ip &&& ntohl entry.mask = ntohl entry.dest &&& ntohl entry.mask ↔ entry.Covers ip := by
  rw [ntohl, ntohl, ntohl, ← swap32_and, ← swap32_and]
  exact ⟨swap32_injective, congrArg swap32⟩

theorem ntohl_eq_zero {x : uint32_t} : ntohl x = 0 ↔ x = 0 :=
  ⟨fun h => swap32_injective (h.trans swap32_zero.symm), fun h => h ▸ swap32_zero⟩

/-! ### What is to be found -/

/-- The first entry with the greatest mask among those that cover `ip`. -/
def LongestMatch (rtable : List SrRt) (ip : uint32_t) (rt : SrRt) : Prop :=
  ∃ before after, rtable = before ++ rt :: after ∧ rt.Covers ip ∧
    (∀ e ∈ before, e.Covers ip → ntohl e.mask < ntohl rt.mask) ∧
    ∀ e ∈ after, e.Covers ip → ntohl e.mask ≤ ntohl rt.mask

namespace LongestMatch

variable {rtable : List SrRt} {ip : uint32_t} {entry rt rt' : SrRt}

theorem head (hcovers : entry.Covers ip)
    (hle : ∀ e ∈ rtable, e.Covers ip → ntohl e.mask ≤ ntohl entry.mask) :
    LongestMatch (entry :: rtable) ip entry :=
  ⟨[], rtable, rfl, hcovers, by simp, hle⟩

theorem cons (h : LongestMatch rtable ip rt)
    (hlt : entry.Covers ip → ntohl entry.mask < ntohl rt.mask) :
    LongestMatch (entry :: rtable) ip rt := by
  obtain ⟨before, after, rfl, hcovers, hbefore, hafter⟩ := h
  exact ⟨entry :: before, after, rfl, hcovers, List.forall_mem_cons.mpr ⟨hlt, hbefore⟩, hafter⟩

theorem mem (h : LongestMatch rtable ip rt) : rt ∈ rtable := by
  obtain ⟨before, after, rfl, -⟩ := h
  exact List.mem_append_right _ List.mem_cons_self

theorem covers (h : LongestMatch rtable ip rt) : rt.Covers ip := by
  obtain ⟨_, _, -, hcovers, -⟩ := h
  exact hcovers

theorem le (h : LongestMatch rtable ip rt) {e : SrRt} (he : e ∈ rtable) (hcovers : e.Covers ip) :
    ntohl e.mask ≤ ntohl rt.mask := by
  obtain ⟨before, after, rfl, -, hbefore, hafter⟩ := h
  rcases List.mem_append.mp he with he | he
  · exact BitVec.le_of_lt (hbefore e he hcovers)
  · rcases List.mem_cons.mp he with rfl | he
    · exact BitVec.le_refl _
    · exact hafter e he hcovers

/-- Of two longest matches, neither lies before the other. -/
theorem unique (h : LongestMatch rtable ip rt) (h' : LongestMatch rtable ip rt') : rt = rt' := by
  obtain ⟨before, after, hrt, hcovers, hbefore, -⟩ := id h
  obtain ⟨before', after', hrt', hcovers', hbefore', -⟩ := id h'
  rcases List.append_eq_append_iff.mp (hrt.symm.trans hrt') with
    ⟨between, rfl, hsplit⟩ | ⟨between, rfl, hsplit⟩
  · rcases List.cons_eq_append_iff.mp hsplit with ⟨rfl, hhead⟩ | ⟨between', rfl, -⟩
    · exact ((List.cons.inj hhead).1).symm
    · exact absurd (hbefore' rt (by simp) hcovers) (BitVec.not_lt.mpr (h.le h'.mem hcovers'))
  · rcases List.cons_eq_append_iff.mp hsplit with ⟨rfl, hhead⟩ | ⟨between', rfl, -⟩
    · exact (List.cons.inj hhead).1
    · exact absurd (hbefore rt' (by simp) hcovers') (BitVec.not_lt.mpr (h'.le h.mem hcovers))

end LongestMatch

/-! ### What is found -/

/-- What the scan gives from some entry on: the best so far, if nothing beats its
    mask, or else the longest match of the rest. -/
theorem scan_spec (ip : uint32_t) (rtable : List SrRt) (best : Option SrRt) (lpmmask : uint32_t) :
    (sr_findLPMentry_scan (ntohl ip) rtable best lpmmask = best ∧
        ∀ e ∈ rtable, e.Covers ip → ntohl e.mask ≤ lpmmask) ∨
      ∃ rt, sr_findLPMentry_scan (ntohl ip) rtable best lpmmask = some rt ∧
        LongestMatch rtable ip rt ∧ lpmmask < ntohl rt.mask := by
  induction rtable generalizing best lpmmask with
  | nil => exact .inl ⟨rfl, by simp⟩
  | cons entry rest ih =>
    rw [sr_findLPMentry_scan]
    simp only [covers_iff]
    split
    · next htake =>
      obtain ⟨hcovers, hgt⟩ := htake
      refine .inr ?_
      rcases ih (some entry) (ntohl entry.mask) with ⟨hscan, hle⟩ | ⟨rt, hscan, hlong, hlt⟩
      · exact ⟨entry, hscan, .head hcovers hle, hgt⟩
      · exact ⟨rt, hscan, hlong.cons fun _ => hlt, BitVec.lt_trans hgt hlt⟩
    · next hskip =>
      have hentry : entry.Covers ip → ntohl entry.mask ≤ lpmmask :=
        fun hc => BitVec.not_lt.mp fun hgt => hskip ⟨hc, hgt⟩
      rcases ih best lpmmask with ⟨hscan, hle⟩ | ⟨rt, hscan, hlong, hlt⟩
      · exact .inl ⟨hscan, List.forall_mem_cons.mpr ⟨hentry, hle⟩⟩
      · exact .inr ⟨rt, hscan, hlong.cons fun hc => Nat.lt_of_le_of_lt (hentry hc) hlt, hlt⟩

/-- **The entry that is found** is the longest match, unless that is a default route. -/
theorem sr_findLPMentry_eq_some {rtable : List SrRt} {ip : uint32_t} {rt : SrRt} :
    sr_findLPMentry rtable ip = some rt ↔ LongestMatch rtable ip rt ∧ rt.mask ≠ 0 := by
  rw [sr_findLPMentry]
  rcases scan_spec ip rtable none 0 with ⟨hscan, hle⟩ | ⟨rt', hscan, hlong, hlt⟩
  · rw [hscan]
    constructor
    · simp
    · intro h
      obtain ⟨hlong, hne⟩ := h
      have hzero := BitVec.le_zero_iff.mp (hle rt hlong.mem hlong.covers)
      exact absurd (ntohl_eq_zero.mp hzero) hne
  · rw [hscan]
    constructor
    · intro heq
      obtain rfl := Option.some.inj heq
      refine ⟨hlong, fun hzero => ?_⟩
      rw [ntohl_eq_zero.mpr hzero] at hlt
      exact BitVec.lt_irrefl _ hlt
    · intro h
      obtain ⟨hlong', -⟩ := h
      rw [hlong.unique hlong']

theorem sr_findLPMentry_mem {rtable : List SrRt} {ip : uint32_t} {rt : SrRt}
    (h : sr_findLPMentry rtable ip = some rt) : rt ∈ rtable :=
  (sr_findLPMentry_eq_some.mp h).1.mem

/-- **Nothing is found** exactly when only default routes cover the address. -/
theorem sr_findLPMentry_none {rtable : List SrRt} {ip : uint32_t} :
    sr_findLPMentry rtable ip = none ↔ ∀ e ∈ rtable, e.Covers ip → e.mask = 0 := by
  constructor
  · intro h e he hc
    rcases scan_spec ip rtable none 0 with ⟨-, hle⟩ | ⟨rt, hscan, -⟩
    · exact ntohl_eq_zero.mp (BitVec.le_zero_iff.mp (hle e he hc))
    · rw [sr_findLPMentry, hscan] at h
      simp at h
  · intro h
    apply Option.eq_none_iff_forall_ne_some.mpr
    intro rt hrt
    obtain ⟨hlong, hne⟩ := sr_findLPMentry_eq_some.mp hrt
    exact hne (h rt hlong.mem hlong.covers)

/-! ### Which entry it is -/

/-- No two entries are for the same network. -/
def DistinctNetworks (rtable : List SrRt) : Prop :=
  (rtable.map fun e => (e.mask, e.dest &&& e.mask)).Nodup

instance (rtable : List SrRt) : Decidable (DistinctNetworks rtable) :=
  inferInstanceAs (Decidable (List.Nodup _))

/-- Of two entries that cover an address with one mask, there is one network. -/
theorem network_eq {e e' : SrRt} {ip : uint32_t} (h : e.Covers ip) (h' : e'.Covers ip)
    (hmask : e.mask = e'.mask) : (e.mask, e.dest &&& e.mask) = (e'.mask, e'.dest &&& e'.mask) := by
  have hnet : e.dest &&& e.mask = e'.dest &&& e'.mask := by
    calc e.dest &&& e.mask = ip &&& e.mask := h.symm
      _ = ip &&& e'.mask := by rw [hmask]
      _ = e'.dest &&& e'.mask := h'
  rw [hnet, hmask]

namespace LongestMatch

variable {rtable rtable' : List SrRt} {ip : uint32_t} {rt : SrRt}

/-- The order of the entries does not matter if they are for different networks. -/
theorem perm (h : LongestMatch rtable ip rt) (hdistinct : DistinctNetworks rtable)
    (hperm : rtable.Perm rtable') : LongestMatch rtable' ip rt := by
  obtain ⟨before, after, rfl⟩ := List.append_of_mem (hperm.subset h.mem)
  have hle : ∀ e ∈ before ++ rt :: after, e.Covers ip → ntohl e.mask ≤ ntohl rt.mask :=
    fun e he => h.le (hperm.symm.subset he)
  have hnodup : DistinctNetworks (before ++ rt :: after) := (hperm.map _).nodup_iff.mp hdistinct
  rw [DistinctNetworks, List.map_append, List.map_cons, List.nodup_append] at hnodup
  refine ⟨before, after, rfl, h.covers, fun e he hcovers => ?_, fun e he => hle e (by simp [he])⟩
  -- with the mask of `rt` it would be for the network of `rt`
  apply Nat.lt_of_le_of_ne (hle e (by simp [he]) hcovers)
  intro hmask
  have hsame := network_eq hcovers h.covers (swap32_injective (BitVec.eq_of_toNat_eq hmask))
  exact hnodup.2.2 _ (List.mem_map_of_mem he) _ List.mem_cons_self hsame

/-- Entries with smaller masks, or for other networks, may be put in anywhere. -/
theorem insert {front back more : List SrRt} (h : LongestMatch (front ++ back) ip rt)
    (hmore : ∀ e ∈ more, e.Covers ip → ntohl e.mask < ntohl rt.mask) :
    LongestMatch (front ++ more ++ back) ip rt := by
  obtain ⟨before, after, hsplit, hcovers, hbefore, hafter⟩ := h
  have hle : ∀ e ∈ more, e.Covers ip → ntohl e.mask ≤ ntohl rt.mask :=
    fun e he hc => BitVec.le_of_lt (hmore e he hc)
  rcases List.append_eq_append_iff.mp hsplit with ⟨between, rfl, rfl⟩ | ⟨between, rfl, hback⟩
  · -- they come before `rt`
    refine ⟨front ++ more ++ between, after, by simp, hcovers, fun e he => ?_, hafter⟩
    rcases List.mem_append.mp he with he | he
    · rcases List.mem_append.mp he with he | he
      · exact hbefore e (List.mem_append_left _ he)
      · exact hmore e he
    · exact hbefore e (List.mem_append_right _ he)
  · cases between with
    | nil =>
      refine ⟨before ++ more, after, ?_, hcovers, List.forall_mem_append.mpr ⟨hbefore, hmore⟩,
        hafter⟩
      rw [List.nil_append] at hback
      simp [← hback]
    | cons rt' between =>
      -- they come after it
      obtain ⟨rfl, rfl⟩ := List.cons.inj hback
      obtain ⟨hbetween, hback'⟩ := List.forall_mem_append.mp hafter
      refine ⟨before, between ++ more ++ back, by simp, hcovers, hbefore, ?_⟩
      exact List.forall_mem_append.mpr ⟨List.forall_mem_append.mpr ⟨hbetween, hle⟩, hback'⟩

end LongestMatch

/-- The mask of a prefix of `n` bits, in host byte order. -/
def prefix_mask (n : Nat) : uint32_t := BitVec.allOnes 32 <<< (32 - n)

theorem prefix_mask_toNat {n : Nat} (h : n ≤ 32) :
    (prefix_mask n).toNat + 1 <<< (32 - n) = 0x100000000 := by
  have hpos : 0 < 2 ^ (32 - n) := Nat.two_pow_pos _
  have hle : 2 ^ (32 - n) ≤ 2 ^ 32 := Nat.pow_le_pow_right (by decide) (by omega)
  have hmod : (2 ^ 32 - 1) * 2 ^ (32 - n) =
      2 ^ 32 * (2 ^ (32 - n) - 1) + (2 ^ 32 - 2 ^ (32 - n)) := by
    generalize 2 ^ (32 - n) = k at hpos hle
    omega
  rw [prefix_mask, BitVec.toNat_shiftLeft, BitVec.toNat_allOnes, Nat.shiftLeft_eq, Nat.shiftLeft_eq,
    hmod, Nat.mul_add_mod, Nat.mod_eq_of_lt (by omega)]
  omega

/-- Longer prefixes have greater masks. -/
theorem prefix_mask_le {m n : Nat} (hm : m ≤ 32) (hn : n ≤ 32)
    (h : prefix_mask m ≤ prefix_mask n) : m ≤ n := by
  by_contra hlt
  have hpow : 2 ^ (32 - m) < 2 ^ (32 - n) := Nat.pow_lt_pow_right (by decide) (by omega)
  have hm' := prefix_mask_toNat hm
  have hn' := prefix_mask_toNat hn
  have h' : (prefix_mask m).toNat ≤ (prefix_mask n).toNat := h
  rw [Nat.shiftLeft_eq] at hm' hn'
  omega

/-- **The longest prefix is chosen.** If an entry with a mask covers the address, the first one
    with the greatest mask is found, which is the one with the longest prefix if masks are
    prefixes. It stays the one that is found if the table is put in another order, unless two
    entries are for the same network, or if entries are added that do not cover the address or
    have smaller masks. -/
theorem longest_prefix_chosen {rtable : List SrRt} {ip : uint32_t}
    (h : ∃ e ∈ rtable, e.Covers ip ∧ e.mask ≠ 0) :
    ∃ rt, sr_findLPMentry rtable ip = some rt ∧ LongestMatch rtable ip rt ∧
      (∀ e ∈ rtable, e.Covers ip → ∀ m ≤ 32, ∀ n ≤ 32, ntohl e.mask = prefix_mask m →
        ntohl rt.mask = prefix_mask n → m ≤ n) ∧
      (DistinctNetworks rtable → ∀ rtable', rtable.Perm rtable' →
        sr_findLPMentry rtable' ip = some rt) ∧
      ∀ front back more, rtable = front ++ back →
        (∀ e ∈ more, e.Covers ip → ntohl e.mask < ntohl rt.mask) →
        sr_findLPMentry (front ++ more ++ back) ip = some rt := by
  cases hrt : sr_findLPMentry rtable ip with
  | none =>
    obtain ⟨e, he, hcovers, hne⟩ := h
    exact absurd (sr_findLPMentry_none.mp hrt e he hcovers) hne
  | some rt =>
    obtain ⟨hlong, hne⟩ := sr_findLPMentry_eq_some.mp hrt
    refine ⟨rt, rfl, hlong, ?_, fun hdistinct rtable' hperm => ?_,
      fun front back more hsplit hmore => ?_⟩
    · intro e he hcovers m hm n hn hmask hmask'
      have hle := hlong.le he hcovers
      rw [hmask, hmask'] at hle
      exact prefix_mask_le hm hn hle
    · exact sr_findLPMentry_eq_some.mpr ⟨hlong.perm hdistinct hperm, hne⟩
    · exact sr_findLPMentry_eq_some.mpr ⟨(hsplit ▸ hlong).insert hmore, hne⟩

namespace Sample

/-- A default route, a network and a part of that network. -/
def nested_routes : List SrRt :=
  [⟨0, inet_addr 10 0 1 1, 0, IfName.ofChars [0x65]⟩,
    ⟨inet_addr 172 64 0 0, 0, inet_addr 255 255 0 0, IfName.ofChars [0x66]⟩,
    ⟨inet_addr 172 64 3 0, 0, inet_addr 255 255 255 0, IfName.ofChars [0x67]⟩]

/-- The part is found, and in the reversed table too. -/
theorem part_found : ∃ rt, sr_findLPMentry nested_routes (inet_addr 172 64 3 9) = some rt ∧
    ntohl rt.mask = prefix_mask 24 ∧
    sr_findLPMentry nested_routes.reverse (inet_addr 172 64 3 9) = some rt := by
  have hcovered : ∃ e ∈ nested_routes, e.Covers (inet_addr 172 64 3 9) ∧ e.mask ≠ 0 := by decide
  obtain ⟨rt, hrt, -, -, hperm, -⟩ := longest_prefix_chosen hcovered
  refine ⟨rt, hrt, ?_, hperm (by decide) _ (List.reverse_perm _).symm⟩
  have hfound : ∃ rt', sr_findLPMentry nested_routes (inet_addr 172 64 3 9) = some rt' ∧
      ntohl rt'.mask = prefix_mask 24 := by decide
  obtain ⟨rt', hrt', hmask⟩ := hfound
  rwa [Option.some.inj (hrt.symm.trans hrt')]

end Sample

/-- There is a route to `ip`. -/
def Routed (sr : SrInstance) (ip : uint32_t) : Prop :=
  (sr_findLPMentry sr.routing_table ip).isSome

instance (ip : uint32_t) : Decidable (Routed sr ip) := inferInstanceAs (Decidable (_ = true))

theorem Routed.of_some {sr : SrInstance} {ip : uint32_t} {rtentry : SrRt}
    (h : sr_findLPMentry sr.routing_table ip = some rtentry) : Routed sr ip := by
  rw [Routed, h]
  rfl

end SimpleRouter
