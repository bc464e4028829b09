import SimpleRouter.Model.Hwinfo
import SimpleRouter.Safety.MessageLengths

/-! # Interfaces from hardware information

    Each name in the message adds an interface, and the values behind it go to
    the last interface in the list, which is the one just added. So a group of
    entries with a name in front makes one interface, from the last values of
    the group, and what `malloc` left in the node is gone once the group has
    one value of each kind.

    * `loop_group`: what the loop does with one group.
    * `sr_verify_routing_table_eq_zero`: when verification succeeds.
    * `interfaces_from_groups`: a whole message, and the tables that verify after it.
-/

namespace SimpleRouter

open Framework Framework.Bytes

variable {heap : Heap} {brk : Nat} {hwinfo : List uint8_t} {sr : SrInstance}

/-! ### Groups -/

/-- The entries for one interface: its name, and at least one value of either kind. -/
structure HwGroup where
  head : CHwEntry
  rest : List CHwEntry
  named : head.key = HWINTERFACE
  alone : ∀ entry ∈ rest, entry.key ≠ HWINTERFACE
  has_ether : ∃ entry ∈ rest, entry.key = HWETHER
  has_ethip : ∃ entry ∈ rest, entry.key = HWETHIP

/-- The last entry with a key. -/
def last_entry (key : uint32_t) (rest : List CHwEntry) (h : ∃ entry ∈ rest, entry.key = key) :
    CHwEntry :=
  (rest.filter fun entry => entry.key = key).getLast (by simpa using h)

namespace HwGroup

def entries (group : HwGroup) : List CHwEntry := group.head :: group.rest

/-- The interface that a group is for: the first six bytes of one value are its address, and
    the first four of the other its IP, as they are written. -/
def interface (group : HwGroup) : SrIf where
  name := IfName.ofChars group.head.value.toList
  addr :=
    let value := (last_entry HWETHER group.rest group.has_ether).value
    Vector.ofFn fun k => value[k]
  ip :=
    let value := (last_entry HWETHIP group.rest group.has_ethip).value
    inet_addr value[0] value[1] value[2] value[3]

def toBytes (group : HwGroup) : List uint8_t := group.entries.flatMap CHwEntry.toBytes

end HwGroup

/-- A message with these groups; both words are as they lie in the buffer. -/
def hwinfo_message (mLen mType : uint32_t) (groups : List HwGroup) : List uint8_t :=
  le32 mLen ++ le32 mType ++ groups.flatMap HwGroup.toBytes

/-! ### Reading entries -/

namespace CHwEntry

variable {entry : CHwEntry} {tail : List uint8_t}

@[simp] theorem toBytes_length (entry : CHwEntry) : entry.toBytes.length = c_hw_entry_size := by
  simp only [toBytes, List.length_append, le32_length, Vector.length_toList]

@[simp] theorem ofBytes_toBytes : ofBytes (entry.toBytes ++ tail) = entry := by
  have hkey : u32 (entry.toBytes ++ tail) 0 = entry.mKey := by
    rw [toBytes, List.append_assoc, u32_le32]
  have hvalue : array 32 (entry.toBytes ++ tail) 4 = entry.value := by
    have hdrop : (entry.toBytes ++ tail).drop 4 = entry.value.toList ++ tail := by
      rw [toBytes, List.append_assoc, List.drop_left' (le32_length _)]
    have hread := array_drop 32 (entry.toBytes ++ tail) 4 0
    rw [hdrop, array_append_left] at hread
    exact hread.symm
  rw [ofBytes, hkey, hvalue]

theorem ether_eq (entry : CHwEntry) : entry.ether = Vector.ofFn fun k => entry.value[k] := by
  apply Vector.ext
  intro k hk
  have hin : k < 32 := Nat.lt_trans hk (by decide)
  have hbyte : u8 entry.value.toList (0 + k) = entry.value[k] := by
    simp [u8, List.getD_eq_getElem?_getD, hin]
  rw [ether, array, Vector.getElem_ofFn, Vector.getElem_ofFn]
  exact hbyte

theorem ethip_eq (entry : CHwEntry) : entry.ethip =
    inet_addr entry.value[0] entry.value[1] entry.value[2] entry.value[3] := by
  simp [ethip, u32, u8, inet_addr, List.getD_eq_getElem?_getD]

end CHwEntry

/-- From entry `i` on the message goes on like this. -/
def GoesOn (hwinfo : List uint8_t) (i : Nat) (tail : List uint8_t) : Prop :=
  hwinfo.drop (c_base_size + i * c_hw_entry_size) = tail

theorem GoesOn.head {i : Nat} {entry : CHwEntry} {tail : List uint8_t}
    (h : GoesOn hwinfo i (entry.toBytes ++ tail)) : mHWInfo hwinfo i = entry := by
  unfold GoesOn at h
  rw [mHWInfo, h, CHwEntry.ofBytes_toBytes]

theorem GoesOn.next {i : Nat} {entry : CHwEntry} {tail : List uint8_t}
    (h : GoesOn hwinfo i (entry.toBytes ++ tail)) : GoesOn hwinfo (i + 1) tail := by
  unfold GoesOn at h ⊢
  have hoffset : c_base_size + (i + 1) * c_hw_entry_size =
      c_base_size + i * c_hw_entry_size + c_hw_entry_size := by
    rw [Nat.succ_mul, Nat.add_assoc]
  rw [hoffset, ← List.drop_drop, h, List.drop_left' (CHwEntry.toBytes_length entry)]

/-! ### One entry -/

/-- What an entry other than a name does to the last interface. -/
def SrIf.store (ifc : SrIf) (entry : CHwEntry) : SrIf :=
  if entry.key = HWETHIP then { ifc with ip := entry.ethip }
  else if entry.key = HWETHER then { ifc with addr := entry.ether }
  else ifc

theorem handle_name {a : Nat} {entry : CHwEntry} (h : entry.key = HWINTERFACE) :
    sr_handle_hw_entry heap a sr entry =
      some { sr with if_list :=
        sr.if_list ++ [SrIf.fresh heap a (IfName.ofChars entry.value.toList)] } := by
  rw [sr_handle_hw_entry, if_pos h]
  rfl

variable (heap) in
theorem handle_value (a : Nat) {entry : CHwEntry} {before : List SrIf} {ifc : SrIf}
    (h : entry.key ≠ HWINTERFACE) (hlast : sr.if_list = before ++ [ifc]) :
    sr_handle_hw_entry heap a sr entry =
      some { sr with if_list := before ++ [ifc.store entry] } := by
  have hne : sr.if_list ≠ [] := by simp [hlast]
  rw [sr_handle_hw_entry, if_neg h, SrIf.store]
  by_cases hip : entry.key = HWETHIP
  · rw [if_pos hip, if_pos hip, sr_set_ether_ip, if_neg hne, hlast, List.modifyLast_concat]
  · by_cases hether : entry.key = HWETHER
    · rw [if_neg hip, if_pos hether, if_neg hip, if_pos hether, sr_set_ether_addr, if_neg hne,
        hlast, List.modifyLast_concat]
    · rw [if_neg hip, if_neg hether, if_neg hip, if_neg hether, ← hlast]

/-! ### A group -/

/-- What the values behind a name come to. -/
def SrIf.storeAll (ifc : SrIf) (rest : List CHwEntry) : SrIf := rest.foldl SrIf.store ifc

variable (heap brk) in
/-- The values behind a name go to the interface of that name. -/
theorem loop_rest (n : Nat) {rest : List CHwEntry} {before : List SrIf} {ifc : SrIf} {i : Nat}
    {tail : List uint8_t} (halone : ∀ entry ∈ rest, entry.key ≠ HWINTERFACE)
    (hgoes : GoesOn hwinfo i (rest.flatMap CHwEntry.toBytes ++ tail))
    (hlast : sr.if_list = before ++ [ifc]) :
    GoesOn hwinfo (i + rest.length) tail ∧
      sr_handle_hwinfo_loop heap brk hwinfo i (rest.length + n) sr =
        sr_handle_hwinfo_loop heap brk hwinfo (i + rest.length) n
          { sr with if_list := before ++ [ifc.storeAll rest] } := by
  induction rest generalizing i sr ifc with
  | nil =>
    refine ⟨hgoes, ?_⟩
    rw [SrIf.storeAll, List.foldl_nil, ← hlast, List.length_nil, Nat.zero_add]
    rfl
  | cons entry rest ih =>
    rw [List.flatMap_cons, List.append_assoc] at hgoes
    have hvalue := handle_value heap (brk + i) (halone entry List.mem_cons_self) hlast
    have hrounds : (entry :: rest).length + n = rest.length + n + 1 := by
      rw [List.length_cons]
      omega
    have hindex : i + (entry :: rest).length = i + 1 + rest.length := by
      rw [List.length_cons]
      omega
    rw [hrounds, hindex, sr_handle_hwinfo_loop, hgoes.head, hvalue]
    exact ih (fun e he => halone e (List.mem_cons_of_mem _ he)) hgoes.next rfl

theorem SrIf.store_addr (ifc : SrIf) (entry : CHwEntry) :
    (ifc.store entry).addr = if entry.key = HWETHER then entry.ether else ifc.addr := by
  rw [SrIf.store]
  by_cases hip : entry.key = HWETHIP
  · have hother : entry.key ≠ HWETHER := by
      rw [hip]
      decide
    rw [if_pos hip, if_neg hother]
  · rw [if_neg hip, apply_ite SrIf.addr]

theorem SrIf.store_ip (ifc : SrIf) (entry : CHwEntry) :
    (ifc.store entry).ip = if entry.key = HWETHIP then entry.ethip else ifc.ip := by
  rw [SrIf.store]
  by_cases hip : entry.key = HWETHIP
  · rw [if_pos hip, if_pos hip]
  · rw [if_neg hip, if_neg hip, apply_ite SrIf.ip, ite_self]

/-- The last value of a kind is what stays. -/
theorem storeAll_field {α : Type} {field : SrIf → α} {value : CHwEntry → α} {key : uint32_t}
    (hstore : ∀ ifc entry, field (ifc.store entry) =
      if entry.key = key then value entry else field ifc) (ifc : SrIf) (rest : List CHwEntry) :
    field (ifc.storeAll rest) =
      ((rest.filter fun entry => entry.key = key).map value).getLastD (field ifc) := by
  induction rest generalizing ifc with
  | nil => rfl
  | cons entry rest ih =>
    show field ((ifc.store entry).storeAll rest) = _
    rw [ih, hstore, List.filter_cons]
    by_cases hkey : entry.key = key
    · simp only [hkey, decide_true, if_true, List.map_cons, List.getLastD_cons]
    · simp only [hkey, decide_false, Bool.false_eq_true, if_false]

/-- With an entry for it, what was there before does not matter. -/
theorem storeAll_last {α : Type} {field : SrIf → α} {value : CHwEntry → α} {key : uint32_t}
    (hstore : ∀ ifc entry, field (ifc.store entry) =
      if entry.key = key then value entry else field ifc) (ifc : SrIf) {rest : List CHwEntry}
    (h : ∃ entry ∈ rest, entry.key = key) :
    field (ifc.storeAll rest) = value (last_entry key rest h) := by
  rw [storeAll_field hstore, List.getLastD_eq_getLast?, List.getLast?_map, last_entry,
    List.getLast?_eq_some_getLast]
  rfl

theorem storeAll_name (ifc : SrIf) (rest : List CHwEntry) :
    (ifc.storeAll rest).name = ifc.name := by
  induction rest generalizing ifc with
  | nil => rfl
  | cons entry rest ih =>
    show ((ifc.store entry).storeAll rest).name = _
    rw [ih, SrIf.store]
    split_ifs <;> rfl

/-- Nothing of the new node is left. -/
theorem storeAll_group (group : HwGroup) (a : Nat) :
    (SrIf.fresh heap a (IfName.ofChars group.head.value.toList)).storeAll group.rest =
      group.interface := by
  generalize hfresh : SrIf.fresh heap a (IfName.ofChars group.head.value.toList) = ifc
  have hname : (ifc.storeAll group.rest).name = IfName.ofChars group.head.value.toList := by
    rw [storeAll_name, ← hfresh]
    rfl
  have haddr := storeAll_last SrIf.store_addr ifc group.has_ether
  have hip := storeAll_last SrIf.store_ip ifc group.has_ethip
  calc ifc.storeAll group.rest
      = ⟨(ifc.storeAll group.rest).name, (ifc.storeAll group.rest).addr,
          (ifc.storeAll group.rest).ip⟩ := rfl
    _ = group.interface := by
        rw [hname, haddr, hip, CHwEntry.ether_eq, CHwEntry.ethip_eq]
        rfl

variable (heap brk sr) in
/-- A group adds its interface. -/
theorem loop_group (n : Nat) {group : HwGroup} {i : Nat} {tail : List uint8_t}
    (hgoes : GoesOn hwinfo i (group.toBytes ++ tail)) :
    GoesOn hwinfo (i + group.entries.length) tail ∧
      sr_handle_hwinfo_loop heap brk hwinfo i (group.entries.length + n) sr =
        sr_handle_hwinfo_loop heap brk hwinfo (i + group.entries.length) n
          { sr with if_list := sr.if_list ++ [group.interface] } := by
  rw [HwGroup.toBytes, HwGroup.entries, List.flatMap_cons, List.append_assoc] at hgoes
  have hrounds : group.entries.length + n = group.rest.length + n + 1 := by
    rw [HwGroup.entries, List.length_cons]
    omega
  have hindex : i + group.entries.length = i + 1 + group.rest.length := by
    rw [HwGroup.entries, List.length_cons]
    omega
  let added : SrInstance := { sr with if_list :=
    sr.if_list ++ [SrIf.fresh heap (brk + i) (IfName.ofChars group.head.value.toList)] }
  have hlast : added.if_list =
    sr.if_list ++ [SrIf.fresh heap (brk + i) (IfName.ofChars group.head.value.toList)] := rfl
  obtain ⟨htail, hloop⟩ := loop_rest heap brk n group.alone hgoes.next hlast
  rw [hrounds, hindex, sr_handle_hwinfo_loop, hgoes.head, handle_name group.named]
  refine ⟨htail, ?_⟩
  rw [storeAll_group] at hloop
  exact hloop

/-- So the groups of a message add theirs, in their order. -/
theorem loop_groups {groups : List HwGroup} {i : Nat}
    (hgoes : GoesOn hwinfo i (groups.flatMap HwGroup.toBytes)) :
    sr_handle_hwinfo_loop heap brk hwinfo i (groups.flatMap HwGroup.entries).length sr =
      some { sr with if_list := sr.if_list ++ groups.map HwGroup.interface } := by
  induction groups generalizing i sr with
  | nil =>
    rw [List.map_nil, List.append_nil]
    rfl
  | cons group groups ih =>
    rw [List.flatMap_cons] at hgoes
    obtain ⟨htail, hloop⟩ :=
      loop_group heap brk sr (groups.flatMap HwGroup.entries).length hgoes
    rw [List.flatMap_cons, List.length_append, hloop, ih htail, List.map_cons, List.append_assoc]
    rfl

/-! ### Verification -/

/-- **Verification succeeds exactly** when there are routes and interfaces, and every route
    names one of these. -/
theorem sr_verify_routing_table_eq_zero :
    sr_verify_routing_table sr = 0 ↔ sr.routing_table ≠ [] ∧ sr.if_list ≠ [] ∧
      ∀ rt ∈ sr.routing_table, ∃ ifc ∈ sr.if_list, ifc.name = rt.interface := by
  rw [sr_verify_routing_table]
  by_cases hempty : sr.if_list = [] ∨ sr.routing_table = []
  · rw [if_pos hempty]
    refine iff_of_false (by decide) fun h => ?_
    rcases hempty with hif | hrt
    · exact h.2.1 hif
    · exact h.1 hrt
  · rw [if_neg hempty, List.countP_eq_zero]
    rw [not_or] at hempty
    simp [hempty]

/-- The first interface of a name, and where it is. -/
theorem sr_get_interface_first {name : IfName} {ifc : SrIf}
    (h : sr_get_interface sr name = some ifc) :
    ∃ before after, sr.if_list = before ++ ifc :: after ∧ ifc.name = name ∧
      ∀ other ∈ before, other.name ≠ name := by
  obtain ⟨hname, before, after, hsplit, hbefore⟩ := List.find?_eq_some_iff_append.mp h
  exact ⟨before, after, hsplit, by simpa using hname, by simpa using hbefore⟩

/-- The first group for `name`. -/
def FirstGroup (groups : List HwGroup) (name : IfName) (group : HwGroup) : Prop :=
  ∃ before after, groups = before ++ group :: after ∧ group.interface.name = name ∧
    ∀ other ∈ before, other.interface.name ≠ name

/-- A router's tables agree with the groups that its interfaces come from. -/
structure Verifies (sr : SrInstance) (groups : List HwGroup) : Prop where
  verified : sr_verify_routing_table sr = 0 ↔ sr.routing_table ≠ [] ∧ groups ≠ [] ∧
    ∀ rt ∈ sr.routing_table, ∃ group ∈ groups, group.interface.name = rt.interface
  resolved : sr_verify_routing_table sr = 0 → ∀ rt ∈ sr.routing_table,
    ∃ group, FirstGroup groups rt.interface group ∧
      sr_get_interface sr rt.interface = some group.interface

theorem verifies_of_if_list {groups : List HwGroup}
    (h : sr.if_list = groups.map HwGroup.interface) : Verifies sr groups := by
  constructor
  · rw [sr_verify_routing_table_eq_zero, h]
    simp
  · intro hverify rt hrt
    obtain ⟨ifc, hget⟩ := sr_get_interface_of_verify hverify hrt
    obtain ⟨before, after, hsplit, hname, hbefore⟩ := sr_get_interface_first hget
    -- the split of the interfaces comes from a split of the groups
    rw [h] at hsplit
    obtain ⟨gbefore, gtail, hgroups, rfl, htail⟩ := List.map_eq_append_iff.mp hsplit
    obtain ⟨group, gafter, rfl, rfl, rfl⟩ := List.map_eq_cons_iff.mp htail
    exact ⟨group, ⟨gbefore, gafter, hgroups, hname,
      fun other hother => hbefore _ (List.mem_map_of_mem hother)⟩, hget⟩

/-! ### A message -/

theorem entries_length (entries : List CHwEntry) :
    (entries.flatMap CHwEntry.toBytes).length = entries.length * c_hw_entry_size := by
  induction entries with
  | nil => rfl
  | cons entry rest ih =>
    rw [List.flatMap_cons, List.length_append, ih, CHwEntry.toBytes_length, List.length_cons,
      Nat.succ_mul, Nat.add_comm]

theorem hwinfo_message_length (mLen mType : uint32_t) (groups : List HwGroup) :
    (hwinfo_message mLen mType groups).length =
      c_base_size + (groups.flatMap HwGroup.entries).length * c_hw_entry_size := by
  have hbody : groups.flatMap HwGroup.toBytes =
      (groups.flatMap HwGroup.entries).flatMap CHwEntry.toBytes := List.flatMap_assoc.symm
  rw [hwinfo_message, hbody, List.length_append, entries_length]
  rfl

/-- As many entries are counted as there are. -/
theorem hwinfo_num_entries {mLen mType : uint32_t} {groups : List HwGroup}
    (hlen : (ntohl mLen).toNat = (hwinfo_message mLen mType groups).length) :
    (num_entries (ntohl mLen)).toNat = (groups.flatMap HwGroup.entries).length := by
  rw [hwinfo_message_length] at hlen
  rw [num_entries_toNat (by omega), hlen, Nat.add_sub_cancel_left,
    Nat.mul_div_cancel _ (by decide)]

/-- **The interfaces are the groups of the message**, with the last values of each, and
    verification is for the names of these. -/
theorem interfaces_from_groups {mLen mType : uint32_t} {groups : List HwGroup}
    (hempty : sr.if_list = [])
    (hlen : (ntohl mLen).toNat = (hwinfo_message mLen mType groups).length) :
    (∃ n, sr_handle_hwinfo heap brk sr (hwinfo_message mLen mType groups) =
      some ({ sr with if_list := groups.map HwGroup.interface }, n)) ∧
    ∀ rtable, Verifies ⟨groups.map HwGroup.interface, rtable⟩ groups := by
  refine ⟨?_, fun rtable => verifies_of_if_list rfl⟩
  have hmLen : u32 (hwinfo_message mLen mType groups) 0 = mLen := by
    rw [hwinfo_message, List.append_assoc, u32_le32]
  have hgoes : GoesOn (hwinfo_message mLen mType groups) 0 (groups.flatMap HwGroup.toBytes) :=
    List.drop_left' rfl
  refine ⟨num_entries (ntohl mLen), ?_⟩
  rw [sr_handle_hwinfo, hmLen, hwinfo_num_entries hlen, loop_groups hgoes, hempty, List.nil_append]
  rfl

namespace Sample

def hw_entry (key : uint32_t) (value : List uint8_t) : CHwEntry := ⟨ntohl key, array 32 value 0⟩

theorem hw_entry_key (key : uint32_t) (value : List uint8_t) : (hw_entry key value).key = key :=
  swap32_swap32 key

/-- An interface that is given two addresses of either kind, the second ones last. -/
def twice_set (name : List uint8_t) (last : uint8_t) : HwGroup where
  head := hw_entry HWINTERFACE name
  rest := [hw_entry HWETHIP [10, 0, 1, 0], hw_entry HWETHER [2, 0, 0, 0, 0, 0],
    hw_entry HWETHER [2, 0, 0, 0, 0, last], hw_entry HWETHIP [10, 0, 1, last]]
  named := hw_entry_key _ _
  alone := by
    simp only [List.forall_mem_cons, hw_entry_key]
    decide
  has_ether := ⟨_, .tail _ (.head _), hw_entry_key _ _⟩
  has_ethip := ⟨_, .head _, hw_entry_key _ _⟩

/-- Ten entries for two interfaces, and the tables that verify with these. -/
theorem two_interfaces :
    let groups := [twice_set [101, 49] 1, twice_set [101, 50] 2]
    (ntohl (ntohl 368)).toNat = (hwinfo_message (ntohl 368) VNSHWINFO groups).length ∧
    (∃ n, sr_handle_hwinfo ⟨fun _ _ => 0, fun _ _ => 0⟩ 1 ⟨[], []⟩
      (hwinfo_message (ntohl 368) VNSHWINFO groups) =
        some (⟨groups.map HwGroup.interface, []⟩, n)) ∧
    ∀ rtable, Verifies ⟨groups.map HwGroup.interface, rtable⟩ groups := by
  intro groups
  have hlen : (ntohl (ntohl 368)).toNat = (hwinfo_message (ntohl 368) VNSHWINFO groups).length := by
    decide +kernel
  exact ⟨hlen, interfaces_from_groups rfl hlen⟩

end Sample

end SimpleRouter
