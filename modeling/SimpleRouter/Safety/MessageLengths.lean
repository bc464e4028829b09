import SimpleRouter.Model.Vns

/-! # Lengths of messages

    `sr_read_from_server_expect` rejects messages that are too long, and works
    out every other length by subtracting what should be in front of it. When
    that is not there, an unsigned difference wraps around: a message of eight
    bytes that says it holds a packet hands on a frame of nearly 4 GiB.

    * `packet_len_toNat` and its like: what each subtraction comes to.
    * `lengths_in_message_iff`: when all of them stay in the message.
-/

namespace SimpleRouter

variable {expected_cmd len command : uint32_t}

/-! ### Each length -/

/-- What `sr_read_from_server_expect` admits. -/
def LengthAdmitted (len : uint32_t) : Prop := ¬ (len.toInt > 10000 ∨ len.toInt < 0)

instance (len : uint32_t) : Decidable (LengthAdmitted len) := inferInstanceAs (Decidable (¬ _))

theorem admitted_toNat (h : LengthAdmitted len) : len.toNat ≤ 10000 := by
  have hlt := len.isLt
  unfold LengthAdmitted BitVec.toInt at h
  split at h
  · omega
  · omega

/-- The frame length, which wraps around for messages that are too short. -/
theorem packet_len_toNat (h : len.toNat ≤ 10000) :
    (packet_len len).toNat = (len.toNat + (0x100000000 - c_packet_header_size)) % 0x100000000 := by
  have hmsb : len.msb = false := by
    rw [BitVec.msb_eq_false_iff_two_mul_lt]
    omega
  have hlen : (len.signExtend 64).toNat = len.toNat := by
    rw [BitVec.signExtend_eq_setWidth_of_msb_false hmsb, BitVec.toNat_setWidth]
    omega
  simp only [packet_len, BitVec.toNat_setWidth, BitVec.toNat_add, BitVec.toNat_sub,
    BitVec.toNat_ofNat, hlen, SrEthernetHdr.size, c_packet_ethernet_header_size,
    c_packet_header_size]
  omega

/-- So does the length of the table. -/
theorem rtable_len_toNat :
    (rtable_len len).toNat = (len.toNat + (0x100000000 - c_rtable_size)) % 0x100000000 := by
  have height : (8 : uint32_t).toNat = 8 := rfl
  simp only [rtable_len, BitVec.toNat_setWidth, BitVec.toNat_sub, BitVec.toNat_ofNat, height,
    IDSIZE, c_base_size, c_rtable_size]
  omega

theorem salt_len_toNat (hbase : c_base_size ≤ len.toNat) :
    (salt_len len).toNat = len.toNat - c_auth_request_size := by
  simp only [salt_len, BitVec.toNat_setWidth, BitVec.toNat_sub, BitVec.toNat_ofNat,
    c_auth_request_size, c_base_size] at hbase ⊢
  omega

theorem num_entries_toNat (hbase : c_base_size ≤ len.toNat) :
    (num_entries len).toNat = (len.toNat - c_base_size) / c_hw_entry_size := by
  have hlt := len.isLt
  have hbody : (len.setWidth 64 - (2 * 4 : size_t)).toNat = len.toNat - c_base_size := by
    have height : (2 * 4 : size_t).toNat = 8 := rfl
    simp only [BitVec.toNat_sub, BitVec.toNat_setWidth, height, c_base_size] at hbase ⊢
    omega
  have hdiv : ((len.setWidth 64 - (2 * 4 : size_t)) / BitVec.ofNat 64 c_hw_entry_size).toNat =
      (len.toNat - c_base_size) / c_hw_entry_size := by
    rw [BitVec.toNat_udiv, hbody]
    rfl
  -- the quotient is far below the greatest `int`
  have hsmall : (len.toNat - c_base_size) / c_hw_entry_size < 0x40000000 := by
    simp only [c_base_size, c_hw_entry_size]
    omega
  generalize (len.toNat - c_base_size) / c_hw_entry_size = n at hdiv hsmall ⊢
  rw [num_entries, BitVec.toInt_eq_toNat_of_lt]
  · rw [BitVec.toNat_setWidth, hdiv, Int.toNat_natCast]
    omega
  · rw [BitVec.toNat_setWidth, hdiv]
    omega

/-! ### What a message has to hold -/

/-- The least that a message for `command` holds: what comes before its variable part, or one
    byte of its text. -/
def command_size (command : uint32_t) : Nat :=
  if command = VNSPACKET then c_packet_header_size
  else if command = VNS_RTABLE then c_rtable_size
  else if command = VNS_AUTH_STATUS then c_auth_status_size
  else if command = VNSCLOSE ∨ command = VNSBANNER then c_base_size + 1
  else c_base_size

/-- All that is used of a message is there, and a message that is too short for its command
    is not carried out. -/
structure StaysInMessage (expected_cmd len command : uint32_t) : Prop where
  extents : ∀ e ∈ (sr_read_from_server_expect expected_cmd len command).extents,
    e.offset + e.length ≤ len.toNat
  rejected : len.toNat < command_size command →
    (sr_read_from_server_expect expected_cmd len command).accepted = false

/-- The command is one that is expected, or none in particular is. -/
def Expected (expected_cmd command : uint32_t) : Prop :=
  expected_cmd = 0 ∨ command = expected_cmd ∨ command = VNSCLOSE

/-! ### One command at a time -/

/-- What carrying out a command uses is in the message. -/
def Fits (len command : uint32_t) : Prop :=
  ∀ e ∈ command_extents len command, e.offset + e.length ≤ len.toNat

/-- A frame that wraps around is longer than any message. -/
theorem packet_fits_iff (h : len.toNat ≤ 10000) :
    Fits len VNSPACKET ↔ c_packet_header_size ≤ len.toNat := by
  unfold Fits command_extents
  simp only [if_true, List.forall_mem_cons, List.not_mem_nil, false_implies, implies_true,
    and_true, packet_len_toNat h, c_base_size, c_packet_header_size]
  omega

/-- Only whole entries are counted. -/
theorem hwinfo_fits (hbase : c_base_size ≤ len.toNat) : Fits len VNSHWINFO := by
  have hother : ¬ VNSHWINFO = VNSPACKET := by decide
  unfold Fits command_extents
  simp only [if_neg hother, if_true, List.forall_mem_singleton, num_entries_toNat hbase]
  have hle := Nat.div_mul_le_self (len.toNat - c_base_size) c_hw_entry_size
  simp only [c_base_size] at hbase hle ⊢
  omega

theorem rtable_fits_iff (h : len.toNat ≤ 10000) :
    Fits len VNS_RTABLE ↔ c_rtable_size ≤ len.toNat := by
  have hother : ¬ VNS_RTABLE = VNSPACKET ∧ ¬ VNS_RTABLE = VNSHWINFO := by decide
  unfold Fits command_extents
  simp only [hother, if_false, if_true, List.forall_mem_cons, List.not_mem_nil, false_implies,
    implies_true, and_true, rtable_len_toNat, c_base_size, c_rtable_size, IDSIZE]
  omega

theorem auth_request_fits (hbase : c_base_size ≤ len.toNat) : Fits len VNS_AUTH_REQUEST := by
  have hother : ¬ VNS_AUTH_REQUEST = VNSPACKET ∧ ¬ VNS_AUTH_REQUEST = VNSHWINFO ∧
      ¬ VNS_AUTH_REQUEST = VNS_RTABLE := by decide
  unfold Fits command_extents
  simp only [hother, if_false, if_true, List.forall_mem_singleton, salt_len_toNat hbase,
    c_auth_request_size, c_base_size] at hbase ⊢
  omega

/-- A command is carried out within the message exactly when what it starts with is there. -/
theorem fits_iff (h : len.toNat ≤ 10000) (hbase : c_base_size ≤ len.toNat) :
    Fits len command ↔ command_size command ≤ len.toNat := by
  -- by the command, in the order in which the code tells them apart
  unfold command_size
  by_cases hpacket : command = VNSPACKET
  · rw [if_pos hpacket, hpacket]
    exact packet_fits_iff h
  by_cases hrtable : command = VNS_RTABLE
  · rw [if_neg hpacket, if_pos hrtable, hrtable]
    exact rtable_fits_iff h
  rw [if_neg hpacket, if_neg hrtable]
  by_cases hhwinfo : command = VNSHWINFO
  · subst hhwinfo
    exact iff_of_true (hwinfo_fits hbase) hbase
  by_cases hrequest : command = VNS_AUTH_REQUEST
  · subst hrequest
    exact iff_of_true (auth_request_fits hbase) hbase
  -- what is left uses the header, or one byte more
  unfold Fits command_extents
  simp only [if_neg hpacket, if_neg hhwinfo, if_neg hrtable, if_neg hrequest]
  by_cases hstatus : command = VNS_AUTH_STATUS
  · simp only [if_pos hstatus, List.forall_mem_singleton, c_base_size, c_auth_status_size]
  by_cases htext : command = VNSCLOSE ∨ command = VNSBANNER
  · simp only [if_neg hstatus, if_pos htext, List.forall_mem_singleton]
  · simp only [if_neg hstatus, if_neg htext, List.not_mem_nil, false_implies, implies_true,
      true_iff]
    exact hbase

/-! ### Every message -/

/-- **Lengths stay in the message exactly** when it has a header and, if its command is
    carried out, what that command starts with. -/
theorem lengths_in_message_iff (h : LengthAdmitted len) :
    StaysInMessage expected_cmd len command ↔ c_base_size ≤ len.toNat ∧
      (Expected expected_cmd command → command_size command ≤ len.toNat) := by
  have hlen := admitted_toNat h
  have hexpected : Expected expected_cmd command ↔
      ¬ (expected_cmd ≠ 0 ∧ command ≠ expected_cmd ∧ command ≠ VNSCLOSE) := by
    unfold Expected
    tauto
  by_cases hcmd : Expected expected_cmd command
  · have hreading : sr_read_from_server_expect expected_cmd len command =
        ⟨true, ⟨0, c_base_size⟩ :: command_extents len command⟩ := by
      rw [sr_read_from_server_expect, if_neg h]
      exact if_neg (hexpected.mp hcmd)
    constructor
    · intro hstays
      have hextents := hstays.extents
      simp only [hreading, List.forall_mem_cons, Nat.zero_add] at hextents
      exact ⟨hextents.1, fun _ => (fits_iff hlen hextents.1).mp hextents.2⟩
    · intro hboth
      have hsize := hboth.2 hcmd
      refine ⟨?_, fun hshort => absurd hsize (Nat.not_le.mpr hshort)⟩
      simp only [hreading, List.forall_mem_cons, Nat.zero_add]
      exact ⟨hboth.1, (fits_iff hlen hboth.1).mpr hsize⟩
  · have hreading : sr_read_from_server_expect expected_cmd len command =
        ⟨false, [⟨0, c_base_size⟩]⟩ := by
      rw [sr_read_from_server_expect, if_neg h]
      exact if_pos (not_not.mp fun hnot => hcmd (hexpected.mpr hnot))
    constructor
    · intro hstays
      have hextents := hstays.extents
      simp only [hreading, List.forall_mem_singleton, Nat.zero_add] at hextents
      exact ⟨hextents, fun h => absurd h hcmd⟩
    · intro hboth
      refine ⟨?_, fun _ => by rw [hreading]⟩
      simp only [hreading, List.forall_mem_singleton, Nat.zero_add]
      exact hboth.1

/-- A message of eight bytes that says it holds a packet. -/
theorem empty_packet_wraps :
    LengthAdmitted 8 ∧
      (sr_read_from_server_expect 0 8 VNSPACKET).extents =
        [⟨0, 8⟩, ⟨8, 16⟩, ⟨24, 0xfffffff0⟩] ∧
      ¬ StaysInMessage 0 8 VNSPACKET := by
  have hextents : (sr_read_from_server_expect 0 8 VNSPACKET).extents =
      [⟨0, 8⟩, ⟨8, 16⟩, ⟨24, 0xfffffff0⟩] := by decide +kernel
  refine ⟨by decide, hextents, fun hstays => ?_⟩
  have hframe := hstays.extents ⟨24, 0xfffffff0⟩ (by rw [hextents]; simp)
  exact absurd hframe (by decide)

/-- A message that does hold one, of 42 bytes. -/
theorem packet_in_message : StaysInMessage 0 66 VNSPACKET :=
  (lengths_in_message_iff (by decide)).mpr ⟨by decide, fun _ => by decide⟩

end SimpleRouter
