import SimpleRouter.Packet.Checksums

/-! # Which checksums are accepted

    The checksum of a packet is checked by computing it again: the field is
    taken out and compared with what `cksum` makes of the rest. `cksum` never
    returns zero, so a packet that was sent with a zero in the field is not
    accepted, even if its words sum up to all ones as they should.

    * `cksum_accepts_iff`: what the comparison accepts.
    * `checksum_rule_iff`: when that is what the sum says.
-/

namespace SimpleRouter

open Framework Framework.Bytes Framework.OnesComplement

variable {sr : SrInstance} {packet : RawFrame}

/-! ### Computing a checksum again -/

/-- The comparison accepts a checksum that is not zero and fills in the words. -/
theorem cksum_accepts_iff {data pre post : List uint8_t} (hdata : data = pre ++ (le16 0 ++ post))
    (hpre : pre.length % 2 = 0) (hlen : data.length ≤ cksum_max) (hpos : 0 < total data)
    (x : uint16_t) :
    x = cksum data ↔ x ≠ 0 ∧ sum (words (pre ++ (le16 x ++ post))) = 0xffff := by
  obtain ⟨f, hfolds, hsum⟩ := swap16_cksum (Nat.le_trans hlen cksum_max_le)
  have hzero : (swap16 0).toNat = 0 := swap16_toNat_eq_zero.mpr rfl
  have htotal : total (pre ++ (le16 x ++ post)) = total data + (swap16 x).toNat := by
    rw [hdata, total_append _ hpre, total_append _ hpre, total_le16, total_le16, hzero]
    omega
  have heq : x = cksum data ↔ (swap16 x).toNat = (swap16 (cksum data)).toNat := by
    rw [BitVec.toNat_inj]
    exact ⟨congrArg swap16, swap16_injective⟩
  have hne : x ≠ 0 ↔ (swap16 x).toNat ≠ 0 := not_congr swap16_toNat_eq_zero.symm
  have hword := (swap16 x).isLt
  have hle := hfolds.le
  have hmod := hfolds.mod
  have hpos' : f ≠ 0 := fun h => by
    have := hfolds.zero.mp h
    omega
  -- one number from 1 to 65535 fills in the words
  rw [heq, hsum, hne, sum_eq_ones_iff, htotal]
  split
  · omega
  · omega

/-! ### Headers -/

/-- The bytes of an IP header, with `x` as its checksum. -/
theorem ip_hdr_bytes (i_hdr : SrIpHdr) (x : uint16_t) :
    { i_hdr with ip_sum := x }.toBytes =
      i_hdr.toBytes.take 10 ++ (le16 x ++ i_hdr.toBytes.drop 12) := rfl

theorem ip_hdr_toBytes (h : SrEthernetHdr.size + SrIpHdr.size ≤ packet.length) :
    (ip_hdr packet).toBytes = (packet.drop SrEthernetHdr.size).take SrIpHdr.size := by
  refine SrIpHdr.toBytes_ofBytes ?_
  rw [List.length_drop]
  omega

/-- A header of version 4 has something to sum. -/
theorem total_header_pos {i_hdr : SrIpHdr} (h : i_hdr.ip_v = 4) : 0 < total i_hdr.toBytes := by
  have hfirst : (i_hdr.ip_v ++ i_hdr.ip_hl).toNat ≠ 0 := by
    intro hzero
    have hv : (i_hdr.ip_v ++ i_hdr.ip_hl).extractLsb' 4 4 = i_hdr.ip_v :=
      BitVec.extractLsb'_append_eq_left
    rw [BitVec.eq_of_toNat_eq (y := 0) hzero, h] at hv
    revert hv
    decide
  show 0 < (words (_ :: _ :: _)).sum
  rw [words, List.sum_cons]
  omega

/-- The validation of a header accepts what is not zero and sums up to all ones. -/
theorem ip_valid_iff (hlen : SrEthernetHdr.size + SrIpHdr.size ≤ packet.length)
    (hv : (ip_hdr packet).ip_v = 4) :
    ip_valid packet ↔ (ip_hdr packet).ip_sum ≠ 0 ∧ HeaderSum packet := by
  have hzeroed : { ip_hdr packet with ip_sum := 0 }.toBytes.length ≤ cksum_max := by
    rw [SrIpHdr.toBytes_length]
    decide
  have hbytes : HeaderSum packet ↔ sum (words ((ip_hdr packet).toBytes.take 10 ++
      (le16 (ip_hdr packet).ip_sum ++ (ip_hdr packet).toBytes.drop 12))) = 0xffff := by
    rw [← ip_hdr_bytes, ip_hdr_toBytes hlen]
    exact and_iff_right hlen
  rw [hbytes, ← cksum_accepts_iff (ip_hdr_bytes (ip_hdr packet) 0) (by simp [SrIpHdr.size]) hzeroed
    (total_header_pos hv)]
  have hroom : SrIpHdr.size ≤ packet.length - SrEthernetHdr.size := by omega
  simp only [ip_valid, hroom, hv, true_and, decide_eq_true_eq]

/-! ### Echo requests -/

/-- An ICMP echo request for the router, up to its ICMP checksum. -/
structure EchoRequest (sr : SrInstance) (packet : RawFrame) : Prop where
  valid : ip_valid packet
  allowed : ip_black_list (ip_hdr packet) = false
  to_router : ip_to_router sr packet
  ip_p : (ip_hdr packet).ip_p = ip_protocol_icmp
  length : SrEthernetHdr.size + SrIpHdr.size + SrIcmpHdr.size ≤ packet.length
  icmp_type : (icmp_hdr packet).icmp_type = 0x08

/-- The bytes of an ICMP message, with `x` as its checksum. -/
theorem icmp_hdr_bytes (packet : RawFrame) (x : uint16_t) :
    { icmp_hdr packet with icmp_sum := x }.toBytes ++ icmp_rest packet =
      [(icmp_hdr packet).icmp_type, (icmp_hdr packet).icmp_code] ++
        (le16 x ++ icmp_rest packet) := by
  simp [SrIcmpHdr.toBytes]

theorem icmp_toBytes (h : SrEthernetHdr.size + SrIpHdr.size + SrIcmpHdr.size ≤ packet.length) :
    (icmp_hdr packet).toBytes ++ icmp_rest packet =
      packet.drop (SrEthernetHdr.size + SrIpHdr.size) := by
  have hroom : SrIcmpHdr.size ≤ (packet.drop (SrEthernetHdr.size + SrIpHdr.size)).length := by
    rw [List.length_drop]
    omega
  have hfirst : (icmp_hdr packet).toBytes =
      (packet.drop (SrEthernetHdr.size + SrIpHdr.size)).take SrIcmpHdr.size := by
    rw [take_eq_map_u8 _ hroom, icmp_hdr]
    simp only [SrIcmpHdr.toBytes, SrIcmpHdr.ofBytes, le16_u16]
    rfl
  have hrest : icmp_rest packet =
      (packet.drop (SrEthernetHdr.size + SrIpHdr.size)).drop SrIcmpHdr.size := by
    rw [icmp_rest, List.drop_drop]
  rw [hfirst, hrest]
  exact List.take_append_drop _ _

/-- The comparison of ICMP checksums accepts what is not zero and sums up to all ones. -/
theorem EchoRequest.accepted_iff (h : EchoRequest sr packet) (hlen : packet.length ≤ cksum_max) :
    sr_ip_branch sr packet = .echo_request ↔ (icmp_hdr packet).icmp_sum ≠ 0 ∧ IcmpSum packet := by
  have hzeroed : ({ icmp_hdr packet with icmp_sum := 0 }.toBytes ++ icmp_rest packet).length ≤
      cksum_max := by
    have hroom := h.length
    rw [icmp_hdr_bytes]
    simp only [icmp_rest, List.length_append, List.length_cons, List.length_nil, le16_length,
      List.length_drop, SrEthernetHdr.size, SrIpHdr.size, SrIcmpHdr.size] at hroom ⊢
    omega
  have hpos : 0 < total ({ icmp_hdr packet with icmp_sum := 0 }.toBytes ++ icmp_rest packet) := by
    show 0 < (words (_ :: _ :: _)).sum
    rw [words, List.sum_cons, h.icmp_type]
    show 0 < 8 * 256 + _ + _
    omega
  have hbytes : IcmpSum packet ↔ sum (words ([(icmp_hdr packet).icmp_type,
      (icmp_hdr packet).icmp_code] ++ (le16 (icmp_hdr packet).icmp_sum ++ icmp_rest packet))) =
        0xffff := by
    rw [← icmp_hdr_bytes, icmp_toBytes h.length]
    rfl
  rw [hbytes, ← cksum_accepts_iff (icmp_hdr_bytes packet 0) (by simp) hzeroed hpos]
  have hroom : ¬ packet.length - SrEthernetHdr.size - SrIpHdr.size < SrIcmpHdr.size := by
    have := h.length
    omega
  simp [sr_ip_branch, h.valid, h.allowed, h.to_router, h.ip_p, hroom, h.icmp_type]

/-! ### The rule -/

theorem rule_iff {accepted nonzero valid : Prop} (h : accepted ↔ nonzero ∧ valid) :
    (accepted ↔ valid) ↔ (valid → nonzero) := by
  rw [h]
  exact and_iff_right_iff_imp

/-- **A header is accepted by the Internet checksum rule** unless its checksum is zero and its
    words sum up to all ones; so is an echo request, whatever its length. -/
theorem checksum_rule_iff (sr : SrInstance) (packet : RawFrame) :
    (SrEthernetHdr.size + SrIpHdr.size ≤ packet.length → (ip_hdr packet).ip_v = 4 →
      ((ip_valid packet ↔ HeaderSum packet) ↔
        ¬ ((ip_hdr packet).ip_sum = 0 ∧ HeaderSum packet))) ∧
    (EchoRequest sr packet → packet.length ≤ cksum_max →
      ((sr_ip_branch sr packet = .echo_request ↔ IcmpSum packet) ↔
        ¬ ((icmp_hdr packet).icmp_sum = 0 ∧ IcmpSum packet))) := by
  refine ⟨fun hlen hv => ?_, fun h hlen => ?_⟩
  · rw [rule_iff (ip_valid_iff hlen hv)]
    tauto
  · rw [rule_iff (h.accepted_iff hlen)]
    tauto

namespace Sample

/-- An echo request for us. The words of its header sum up to all ones as they are, so there is
    nothing to add, and its checksum is zero. -/
def zero_checksum : RawFrame :=
  (⟨mac 8, mac 9, htons ethertype_ip⟩ : SrEthernetHdr).toBytes ++
    [0x45, 0x00, 0x00, 0x1c, 0x08, 0xef, 0x00, 0x00, 0x40, 0x01, 0x00, 0x00,
      0xac, 0x40, 0x03, 0x09, 0xc0, 0xa8, 0x02, 0x01] ++
    [0x08, 0x00, 0xf7, 0xff, 0x00, 0x00, 0x00, 0x00]

theorem zero_checksum_rejected :
    SrEthernetHdr.size + SrIpHdr.size ≤ zero_checksum.length ∧ (ip_hdr zero_checksum).ip_v = 4 ∧
      HeaderSum zero_checksum ∧ ¬ ip_valid zero_checksum :=
  ⟨by decide, by decide, ⟨by decide, by decide⟩, by decide⟩

/-- The same request with another identification, and so with a checksum. -/
theorem checksum_accepted :
    let ping := ip_frame (inet_addr 172 64 3 9) (inet_addr 192 168 2 1) 64 1
      [0x08, 0x00, 0xf7, 0xff, 0x00, 0x00, 0x00, 0x00]
    (ip_valid ping ↔ HeaderSum ping) ∧ (sr_ip_branch net ping = .echo_request ↔ IcmpSum ping) := by
  intro ping
  have hping : EchoRequest net ping :=
    ⟨by decide +kernel, by decide +kernel, by decide +kernel, by decide +kernel, by decide +kernel,
      by decide +kernel⟩
  obtain ⟨hheader, hicmp⟩ := checksum_rule_iff net ping
  constructor
  · have hnonzero : (ip_hdr ping).ip_sum ≠ 0 := by decide +kernel
    exact (hheader (by decide +kernel) (by decide +kernel)).mpr fun h => hnonzero h.1
  · have hnonzero : (icmp_hdr ping).icmp_sum ≠ 0 := by decide +kernel
    exact (hicmp hping (by decide +kernel)).mpr fun h => hnonzero h.1

end Sample

end SimpleRouter
