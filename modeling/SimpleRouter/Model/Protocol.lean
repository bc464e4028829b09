import SimpleRouter.Framework.Bytes

/-! # Wire formats (`sr_protocol.h`)

    The packed headers, as structures with the fields of the source, and
    their layout in a buffer. Multi-byte fields hold what a little-endian host
    loads from the buffer, so the code's `htons`, `ntohl` are byte swaps.
-/

namespace SimpleRouter

open Framework Framework.Bytes

abbrev uint8_t := Byte
abbrev uint16_t := BitVec 16
abbrev uint32_t := BitVec 32

/-- Seconds, as `time` reports them. -/
abbrev time_t := Int

def htons (x : uint16_t) : uint16_t := swap16 x

def ntohl (x : uint32_t) : uint32_t := swap32 x

/-- `a.b.c.d` as it lies in memory (`inet_addr`). -/
def inet_addr (a b c d : uint8_t) : uint32_t := d ++ c ++ b ++ a

/-! ### Constants -/

abbrev ETHER_ADDR_LEN : Nat := 6
abbrev ICMP_DATA_SIZE : Nat := 28
abbrev sr_IFACE_NAMELEN : Nat := 32
def INIT_TTL : uint8_t := 255
def IP_DF : uint16_t := 0x4000

def ip_protocol_icmp : uint8_t := 0x01
def ip_protocol_tcp : uint8_t := 0x06
def ip_protocol_udp : uint8_t := 0x11

def ethertype_arp : uint16_t := 0x0806
def ethertype_ip : uint16_t := 0x0800

def arp_op_request : uint16_t := 0x0001
def arp_op_reply : uint16_t := 0x0002
def arp_hrd_ethernet : uint16_t := 0x0001

/-- An Ethernet address. -/
abbrev EtherAddr := Vector uint8_t ETHER_ADDR_LEN

/-- A raw Ethernet frame. -/
abbrev RawFrame := List uint8_t

/-! ### Ethernet header -/

structure SrEthernetHdr where
  ether_dhost : EtherAddr
  ether_shost : EtherAddr
  ether_type : uint16_t
  deriving DecidableEq, Repr

namespace SrEthernetHdr

/-- `sizeof(struct sr_ethernet_hdr)`. -/
def size : Nat := 14

def ofBytes (b : List uint8_t) : SrEthernetHdr where
  ether_dhost := array 6 b 0
  ether_shost := array 6 b 6
  ether_type := u16 b 12

def toBytes (h : SrEthernetHdr) : List uint8_t :=
  h.ether_dhost.toList ++ h.ether_shost.toList ++ le16 h.ether_type

@[simp] theorem toBytes_length (h : SrEthernetHdr) : h.toBytes.length = size := by
  simp only [toBytes, List.length_append, Vector.length_toList, le16_length]
  rfl

/-- Reading back a header that was written. -/
@[simp] theorem ofBytes_toBytes (h : SrEthernetHdr) (rest : List uint8_t) :
    ofBytes (h.toBytes ++ rest) = h := by
  have hdhost : array 6 (h.toBytes ++ rest) 0 = h.ether_dhost := by
    rw [toBytes, List.append_assoc, List.append_assoc]
    exact array_append_left _ _
  have hshost : array 6 (h.toBytes ++ rest) 6 = h.ether_shost := by
    rw [toBytes, List.append_assoc, List.append_assoc]
    exact (array_append_right _ _ 0).trans (array_append_left _ _)
  have htype : u16 (h.toBytes ++ rest) 12 = h.ether_type := by
    have hdrop : (h.toBytes ++ rest).drop 12 = le16 h.ether_type ++ rest := by
      rw [toBytes, List.append_assoc]
      exact List.drop_left' (by simp [ETHER_ADDR_LEN])
    rw [← Nat.add_zero 12, ← u16_drop, hdrop, u16_le16]
  cases h
  simp only [ofBytes, hdhost, hshost, htype]

end SrEthernetHdr

/-! ### IP header -/

structure SrIpHdr where
  ip_hl : BitVec 4
  ip_v : BitVec 4
  ip_tos : uint8_t
  ip_len : uint16_t
  ip_id : uint16_t
  ip_off : uint16_t
  ip_ttl : uint8_t
  ip_p : uint8_t
  ip_sum : uint16_t
  ip_src : uint32_t
  ip_dst : uint32_t
  deriving DecidableEq, Repr

namespace SrIpHdr

/-- `sizeof(struct sr_ip_hdr)`. -/
def size : Nat := 20

def ofBytes (b : List uint8_t) : SrIpHdr where
  ip_hl := (u8 b 0).extractLsb' 0 4
  ip_v := (u8 b 0).extractLsb' 4 4
  ip_tos := u8 b 1
  ip_len := u16 b 2
  ip_id := u16 b 4
  ip_off := u16 b 6
  ip_ttl := u8 b 8
  ip_p := u8 b 9
  ip_sum := u16 b 10
  ip_src := u32 b 12
  ip_dst := u32 b 16

def toBytes (h : SrIpHdr) : List uint8_t :=
  [h.ip_v ++ h.ip_hl, h.ip_tos] ++ le16 h.ip_len ++ le16 h.ip_id ++ le16 h.ip_off ++
    [h.ip_ttl, h.ip_p] ++ le16 h.ip_sum ++ le32 h.ip_src ++ le32 h.ip_dst

@[simp] theorem toBytes_length (h : SrIpHdr) : h.toBytes.length = size := rfl

/-- Reading back a header that was written. -/
@[simp] theorem ofBytes_toBytes (h : SrIpHdr) (rest : List uint8_t) :
    ofBytes (h.toBytes ++ rest) = h := by
  cases h
  simp only [ofBytes, toBytes, le16, le32, u8, u16, u32, List.cons_append, List.nil_append,
    List.getD_cons_zero, List.getD_cons_succ, join16, join32, SrIpHdr.mk.injEq, and_true]
  exact ⟨BitVec.extractLsb'_append_eq_right, BitVec.extractLsb'_append_eq_left⟩

/-- Writing back a header that was read. -/
theorem toBytes_ofBytes {b : List uint8_t} (h : size ≤ b.length) :
    (ofBytes b).toBytes = b.take size := by
  have hfirst : (u8 b 0).extractLsb' 4 4 ++ (u8 b 0).extractLsb' 0 4 = u8 b 0 := by
    have hjoin : (u8 b 0).extractLsb' 4 4 ++ (u8 b 0).extractLsb' 0 4 =
        (u8 b 0).extractLsb' 0 (4 + 4) :=
      BitVec.extractLsb'_append_extractLsb'_eq_extractLsb' rfl
    rw [hjoin]
    exact BitVec.extractLsb'_eq_self
  rw [take_eq_map_u8 b h]
  simp only [toBytes, ofBytes, hfirst, le16_u16, le32_u32]
  rfl

end SrIpHdr

/-- The IP header of a frame. -/
def ip_hdr (packet : RawFrame) : SrIpHdr := SrIpHdr.ofBytes (packet.drop SrEthernetHdr.size)

/-- `packet` starts with an Ethernet header of this type. -/
def has_ether_type (packet : RawFrame) (type : uint16_t) : Bool :=
  SrEthernetHdr.size ≤ packet.length ∧
    (SrEthernetHdr.ofBytes packet).ether_type = htons type

/-! ### ICMP headers -/

structure SrIcmpHdr where
  icmp_type : uint8_t
  icmp_code : uint8_t
  icmp_sum : uint16_t
  deriving DecidableEq, Repr

namespace SrIcmpHdr

/-- `sizeof(struct sr_icmp_hdr)`. -/
def size : Nat := 4

def ofBytes (b : List uint8_t) : SrIcmpHdr where
  icmp_type := u8 b 0
  icmp_code := u8 b 1
  icmp_sum := u16 b 2

def toBytes (h : SrIcmpHdr) : List uint8_t := [h.icmp_type, h.icmp_code] ++ le16 h.icmp_sum

end SrIcmpHdr

structure SrIcmpT3Hdr where
  icmp_type : uint8_t
  icmp_code : uint8_t
  icmp_sum : uint16_t
  unused : uint16_t
  next_mtu : uint16_t
  data : Vector uint8_t ICMP_DATA_SIZE
  deriving DecidableEq, Repr

namespace SrIcmpT3Hdr

/-- `sizeof(struct sr_icmp_t3_hdr)`. -/
def size : Nat := 36

def ofBytes (b : List uint8_t) : SrIcmpT3Hdr where
  icmp_type := u8 b 0
  icmp_code := u8 b 1
  icmp_sum := u16 b 2
  unused := u16 b 4
  next_mtu := u16 b 6
  data := array 28 b 8

def toBytes (h : SrIcmpT3Hdr) : List uint8_t :=
  [h.icmp_type, h.icmp_code] ++ le16 h.icmp_sum ++ le16 h.unused ++ le16 h.next_mtu ++
    h.data.toList

@[simp] theorem toBytes_length (h : SrIcmpT3Hdr) : h.toBytes.length = size := by
  simp only [toBytes, List.length_append, Vector.length_toList, le16_length]
  rfl

end SrIcmpT3Hdr

structure SrIcmpT11Hdr where
  icmp_type : uint8_t
  icmp_code : uint8_t
  icmp_sum : uint16_t
  unused : uint32_t
  data : Vector uint8_t ICMP_DATA_SIZE
  deriving DecidableEq, Repr

namespace SrIcmpT11Hdr

/-- `sizeof(struct sr_icmp_t11_hdr)`. -/
def size : Nat := 36

def toBytes (h : SrIcmpT11Hdr) : List uint8_t :=
  [h.icmp_type, h.icmp_code] ++ le16 h.icmp_sum ++ le32 h.unused ++ h.data.toList

@[simp] theorem toBytes_length (h : SrIcmpT11Hdr) : h.toBytes.length = size := by
  simp only [toBytes, List.length_append, Vector.length_toList, le16_length, le32_length]
  rfl

end SrIcmpT11Hdr

/-! ### ARP header -/

structure SrArpHdr where
  ar_hrd : uint16_t
  ar_pro : uint16_t
  ar_hln : uint8_t
  ar_pln : uint8_t
  ar_op : uint16_t
  ar_sha : EtherAddr
  ar_sip : uint32_t
  ar_tha : EtherAddr
  ar_tip : uint32_t
  deriving DecidableEq, Repr

namespace SrArpHdr

/-- `sizeof(struct sr_arp_hdr)`. -/
def size : Nat := 28

def ofBytes (b : List uint8_t) : SrArpHdr where
  ar_hrd := u16 b 0
  ar_pro := u16 b 2
  ar_hln := u8 b 4
  ar_pln := u8 b 5
  ar_op := u16 b 6
  ar_sha := array 6 b 8
  ar_sip := u32 b 14
  ar_tha := array 6 b 18
  ar_tip := u32 b 24

def toBytes (h : SrArpHdr) : List uint8_t :=
  le16 h.ar_hrd ++ le16 h.ar_pro ++ [h.ar_hln, h.ar_pln] ++ le16 h.ar_op ++
    h.ar_sha.toList ++ le32 h.ar_sip ++ h.ar_tha.toList ++ le32 h.ar_tip

@[simp] theorem toBytes_length (h : SrArpHdr) : h.toBytes.length = size := by
  simp only [toBytes, List.length_append, Vector.length_toList, le16_length, le32_length]
  rfl

/-- Reading back a header that was written. -/
@[simp] theorem ofBytes_toBytes (h : SrArpHdr) (rest : List uint8_t) :
    ofBytes (h.toBytes ++ rest) = h := by
  have hbytes : h.toBytes ++ rest = [byteAt h.ar_hrd 0, byteAt h.ar_hrd 1, byteAt h.ar_pro 0,
      byteAt h.ar_pro 1, h.ar_hln, h.ar_pln, byteAt h.ar_op 0, byteAt h.ar_op 1] ++
      (h.ar_sha.toList ++ (le32 h.ar_sip ++ (h.ar_tha.toList ++ (le32 h.ar_tip ++ rest)))) := by
    simp [toBytes, le16]
  -- what follows the fixed part, array by array
  have h₈ : (h.toBytes ++ rest).drop 8 =
      h.ar_sha.toList ++ (le32 h.ar_sip ++ (h.ar_tha.toList ++ (le32 h.ar_tip ++ rest))) := by
    rw [hbytes]
    exact List.drop_left' rfl
  have h₁₄ : (h.toBytes ++ rest).drop 14 =
      le32 h.ar_sip ++ (h.ar_tha.toList ++ (le32 h.ar_tip ++ rest)) := by
    rw [← List.drop_drop (i := 6) (j := 8), h₈]
    exact List.drop_left' (by simp [ETHER_ADDR_LEN])
  have h₁₈ : (h.toBytes ++ rest).drop 18 = h.ar_tha.toList ++ (le32 h.ar_tip ++ rest) := by
    rw [← List.drop_drop (i := 4) (j := 14), h₁₄]
    exact List.drop_left' rfl
  have h₂₄ : (h.toBytes ++ rest).drop 24 = le32 h.ar_tip ++ rest := by
    rw [← List.drop_drop (i := 6) (j := 18), h₁₈]
    exact List.drop_left' (by simp [ETHER_ADDR_LEN])
  have hsha : array 6 (h.toBytes ++ rest) (8 + 0) = h.ar_sha := by
    rw [← array_drop, h₈]
    exact array_append_left _ _
  have hsip : u32 (h.toBytes ++ rest) (14 + 0) = h.ar_sip := by rw [← u32_drop, h₁₄, u32_le32]
  have htha : array 6 (h.toBytes ++ rest) (18 + 0) = h.ar_tha := by
    rw [← array_drop, h₁₈]
    exact array_append_left _ _
  have htip : u32 (h.toBytes ++ rest) (24 + 0) = h.ar_tip := by rw [← u32_drop, h₂₄, u32_le32]
  rw [Nat.add_zero] at hsha hsip htha htip
  rw [ofBytes, hsha, hsip, htha, htip, hbytes]
  cases h
  simp only [u8, u16, List.cons_append, List.getD_cons_zero, List.getD_cons_succ, join16]

end SrArpHdr

end SimpleRouter
