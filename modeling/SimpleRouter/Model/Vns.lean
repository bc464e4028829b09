import SimpleRouter.Model.Router

/-! # Talking to the server (`sr_vns_comm.c`)

    The router's packets come and go in messages to a server. Here is what
    `sr_read_from_server_expect` does with a message before its command is
    carried out: the lengths that it works out, in the types of the C code, and
    the filter for ARP requests.
-/

namespace SimpleRouter

open Framework Framework.Bytes

/-! ### Commands (`vnscommand.h`) -/

def VNSCLOSE : uint32_t := 2
def VNSPACKET : uint32_t := 4
def VNSBANNER : uint32_t := 8
def VNSHWINFO : uint32_t := 16
def VNS_RTABLE : uint32_t := 32
def VNS_AUTH_REQUEST : uint32_t := 128
def VNS_AUTH_STATUS : uint32_t := 512

abbrev IDSIZE : Nat := 32

/-- `sizeof(c_base)`. -/
abbrev c_base_size : Nat := 8
/-- `sizeof(c_packet_header)`. -/
abbrev c_packet_header_size : Nat := 24
/-- `sizeof(c_packet_ethernet_header)`. -/
abbrev c_packet_ethernet_header_size : Nat := 38
/-- `sizeof(c_hw_entry)`. -/
abbrev c_hw_entry_size : Nat := 36
/-- `sizeof(c_rtable)`, without the table. -/
abbrev c_rtable_size : Nat := c_base_size + IDSIZE
/-- `sizeof(c_auth_request)`, without the salt. -/
abbrev c_auth_request_size : Nat := 8
/-- `sizeof(c_auth_status)`, without the text. -/
abbrev c_auth_status_size : Nat := 9

/-! ### Lengths -/

abbrev size_t := BitVec 64

/-- `len - sizeof(c_packet_ethernet_header) + sizeof(struct sr_ethernet_hdr)` of an `int`,
    passed as an `unsigned int`. -/
def packet_len (len : uint32_t) : uint32_t :=
  let len : size_t := len.signExtend 64
  (len - BitVec.ofNat 64 c_packet_ethernet_header_size +
    BitVec.ofNat 64 SrEthernetHdr.size).setWidth 32

/-- `(ntohl(hwinfo->mLen) - (2*sizeof(uint32_t)))/sizeof(c_hw_entry)`, as an `int`. -/
def num_entries (mLen : uint32_t) : Int :=
  (((mLen.setWidth 64 - (2 * 4 : size_t)) / BitVec.ofNat 64 c_hw_entry_size).setWidth 32).toInt

/-- `ntohl(rtable->mLen) - 8 - IDSIZE`, passed as a `size_t`. -/
def rtable_len (mLen : uint32_t) : size_t := (mLen - 8 - BitVec.ofNat 32 IDSIZE).setWidth 64

/-- `ntohl(req->mLen) - sizeof(*req)`, passed as an `unsigned int`. -/
def salt_len (mLen : uint32_t) : uint32_t :=
  (mLen.setWidth 64 - BitVec.ofNat 64 c_auth_request_size : size_t).setWidth 32

/-- Bytes of a message that the code takes to be there. Of a text that it prints this is the
    first, as the text may be empty. -/
structure Extent where
  offset : Nat
  length : Nat
  deriving DecidableEq

/-- What carrying out a command uses of the message; `mLen` is its length. -/
def command_extents (mLen command : uint32_t) : List Extent :=
  if command = VNSPACKET then
    [⟨c_base_size, 16⟩, ⟨c_packet_header_size, (packet_len mLen).toNat⟩]
  else if command = VNSHWINFO then
    -- `for ( i=0; i<num_entries; i++ )`
    [⟨c_base_size, (num_entries mLen).toNat * c_hw_entry_size⟩]
  else if command = VNS_RTABLE then
    [⟨c_base_size, IDSIZE⟩, ⟨c_rtable_size, (rtable_len mLen).toNat⟩]
  else if command = VNS_AUTH_REQUEST then
    [⟨c_auth_request_size, (salt_len mLen).toNat⟩]
  else if command = VNS_AUTH_STATUS then
    -- `status->auth_ok`
    [⟨c_base_size, 1⟩]
  else if command = VNSCLOSE ∨ command = VNSBANNER then
    [⟨c_base_size, 1⟩]
  else []

/-- What `sr_read_from_server_expect` does with a message. -/
structure Reading where
  /-- The command is carried out. -/
  accepted : Bool
  extents : List Extent
  deriving DecidableEq

/-- `sr_read_from_server_expect`, for a message of length `len` with the command word
    `command`. -/
def sr_read_from_server_expect (expected_cmd len command : uint32_t) : Reading :=
  if len.toInt > 10000 ∨ len.toInt < 0 then ⟨false, []⟩
  else
    -- the length is written back, and the command word is swapped in place
    let header : Extent := ⟨0, c_base_size⟩
    if expected_cmd ≠ 0 ∧ command ≠ expected_cmd ∧ command ≠ VNSCLOSE then ⟨false, [header]⟩
    else ⟨true, header :: command_extents len command⟩

/-! ### The filter for ARP requests -/

/-- `sr_arp_req_not_for_us`; `none` is a failed assertion. -/
def sr_arp_req_not_for_us (sr : SrInstance) (packet : RawFrame) (interface : IfName) :
    Option Bool :=
  if packet.length < SrEthernetHdr.size + SrArpHdr.size then some false
  else
    match sr_get_interface sr interface with
    | none => none
    | some iface =>
      let e_hdr := SrEthernetHdr.ofBytes packet
      let a_hdr := SrArpHdr.ofBytes (packet.drop SrEthernetHdr.size)
      some (e_hdr.ether_type = htons ethertype_arp ∧ a_hdr.ar_op = htons arp_op_request ∧
        a_hdr.ar_tip ≠ iface.ip)

end SimpleRouter
