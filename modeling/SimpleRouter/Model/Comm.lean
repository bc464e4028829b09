import SimpleRouter.Framework.Source
import SimpleRouter.Model.Vns

/-! # Messages on the socket (`sr_vns_comm.c`)

    `sr_send_packet` writes a frame with a header in front, and
    `sr_read_from_server_expect` reads the length word of a message and then
    the rest of it, each in a loop of its own around `recv` or `read`.
-/

namespace SimpleRouter

open Framework Framework.Bytes

/-- What `recv` and `read` are going to give. An interruption is the error `EINTR`, and 0 bytes
    are the end of the stream. -/
abbrev Socket := Source uint8_t

/-! ### Writing -/

/-- `sizeof(sr_pkt->mInterfaceName)`. -/
abbrev mInterfaceName_size : Nat := 16

/-- `strncpy` into an array of `n` bytes. -/
def strncpy (n : Nat) (s : List uint8_t) : List uint8_t :=
  s.take n ++ List.replicate (n - s.length) 0

/-- What `sr_send_packet` writes to the socket. -/
def sr_pkt (buf : RawFrame) (iface : IfName) : List uint8_t :=
  let total_len : uint32_t := BitVec.ofNat 32 buf.length + BitVec.ofNat 32 c_packet_header_size
  le32 (ntohl total_len) ++ le32 (ntohl VNSPACKET) ++ strncpy mInterfaceName_size iface.chars ++ buf

/-! ### Reading -/

/-- Either loop around `recv` or `read`, until there are `n` bytes in `buf`. After an
    interruption `continue` goes to the test of `errno`, and so back to the call. The result is
    what was read, or `none` after any other error; there is no result when the fuel, one for
    each call, is gone. -/
def read_loop : Nat → Nat → List uint8_t → Socket → Option (Option (List uint8_t) × Socket)
  | 0, _, _, _ => none
  | fuel + 1, n, buf, src =>
    -- `while ( bytes_read < n )`
    if n ≤ buf.length then some (some buf, src)
    else
      match src.recv (n - buf.length) with
      | (.data chunk, src) => read_loop fuel n (buf ++ chunk) src
      | (.interrupted, src) => read_loop fuel n buf src
      | (.failed, src) => some (none, src)

/-- `len`, from the first four bytes of a message. -/
def message_length (buf : List uint8_t) : uint32_t := ntohl (u32 buf 0)

/-- The first half of `sr_read_from_server_expect`: the message that is read, or `none` where
    -1 is returned. -/
def read_command (fuel : Nat) (src : Socket) : Option (Option (List uint8_t) × Socket) :=
  match read_loop fuel 4 [] src with
  | none => none
  | some (none, src) => some (none, src)
  | some (some word, src) =>
    let len := message_length word
    if len.toInt > 10000 ∨ len.toInt < 0 then some (none, src)
    else
      -- `while ( bytes_read < len - 4 )`, which is negative for short messages
      match read_loop fuel (len.toNat - 4) [] src with
      | none => none
      | some (none, src) => some (none, src)
      | some (some body, src) => some (some (le32 (ntohl len) ++ body), src)

end SimpleRouter
