import SimpleRouter.Model.Session

/-! # The packet log (`sr_dumper.c`, `sr_log_packet` of `sr_vns_comm.c`)

    A file is what these functions have written to it. Writing is taken to
    succeed, as the code does not look at what `fwrite` returns.
-/

namespace SimpleRouter

open Framework Framework.Bytes

/-! ### Headers (`sr_dumper.h`) -/

abbrev PACKET_DUMP_SIZE : Nat := 1024

def TCPDUMP_MAGIC : uint32_t := 0xa1b2c3d4
def PCAP_VERSION_MAJOR : uint16_t := 2
def PCAP_VERSION_MINOR : uint16_t := 4
def LINKTYPE_ETHERNET : uint32_t := 1

structure PcapFileHeader where
  magic : uint32_t
  version_major : uint16_t
  version_minor : uint16_t
  thiszone : uint32_t
  sigfigs : uint32_t
  snaplen : uint32_t
  linktype : uint32_t
  deriving DecidableEq

/-- `struct timeval` on a 64-bit machine. -/
structure Timeval where
  tv_sec : BitVec 64
  tv_usec : BitVec 64
  deriving DecidableEq

/-- The header of a packet in memory. -/
structure PcapPkthdr where
  ts : Timeval
  caplen : uint32_t
  len : uint32_t
  deriving DecidableEq

structure PcapTimeval where
  tv_sec : uint32_t
  tv_usec : uint32_t
  deriving DecidableEq

/-- The header of a packet as it is stored. -/
structure PcapSfPkthdr where
  ts : PcapTimeval
  caplen : uint32_t
  len : uint32_t
  deriving DecidableEq

abbrev PcapFileHeader.size : Nat := 24
abbrev PcapSfPkthdr.size : Nat := 16

def PcapFileHeader.toBytes (hdr : PcapFileHeader) : List uint8_t :=
  le32 hdr.magic ++ (le16 hdr.version_major ++ (le16 hdr.version_minor ++ (le32 hdr.thiszone ++
    (le32 hdr.sigfigs ++ (le32 hdr.snaplen ++ le32 hdr.linktype)))))

def PcapSfPkthdr.toBytes (sf_hdr : PcapSfPkthdr) : List uint8_t :=
  le32 sf_hdr.ts.tv_sec ++ (le32 sf_hdr.ts.tv_usec ++ (le32 sf_hdr.caplen ++ le32 sf_hdr.len))

/-! ### Writing -/

abbrev FILE := List uint8_t

def sf_write_header (fp : FILE) (linktype thiszone snaplen : uint32_t) : FILE :=
  let hdr : PcapFileHeader :=
    { magic := TCPDUMP_MAGIC
      version_major := PCAP_VERSION_MAJOR
      version_minor := PCAP_VERSION_MINOR
      thiszone := thiszone
      sigfigs := 0
      snaplen := snaplen
      linktype := linktype }
  fp ++ hdr.toBytes

/-- `sr_dump_open`, where `fopen` says which files can be opened. -/
def sr_dump_open (fopen : List uint8_t → Bool) (fname : List uint8_t)
    (thiszone snaplen : uint32_t) : Option FILE :=
  -- `-` is the standard output
  if fname = [0x2d] ∨ fopen fname then
    some (sf_write_header [] LINKTYPE_ETHERNET thiszone snaplen)
  else none

/-- `sr_dump`. The bytes at `sp` need not be as many as are written; `behind` is what follows
    them in memory. -/
def sr_dump (fp : FILE) (h : PcapPkthdr) (behind : Nat → uint8_t) (sp : List uint8_t) : FILE :=
  let sf_hdr : PcapSfPkthdr :=
    { ts := ⟨h.ts.tv_sec.setWidth 32, h.ts.tv_usec.setWidth 32⟩
      caplen := h.caplen
      len := h.len }
  fp ++ sf_hdr.toBytes ++ bytes_at behind sp h.caplen.toNat

/-- `min` of two `int`s. -/
def int_min (a b : uint32_t) : uint32_t := if a.slt b then a else b

/-- `sr_log_packet`, where `gettimeofday` gives `ts`. -/
def sr_log_packet (logfile : Option FILE) (ts : Timeval) (behind : Nat → uint8_t)
    (buf : List uint8_t) (len : uint32_t) : Option FILE :=
  match logfile with
  | none => none
  | some fp =>
    let dump_size : uint32_t := BitVec.ofNat 32 PACKET_DUMP_SIZE
    let size := int_min dump_size len
    let h : PcapPkthdr :=
      { ts := ts
        caplen := size
        len := if size.slt dump_size then size else dump_size }
    some (sr_dump fp h behind buf)

end SimpleRouter
