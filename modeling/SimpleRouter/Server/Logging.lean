import Mathlib.Data.List.Forall2
import SimpleRouter.Framework.Records
import SimpleRouter.Model.Dumper

/-! # Reading the packet log

    A record is found only by the lengths of all records before it, and these
    are right: the number of bytes that a header announces is the number that is
    written behind it, and so the log is read back frame by frame. But the length
    that a header gives for the frame itself is cut off where its bytes are.

    * `log_read`: what a log is read as.
    * `log_decodes_iff`: when that is what was logged.
-/

namespace SimpleRouter

open Framework Framework.Bytes

/-! ### The format -/

def PcapFileHeader.ofBytes (b : List uint8_t) : PcapFileHeader where
  magic := u32 b 0
  version_major := u16 b 4
  version_minor := u16 b 6
  thiszone := u32 b 8
  sigfigs := u32 b 12
  snaplen := u32 b 16
  linktype := u32 b 20

def PcapSfPkthdr.ofBytes (b : List uint8_t) : PcapSfPkthdr where
  ts := ⟨u32 b 0, u32 b 4⟩
  caplen := u32 b 8
  len := u32 b 12

theorem PcapFileHeader.ofBytes_toBytes (hdr : PcapFileHeader) (rest : List uint8_t) :
    ofBytes (hdr.toBytes ++ rest) = hdr := by
  cases hdr
  simp only [ofBytes, toBytes, le16, le32, u8, u16, u32, List.cons_append, List.nil_append,
    List.getD_cons_zero, List.getD_cons_succ, join16, join32]

theorem PcapSfPkthdr.ofBytes_toBytes (sf_hdr : PcapSfPkthdr) (rest : List uint8_t) :
    ofBytes (sf_hdr.toBytes ++ rest) = sf_hdr := by
  cases sf_hdr
  simp only [ofBytes, toBytes, le32, u8, u32, List.cons_append, List.nil_append,
    List.getD_cons_zero, List.getD_cons_succ, join32]

/-- Records with `caplen` bytes behind their headers. -/
def pcap_records : RecordFormat uint8_t PcapSfPkthdr where
  size := PcapSfPkthdr.size
  encode := PcapSfPkthdr.toBytes
  decode := PcapSfPkthdr.ofBytes
  body_length sf_hdr := sf_hdr.caplen.toNat
  size_pos := by decide
  encode_length _ := rfl
  decode_encode := PcapSfPkthdr.ofBytes_toBytes

/-- A pcap file: the header with its magic number, and records. -/
def pcap_read (bytes : List uint8_t) : Option (PcapFileHeader × List (Record pcap_records)) :=
  let hdr := PcapFileHeader.ofBytes bytes
  if PcapFileHeader.size ≤ bytes.length ∧ hdr.magic = TCPDUMP_MAGIC then
    (pcap_records.read (bytes.drop PcapFileHeader.size)).map fun records => (hdr, records)
  else none

/-! ### Logging -/

/-- A frame that is passed to `sr_log_packet`, at some time. -/
structure Logged where
  ts : Timeval
  behind : Nat → uint8_t
  buf : RawFrame

def log_packets (logfile : Option FILE) (frames : List Logged) : Option FILE :=
  frames.foldl (fun logfile frame =>
    sr_log_packet logfile frame.ts frame.behind frame.buf (BitVec.ofNat 32 frame.buf.length))
    logfile

/-- A record as it should be made for a frame. -/
structure Recorded (frame : RawFrame) (record : Record pcap_records) : Prop where
  caplen : record.hdr.caplen.toNat = min PACKET_DUMP_SIZE frame.length
  data : record.body = frame.take record.hdr.caplen.toNat
  len : record.hdr.len.toNat = frame.length

/-- A log is a pcap file with one such record for each frame, in their order. -/
def LogDecodes (frames : List Logged) (logfile : Option FILE) : Prop :=
  ∃ fp hdr records, logfile = some fp ∧ pcap_read fp = some (hdr, records) ∧
    List.Forall₂ (fun frame record => Recorded frame.buf record) frames records

/-! ### What is written -/

section Writing

variable {m n : Nat} {fp : FILE} {frame : Logged} {frames : List Logged}

/-- The greatest `int`. -/
abbrev INT_MAX : Nat := 2147483647

theorem slt_ofNat (hm : m ≤ INT_MAX) (hn : n ≤ INT_MAX) :
    (BitVec.ofNat 32 m).slt (BitVec.ofNat 32 n) = decide (m < n) := by
  have htoInt : ∀ k, k ≤ INT_MAX → (BitVec.ofNat 32 k).toInt = k := by
    intro k hk
    have htoNat : (BitVec.ofNat 32 k).toNat = k := by
      rw [BitVec.toNat_ofNat, Nat.mod_eq_of_lt (Nat.lt_of_le_of_lt hk (by decide))]
    rw [BitVec.toInt_eq_toNat_of_lt, htoNat]
    rw [htoNat]
    exact Nat.lt_of_le_of_lt (Nat.mul_le_mul_left 2 hk) (by decide)
  rw [BitVec.slt_eq_decide, htoInt m hm, htoInt n hn]
  simp only [Int.ofNat_lt]

/-- The macro works on lengths that are not too great for an `int`. -/
theorem int_min_ofNat (hm : m ≤ INT_MAX) (hn : n ≤ INT_MAX) :
    int_min (BitVec.ofNat 32 m) (BitVec.ofNat 32 n) = BitVec.ofNat 32 (min m n) := by
  rw [int_min, slt_ofNat hm hn]
  by_cases hlt : m < n
  · rw [if_pos (decide_eq_true hlt), Nat.min_eq_left (Nat.le_of_lt hlt)]
  · rw [if_neg (by simpa using hlt), Nat.min_eq_right (Nat.not_lt.mp hlt)]

/-- Both lengths of a record that is made for a frame. -/
def Logged.caplen (frame : Logged) : uint32_t :=
  BitVec.ofNat 32 (min PACKET_DUMP_SIZE frame.buf.length)

theorem Logged.caplen_toNat (frame : Logged) :
    frame.caplen.toNat = min PACKET_DUMP_SIZE frame.buf.length := by
  have hle : min PACKET_DUMP_SIZE frame.buf.length ≤ PACKET_DUMP_SIZE := Nat.min_le_left _ _
  rw [caplen, BitVec.toNat_ofNat, Nat.mod_eq_of_lt (Nat.lt_of_le_of_lt hle (by decide))]

/-- The record that is made for a frame. -/
def Logged.record (frame : Logged) : Record pcap_records where
  hdr :=
    { ts := ⟨frame.ts.tv_sec.setWidth 32, frame.ts.tv_usec.setWidth 32⟩
      caplen := frame.caplen
      len := frame.caplen }
  body := frame.buf.take frame.caplen.toNat
  fits := by
    rw [List.length_take_of_le]
    · rfl
    · rw [frame.caplen_toNat]
      exact Nat.min_le_right _ _

/-- A frame is logged as its record. -/
theorem sr_log_packet_eq (h : frame.buf.length ≤ INT_MAX) :
    sr_log_packet (some fp) frame.ts frame.behind frame.buf (BitVec.ofNat 32 frame.buf.length) =
      some (fp ++ pcap_records.write frame.record) := by
  have hmax : PACKET_DUMP_SIZE ≤ INT_MAX := by decide
  have hsize : int_min (BitVec.ofNat 32 PACKET_DUMP_SIZE) (BitVec.ofNat 32 frame.buf.length) =
      frame.caplen := int_min_ofNat hmax h
  have hlen : int_min frame.caplen (BitVec.ofNat 32 PACKET_DUMP_SIZE) = frame.caplen := by
    have hle : min PACKET_DUMP_SIZE frame.buf.length ≤ INT_MAX :=
      Nat.le_trans (Nat.min_le_left _ _) hmax
    rw [Logged.caplen, int_min_ofNat hle hmax, Nat.min_eq_left (Nat.min_le_left _ _)]
  have hbytes : bytes_at frame.behind frame.buf frame.caplen.toNat =
      frame.buf.take frame.caplen.toNat := by
    apply bytes_at_eq
    rw [frame.caplen_toNat]
    exact Nat.min_le_right _ _
  unfold int_min at hlen
  rw [sr_log_packet]
  simp only [hsize, hlen, sr_dump, hbytes]
  rw [List.append_assoc]
  rfl

/-- So a log grows by the records of its frames. -/
theorem log_packets_eq (h : ∀ frame ∈ frames, frame.buf.length ≤ INT_MAX) :
    log_packets (some fp) frames =
      some (fp ++ (frames.map Logged.record).flatMap pcap_records.write) := by
  induction frames generalizing fp with
  | nil =>
    rw [List.map_nil, List.flatMap_nil, List.append_nil]
    rfl
  | cons frame frames ih =>
    obtain ⟨hframe, hframes⟩ := List.forall_mem_cons.mp h
    show log_packets (sr_log_packet _ _ _ _ _) frames = _
    rw [sr_log_packet_eq hframe, ih hframes, List.map_cons, List.flatMap_cons, List.append_assoc]

end Writing

/-! ### What is read -/

section Reading

variable {fopen : List uint8_t → Bool} {fname : List uint8_t} {thiszone : uint32_t} {fp : FILE}
  {frames : List Logged}

/-- The header of a log. -/
def log_header (thiszone : uint32_t) : PcapFileHeader where
  magic := TCPDUMP_MAGIC
  version_major := PCAP_VERSION_MAJOR
  version_minor := PCAP_VERSION_MINOR
  thiszone := thiszone
  sigfigs := 0
  snaplen := BitVec.ofNat 32 PACKET_DUMP_SIZE
  linktype := LINKTYPE_ETHERNET

theorem sr_dump_open_eq
    (h : sr_dump_open fopen fname thiszone (BitVec.ofNat 32 PACKET_DUMP_SIZE) = some fp) :
    fp = (log_header thiszone).toBytes := by
  unfold sr_dump_open at h
  by_cases hopen : fname = [0x2d] ∨ fopen fname
  · rw [if_pos hopen, sf_write_header, List.nil_append] at h
    rw [← Option.some.inj h, log_header]
  · rw [if_neg hopen] at h
    cases h

theorem pcap_read_records {hdr : PcapFileHeader} (h : hdr.magic = TCPDUMP_MAGIC)
    (records : List (Record pcap_records)) :
    pcap_read (hdr.toBytes ++ records.flatMap pcap_records.write) = some (hdr, records) := by
  have hroom : PcapFileHeader.size ≤
      (hdr.toBytes ++ records.flatMap pcap_records.write).length := by
    rw [List.length_append]
    exact Nat.le_add_right _ _
  have hrest : (hdr.toBytes ++ records.flatMap pcap_records.write).drop PcapFileHeader.size =
      records.flatMap pcap_records.write := List.drop_left' rfl
  unfold pcap_read
  simp only [PcapFileHeader.ofBytes_toBytes, hrest, RecordFormat.read_write]
  rw [if_pos ⟨hroom, h⟩]
  rfl

/-- **A log is read** as the records that were made. -/
theorem log_read
    (hopen : sr_dump_open fopen fname thiszone (BitVec.ofNat 32 PACKET_DUMP_SIZE) = some fp)
    (hlen : ∀ frame ∈ frames, frame.buf.length ≤ INT_MAX) :
    ∃ bytes, log_packets (some fp) frames = some bytes ∧
      pcap_read bytes = some (log_header thiszone, frames.map Logged.record) := by
  refine ⟨_, log_packets_eq hlen, ?_⟩
  rw [sr_dump_open_eq hopen]
  exact pcap_read_records rfl _

/-- The record of a frame is right unless the frame is cut off. -/
theorem recorded_iff (frame : Logged) :
    Recorded frame.buf frame.record ↔ frame.buf.length ≤ PACKET_DUMP_SIZE := by
  constructor
  · intro h
    have hlen : frame.caplen.toNat = frame.buf.length := h.len
    rw [← hlen, frame.caplen_toNat]
    exact Nat.min_le_left _ _
  · intro h
    constructor
    · exact frame.caplen_toNat
    · rfl
    · show frame.caplen.toNat = _
      rw [frame.caplen_toNat, Nat.min_eq_right h]

/-- Records that are read are compared frame by frame. -/
theorem decodes_iff_recorded {logfile : Option FILE} {bytes : FILE} {hdr : PcapFileHeader}
    (hlog : logfile = some bytes) (hread : pcap_read bytes = some (hdr, frames.map Logged.record)) :
    LogDecodes frames logfile ↔ ∀ frame ∈ frames, Recorded frame.buf frame.record := by
  have hall : List.Forall₂ (fun frame record => Recorded frame.buf record) frames
      (frames.map Logged.record) ↔ ∀ frame ∈ frames, Recorded frame.buf frame.record := by
    rw [List.forall₂_map_right_iff, List.forall₂_same]
  rw [← hall]
  constructor
  · intro h
    obtain ⟨fp, hdr', records, hfp, hread', hrecords⟩ := h
    obtain rfl := Option.some.inj (hlog.symm.trans hfp)
    rw [hread] at hread'
    obtain ⟨-, rfl⟩ := Prod.mk.inj (Option.some.inj hread')
    exact hrecords
  · intro h
    exact ⟨bytes, hdr, _, hlog, hread, h⟩

/-- **The log decodes back to what was logged exactly when** no frame is longer than what is
    kept of it. -/
theorem log_decodes_iff
    (hopen : sr_dump_open fopen fname thiszone (BitVec.ofNat 32 PACKET_DUMP_SIZE) = some fp)
    (hlen : ∀ frame ∈ frames, frame.buf.length ≤ 9976) :
    LogDecodes frames (log_packets (some fp) frames) ↔
      ∀ frame ∈ frames, frame.buf.length ≤ PACKET_DUMP_SIZE := by
  have hshort : ∀ frame ∈ frames, frame.buf.length ≤ INT_MAX :=
    fun frame hframe => Nat.le_trans (hlen frame hframe) (by decide)
  obtain ⟨bytes, hlog, hread⟩ := log_read hopen hshort
  rw [decodes_iff_recorded hlog hread]
  exact forall₂_congr fun frame _ => recorded_iff frame

end Reading

namespace Sample

/-- A frame of `n` zeros. -/
def logged_zeros (n : Nat) : Logged := ⟨⟨0, 0⟩, fun _ => 0, List.replicate n 0⟩

theorem logged_zeros_length (n : Nat) : (logged_zeros n).buf.length = n := List.length_replicate

/-- A log with nothing in it yet. -/
def new_log : FILE := (log_header 0).toBytes

theorem new_log_open :
    sr_dump_open (fun _ => true) [0x6c] 0 (BitVec.ofNat 32 PACKET_DUMP_SIZE) = some new_log := by
  decide

/-- One byte more than what is kept, and the log says that it was never there. -/
theorem length_cut_off :
    let frames := [logged_zeros 1025]
    sr_dump_open (fun _ => true) [0x6c] 0 (BitVec.ofNat 32 PACKET_DUMP_SIZE) = some new_log ∧
      (∀ frame ∈ frames, frame.buf.length ≤ 9976) ∧
      (∃ bytes hdr record, log_packets (some new_log) frames = some bytes ∧
        pcap_read bytes = some (hdr, [record]) ∧ record.hdr.len = 1024) ∧
      ¬ LogDecodes frames (log_packets (some new_log) frames) := by
  intro frames
  have hlength := logged_zeros_length 1025
  have hshort : ∀ frame ∈ frames, frame.buf.length ≤ INT_MAX := by
    intro frame hframe
    rw [List.mem_singleton.mp hframe, hlength]
    decide
  obtain ⟨bytes, hlog, hread⟩ := log_read new_log_open hshort
  refine ⟨new_log_open, ?_, ⟨bytes, _, _, hlog, hread, ?_⟩, fun h => ?_⟩
  · intro frame hframe
    rw [List.mem_singleton.mp hframe, hlength]
    decide
  · show BitVec.ofNat 32 (min PACKET_DUMP_SIZE (logged_zeros 1025).buf.length) = 1024
    rw [hlength]
    decide
  · have hrecorded := (decodes_iff_recorded hlog hread).mp h _ List.mem_cons_self
    rw [recorded_iff, hlength] at hrecorded
    exact absurd hrecorded (by decide)

/-- Frames up to that length are read back as they were. -/
theorem short_frames_decode :
    let frames := [logged_zeros 60, logged_zeros 1024]
    LogDecodes frames (log_packets (some new_log) frames) := by
  intro frames
  have hlen : ∀ frame ∈ frames, frame.buf.length ≤ PACKET_DUMP_SIZE := by
    refine List.forall_mem_cons.mpr ⟨?_, List.forall_mem_singleton.mpr ?_⟩
    · rw [logged_zeros_length]
      decide
    · exact Nat.le_of_eq (logged_zeros_length 1024)
  exact (log_decodes_iff new_log_open fun frame hframe =>
    Nat.le_trans (hlen frame hframe) (by decide)).mpr hlen

end Sample

end SimpleRouter
