import Mathlib.Tactic.IntervalCases
import OpenPpp2.Lib.Chunks
import OpenPpp2.Tap.MergeRuns
import OpenPpp2.Tap.Segmentation

/-!
# A superframe is cut into its packets

The rule for cutting a TCPv4 superframe copies its headers to every segment, so the packets come
back only as far as the first one's headers are theirs.
-/

namespace OpenPpp2.Tap

open Lib.ByteLayout Lib.BytePatch Lib.Chunks Lib.OnesComplement List Option

def ihlOf (packet : Bytes) : Nat := (byteAt 0 packet &&& 0x0f).toNat * 4

def doffOf (packet : Bytes) : Nat := (byteAt (ihlOf packet + 12) packet >>> 4).toNat * 4

/-- The headers of one segment: its own total length, the sequence number of its first byte,
and `PSH` and `FIN` only on the last one. -/
def cutHeader (header : Bytes) (ihl gsoSize index size : Nat) (last : Bool) : Bytes :=
  let header := writeBE16 2 (header.length + size) header
  let header := writeBE32 (ihl + 4)
    (word (ihl + 4) 32 header + BitVec.ofNat 32 (index * gsoSize)) header
  if last then header
  else patch (ihl + 13) [byteAt (ihl + 13) header &&& ~~~ 0x09] header

def cutTcpV4Gso (frame : Bytes) : List Bytes :=
  let gsoSize := readLE16 4 frame
  let packet := frame.drop standardVirtioHeaderSize
  let ihl := ihlOf packet
  let header := packet.take (ihl + doffOf packet)
  let payload := packet.drop (ihl + doffOf packet)
  let count := (payload.length + gsoSize - 1) / gsoSize
  (List.range count).map fun index =>
    let part := slice (index * gsoSize) gsoSize payload
    cutHeader header ihl gsoSize index part.length (decide (index + 1 = count)) ++ part

def blank (ihl : Nat) (packet : Bytes) : Bytes :=
  patch (ihl + 16) [0, 0] (patch 10 [0, 0] (patch 4 [0, 0] packet))

/-- A packet up to its identification, its checksums and what follows its total length. -/
def comparable (packet : Bytes) : Bytes := blank (ihlOf packet) (packet.take (readBE16 2 packet))

def SameFreeBits (first packet : Bytes) : Prop :=
  byteAt 6 packet &&& 0x80 = byteAt 6 first &&& 0x80 ∧
    byteAt (ihlOf packet + 12) packet &&& 0x0f = byteAt (ihlOf first + 12) first &&& 0x0f ∧
    byteAt (ihlOf packet + 13) packet &&& 0x10 = byteAt (ihlOf first + 13) first &&& 0x10

variable {offset place : Nat} {bytes : Bytes} {left right : UInt8} {first segment : Segment}
    {firstInfo info : PacketInfo}

theorem within_writeBE16 (value : Nat)
    (inside : offset + 2 ≤ bytes.length) : Within offset 2 bytes (writeBE16 offset value bytes) :=
  within_patch (length_wordBytes _) inside

theorem within_writeBE32 (value : BitVec 32)
    (inside : offset + 4 ≤ bytes.length) : Within offset 4 bytes (writeBE32 offset value bytes) :=
  within_patch (length_wordBytes _) inside

theorem within_fillChecksum (checksum : Bytes → Nat) (inside : offset + 2 ≤ bytes.length) :
    Within offset 2 bytes (fillChecksum offset checksum bytes) := by
  have cleared : Within offset 2 bytes (patch offset [0, 0] bytes) := within_patch rfl inside
  exact cleared.trans (within_writeBE16 _ (by rw [cleared.length]; exact inside))

section Headers

variable {batch : Batch} (ihlMin : 20 ≤ batch.ihl) (doffMin : 20 ≤ batch.doff)
  (size : batch.superHeader.length = batch.ihl + batch.doff)

include ihlMin doffMin size

theorem gsoHeaders_spec : (gsoHeaders batch).length = batch.ihl + batch.doff ∧
      (∀ place, place < 2 ∨ (4 ≤ place ∧ place < 10) ∨ (12 ≤ place ∧ place < batch.ihl + 13) ∨
        (batch.ihl + 13 < place ∧ place < batch.ihl + 16) ∨ batch.ihl + 18 ≤ place →
        byteAt place (gsoHeaders batch) = byteAt place batch.superHeader) ∧
      word (batch.ihl + 4) 32 (gsoHeaders batch) = word (batch.ihl + 4) 32 batch.superHeader ∧
      byteAt (batch.ihl + 13) (gsoHeaders batch) =
        if batch.pendingPsh then byteAt (batch.ihl + 13) batch.superHeader ||| 0x08
        else byteAt (batch.ihl + 13) batch.superHeader := by
  rw [gsoHeaders]
  -- The five writes, one after the other.
  generalize flagged : (if batch.pendingPsh then
    patch (batch.ihl + 13) [byteAt (batch.ihl + 13) batch.superHeader ||| 0x08]
      batch.superHeader else batch.superHeader) = one
  have first : Within (batch.ihl + 13) 1 batch.superHeader one := by
    rw [← flagged]
    split
    · exact within_patch rfl (by omega)
    · exact ⟨rfl, fun _ _ => rfl⟩
  have flag : byteAt (batch.ihl + 13) one =
      if batch.pendingPsh then byteAt (batch.ihl + 13) batch.superHeader ||| 0x08
      else byteAt (batch.ihl + 13) batch.superHeader := by
    rw [← flagged]
    split
    · exact byteAt_patch_one (by omega)
    · rfl
  have oneLength := first.length
  have second := @within_writeBE16 2 one (batch.ihl + batch.doff + batch.payloadTotal) (by omega)
  generalize writeBE16 2 (batch.ihl + batch.doff + batch.payloadTotal) one = two at second ⊢
  have twoLength := second.length
  have third := @within_fillChecksum 10 two
    (fun bytes => complement (wordSum (bytes.take batch.ihl))) (by omega)
  generalize fillChecksum 10 _ two = three at third ⊢
  have threeLength := third.length
  have fourth := @within_writeBE16 (batch.ihl + 16) three 0 (by omega)
  generalize writeBE16 (batch.ihl + 16) 0 three = four at fourth ⊢
  have fourLength := fourth.length
  generalize 65535 - complement _ = seed
  have fifth := @within_writeBE16 (batch.ihl + 16) four seed (by omega)
  refine ⟨by rw [fifth.length]; omega, ?_, ?_, ?_⟩
  · intro place apart
    rw [fifth.apart place (by omega), fourth.apart place (by omega), third.apart place (by omega),
      second.apart place (by omega), first.apart place (by omega)]
  · rw [fifth.word_eq (by omega), fourth.word_eq (by omega), third.word_eq (by omega),
      second.word_eq (by omega), first.word_eq (by omega)]
  · rw [fifth.apart _ (by omega), fourth.apart _ (by omega), third.apart _ (by omega),
      second.apart _ (by omega), flag]

end Headers

theorem cutHeader_spec {header : Bytes} {ihl doff : Nat} (ihlMin : 20 ≤ ihl) (doffMin : 20 ≤ doff)
    (length : header.length = ihl + doff) (gsoSize index size : Nat) (last : Bool)
    (small : ihl + doff + size < 65536) :
    (cutHeader header ihl gsoSize index size last).length = ihl + doff ∧
      (∀ place, place < 2 ∨ (4 ≤ place ∧ place < ihl + 4) ∨
        (ihl + 8 ≤ place ∧ place < ihl + 13) ∨ ihl + 13 < place →
        byteAt place (cutHeader header ihl gsoSize index size last) = byteAt place header) ∧
      readBE16 2 (cutHeader header ihl gsoSize index size last) = ihl + doff + size ∧
      word (ihl + 4) 32 (cutHeader header ihl gsoSize index size last) =
        word (ihl + 4) 32 header + BitVec.ofNat 32 (index * gsoSize) ∧
      byteAt (ihl + 13) (cutHeader header ihl gsoSize index size last) =
        if last then byteAt (ihl + 13) header else byteAt (ihl + 13) header &&& ~~~ 0x09 := by
  rw [cutHeader, readBE16]
  have first := @within_writeBE16 2 header (header.length + size) (by omega)
  have total : word 2 16 (writeBE16 2 (header.length + size) header) =
      BitVec.ofNat 16 (header.length + size) := word_patch (by decide) _ (by omega)
  generalize writeBE16 2 (header.length + size) header = one at first total ⊢
  have oneLength := first.length
  have sequence : word (ihl + 4) 32 one = word (ihl + 4) 32 header := first.word_eq (by omega)
  have second := @within_writeBE32 (ihl + 4) one
    (word (ihl + 4) 32 one + BitVec.ofNat 32 (index * gsoSize)) (by omega)
  have moved : word (ihl + 4) 32 (writeBE32 (ihl + 4)
      (word (ihl + 4) 32 one + BitVec.ofNat 32 (index * gsoSize)) one) =
        word (ihl + 4) 32 one + BitVec.ofNat 32 (index * gsoSize) :=
    word_patch (by decide) _ (by omega)
  generalize writeBE32 (ihl + 4) (word (ihl + 4) 32 one + BitVec.ofNat 32 (index * gsoSize)) one =
    two at second moved ⊢
  have twoLength := second.length
  have kept : byteAt (ihl + 13) two = byteAt (ihl + 13) header := by
    rw [second.apart _ (by omega), first.apart _ (by omega)]
  have third : Within (ihl + 13) 1 two (if last then two
      else patch (ihl + 13) [byteAt (ihl + 13) two &&& ~~~ 0x09] two) := by
    split
    · exact ⟨rfl, fun _ _ => rfl⟩
    · exact within_patch rfl (by omega)
  refine ⟨by rw [third.length]; omega, ?_, ?_, ?_, ?_⟩
  · intro place apart
    rw [third.apart place (by omega), second.apart place (by omega), first.apart place (by omega)]
  · rw [third.word_eq (by omega), second.word_eq (by omega), total, BitVec.toNat_ofNat,
      Nat.mod_eq_of_lt (by omega), length]
  · rw [third.word_eq (by omega), moved, sequence]
  · rw [← kept]
    split
    · rfl
    · exact byteAt_patch_one (by omega)

def Blanked (ihl place : Nat) : Prop :=
  (4 ≤ place ∧ place < 6) ∨ (10 ≤ place ∧ place < 12) ∨ (ihl + 16 ≤ place ∧ place < ihl + 18)

theorem within_zeros (inside : offset + 2 ≤ bytes.length) :
    Within offset 2 bytes (patch offset [0, 0] bytes) :=
  within_patch rfl inside

theorem byteAt_zeros (inside : offset + 2 ≤ bytes.length) (from_ : offset ≤ place)
    (below : place < offset + 2) : byteAt place (patch offset [0, 0] bytes) = 0 := by
  have zeros : slice offset 2 (patch offset [0, 0] bytes) = [0, 0] :=
    @slice_patch offset [0, 0] bytes inside
  have inner : place - offset < 2 := by omega
  rw [← Nat.add_sub_cancel' from_, ← byteAt_slice inner, zeros]
  interval_cases place - offset <;> rfl

theorem blank_spec {ihl : Nat} (ihlMin : 20 ≤ ihl) (inside : ihl + 18 ≤ bytes.length) :
    (blank ihl bytes).length = bytes.length ∧
      (∀ place, ¬ Blanked ihl place → byteAt place (blank ihl bytes) = byteAt place bytes) ∧
      ∀ place, Blanked ihl place → byteAt place (blank ihl bytes) = 0 := by
  have one := @within_zeros 4 bytes (by omega)
  have oneLength := one.length
  have two := @within_zeros 10 (patch 4 [0, 0] bytes) (by omega)
  have twoLength := two.length
  have three := @within_zeros (ihl + 16) (patch 10 [0, 0] (patch 4 [0, 0] bytes)) (by omega)
  rw [blank]
  refine ⟨by rw [three.length]; omega, ?_, ?_⟩
  · intro place free
    simp only [Blanked] at free
    rw [three.apart place (by omega), two.apart place (by omega), one.apart place (by omega)]
  · rintro place (⟨low, high⟩ | ⟨low, high⟩ | ⟨low, high⟩)
    · rw [three.apart place (by omega), two.apart place (by omega)]
      exact byteAt_zeros (by omega) low high
    · rw [three.apart place (by omega)]
      exact byteAt_zeros (by omega) low high
    · exact byteAt_zeros (by omega) low high

theorem blank_eq_iff {ihl : Nat} {left right : Bytes} (ihlMin : 20 ≤ ihl)
    (lengths : left.length = right.length) (inside : ihl + 18 ≤ left.length) :
    blank ihl left = blank ihl right ↔ ∀ place, place < left.length → ¬ Blanked ihl place →
        byteAt place left = byteAt place right := by
  have ⟨leftLength, leftKept, leftZero⟩ := blank_spec ihlMin inside
  have ⟨rightLength, rightKept, rightZero⟩ := blank_spec ihlMin (lengths ▸ inside)
  constructor
  · intro same place _ free
    rw [← leftKept place free, ← rightKept place free, same]
  · intro same
    apply ext_byteAt
    · rw [leftLength, rightLength, lengths]
    · intro place below
      by_cases free : Blanked ihl place
      · rw [leftZero place free, rightZero place free]
      · rw [leftKept place free, rightKept place free]
        exact same place (leftLength ▸ below) free

theorem byte_eq_of_nibbles (high : left >>> 4 = right >>> 4)
    (low : left &&& 0x0f = right &&& 0x0f) : left = right := by
  have whole : ∀ byte : UInt8, byte = (byte >>> 4) * 16 + (byte &&& 0x0f) := by
    apply forall_byte
    decide +kernel
  rw [whole left, whole right, high, low]

theorem byte_eq_of_top (low : left &&& 0x7f = right &&& 0x7f)
    (top : left &&& 0x80 = right &&& 0x80) : left = right := by
  have whole : ∀ byte : UInt8, byte = (byte &&& 0x80) + (byte &&& 0x7f) := by
    apply forall_byte
    decide +kernel
  rw [whole left, whole right, low, top]

theorem fragment_bytes {packet : Bytes} (inside : 8 ≤ packet.length)
    (whole : word 6 16 packet &&& 0x3fff#16 = 0#16) :
    byteAt 6 packet &&& 0x3f = 0 ∧ byteAt 7 packet = 0 := by
  have two : slice 6 2 packet = [byteAt 6 packet, byteAt 7 packet] := by
    apply ext_byteAt
    · exact length_slice inside
    · intro index below
      rw [length_slice inside] at below
      rw [byteAt_slice below]
      interval_cases index <;> rfl
  have first := (byteAt 6 packet).toNat_lt
  have second := (byteAt 7 packet).toNat_lt
  have number : (word 6 16 packet).toNat =
      (byteAt 6 packet).toNat * 256 + (byteAt 7 packet).toNat := by
    rw [word, two, BitVec.toNat_ofNat]
    simp only [Lib.BigEndian.ofBigEndian, foldl_cons, foldl_nil]
    omega
  have masked := congrArg BitVec.toNat whole
  change _ &&& (2 ^ 14 - 1) = 0 at masked
  rw [Nat.and_two_pow_sub_one_eq_mod] at masked
  constructor
  · rw [← UInt8.toNat_inj, UInt8.toNat_and]
    change _ &&& (2 ^ 6 - 1) = 0
    rw [Nat.and_two_pow_sub_one_eq_mod]
    omega
  · rw [← UInt8.toNat_inj]
    change _ = 0
    omega

theorem flags_eq_iff {first packet : UInt8} {pendingPsh last : Bool}
    (firstPlain : first &&& 0xe7 = 0) (firstPsh : first &&& 0x08 = 0)
    (plain : packet &&& 0xe7 = 0) (psh : decide (packet &&& 0x08 ≠ 0) = (pendingPsh && last)) :
    (if last then if pendingPsh then first ||| 0x08 else first
      else (if pendingPsh then first ||| 0x08 else first) &&& ~~~ 0x09) = packet ↔
        packet &&& 0x10 = first &&& 0x10 := by
  have plainFirst : ∀ byte : UInt8, byte &&& 0xe7 = 0 → byte &&& 0x08 = 0 →
      byte = 0 ∨ byte = 0x10 := by
    apply forall_byte
    decide +kernel
  have plainPacket : ∀ byte : UInt8, byte &&& 0xe7 = 0 →
      byte = 0 ∨ byte = 0x08 ∨ byte = 0x10 ∨ byte = 0x18 := by
    apply forall_byte
    decide +kernel
  rcases plainFirst first firstPlain firstPsh with rfl | rfl <;>
    rcases plainPacket packet plain with rfl | rfl | rfl | rfl <;>
    cases pendingPsh <;> cases last <;> revert psh <;> decide

structure Forced (ihl doff : Nat) (first packet : Bytes) : Prop where
  version : byteAt 0 packet = byteAt 0 first
  tos : byteAt 1 packet = byteAt 1 first
  flags : byteAt 6 packet &&& 0x7f = byteAt 6 first &&& 0x7f
  fragment : byteAt 7 packet = byteAt 7 first
  ttl : byteAt 8 packet = byteAt 8 first
  protocol : byteAt 9 packet = byteAt 9 first
  flow : slice 12 8 packet = slice 12 8 first
  ipOptions : slice 20 (ihl - 20) packet = slice 20 (ihl - 20) first
  ports : slice ihl 4 packet = slice ihl 4 first
  ack : slice (ihl + 8) 4 packet = slice (ihl + 8) 4 first
  offset : byteAt (ihl + 12) packet >>> 4 = byteAt (ihl + 12) first >>> 4
  window : slice (ihl + 14) 2 packet = slice (ihl + 14) 2 first
  urgent : slice (ihl + 18) 2 packet = slice (ihl + 18) 2 first
  tcpOptions : slice (ihl + 20) (doff - 20) packet = slice (ihl + 20) (doff - 20) first

theorem byte_eq_of_toNat_mul (same : left.toNat * 4 = right.toNat * 4) : left = right := by
  rw [← UInt8.toNat_inj]
  omega

variable {batch : Batch}

theorem forced_of_pieces {early late : Nat} (firstPiece : Piece batch early first firstInfo)
    (piece : Piece batch late segment info) :
    Forced batch.ihl batch.doff first.packet.bytes segment.packet.bytes := by
  have bytes : ∀ {place : Nat} {segment : Segment} {info : PacketInfo},
      Piece batch place segment info → byteAt 6 segment.packet.bytes &&& 0x7f = batch.df ∧
        byteAt 7 segment.packet.bytes = 0 := by
    intro place segment info piece
    have ihlMin := piece.parsed.ihl_min
    have total := piece.parsed.total_eq
    have fits := piece.parsed.total_le
    have ⟨masked, zero⟩ := fragment_bytes (by omega) piece.parsed.whole
    have split : ∀ byte : UInt8, byte &&& 0x7f = (byte &&& 0x3f) + (byte &&& 0x40) := by
      apply forall_byte
      decide +kernel
    refine ⟨?_, zero⟩
    rw [split, masked, piece.same.df]
    exact UInt8.zero_add _
  have ⟨firstFlags, firstZero⟩ := bytes firstPiece
  have ⟨flags, zero⟩ := bytes piece
  constructor
  case version =>
    apply byte_eq_of_nibbles
    · rw [piece.parsed.version, firstPiece.parsed.version]
    · apply byte_eq_of_toNat_mul
      rw [← piece.parsed.ihl, ← firstPiece.parsed.ihl, piece.ihl, firstPiece.ihl]
  case tos => rw [piece.same.tos, firstPiece.same.tos]
  case flags => rw [flags, firstFlags]
  case fragment => rw [zero, firstZero]
  case ttl => rw [piece.same.ttl, firstPiece.same.ttl]
  case protocol => rw [piece.parsed.protocol, firstPiece.parsed.protocol]
  case flow => rw [piece.same.flow, firstPiece.same.flow]
  case ipOptions => rw [piece.same.ipOptions, firstPiece.same.ipOptions]
  case ports => rw [piece.same.ports, firstPiece.same.ports]
  case ack => rw [piece.same.ack, firstPiece.same.ack]
  case offset =>
    apply byte_eq_of_toNat_mul
    rw [← piece.ihl, ← piece.parsed.doff, piece.ihl, ← firstPiece.ihl, ← firstPiece.parsed.doff,
      piece.doff, firstPiece.doff]
  case window => rw [piece.same.window, firstPiece.same.window]
  case urgent => rw [piece.same.urgent, firstPiece.same.urgent]
  case tcpOptions => rw [piece.same.tcpOptions, firstPiece.same.tcpOptions]

theorem Forced.byte {ihl doff : Nat} {first packet : Bytes}
    (forced : Forced ihl doff first packet) (inside : place < ihl + doff)
    (apart : place < 2 ∨ (7 ≤ place ∧ place < 10) ∨ (12 ≤ place ∧ place < ihl + 4) ∨
      (ihl + 8 ≤ place ∧ place < ihl + 12) ∨ (ihl + 14 ≤ place ∧ place < ihl + 16) ∨
      ihl + 18 ≤ place) : byteAt place packet = byteAt place first := by
  rcases apart with low | ⟨low, high⟩ | ⟨low, high⟩ | ⟨low, high⟩ | ⟨low, high⟩ | low
  · interval_cases place
    · exact forced.version
    · exact forced.tos
  · interval_cases place
    · exact forced.fragment
    · exact forced.ttl
    · exact forced.protocol
  · by_cases address : place < 20
    · exact byteAt_eq_of_slice forced.flow low (by omega)
    by_cases option : place < ihl
    · exact byteAt_eq_of_slice forced.ipOptions (by omega) (by omega)
    · exact byteAt_eq_of_slice forced.ports (by omega) (by omega)
  · exact byteAt_eq_of_slice forced.ack low high
  · exact byteAt_eq_of_slice forced.window low high
  · by_cases pointer : place < ihl + 20
    · exact byteAt_eq_of_slice forced.urgent low (by omega)
    · exact byteAt_eq_of_slice forced.tcpOptions (by omega) (by omega)

theorem Piece.ihlOf
    (piece : Piece batch place segment info) : ihlOf segment.packet.bytes = batch.ihl := by
  rw [← piece.ihl, piece.parsed.ihl, Tap.ihlOf]

theorem Mergeable.firstPiece (mergeable : Mergeable batch) :
    ∃ first rest info, batch.segments = first :: rest ∧ Piece batch 0 first info ∧
      info.payload = batch.gsoSize ∧ hasPsh first.packet.bytes info = false ∧
      batch.superHeader = first.packet.bytes.take (batch.ihl + batch.doff) := by
  have several := mergeable.several
  have ⟨first, rest, segments, header⟩ := mergeable.first
  have ⟨info, piece, size, psh⟩ := mergeable.pieces 0 first
    (by rw [segments, getElem?_cons_zero])
  refine ⟨first, rest, info, segments, piece, size (by omega), ?_, ?_⟩
  · rw [psh, decide_eq_false (by omega), Bool.and_false]
  · rw [← header, piece.header, piece.ihl, piece.doff]

theorem Piece.bounds (piece : Piece batch place segment info) :
    20 ≤ batch.ihl ∧ 20 ≤ batch.doff ∧ 0 < info.payload ∧
      batch.ihl + batch.doff + info.payload < 65536 ∧
      batch.ihl + batch.doff + info.payload ≤ segment.packet.bytes.length := by
  have parsed := piece.parsed
  have ihlMin := parsed.ihl_min
  have doffMin := parsed.doff_min
  have positive := parsed.payload
  have total := parsed.total_eq
  have fits := parsed.total_le
  have small : info.total < 65536 := by
    rw [parsed.total, readBE16]
    exact (word 2 16 segment.packet.bytes).isLt
  rw [piece.ihl] at ihlMin total
  rw [piece.doff] at doffMin total
  omega

section

variable (firstPiece : Piece batch 0 first firstInfo)
  (firstPsh : hasPsh first.packet.bytes firstInfo = false)
  (superHeader : batch.superHeader = first.packet.bytes.take (batch.ihl + batch.doff))
  (piece : Piece batch place segment info) (last : Bool)
  (psh : hasPsh segment.packet.bytes info = (batch.pendingPsh && last))
include firstPiece firstPsh superHeader piece psh

theorem cutHeader_agrees_iff :
    (∀ offset, offset < batch.ihl + batch.doff → ¬ Blanked batch.ihl offset →
      byteAt offset (cutHeader (gsoHeaders batch) batch.ihl batch.gsoSize place info.payload last) =
        byteAt offset segment.packet.bytes) ↔
      SameFreeBits first.packet.bytes segment.packet.bytes := by
  have ⟨ihlMin, doffMin, _, small, fits⟩ := piece.bounds
  have ⟨_, _, _, _, firstFits⟩ := firstPiece.bounds
  have forced := forced_of_pieces firstPiece piece
  have size : batch.superHeader.length = batch.ihl + batch.doff := by
    rw [superHeader, length_take]
    omega
  have ⟨gsoLength, gsoByte, gsoSequence, gsoFlags⟩ := gsoHeaders_spec ihlMin doffMin size
  have ⟨cutLength, cutByte, cutTotal, cutSequence, cutFlags⟩ :=
    cutHeader_spec ihlMin doffMin gsoLength batch.gsoSize place info.payload last small
  have superByte : ∀ offset, offset < batch.ihl + batch.doff →
      byteAt offset batch.superHeader = byteAt offset first.packet.bytes := by
    intro offset inside
    rw [superHeader, byteAt_take inside]
  generalize cutHeader (gsoHeaders batch) batch.ihl batch.gsoSize place info.payload last = cut
    at cutLength cutByte cutTotal cutSequence cutFlags ⊢
  -- The flags, by the `ACK` flag alone.
  have flags : byteAt (batch.ihl + 13) cut = byteAt (batch.ihl + 13) segment.packet.bytes ↔
      byteAt (batch.ihl + 13) segment.packet.bytes &&& 0x10 =
        byteAt (batch.ihl + 13) first.packet.bytes &&& 0x10 := by
    have plain := piece.flags
    have firstPlain := firstPiece.flags
    rw [hasPsh, piece.ihl] at psh
    rw [hasPsh, firstPiece.ihl, decide_eq_false_iff_not, not_not] at firstPsh
    rw [piece.ihl] at plain
    rw [firstPiece.ihl] at firstPlain
    rw [cutFlags, gsoFlags, superByte _ (by omega)]
    exact flags_eq_iff firstPlain firstPsh plain psh
  rw [SameFreeBits, piece.ihlOf, firstPiece.ihlOf]
  have plainByte : ∀ offset, offset = 6 ∨ offset = batch.ihl + 12 →
      byteAt offset cut = byteAt offset first.packet.bytes := by
    intro offset where_
    rw [cutByte offset (by omega), gsoByte offset (by omega), superByte offset (by omega)]
  constructor
  · intro same
    have notBlanked : ¬ Blanked batch.ihl 6 ∧ ¬ Blanked batch.ihl (batch.ihl + 12) ∧
        ¬ Blanked batch.ihl (batch.ihl + 13) := by
      simp only [Blanked]
      omega
    have six := same 6 (by omega) notBlanked.1
    have twelve := same (batch.ihl + 12) (by omega) notBlanked.2.1
    have thirteen := same (batch.ihl + 13) (by omega) notBlanked.2.2
    rw [plainByte 6 (.inl rfl)] at six
    rw [plainByte (batch.ihl + 12) (.inr rfl)] at twelve
    exact ⟨by rw [six], by rw [twelve], flags.mp thirteen⟩
  · intro ⟨reserved, nibble, ack⟩ offset inside free
    simp only [Blanked] at free
    by_cases total : 2 ≤ offset ∧ offset < 4
    · have words : word 2 16 cut = word 2 16 segment.packet.bytes := by
        apply BitVec.eq_of_toNat_eq
        change readBE16 2 cut = readBE16 2 segment.packet.bytes
        rw [cutTotal, ← piece.parsed.total, piece.parsed.total_eq, piece.ihl, piece.doff]
      have slices := slice_eq_of_word (by decide) (by omega) (by omega) words
      exact byteAt_eq_of_slice slices total.1 total.2
    by_cases sequence : batch.ihl + 4 ≤ offset ∧ offset < batch.ihl + 8
    · have words : word (batch.ihl + 4) 32 cut = word (batch.ihl + 4) 32 segment.packet.bytes := by
        rw [cutSequence, gsoSequence, ← piece.seq, piece.parsed.seq, piece.ihl]
      have slices := slice_eq_of_word (by decide) (by omega) (by omega) words
      exact byteAt_eq_of_slice slices sequence.1 sequence.2
    by_cases flag : offset = batch.ihl + 13
    · rw [flag]
      exact flags.mpr ack
    rw [cutByte offset (by omega), gsoByte offset (by omega), superByte offset (by omega)]
    by_cases six : offset = 6
    · rw [six]
      exact byte_eq_of_top forced.flags.symm reserved.symm
    by_cases twelve : offset = batch.ihl + 12
    · rw [twelve]
      exact byte_eq_of_nibbles forced.offset.symm nibble.symm
    exact (forced.byte inside (by omega)).symm

theorem cut_segment_iff :
    comparable (cutHeader (gsoHeaders batch) batch.ihl batch.gsoSize place segment.payload.length
      last ++ segment.payload) = comparable segment.packet.bytes ↔
      SameFreeBits first.packet.bytes segment.packet.bytes := by
  have ⟨ihlMin, doffMin, _, small, fits⟩ := piece.bounds
  have ⟨_, _, _, _, firstFits⟩ := firstPiece.bounds
  have agrees := cutHeader_agrees_iff firstPiece firstPsh superHeader piece last psh
  have length := piece.length_payload
  have size : batch.superHeader.length = batch.ihl + batch.doff := by
    rw [superHeader, length_take]
    omega
  have ⟨gsoLength, gsoByte, _, _⟩ := gsoHeaders_spec ihlMin doffMin size
  have ⟨cutLength, cutByte, cutTotal, _, _⟩ :=
    cutHeader_spec ihlMin doffMin gsoLength batch.gsoSize place info.payload last small
  rw [length]
  generalize cutHeader (gsoHeaders batch) batch.ihl batch.gsoSize place info.payload last = cut
    at agrees cutLength cutByte cutTotal ⊢
  have cutIhl : ihlOf (cut ++ segment.payload) = batch.ihl := by
    rw [← firstPiece.ihlOf, ihlOf, ihlOf, byteAt_append_left (by omega), cutByte 0 (by omega),
      gsoByte 0 (by omega), superHeader, byteAt_take (by omega)]
  have cutSize : (cut ++ segment.payload).length = batch.ihl + batch.doff + info.payload := by
    rw [length_append]
    omega
  have cutTake : readBE16 2 (cut ++ segment.payload) = batch.ihl + batch.doff + info.payload := by
    rw [← cutTotal, readBE16, readBE16, word_append_left (by omega)]
  have total : readBE16 2 segment.packet.bytes = batch.ihl + batch.doff + info.payload := by
    rw [← piece.parsed.total, piece.parsed.total_eq, piece.ihl, piece.doff]
  have packetSize : (segment.packet.bytes.take (batch.ihl + batch.doff + info.payload)).length =
      batch.ihl + batch.doff + info.payload := by
    rw [length_take]
    omega
  rw [comparable, comparable, cutIhl, piece.ihlOf, cutTake, total,
    take_of_length_le (Nat.le_of_eq cutSize),
    blank_eq_iff ihlMin (cutSize.trans packetSize.symm) (by omega), ← agrees, cutSize]
  have headers : ∀ offset, offset < batch.ihl + batch.doff →
      (byteAt offset (cut ++ segment.payload) = byteAt offset
        (segment.packet.bytes.take (batch.ihl + batch.doff + info.payload)) ↔
          byteAt offset cut = byteAt offset segment.packet.bytes) := by
    intro offset inside
    rw [byteAt_append_left (by omega), byteAt_take (by omega)]
  constructor
  · intro same offset inside free
    exact (headers offset inside).mp (same offset (by omega) free)
  · intro same offset inside free
    by_cases header : offset < batch.ihl + batch.doff
    · exact (headers offset header).mpr (same offset header free)
    · have past : cut.length ≤ offset := by omega
      have within : offset - cut.length < info.payload := by omega
      rw [byteAt_append_right past, byteAt_take inside, piece.payload, piece.ihl, piece.doff,
        byteAt_slice within, ← cutLength, Nat.add_sub_cancel' past]

end

theorem Mergeable.chunked (mergeable : Mergeable batch) :
    Chunked batch.gsoSize (batch.segments.map fun segment => segment.payload) := by
  apply chunked_of_places
  · have ⟨first, rest, segments, _⟩ := mergeable.first
    rw [segments]
    exact cons_ne_nil _ _
  · intro place payload found
    rw [getElem?_map, map_eq_some_iff] at found
    obtain ⟨segment, found, rfl⟩ := found
    have ⟨info, piece, size, _⟩ := mergeable.pieces place segment found
    have ⟨_, _, positive, _, _⟩ := piece.bounds
    rw [piece.length_payload, length_map]
    exact ⟨positive, piece.size, size⟩

theorem cutTcpV4Gso_superframe (mergeable : Mergeable batch) :
    cutTcpV4Gso (buildIovecs batch).flatten = (List.range batch.count).map fun index =>
        let part := slice (index * batch.gsoSize) batch.gsoSize
          (batch.segments.map fun segment => segment.payload).flatten
        cutHeader (gsoHeaders batch) batch.ihl batch.gsoSize index part.length
          (decide (index + 1 = batch.count)) ++ part := by
  have ⟨first, rest, info, segments, piece, size, psh, superHeader⟩ := mergeable.firstPiece
  have ⟨ihlMin, doffMin, _, small, fits⟩ := piece.bounds
  have superSize : batch.superHeader.length = batch.ihl + batch.doff := by
    rw [superHeader, length_take]
    omega
  have ⟨gsoLength, gsoByte, _, _⟩ := gsoHeaders_spec ihlMin doffMin superSize
  have count := mergeable.chunked.count
  rw [length_map] at count
  have flat : (buildIovecs batch).flatten = gsoOffloadHeader batch ++ (gsoHeaders batch ++
      (batch.segments.map fun segment => segment.payload).flatten) := by
    rw [buildIovecs, flatten_cons, append_assoc]
  generalize (batch.segments.map fun segment => segment.payload).flatten = payload
    at flat count ⊢
  have offload : (gsoOffloadHeader batch).length = standardVirtioHeaderSize := rfl
  have gso : readLE16 4 (buildIovecs batch).flatten = batch.gsoSize := by
    change (UInt8.ofNat batch.gsoSize).toNat + 256 * (UInt8.ofNat (batch.gsoSize / 256)).toNat = _
    rw [UInt8.toNat_ofNat', UInt8.toNat_ofNat']
    omega
  have packet : (buildIovecs batch).flatten.drop standardVirtioHeaderSize =
      gsoHeaders batch ++ payload := by
    rw [flat, drop_left' offload]
  have ihl : ihlOf (gsoHeaders batch ++ payload) = batch.ihl := by
    rw [← piece.ihlOf, ihlOf, ihlOf, byteAt_append_left (by omega), gsoByte 0 (by omega),
      superHeader, byteAt_take (by omega)]
  have doff : doffOf (gsoHeaders batch ++ payload) = batch.doff := by
    rw [doffOf, ihl, byteAt_append_left (by omega), gsoByte _ (by omega), superHeader,
      byteAt_take (by omega), ← piece.doff, piece.parsed.doff, piece.ihl]
  simp only [cutTcpV4Gso, gso, packet, ihl, doff, take_left' gsoLength,
    drop_left' gsoLength, count, Batch.count]
  rfl

theorem getElem?_cutTcpV4Gso (mergeable : Mergeable batch)
    (found : batch.segments[place]? = some segment) :
    (cutTcpV4Gso (buildIovecs batch).flatten)[place]? =
      some (cutHeader (gsoHeaders batch) batch.ihl batch.gsoSize place segment.payload.length
        (decide (place + 1 = batch.count)) ++ segment.payload) := by
  have inside : place < batch.count := (List.getElem?_eq_some_iff.mp found).1
  have part : slice (place * batch.gsoSize) batch.gsoSize
      (batch.segments.map fun segment => segment.payload).flatten = segment.payload := by
    apply mergeable.chunked.getElem?_eq
    rw [getElem?_map, found, map_some]
  rw [cutTcpV4Gso_superframe mergeable, getElem?_map, getElem?_range inside, map_some]
  rw [part]

theorem cut_superframe_iff (mergeable : Mergeable batch) :
    (cutTcpV4Gso (buildIovecs batch).flatten).map comparable =
        batch.segments.map (fun segment => comparable segment.packet.bytes) ↔
      ∀ first ∈ batch.segments.head?, ∀ segment ∈ batch.segments,
        SameFreeBits first.packet.bytes segment.packet.bytes := by
  have ⟨first, rest, firstInfo, segments, firstPiece, _, firstPsh, superHeader⟩ :=
    mergeable.firstPiece
  -- Place by place.
  have each : ∀ place segment, batch.segments[place]? = some segment →
      (comparable (cutHeader (gsoHeaders batch) batch.ihl batch.gsoSize place
        segment.payload.length (decide (place + 1 = batch.count)) ++ segment.payload) =
          comparable segment.packet.bytes ↔
        SameFreeBits first.packet.bytes segment.packet.bytes) := by
    intro place segment found
    have ⟨info, piece, _, psh⟩ := mergeable.pieces place segment found
    exact cut_segment_iff firstPiece firstPsh superHeader piece _ psh
  constructor
  · intro same head headFirst segment member
    rw [segments, head?_cons, mem_some_iff] at headFirst
    have ⟨place, found⟩ := mem_iff_getElem?.mp member
    have here := congrArg (fun packets : List Bytes => packets[place]?) same
    simp only [getElem?_map, getElem?_cutTcpV4Gso mergeable found, found,
      map_some, some.injEq] at here
    rw [← headFirst]
    exact (each place segment found).mp here
  · intro same
    have headFirst : first ∈ batch.segments.head? := by
      rw [segments]
      rfl
    apply ext_getElem?
    intro place
    rw [getElem?_map, getElem?_map]
    cases found : batch.segments[place]? with
    | none =>
      have past : batch.count ≤ place := getElem?_eq_none_iff.mp found
      rw [cutTcpV4Gso_superframe mergeable, getElem?_map,
        getElem?_eq_none (by rw [length_range]; exact past)]
      rfl
    | some segment =>
      rw [getElem?_cutTcpV4Gso mergeable found, map_some, map_some,
        (each place segment found).mpr (same first headFirst segment
          (mem_iff_getElem?.mpr ⟨place, found⟩))]

/-- For every superframe of every history, cutting it gives back the packets merged in it, up
to the identification, the checksums and what follows the total length, exactly if they all
have the reserved flag, the reserved TCP bits and the `ACK` flag of the first one. -/
theorem cut_gives_back_iff (config : Config) (calls : List Call) (attempt : Attempt)
    (written : attempt ∈ (History.ended config calls).coalescer.log)
    (several : 2 ≤ attempt.packets.length) : (cutTcpV4Gso attempt.frame).map comparable =
        attempt.packets.map (fun packet => comparable packet.bytes) ↔
      ∀ first ∈ attempt.packets.head?, ∀ packet ∈ attempt.packets,
        SameFreeBits first.bytes packet.bytes := by
  have ⟨batch, mergeable, frame, packets⟩ := logged_ended calls attempt written several
  have cut := cut_superframe_iff mergeable
  rw [frame, packets, List.map_map]
  simpa [head?_map, Function.comp_def] using cut

instance (first packet : Bytes) : Decidable (SameFreeBits first packet) :=
  inferInstanceAs (Decidable (_ ∧ _))

def acceptingConfig : Config := { sampleConfig with writer := fun _ frame => frame.length }

/-- A packet with `ACK` continued by one without it: the superframe gives both the flag. -/
theorem ack_flag_not_given_back : ∃ attempt ∈ (History.ended acceptingConfig
        [.push (samplePacket 0) 0, .push (patch 33 [0] (samplePacket 1)) 1]).coalescer.log,
      2 ≤ attempt.packets.length ∧ (cutTcpV4Gso attempt.frame).map comparable ≠
          attempt.packets.map (fun packet => comparable packet.bytes) := by
  decide +kernel

theorem same_flags_given_back : ∃ attempt ∈ (History.ended acceptingConfig
        [.push (samplePacket 0) 0, .push (samplePacket 1) 1]).coalescer.log,
      2 ≤ attempt.packets.length ∧ (cutTcpV4Gso attempt.frame).map comparable =
          attempt.packets.map (fun packet => comparable packet.bytes) := by
  have found : ∃ attempt ∈ (History.ended acceptingConfig
        [.push (samplePacket 0) 0, .push (samplePacket 1) 1]).coalescer.log,
      2 ≤ attempt.packets.length ∧ ∀ first ∈ attempt.packets.head?,
        ∀ packet ∈ attempt.packets, SameFreeBits first.bytes packet.bytes := by
    decide +kernel
  obtain ⟨attempt, written, several, same⟩ := found
  exact ⟨attempt, written, several, (cut_gives_back_iff _ _ attempt written several).mpr same⟩

end OpenPpp2.Tap
