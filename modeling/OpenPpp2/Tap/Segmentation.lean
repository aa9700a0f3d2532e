import OpenPpp2.Tap.VnetCodec

/-!
# Segments carry the stream

The segments of an accepted frame: each parses, carries its part of the payload under the right
sequence number, and has valid checksums.
-/

namespace OpenPpp2.Tap

open Lib Lib.ByteLayout Lib.BytePatch Lib.OnesComplement List Nat

/-- A packet whose headers `ParseIPv4Tcp` accepts, with their lengths. -/
structure Headers (ip : Bytes) (ihl tcp : Nat) : Prop where
  small : ip.length ≤ 65535
  version : byteAt 0 ip >>> 4 = 4
  protocol : byteAt 9 ip = 6
  ihl_eq : ihl = (byteAt 0 ip &&& 0x0f).toNat * 4
  ihl_min : 20 ≤ ihl
  total : readBE16 2 ip = ip.length
  whole : word 6 16 ip &&& 0x3fff#16 = 0#16
  tcp_eq : tcp = (byteAt (ihl + 12) ip >>> 4).toNat * 4
  tcp_min : 20 ≤ tcp
  fits : ihl + tcp ≤ ip.length

/-- What `ParseIPv4Tcp` makes of such a packet. -/
def frameOf (ip : Bytes) (ihl tcp : Nat) : TcpV4GsoFrame :=
  { ip := ip, packetSize := ip.length, ihl := ihl, tcpHeaderSize := tcp
    headerSize := ihl + tcp, payloadSize := ip.length - (ihl + tcp)
    gsoSize := 0, initialSequence := word (ihl + 4) 32 ip }

theorem parseIPv4Tcp_of_headers {ip : Bytes} {ihl tcp : Nat} (headers : Headers ip ihl tcp) :
    parseIPv4Tcp ip = some (frameOf ip ihl tcp) := by
  rcases headers with ⟨small, version, protocol, rfl, ihlMin, total, whole, rfl, tcpMin, fits⟩
  rw [parseIPv4Tcp]
  rw [if_neg]
  · dsimp only
    rw [if_neg, if_neg]
    · rfl
    · omega
    · simp only [total, whole, ne_eq, not_true_eq_false, false_or]
      omega
  · simp only [maximumIpv4PacketSize, version, protocol, ne_eq, not_true_eq_false, or_false]
    omega

theorem headers_of_parseIPv4Tcp {ip : Bytes} {frame : TcpV4GsoFrame}
    (parsed : parseIPv4Tcp ip = some frame) :
    ∃ ihl tcp, Headers ip ihl tcp ∧ frame = frameOf ip ihl tcp := by
  rw [parseIPv4Tcp] at parsed
  split_ifs at parsed with first
  dsimp only at parsed
  split_ifs at parsed with second third
  simp only [not_or, not_not, maximumIpv4PacketSize] at first second third
  cases parsed
  refine ⟨_, _, ⟨by omega, first.2.2.1, first.2.2.2, rfl, by omega, second.2.2.1, second.2.2.2.1,
    rfl, by omega, by omega⟩, rfl⟩

theorem Headers.copy {ip bytes : Bytes} {ihl tcp : Nat} (headers : Headers ip ihl tcp)
    (small : bytes.length ≤ 65535) (total : readBE16 2 bytes = bytes.length)
    (fits : ihl + tcp ≤ bytes.length) (fragment : word 6 16 bytes = word 6 16 ip)
    (byte : ∀ place, place = 0 ∨ place = 9 ∨ place = ihl + 12 →
      byteAt place bytes = byteAt place ip) : Headers bytes ihl tcp := by
  have first := byte 0 (by omega)
  exact ⟨small, first ▸ headers.version, byte 9 (by omega) ▸ headers.protocol,
    first ▸ headers.ihl_eq, headers.ihl_min, total, fragment ▸ headers.whole,
    byte (ihl + 12) (by omega) ▸ headers.tcp_eq, headers.tcp_min, fits⟩

theorem headers_patch {bytes new : Bytes} {ihl tcp offset : Nat} (headers : Headers bytes ihl tcp)
    (inside : offset + new.length ≤ bytes.length) (after : 10 ≤ offset)
    (apart : offset + new.length ≤ ihl + 12 ∨ ihl + 12 < offset) :
    Headers (patch offset new bytes) ihl tcp := by
  have length := length_patch inside
  apply headers.copy (length ▸ headers.small) _ (length ▸ headers.fits)
  · exact word_patch_apart inside (.inl (by omega))
  · intro place where_
    exact byteAt_patch_apart inside (by omega)
  · rw [readBE16, word_patch_apart inside (.inl (by omega)), length]
    exact headers.total

def acceptedFrame (ip : Bytes) (ihl tcp gso : Nat) : TcpV4GsoFrame :=
  { frameOf ip ihl tcp with gsoSize := gso }

def rawSegment (ip : Bytes) (header offset size : Nat) : Bytes :=
  ip.take header ++ slice (header + offset) size ip

section Segment

variable {ip : Bytes} {ihl tcp gso offset size : Nat} (headers : Headers ip ihl tcp)
  (part : ihl + tcp + offset + size ≤ ip.length)

include part

theorem length_rawSegment : (rawSegment ip (ihl + tcp) offset size).length = ihl + tcp + size := by
  simp only [rawSegment, slice, length_append, length_take, length_drop]
  omega

include headers

omit part in
theorem byteAt_rawSegment {place : Nat} (inside : place < ihl + tcp) :
    byteAt place (rawSegment ip (ihl + tcp) offset size) = byteAt place ip := by
  have fits := headers.fits
  rw [rawSegment, byteAt_append_left (by rw [length_take]; omega), byteAt_take inside]

omit part in
theorem slice_rawSegment {place count : Nat} (inside : place + count ≤ ihl + tcp) :
    slice place count (rawSegment ip (ihl + tcp) offset size) = slice place count ip := by
  have fits := headers.fits
  rw [rawSegment, slice_append_left (by rw [length_take]; omega), slice_take inside]

omit part in
theorem drop_rawSegment : (rawSegment ip (ihl + tcp) offset size).drop (ihl + tcp) =
    slice (ihl + tcp + offset) size ip := by
  have fits := headers.fits
  exact drop_left' (by rw [length_take]; omega)

theorem headers_rawSegment :
    Headers (writeBE16 2 (ihl + tcp + size) (rawSegment ip (ihl + tcp) offset size)) ihl tcp := by
  have small := headers.small
  have tcpMin := headers.tcp_min
  have length := length_rawSegment part
  have two : (wordBytes (BitVec.ofNat 16 (ihl + tcp + size))).length = 2 := length_wordBytes _
  have inside : 2 + (wordBytes (BitVec.ofNat 16 (ihl + tcp + size))).length ≤
      (rawSegment ip (ihl + tcp) offset size).length := by omega
  have whole : (writeBE16 2 (ihl + tcp + size) (rawSegment ip (ihl + tcp) offset size)).length =
      ihl + tcp + size := by
    rw [writeBE16, length_patch inside, length]
  apply headers.copy (by omega) _ (by omega)
  · rw [writeBE16, word_patch_apart inside (by omega), word, slice_rawSegment headers (by omega)]
    rfl
  · intro place where_
    rw [writeBE16, byteAt_patch_apart inside (by omega), byteAt_rawSegment headers (by omega)]
  · rw [whole, readBE16, writeBE16, word_patch (by decide) _ (by omega), BitVec.toNat_ofNat,
      mod_eq_of_lt (by omega)]

end Segment

structure Carries (ip : Bytes) (ihl tcp offset size : Nat) (last : Bool) (output : Bytes) :
    Prop where
  headers : Headers output ihl tcp
  length : output.length = ihl + tcp + size
  payload : output.drop (ihl + tcp) = slice (ihl + tcp + offset) size ip
  sequence : word (ihl + 4) 32 output = word (ihl + 4) 32 ip + BitVec.ofNat 32 offset
  flags : byteAt (ihl + 13) output =
    if last then byteAt (ihl + 13) ip else byteAt (ihl + 13) ip &&& ~~~ 0x08

section Carries

variable {ip : Bytes} {ihl tcp offset size : Nat} {last : Bool}

variable {place : Nat} {output : Bytes}

theorem Carries.patch {new : Bytes} (carries : Carries ip ihl tcp offset size last output)
    (two : new.length = 2) (where_ : place = 10 ∨ place = ihl + 16) :
    Carries ip ihl tcp offset size last (BytePatch.patch place new output) := by
  have ihlMin := carries.headers.ihl_min
  have tcpMin := carries.headers.tcp_min
  have length := carries.length
  have inside : place + new.length ≤ output.length := by omega
  constructor
  · exact headers_patch carries.headers inside (by omega) (by omega)
  · rw [length_patch inside, length]
  · rw [drop_patch_after inside (by omega)]
    exact carries.payload
  · rw [word_patch_apart inside (by omega)]
    exact carries.sequence
  · rw [byteAt_patch_apart inside (by omega)]
    exact carries.flags

theorem byteAt_patch_one {byte : UInt8} {bytes : Bytes}
    (inside : place < bytes.length) : byteAt place (patch place [byte] bytes) = byte := by
  have same := @slice_patch place [byte] bytes (by rw [length_singleton]; omega)
  have here := congrArg (byteAt 0) same
  rwa [byteAt_slice (show 0 < [byte].length by simp)] at here

theorem Carries.clearPush (carries : Carries ip ihl tcp offset size true output) :
    Carries ip ihl tcp offset size false
      (BytePatch.patch (ihl + 13) [byteAt (ihl + 13) output &&& ~~~ 0x08] output) := by
  have tcpMin := carries.headers.tcp_min
  have length := carries.length
  have inside : ihl + 13 + [byteAt (ihl + 13) output &&& ~~~ 0x08].length ≤ output.length := by
    rw [length_singleton]
    omega
  constructor
  · exact headers_patch carries.headers inside (by omega) (by omega)
  · rw [length_patch inside, length]
  · rw [drop_patch_after inside (by rw [length_singleton]; omega)]
    exact carries.payload
  · rw [word_patch_apart inside (by omega)]
    exact carries.sequence
  · have flags := carries.flags
    rw [byteAt_patch_one (by omega), flags]
    rfl

theorem carries_segmentBytes (headers : Headers ip ihl tcp) (gso : Nat)
    (part : ihl + tcp + offset + size ≤ ip.length) :
    Carries ip ihl tcp offset size (decide (offset + size = ip.length - (ihl + tcp)))
      (segmentBytes (acceptedFrame ip ihl tcp gso) offset size) := by
  have ihlMin := headers.ihl_min
  have tcpMin := headers.tcp_min
  have raw := length_rawSegment part
  have two : (wordBytes (BitVec.ofNat 16 (ihl + tcp + size))).length = 2 := length_wordBytes _
  have four : (wordBytes (word (ihl + 4) 32 ip + BitVec.ofNat 32 offset)).length = 4 :=
    length_wordBytes _
  have first : 2 + (wordBytes (BitVec.ofNat 16 (ihl + tcp + size))).length ≤
      (rawSegment ip (ihl + tcp) offset size).length := by omega
  have second : ihl + 4 + (wordBytes (word (ihl + 4) 32 ip + BitVec.ofNat 32 offset)).length ≤
      (writeBE16 2 (ihl + tcp + size) (rawSegment ip (ihl + tcp) offset size)).length := by
    rw [writeBE16, length_patch first]
    omega
  -- The segment with its length and its sequence number, before the flags.
  have base : Carries ip ihl tcp offset size true
      (writeBE32 (ihl + 4) (word (ihl + 4) 32 ip + BitVec.ofNat 32 offset)
        (writeBE16 2 (ihl + tcp + size) (rawSegment ip (ihl + tcp) offset size))) := by
    constructor
    · exact headers_patch (headers_rawSegment headers part) second (by omega) (by omega)
    · rw [writeBE32, length_patch second, writeBE16, length_patch first, raw]
    · rw [writeBE32, drop_patch_after second (by omega), writeBE16,
        drop_patch_after first (by omega), drop_rawSegment headers]
    · rw [writeBE32, word_patch (by decide)]
      omega
    · rw [writeBE32, byteAt_patch_apart second (by omega), writeBE16,
        byteAt_patch_apart first (by omega), byteAt_rawSegment headers (by omega)]
      rfl
  unfold segmentBytes
  split_ifs with more
  · rw [decide_eq_false (by exact more)]
    exact base.clearPush
  · rw [decide_eq_true (by exact not_not.mp more)]
    exact base

end Carries

variable {bytes : Bytes}

theorem fillChecksum_eq {offset : Nat} (checksum : Bytes → Nat)
    (inside : offset + 2 ≤ bytes.length) : fillChecksum offset checksum bytes =
      patch offset (wordBytes (BitVec.ofNat 16 (checksum (patch offset [0, 0] bytes)))) bytes := by
  have zeros := inside
  exact patch_patch zeros (length_wordBytes _)

def ValidIp (ihl : Nat) (bytes : Bytes) : Prop := complement (wordSum (bytes.take ihl)) = 0

def ValidTcp (ihl tcp : Nat) (bytes : Bytes) : Prop := tcpChecksum (frameOf bytes ihl tcp) = 0

theorem toNat_complement (sum : Nat) : (BitVec.ofNat 16 (complement sum)).toNat = complement sum :=
    by
  rw [BitVec.toNat_ofNat, mod_eq_of_lt (complement_lt sum)]

theorem validIp_fillChecksum {ihl : Nat} (low : 12 ≤ ihl) (inside : ihl ≤ bytes.length) :
    ValidIp ihl (fillChecksum 10 (fun bytes => complement (wordSum (bytes.take ihl))) bytes) := by
  have zeros : 10 + ([0, 0] : Bytes).length ≤ bytes.length := by
    simp only [length_cons, length_nil]
    omega
  have header : 10 + 2 ≤ (bytes.take ihl).length := by
    rw [length_take]
    omega
  rw [ValidIp, fillChecksum_eq _ (by omega), take_patch_inside (by rw [length_wordBytes]; omega)
    (by rw [length_wordBytes]; omega), wordSum_patch (by decide) _ header,
    take_patch_inside zeros (by simp only [length_cons, length_nil]; omega),
    toNat_complement, complement_add_complement]

theorem validTcp_fillChecksum {ihl tcp : Nat} (low : 20 ≤ ihl) (inside : ihl + 18 ≤ bytes.length) :
    ValidTcp ihl tcp (fillChecksum (ihl + 16)
      (fun output => tcpChecksum { frameOf bytes ihl tcp with ip := output }) bytes) := by
  have whole : ∀ new : Bytes, new.length = 2 →
      slice ihl (bytes.length - ihl) (patch (ihl + 16) new bytes) =
        patch 16 new (bytes.drop ihl) := by
    intro new two
    have within : ihl + 16 + new.length ≤ bytes.length := by omega
    rw [slice, drop_patch within (by omega), Nat.add_sub_cancel_left, take_of_length_le]
    rw [length_patch (by rw [length_drop]; omega), length_drop]
  have addresses : ∀ new : Bytes, new.length = 2 →
      slice 12 8 (patch (ihl + 16) new bytes) = slice 12 8 bytes := by
    intro new two
    exact slice_patch_apart (by omega) (.inl (by omega))
  have segment : 16 + 2 ≤ (bytes.drop ihl).length := by
    rw [length_drop]
    omega
  rw [ValidTcp, fillChecksum_eq _ (by omega)]
  simp only [tcpChecksum, frameOf]
  rw [whole [0, 0] rfl, addresses [0, 0] rfl, length_patch (by rw [length_wordBytes]; omega),
    whole _ (length_wordBytes _), addresses _ (length_wordBytes _),
    wordSum_patch (by decide) _ segment, toNat_complement, ← add_assoc,
    complement_add_complement]

theorem Carries.fillTcp {ip output : Bytes} {ihl tcp offset size : Nat} {last : Bool}
    (carries : Carries ip ihl tcp offset size last output) (valid : ValidIp ihl output) :
    let filled := fillChecksum (ihl + 16)
      (fun bytes => tcpChecksum { frameOf output ihl tcp with ip := bytes }) output
    Carries ip ihl tcp offset size last filled ∧ ValidIp ihl filled ∧ ValidTcp ihl tcp filled := by
  have tcpMin := carries.headers.tcp_min
  have length := carries.length
  have within : ihl + 16 + 2 ≤ output.length := by omega
  refine ⟨?_, ?_, validTcp_fillChecksum carries.headers.ihl_min within⟩
  · rw [fillChecksum_eq _ within]
    exact carries.patch (length_wordBytes _) (.inr rfl)
  · rw [ValidIp, fillChecksum_eq _ within, take_patch (by rw [length_wordBytes]; exact within)
      (le_add_right ihl 16)]
    exact valid

section Build

variable {ip : Bytes} {ihl tcp gso offset capacity : Nat}

def partSize (ip : Bytes) (ihl tcp gso offset : Nat) : Nat :=
  min (ip.length - (ihl + tcp) - offset) gso

theorem partSize_le (ip : Bytes) (ihl tcp gso offset : Nat) :
    partSize ip ihl tcp gso offset ≤ ip.length - (ihl + tcp) - offset ∧
      partSize ip ihl tcp gso offset ≤ gso := by
  rw [partSize]
  omega

def headedSegment (source : TcpV4GsoFrame) (offset size : Nat) : Bytes :=
  fillChecksum 10 (fun bytes => complement (wordSum (bytes.take source.ihl)))
    (segmentBytes source offset size)

theorem buildTcpV4GsoSegment_eq {source segment : TcpV4GsoFrame} {size : Nat}
    (positive : 0 < source.gsoSize) (before : offset < source.payloadSize)
    (aligned : offset % source.gsoSize = 0)
    (chosen : size = min (source.payloadSize - offset) source.gsoSize)
    (room : source.headerSize + size ≤ capacity) (small : source.headerSize + size ≤ 65535)
    (parsed : parseIPv4Tcp (headedSegment source offset size) = some segment) :
    buildTcpV4GsoSegment source offset capacity =
      some (fillChecksum (segment.ihl + 16) (fun bytes => tcpChecksum { segment with ip := bytes })
        (headedSegment source offset size)) := by
  have picked : (if source.payloadSize - offset < source.gsoSize then source.payloadSize - offset
      else source.gsoSize) = size := by
    split <;> omega
  have enough : ¬ (source.headerSize + size > capacity ∨
      source.headerSize + size > maximumIpv4PacketSize) := by
    rw [maximumIpv4PacketSize]
    omega
  rw [headedSegment] at parsed
  rw [buildTcpV4GsoSegment, if_neg (by omega)]
  dsimp only
  rw [picked, if_neg enough, parsed]
  rfl

theorem buildTcpV4GsoSegment_spec (headers : Headers ip ihl tcp) (positive : 0 < gso)
    (before : offset < ip.length - (ihl + tcp)) (aligned : offset % gso = 0)
    (room : ihl + tcp + partSize ip ihl tcp gso offset ≤ capacity) :
    ∃ output, buildTcpV4GsoSegment (acceptedFrame ip ihl tcp gso) offset capacity = some output ∧
      Carries ip ihl tcp offset (partSize ip ihl tcp gso offset)
        (decide (offset + partSize ip ihl tcp gso offset = ip.length - (ihl + tcp))) output ∧
      ValidIp ihl output ∧ ValidTcp ihl tcp output := by
  have small := headers.small
  have ihlMin := headers.ihl_min
  have bounds := partSize_le ip ihl tcp gso offset
  have carries : Carries ip ihl tcp offset (partSize ip ihl tcp gso offset) _ _ :=
    carries_segmentBytes headers gso (by omega)
  have length := carries.length
  have middle : Carries ip ihl tcp offset (partSize ip ihl tcp gso offset)
      (decide (offset + partSize ip ihl tcp gso offset = ip.length - (ihl + tcp)))
      (headedSegment (acceptedFrame ip ihl tcp gso) offset (partSize ip ihl tcp gso offset)) := by
    rw [headedSegment, fillChecksum_eq _ (by omega)]
    exact carries.patch (length_wordBytes _) (.inl rfl)
  have validIp : ValidIp ihl
      (headedSegment (acceptedFrame ip ihl tcp gso) offset (partSize ip ihl tcp gso offset)) :=
    validIp_fillChecksum (by omega) (by omega)
  have total : ihl + tcp + partSize ip ihl tcp gso offset ≤ 65535 := by omega
  have built := buildTcpV4GsoSegment_eq positive before aligned rfl room total
    (parseIPv4Tcp_of_headers middle.headers)
  exact ⟨_, built, middle.fillTcp validIp⟩

end Build

def carriedLength (header : Nat) (segments : List Bytes) : Nat :=
  (segments.map fun segment => (segment.drop header).length).sum

structure Placed (ip : Bytes) (ihl tcp gso offset index : Nat) (segments : List Bytes)
    (segment : Bytes) : Prop where
  carries : Carries ip ihl tcp (offset + index * gso) (partSize ip ihl tcp gso (offset + index * gso))
    (decide (index + 1 = segments.length)) segment
  validIp : ValidIp ihl segment
  validTcp : ValidTcp ihl tcp segment
  before : carriedLength (ihl + tcp) (segments.take index) = index * gso
  inside : offset + index * gso < ip.length - (ihl + tcp)
  final : index + 1 = segments.length ↔ ip.length - (ihl + tcp) ≤ offset + (index + 1) * gso

variable {segment : Bytes}

section Loop

variable {ip : Bytes} {ihl tcp gso capacity : Nat}

variable {offset : Nat} {output : Bytes} {rest : List Bytes}

variable (ip ihl tcp gso offset) in
theorem slice_partSize : slice (ihl + tcp + offset) (partSize ip ihl tcp gso offset) ip ++
    ip.drop (ihl + tcp + (offset + gso)) = ip.drop (ihl + tcp + offset) := by
  have start : partSize ip ihl tcp gso offset = gso ∨
      (ip.drop (ihl + tcp + offset)).length ≤ partSize ip ihl tcp gso offset ∧
        (ip.drop (ihl + tcp + offset)).length ≤ gso := by
    rw [length_drop, partSize]
    omega
  have taken : slice (ihl + tcp + offset) (partSize ip ihl tcp gso offset) ip =
      (ip.drop (ihl + tcp + offset)).take gso := by
    rw [slice]
    rcases start with whole | ⟨short, shorter⟩
    · rw [whole]
    · rw [take_of_length_le short, take_of_length_le shorter]
  rw [taken, ← add_assoc, ← drop_drop (i := gso), take_append_drop]

theorem Placed.first (more : offset < ip.length - (ihl + tcp))
    (carries : Carries ip ihl tcp offset (partSize ip ihl tcp gso offset)
      (decide (offset + partSize ip ihl tcp gso offset = ip.length - (ihl + tcp))) output)
    (validIp : ValidIp ihl output) (validTcp : ValidTcp ihl tcp output)
    (last : rest = [] ↔ ip.length - (ihl + tcp) ≤ offset + gso) :
    Placed ip ihl tcp gso offset 0 (output :: rest) output := by
  rw [← length_eq_zero_iff] at last
  have final : (offset + partSize ip ihl tcp gso offset = ip.length - (ihl + tcp)) ↔
      0 + 1 = (output :: rest).length := by
    rw [length_cons, partSize]
    omega
  constructor
  · rw [zero_mul, add_zero, ← decide_eq_decide.mpr final]
    exact carries
  · exact validIp
  · exact validTcp
  · rw [zero_mul]
    rfl
  · omega
  · rw [length_cons, zero_add, one_mul]
    omega

theorem Placed.later {index : Nat}
    (length : output.length = ihl + tcp + partSize ip ihl tcp gso offset)
    (placed : Placed ip ihl tcp gso (offset + gso) index rest segment) :
    Placed ip ihl tcp gso offset (index + 1) (output :: rest) segment := by
  have inside := placed.inside
  have where_ : offset + gso + index * gso = offset + (index + 1) * gso := by
    rw [succ_mul]
    omega
  have same : decide (index + 1 = rest.length) =
      decide (index + 1 + 1 = (output :: rest).length) := by
    rw [decide_eq_decide, length_cons]
    omega
  constructor
  · rw [← where_, ← same]
    exact placed.carries
  · exact placed.validIp
  · exact placed.validTcp
  · have full : (output.drop (ihl + tcp)).length = gso := by
      rw [length_drop, length, partSize]
      omega
    rw [take_succ_cons, carriedLength, map_cons, sum_cons, full, succ_mul, add_comm]
    exact congrArg (· + gso) placed.before
  · omega
  · have final := placed.final
    rw [length_cons, succ_mul, succ_mul]
    omega

theorem segmentsFrom_spec (headers : Headers ip ihl tcp) (positive : 0 < gso)
    (room : ihl + tcp + min (ip.length - (ihl + tcp)) gso ≤ capacity) (offset : Nat)
    (aligned : offset % gso = 0) :
    ∃ segments, segmentsFrom (acceptedFrame ip ihl tcp gso) capacity offset = some segments ∧
      (segments = [] ↔ ip.length - (ihl + tcp) ≤ offset) ∧
      segments.flatMap (List.drop (ihl + tcp)) = ip.drop (ihl + tcp + offset) ∧
      ∀ index segment, segments[index]? = some segment →
        Placed ip ihl tcp gso offset index segments segment := by
  induction left : ip.length - (ihl + tcp) - offset using Nat.strong_induction_on
    generalizing offset with
  | _ left induction =>
  subst left
  rw [segmentsFrom]
  by_cases more : offset < ip.length - (ihl + tcp)
  · have bounds := partSize_le ip ihl tcp gso offset
    rcases buildTcpV4GsoSegment_spec headers positive more aligned
      (by rw [partSize] at *; omega : ihl + tcp + partSize ip ihl tcp gso offset ≤ capacity) with
      ⟨output, built, carries, validIp, validTcp⟩
    rcases induction _ (by omega) (offset + gso) (by rw [add_mod_right, aligned]) rfl with
      ⟨rest, done, empty, payload, each⟩
    refine ⟨output :: rest, ?_, ?_, ?_, ?_⟩
    · have going : 0 < (acceptedFrame ip ihl tcp gso).gsoSize ∧
          offset < (acceptedFrame ip ihl tcp gso).payloadSize := ⟨positive, more⟩
      have next : segmentsFrom (acceptedFrame ip ihl tcp gso) capacity
          (offset + (acceptedFrame ip ihl tcp gso).gsoSize) = some rest := done
      rw [if_pos going, built, next]
    · simp only [cons_ne_nil, false_iff]
      omega
    · rw [flatMap_cons, carries.payload, payload, slice_partSize]
    · intro index segment found
      cases index with
      | zero =>
        cases found
        exact .first more carries validIp validTcp empty
      | succ index => exact .later carries.length (each index segment found)
  · refine ⟨[], ?_, ?_, ?_, ?_⟩
    · have stops : ¬ (0 < (acceptedFrame ip ihl tcp gso).gsoSize ∧
          offset < (acceptedFrame ip ihl tcp gso).payloadSize) := fun going => more going.2
      rw [if_neg stops]
    · simp only [true_iff]
      omega
    · rw [flatMap_nil, drop_eq_nil_of_le (by omega)]
    · intro index segment found
      cases found

end Loop

theorem parseTcpV4Gso_spec {frame : Bytes} {headerSize maximum : Nat} {source : TcpV4GsoFrame}
    (accepted : parseTcpV4Gso frame headerSize maximum = some source) :
    ∃ ip ihl tcp gso, source = acceptedFrame ip ihl tcp gso ∧ Headers ip ihl tcp ∧ 0 < gso ∧
      ihl + tcp + gso ≤ maximum := by
  rw [parseTcpV4Gso] at accepted
  split_ifs at accepted
  split at accepted
  · cases accepted
  rename_i packet parsed
  rcases headers_of_parseIPv4Tcp parsed with ⟨ihl, tcp, headers, rfl⟩
  dsimp only at accepted
  split_ifs at accepted with _ sizes
  simp only [frameOf] at sizes
  cases accepted
  exact ⟨_, ihl, tcp, _, rfl, headers, by omega, by omega⟩

def flagsAt (ihl : Nat) (bytes : Bytes) : UInt8 := byteAt (ihl + 13) bytes

/-- A segment of a frame, after some bytes of payload, as a receiver takes it: `FIN` and
`PSH` end the stream and stand on the last segment only. -/
structure InStream (source : TcpV4GsoFrame) (maximum before : Nat) (last : Bool)
    (segment : Bytes) : Prop where
  parsed : ∃ found, parseIPv4Tcp segment = some found ∧ found.ihl = source.ihl ∧
    found.headerSize = source.headerSize ∧
    found.initialSequence = source.initialSequence + BitVec.ofNat 32 before ∧
    tcpChecksum found = 0
  checksum : complement (wordSum (segment.take source.ihl)) = 0
  size : segment.length ≤ maximum
  kept : flagsAt source.ihl segment &&& 0xF6 = flagsAt source.ihl source.ip &&& 0xF6
  closing : flagsAt source.ihl segment &&& 0x09 =
    if last then flagsAt source.ihl source.ip &&& 0x09 else 0

structure SameStream (source : TcpV4GsoFrame) (maximum : Nat) (segments : List Bytes) : Prop where
  payload : segments.flatMap (List.drop source.headerSize) = source.ip.drop source.headerSize
  each : ∀ index segment, segments[index]? = some segment →
    InStream source maximum (carriedLength source.headerSize (segments.take index))
      (decide (index + 1 = segments.length)) segment

theorem cleared_flags (flags : UInt8) : (flags &&& ~~~ 0x08) &&& 0xF6 = flags &&& 0xF6 ∧
      ((flags &&& ~~~ 0x08) &&& 0x09 = 0 ↔ flags &&& 0x01 = 0) := by
  have all : ∀ byte : Fin 256, (UInt8.ofFin byte &&& ~~~ 0x08) &&& 0xF6 = UInt8.ofFin byte &&& 0xF6 ∧
      ((UInt8.ofFin byte &&& ~~~ 0x08) &&& 0x09 = 0 ↔ UInt8.ofFin byte &&& 0x01 = 0) := by
    decide +kernel
  exact all flags.toFin

variable {segments : List Bytes}

theorem Placed.inStream {ip : Bytes} {ihl tcp gso index maximum : Nat}
    (placed : Placed ip ihl tcp gso 0 index segments segment) (fits : ihl + tcp + gso ≤ maximum)
    (closed : index + 1 = segments.length ∨ flagsAt ihl ip &&& 0x01 = 0) :
    InStream (acceptedFrame ip ihl tcp gso) maximum
      (carriedLength (ihl + tcp) (segments.take index)) (decide (index + 1 = segments.length))
      segment := by
  have carries := placed.carries
  rw [zero_add] at carries
  have bounds := partSize_le ip ihl tcp gso (index * gso)
  have length := carries.length
  have cleared := cleared_flags (byteAt (ihl + 13) ip)
  have flags := carries.flags
  constructor
  · refine ⟨_, parseIPv4Tcp_of_headers carries.headers, rfl, rfl, ?_, placed.validTcp⟩
    rw [placed.before]
    exact carries.sequence
  · exact placed.validIp
  · omega
  · simp only [flagsAt, acceptedFrame, frameOf, flags]
    split
    · rfl
    · exact cleared.1
  · simp only [flagsAt, acceptedFrame, frameOf, flags]
    by_cases last : index + 1 = segments.length
    · simp only [last, decide_true, if_true]
    · simp only [last, decide_false, Bool.false_eq_true, if_false]
      exact cleared.2.mpr (closed.resolve_left last)

section Stream

variable {ip : Bytes} {ihl tcp gso maximum capacity : Nat} (headers : Headers ip ihl tcp)
  (positive : 0 < gso) (room : ihl + tcp + min (ip.length - (ihl + tcp)) gso ≤ capacity)

include headers positive room

theorem closed_of_sameStream
    (done : segmentsFrom (acceptedFrame ip ihl tcp gso) capacity 0 = some segments)
    (stream : SameStream (acceptedFrame ip ihl tcp gso) maximum segments) :
    flagsAt ihl ip &&& 0x01 = 0 ∨ ip.length - (ihl + tcp) ≤ gso := by
  rcases segmentsFrom_spec headers positive room 0 (zero_mod gso) with
    ⟨found, again, empty, _, each⟩
  rw [done, Option.some.injEq] at again
  subst again
  by_contra neither
  rw [not_or] at neither
  cases segments with
  | nil => exact absurd (empty.mp rfl) (by omega)
  | cons first rest =>
    have placed := each 0 first rfl
    have more : ¬ 0 + 1 = (first :: rest).length := by
      rw [placed.final]
      omega
    have closing := (stream.each 0 first rfl).closing
    have flags := placed.carries.flags
    rw [decide_eq_false more] at closing flags
    simp only [flagsAt, acceptedFrame, frameOf, flags, Bool.false_eq_true, if_false] at closing
    exact neither.1 ((cleared_flags _).2.mp closing)

theorem sameStream_of_closed (fits : ihl + tcp + gso ≤ maximum)
    (closed : flagsAt ihl ip &&& 0x01 = 0 ∨ ip.length - (ihl + tcp) ≤ gso) :
    ∃ segments, segmentsFrom (acceptedFrame ip ihl tcp gso) capacity 0 = some segments ∧
      SameStream (acceptedFrame ip ihl tcp gso) maximum segments := by
  rcases segmentsFrom_spec headers positive room 0 (zero_mod gso) with
    ⟨segments, done, _, payload, each⟩
  refine ⟨segments, done, payload, ?_⟩
  intro index segment found
  have placed := each index segment found
  apply placed.inStream fits
  rcases closed with clear | short
  · exact .inr clear
  · left
    rw [placed.final, succ_mul]
    omega

end Stream

/-- The stream of an accepted frame is kept exactly when the frame has no `FIN` or is a
single segment. -/
theorem segments_same_stream_iff {frame : Bytes} {headerSize maximum capacity : Nat}
    {source : TcpV4GsoFrame} (accepted : parseTcpV4Gso frame headerSize maximum = some source)
    (room : source.headerSize + min source.payloadSize source.gsoSize ≤ capacity) :
    (∃ segments, segmentsFrom source capacity 0 = some segments ∧
      SameStream source maximum segments) ↔
      flagsAt source.ihl source.ip &&& 0x01 = 0 ∨ source.payloadSize ≤ source.gsoSize := by
  rcases parseTcpV4Gso_spec accepted with ⟨ip, ihl, tcp, gso, rfl, headers, positive, fits⟩
  constructor
  · rintro ⟨segments, done, stream⟩
    exact closed_of_sameStream headers positive room done stream
  · exact sameStream_of_closed headers positive room fits

def sampleFrame (flags : UInt8) : Bytes :=
  [1, 1, 40, 0, 2, 0, 20, 0, 16, 0] ++
    [0x45, 0, 0, 43, 0, 1, 0x40, 0, 64, 6, 0, 0, 10, 0, 0, 1, 10, 0, 0, 2] ++
    [0x30, 0x39, 0, 80, 0, 0, 0, 1, 0, 0, 0, 2, 0x50, flags, 1, 0, 0, 0, 0, 0] ++ [1, 2, 3]

def sampleSource (flags : UInt8) : TcpV4GsoFrame :=
  acceptedFrame ((sampleFrame flags).drop 10) 20 20 2

theorem pushed_frame_same_stream :
    parseTcpV4Gso (sampleFrame 0x18) 10 1500 = some (sampleSource 0x18) ∧
      ((∃ segments, segmentsFrom (sampleSource 0x18) 1500 0 = some segments ∧
        SameStream (sampleSource 0x18) 1500 segments) ↔
        flagsAt 20 (sampleSource 0x18).ip &&& 0x01 = 0 ∨ 3 ≤ 2) := by
  have accepted : parseTcpV4Gso (sampleFrame 0x18) 10 1500 = some (sampleSource 0x18) := by
    decide +kernel
  exact ⟨accepted, segments_same_stream_iff accepted (by decide)⟩

/-- With `FIN`, both segments end the stream. -/
theorem finished_frame_other_stream :
    parseTcpV4Gso (sampleFrame 0x11) 10 1500 = some (sampleSource 0x11) ∧
      ¬ ∃ segments, segmentsFrom (sampleSource 0x11) 1500 0 = some segments ∧
        SameStream (sampleSource 0x11) 1500 segments := by
  have accepted : parseTcpV4Gso (sampleFrame 0x11) 10 1500 = some (sampleSource 0x11) := by
    decide +kernel
  have parsed : parseIPv4Tcp ((sampleFrame 0x11).drop 10) =
      some (frameOf ((sampleFrame 0x11).drop 10) 20 20) := by
    decide +kernel
  rcases headers_of_parseIPv4Tcp parsed with ⟨ihl, tcp, headers, same⟩
  have lengths : ihl = 20 ∧ tcp = 20 :=
    ⟨(congrArg TcpV4GsoFrame.ihl same).symm, (congrArg TcpV4GsoFrame.tcpHeaderSize same).symm⟩
  rcases lengths with ⟨rfl, rfl⟩
  refine ⟨accepted, ?_⟩
  rintro ⟨segments, done, stream⟩
  exact absurd (closed_of_sameStream headers (by decide) (by decide) done stream) (by decide)

end OpenPpp2.Tap
