import OpenPpp2.Lib.BytePatch

/-!
# Frames with an offload header

`TapVnetCodec.h`: a TCP packet that the kernel hands over unsegmented is recognised by its
`virtio_net_hdr` and its own headers, and cut into segments with fresh lengths, sequence numbers and
checksums.
-/

namespace OpenPpp2.Tap

open Lib.ByteLayout Lib.BytePatch Lib.OnesComplement

abbrev Bytes := List UInt8

def readBE16 (offset : Nat) (bytes : Bytes) : Nat := (word offset 16 bytes).toNat

/-- `le16toh` of a field of the offload header. -/
def readLE16 (offset : Nat) (bytes : Bytes) : Nat :=
  (byteAt offset bytes).toNat + 256 * (byteAt (offset + 1) bytes).toNat

def writeBE16 (offset value : Nat) (bytes : Bytes) : Bytes :=
  patch offset (wordBytes (BitVec.ofNat 16 value)) bytes

def writeBE32 (offset : Nat) (value : BitVec 32) (bytes : Bytes) : Bytes :=
  patch offset (wordBytes value) bytes

def standardVirtioHeaderSize : Nat := 10

def maximumIpv4PacketSize : Nat := 65535

/-- `TcpV4GsoFrame`, with the bytes of the packet in the place of the pointer to them. -/
structure TcpV4GsoFrame where
  ip : Bytes
  packetSize : Nat
  ihl : Nat
  tcpHeaderSize : Nat
  headerSize : Nat
  payloadSize : Nat
  gsoSize : Nat
  initialSequence : BitVec 32
  deriving DecidableEq

def parseIPv4Tcp (ip : Bytes) : Option TcpV4GsoFrame :=
  let packetSize := ip.length
  if packetSize < 20 ∨ packetSize > maximumIpv4PacketSize ∨ byteAt 0 ip >>> 4 ≠ 4 ∨
      byteAt 9 ip ≠ 6 then none
  else
    let ihl := (byteAt 0 ip &&& 0x0f).toNat * 4
    if ihl < 20 ∨ ihl > packetSize ∨ readBE16 2 ip ≠ packetSize ∨
        word 6 16 ip &&& 0x3fff#16 ≠ 0#16 ∨ packetSize < ihl + 20 then none
    else
      let tcpHeaderSize := (byteAt (ihl + 12) ip >>> 4).toNat * 4
      if tcpHeaderSize < 20 ∨ tcpHeaderSize > packetSize - ihl then none
      else
        some
          { ip := ip, packetSize := packetSize, ihl := ihl, tcpHeaderSize := tcpHeaderSize
            headerSize := ihl + tcpHeaderSize, payloadSize := packetSize - (ihl + tcpHeaderSize)
            gsoSize := 0, initialSequence := word (ihl + 4) 32 ip }

def hasTcpChecksumMetadata (header : Bytes) (frame : TcpV4GsoFrame) : Bool :=
  let csumStart := readLE16 6 header
  let csumOffset := readLE16 8 header
  decide (csumStart = frame.ihl ∧ csumOffset = 16 ∧ csumStart ≤ frame.packetSize ∧
    csumOffset ≤ frame.packetSize - csumStart ∧ 2 ≤ frame.packetSize - csumStart - csumOffset)

def tcpChecksum (frame : TcpV4GsoFrame) : Nat :=
  let tcpSize := frame.packetSize - frame.ihl
  let sum := wordSum (slice 12 8 frame.ip)
  let pseudoHeader : Bytes := [0, 6, UInt8.ofNat (tcpSize / 256), UInt8.ofNat tcpSize]
  complement (sum + wordSum pseudoHeader + wordSum (slice frame.ihl tcpSize frame.ip))

def parseTcpV4Gso (frame : Bytes) (headerSize maximumSegmentSize : Nat) : Option TcpV4GsoFrame :=
  if headerSize ≠ standardVirtioHeaderSize ∨ frame.length ≤ headerSize then none
  else if byteAt 0 frame ≠ 1 ∨ byteAt 1 frame ≠ 1 then none
  else
    match parseIPv4Tcp (frame.drop headerSize) with
    | none => none
    | some packet =>
      let virtioHeaderSize := readLE16 2 frame
      let gsoSize := readLE16 4 frame
      if hasTcpChecksumMetadata frame packet = false then none
      else if virtioHeaderSize ≠ packet.headerSize ∨ gsoSize = 0 ∨ packet.payloadSize = 0 ∨
          packet.headerSize > maximumSegmentSize ∨
          gsoSize > maximumSegmentSize - packet.headerSize then none
      else some { packet with gsoSize := gsoSize }

def segmentBytes (source : TcpV4GsoFrame) (payloadOffset payloadSize : Nat) : Bytes :=
  let output := source.ip.take source.headerSize ++
    slice (source.headerSize + payloadOffset) payloadSize source.ip
  let output := writeBE16 2 (source.headerSize + payloadSize) output
  let output := writeBE32 (source.ihl + 4)
    (source.initialSequence + BitVec.ofNat 32 payloadOffset) output
  if payloadOffset + payloadSize ≠ source.payloadSize then
    patch (source.ihl + 13) [byteAt (source.ihl + 13) output &&& ~~~ 0x08] output
  else output

/-- A field of two bytes cleared, then filled with a checksum of the result. -/
def fillChecksum (offset : Nat) (checksum : Bytes → Nat) (bytes : Bytes) : Bytes :=
  let cleared := patch offset [0, 0] bytes
  writeBE16 offset (checksum cleared) cleared

def buildTcpV4GsoSegment (source : TcpV4GsoFrame) (payloadOffset outputCapacity : Nat) :
    Option Bytes :=
  if source.gsoSize = 0 ∨ payloadOffset ≥ source.payloadSize ∨
      payloadOffset % source.gsoSize ≠ 0 then none
  else
    let payloadSize := if source.payloadSize - payloadOffset < source.gsoSize then
      source.payloadSize - payloadOffset else source.gsoSize
    let outputSize := source.headerSize + payloadSize
    if outputSize > outputCapacity ∨ outputSize > maximumIpv4PacketSize then none
    else
      let output := fillChecksum 10 (fun bytes => complement (wordSum (bytes.take source.ihl)))
        (segmentBytes source payloadOffset payloadSize)
      match parseIPv4Tcp output with
      | none => none
      | some segment =>
        some (fillChecksum (segment.ihl + 16)
          (fun bytes => tcpChecksum { segment with ip := bytes }) output)

/-- The loop of `TapLinux::OnInput` over the payload. -/
def segmentsFrom (source : TcpV4GsoFrame) (outputCapacity offset : Nat) : Option (List Bytes) :=
  if 0 < source.gsoSize ∧ offset < source.payloadSize then
    match buildTcpV4GsoSegment source offset outputCapacity,
      segmentsFrom source outputCapacity (offset + source.gsoSize) with
    | some segment, some rest => some (segment :: rest)
    | _, _ => none
  else some []
termination_by source.payloadSize - offset

end OpenPpp2.Tap
