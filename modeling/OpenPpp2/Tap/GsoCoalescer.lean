import OpenPpp2.Lib.Run
import OpenPpp2.Tap.VnetCodec

/-!
# Merging TCP packets before the write

`TapGsoCoalescer.h`: packets for the tunnel device are held back while they continue one another and
written as one superframe with an offload header.
-/

namespace OpenPpp2.Tap

open Lib.ByteLayout Lib.BytePatch Lib.OnesComplement Lib.Run

def maxSegmentCap : Nat := 48

def maxPacketBytes : Nat := 1500

inductive WriteOutcome
  | complete
  | negativeFailure
  | partialDelivery
  deriving DecidableEq

inductive RejectionReason
  | incompatible
  | psh
  | control
  | mtu
  deriving DecidableEq

structure PacketInfo where
  ihl : Nat
  doff : Nat
  total : Nat
  payload : Nat
  seq : BitVec 32
  deriving DecidableEq

/-- A pushed packet. The serial number tells pushes of equal bytes apart; no branch reads it. -/
structure Packet where
  serial : Nat
  bytes : Bytes
  deriving DecidableEq

/-- What the code reads of a `RetainedPacketOwner`. -/
structure Owner where
  hasValue : Bool
  checksumPartial : Bool

def parsePacket (packet : Bytes) : Option PacketInfo :=
  if packet.length < 1 ∨ byteAt 0 packet >>> 4 ≠ 4 then none
  else
    let ihl := (byteAt 0 packet &&& 0x0f).toNat * 4
    if ihl < 20 ∨ packet.length < ihl then none
    else
      let total := readBE16 2 packet
      if total < ihl ∨ total > packet.length then none
      else if word 6 16 packet &&& 0x3fff#16 ≠ 0#16 ∨ byteAt 9 packet ≠ 6 ∨
          packet.length < ihl + 20 then none
      else
        let doff := (byteAt (ihl + 12) packet >>> 4).toNat * 4
        if doff < 20 ∨ doff > total - ihl then none
        else
          let payload := total - ihl - doff
          if payload = 0 then none
          else
            some { ihl := ihl, doff := doff, total := total, payload := payload
                   seq := word (ihl + 4) 32 packet }

/-- What `ParsePacket` checks of a packet. -/
structure Parsed (packet : Bytes) (info : PacketInfo) : Prop where
  version : byteAt 0 packet >>> 4 = 4
  ihl : info.ihl = (byteAt 0 packet &&& 0x0f).toNat * 4
  ihl_min : 20 ≤ info.ihl
  total : info.total = readBE16 2 packet
  total_eq : info.total = info.ihl + info.doff + info.payload
  total_le : info.total ≤ packet.length
  whole : word 6 16 packet &&& 0x3fff#16 = 0#16
  protocol : byteAt 9 packet = 6
  doff : info.doff = (byteAt (info.ihl + 12) packet >>> 4).toNat * 4
  doff_min : 20 ≤ info.doff
  payload : 0 < info.payload
  seq : info.seq = word (info.ihl + 4) 32 packet

theorem parsed_of_parsePacket {packet : Bytes} {info : PacketInfo}
    (parsed : parsePacket packet = some info) : Parsed packet info := by
  simp only [parsePacket] at parsed
  split_ifs at parsed with first second third fourth fifth sixth
  simp only [not_or, not_not] at first second third fourth fifth sixth
  cases parsed
  exact
    { version := first.2, ihl := rfl, ihl_min := by dsimp only; omega, total := rfl
      total_eq := by dsimp only; omega, total_le := by dsimp only; omega
      whole := fourth.1, protocol := fourth.2.1, doff := rfl
      doff_min := by dsimp only; omega, payload := by dsimp only; omega, seq := rfl }

/-- `ClassifyStrictV1`. The mask has every flag but `ACK` and `PSH`. -/
def classifyStrictV1 (packet : Bytes) : Except RejectionReason PacketInfo :=
  match parsePacket packet with
  | none => .error .incompatible
  | some info =>
    if byteAt (info.ihl + 13) packet &&& 0xe7 ≠ 0 then .error .control
    else if packet.length > maxPacketBytes then .error .mtu
    else .ok info

def hasPsh (packet : Bytes) (info : PacketInfo) : Bool :=
  decide (byteAt (info.ihl + 13) packet &&& 0x08 ≠ 0)

/-- A writer sees how often it was called before and the frame, and answers as `write` does. -/
structure Config where
  writer : Nat → Bytes → Int
  vectoredWriter : Option (Nat → List Bytes → Int)
  enablePshBoundary : Bool
  enableRetainedWritev : Bool
  holdNs : BitVec 64
  segmentCap : Nat
  segmentCap_range : 1 ≤ segmentCap ∧ segmentCap ≤ maxSegmentCap

/-- What `StoreSegment` keeps of a packet, at one index of its arrays. -/
structure Segment where
  serial : Nat
  header : Bytes
  payload : Bytes
  tail : Bytes
  checksumPartial : Bool
  checksumStart : Nat
  retained : Bool

def Segment.packet (segment : Segment) : Packet :=
  { serial := segment.serial, bytes := segment.header ++ segment.payload ++ segment.tail }

/-- The pending packets, with what `Start` remembers of the first one. -/
structure Batch where
  segments : List Segment
  startedNs : BitVec 64
  ihl : Nat
  doff : Nat
  gsoSize : Nat
  pendingPsh : Bool
  nextSeq : BitVec 32
  tos : UInt8
  ttl : UInt8
  df : UInt8
  flow : Bytes
  tcpFixed : Bytes
  ipOptions : Bytes
  tcpOptions : Bytes
  /-- The headers at the front of `superpacket_`. -/
  superHeader : Bytes

namespace Batch

def count (batch : Batch) : Nat := batch.segments.length

def payloadTotal (batch : Batch) : Nat :=
  (batch.segments.map fun segment => segment.payload.length).sum

end Batch

structure Attempt where
  frame : Bytes
  packets : List Packet
  outcome : WriteOutcome
  deriving DecidableEq

structure Coalescer where
  enabled : Bool
  batch : Batch
  log : List Attempt

def Coalescer.hasPending (coalescer : Coalescer) : Bool := coalescer.batch.count != 0

def Coalescer.fresh : Coalescer :=
  { enabled := true
    batch :=
      { segments := [], startedNs := 0, ihl := 0, doff := 0, gsoSize := 0, pendingPsh := false
        nextSeq := 0, tos := 0, ttl := 0, df := 0, flow := List.replicate 8 0
        tcpFixed := List.replicate 12 0, ipOptions := [], tcpOptions := [], superHeader := [] }
    log := [] }

abbrev Result := Bool × Coalescer

def Result.andThen (result : Result) (next : Coalescer → Result) : Result :=
  if result.1 then next result.2 else result

variable (config : Config)

def canAppend (batch : Batch) (packet : Bytes) (info : PacketInfo) : Bool :=
  let tcp := info.ihl
  decide (slice 12 8 packet = batch.flow ∧ slice tcp 4 packet = slice 0 4 batch.tcpFixed ∧
    info.seq - batch.nextSeq = 0 ∧
    slice (tcp + 8) 4 packet = slice 4 4 batch.tcpFixed ∧
    slice (tcp + 14) 2 packet = slice 8 2 batch.tcpFixed ∧
    slice (tcp + 18) 2 packet = slice 10 2 batch.tcpFixed ∧
    byteAt 1 packet = batch.tos ∧ byteAt 8 packet = batch.ttl ∧
    byteAt 6 packet &&& 0x40 = batch.df ∧ info.ihl = batch.ihl ∧ info.doff = batch.doff ∧
    (batch.ihl > 20 → slice 20 (batch.ihl - 20) packet = batch.ipOptions) ∧
    (batch.doff > 20 → slice (tcp + 20) (batch.doff - 20) packet = batch.tcpOptions) ∧
    info.payload ≤ batch.gsoSize ∧
    batch.ihl + batch.doff + (batch.count * batch.gsoSize + info.payload) ≤ 65535)

/-- `StoreSegment`. The payload is copied, or kept alive by its owner. -/
def storeSegment (packet : Packet) (info : PacketInfo) (owner : Option Owner) : Segment :=
  let headerSize := info.ihl + info.doff
  { serial := packet.serial
    header := packet.bytes.take headerSize
    payload := slice headerSize info.payload packet.bytes
    tail := packet.bytes.drop info.total
    checksumPartial := owner.any fun owner => owner.checksumPartial
    checksumStart := info.ihl
    retained := owner.isSome && config.enableRetainedWritev && config.vectoredWriter.isSome }

def start (packet : Packet) (info : PacketInfo) (owner : Option Owner) (now : BitVec 64) : Batch :=
  let bytes := packet.bytes
  { segments := [storeSegment config packet info owner]
    startedNs := now
    ihl := info.ihl
    doff := info.doff
    gsoSize := info.payload
    pendingPsh := false
    nextSeq := info.seq + BitVec.ofNat 32 info.payload
    tos := byteAt 1 bytes
    ttl := byteAt 8 bytes
    df := byteAt 6 bytes &&& 0x40
    flow := slice 12 8 bytes
    tcpFixed := slice info.ihl 4 bytes ++ slice (info.ihl + 8) 4 bytes ++
      slice (info.ihl + 14) 2 bytes ++ slice (info.ihl + 18) 2 bytes
    ipOptions := slice 20 (info.ihl - 20) bytes
    tcpOptions := slice (info.ihl + 20) (info.doff - 20) bytes
    superHeader := bytes.take (info.ihl + info.doff) }

def append (batch : Batch) (packet : Packet) (info : PacketInfo) (owner : Option Owner) : Batch :=
  { batch with
    segments := batch.segments ++ [storeSegment config packet info owner]
    nextSeq := info.seq + BitVec.ofNat 32 info.payload }

def Coalescer.reset (coalescer : Coalescer) : Coalescer :=
  { coalescer with batch := { coalescer.batch with segments := [], pendingPsh := false } }

def htole16 (value : Nat) : Bytes := [UInt8.ofNat value, UInt8.ofNat (value / 256)]

/-- The `virtio_net_hdr` of a packet of its own, with the offset of its TCP header if the
checksum is left to the device. -/
def ordinaryHeader : Option Nat → Bytes
  | none => List.replicate standardVirtioHeaderSize 0
  | some start => [1, 0, 0, 0, 0, 0] ++ htole16 start ++ htole16 16

/-- The headers of a superframe, as `BuildGso` leaves them. -/
def gsoHeaders (batch : Batch) : Bytes :=
  let ip := batch.superHeader
  let ip := if batch.pendingPsh then
    patch (batch.ihl + 13) [byteAt (batch.ihl + 13) ip ||| 0x08] ip else ip
  let ip := writeBE16 2 (batch.ihl + batch.doff + batch.payloadTotal) ip
  let ip := fillChecksum 10 (fun bytes => complement (wordSum (bytes.take batch.ihl))) ip
  let ip := writeBE16 (batch.ihl + 16) 0 ip
  let tcpBytes := batch.doff + batch.payloadTotal
  let pseudo : Bytes := [0, 6, UInt8.ofNat (tcpBytes / 256), UInt8.ofNat tcpBytes]
  let seed := wordSum (slice 12 8 ip) + wordSum pseudo
  writeBE16 (batch.ihl + 16) (65535 - complement seed) ip

/-- The offload header of a superframe, as `BuildGso` leaves it. -/
def gsoOffloadHeader (batch : Batch) : Bytes :=
  [1, 1] ++ htole16 (batch.ihl + batch.doff) ++ htole16 batch.gsoSize ++ htole16 batch.ihl ++
    htole16 16

/-- `BuildGso` and `BuildIovecs`: the pieces that make up the superframe. -/
def buildIovecs (batch : Batch) : List Bytes :=
  (gsoOffloadHeader batch ++ gsoHeaders batch) :: batch.segments.map fun segment => segment.payload

def outcomeOf (size : Nat) (written : Int) : WriteOutcome :=
  if written = size then .complete
  else if written < 0 then .negativeFailure
  else .partialDelivery

/-- `WriteFrame`, once the writer has answered. -/
def recordWrite (frame : Bytes) (packets : List Packet) (written : Int) (coalescer : Coalescer) :
    WriteOutcome × Coalescer :=
  let outcome := outcomeOf frame.length written
  (outcome, { coalescer with
    log := coalescer.log ++ [{ frame := frame, packets := packets, outcome := outcome }] })

/-- The last part of `WriteOrdinary` and `WriteOrdinaryStored`. The packet of the frame is
what follows the offload header. -/
def writeOrdinaryFrame (serial : Nat) (frame : Bytes) (coalescer : Coalescer) : Result :=
  let packet : Packet := { serial := serial, bytes := frame.drop standardVirtioHeaderSize }
  let written := recordWrite frame [packet] (config.writer coalescer.log.length frame) coalescer
  (decide (written.1 = .complete), written.2)

def writeOrdinary (packet : Packet) (checksumPartial : Bool) (coalescer : Coalescer) : Result :=
  if packet.bytes.length > maxPacketBytes then (false, coalescer)
  else if checksumPartial then
    match parsePacket packet.bytes with
    | none => (false, coalescer)
    | some info =>
      writeOrdinaryFrame config packet.serial (ordinaryHeader (some info.ihl) ++ packet.bytes)
        coalescer
  else
    writeOrdinaryFrame config packet.serial (ordinaryHeader none ++ packet.bytes) coalescer

def writeOrdinaryStored (segment : Segment) (coalescer : Coalescer) : Result :=
  let header := ordinaryHeader
    (if segment.checksumPartial then some segment.checksumStart else none)
  writeOrdinaryFrame config segment.serial
    (header ++ (segment.header ++ segment.payload ++ segment.tail)) coalescer

/-- The loop of `Flush` over the retained originals. -/
def replay : List Segment → Coalescer → Result
  | [], coalescer => (true, coalescer)
  | segment :: rest, coalescer =>
    Result.andThen (writeOrdinaryStored config segment coalescer) (replay rest)

/-- The write of a superframe, by the vectored writer if some payload was retained. -/
def writeSuperframe (coalescer : Coalescer) : WriteOutcome × Coalescer :=
  let batch := coalescer.batch
  let pieces := buildIovecs batch
  let calls := coalescer.log.length
  let written := match config.vectoredWriter with
    | some vectoredWriter =>
      if config.enableRetainedWritev && batch.segments.any fun segment => segment.retained then
        vectoredWriter calls pieces
      else config.writer calls pieces.flatten
    | none => config.writer calls pieces.flatten
  recordWrite pieces.flatten (batch.segments.map Segment.packet) written coalescer

/-- What `Flush` does after the superframe was refused or cut short. -/
def afterSuperframe (outcome : WriteOutcome) (coalescer : Coalescer) : Result :=
  match outcome with
  | .complete => (true, coalescer)
  -- A short write may have delivered the packets, which are then not written again.
  | .partialDelivery => (false, { coalescer with enabled := false })
  | .negativeFailure => replay config coalescer.batch.segments { coalescer with enabled := false }

def flush (coalescer : Coalescer) : Result :=
  match coalescer.batch.segments with
  | [] => (true, coalescer)
  | [segment] =>
    let written := writeOrdinaryStored config segment coalescer
    (written.1, written.2.reset)
  | _ :: _ :: _ =>
    let written := writeSuperframe config coalescer
    let settled := afterSuperframe config written.1 written.2
    (settled.1, settled.2.reset)

def expired (now : BitVec 64) (coalescer : Coalescer) : Bool :=
  coalescer.hasPending && decide (config.holdNs ≤ now - coalescer.batch.startedNs)

/-- `Flush`, if there is reason to. -/
def flushIf (condition : Bool) (coalescer : Coalescer) : Result :=
  if condition then flush config coalescer else (true, coalescer)

/-- The packet-local admission of `PushInternal`. -/
def accepts (packet : Bytes) : Except RejectionReason PacketInfo :=
  match classifyStrictV1 packet with
  | .error reason => .error reason
  | .ok info => if hasPsh packet info && !config.enablePshBoundary then .error .psh else .ok info

theorem accepts_spec {config : Config} {packet : Bytes} {info : PacketInfo}
    (admitted : accepts config packet = .ok info) :
    Parsed packet info ∧ byteAt (info.ihl + 13) packet &&& 0xe7 = 0 ∧
      packet.length ≤ maxPacketBytes := by
  rw [accepts, classifyStrictV1] at admitted
  cases parsed : parsePacket packet with
  | none =>
    rw [parsed] at admitted
    cases admitted
  | some found =>
    simp only [parsed] at admitted
    split_ifs at admitted with control long
    dsimp only at admitted
    split_ifs at admitted
    cases admitted
    exact ⟨parsed_of_parsePacket parsed, not_not.mp control, Nat.le_of_not_lt long⟩

def store (packet : Packet) (info : PacketInfo) (owner : Option Owner) (now : BitVec 64)
    (coalescer : Coalescer) : Coalescer :=
  { coalescer with
    batch := if coalescer.hasPending then append config coalescer.batch packet info owner
      else start config packet info owner now }

/-- The end of `PushInternal`: a packet that nothing may follow closes the batch. -/
def settle (packet : Bytes) (info : PacketInfo) (coalescer : Coalescer) : Result :=
  if hasPsh packet info then
    flush config { coalescer with batch := { coalescer.batch with pendingPsh := true } }
  else if info.payload < coalescer.batch.gsoSize then flush config coalescer
  else if coalescer.batch.count = config.segmentCap then flush config coalescer
  else (true, coalescer)

/-- `PushInternal` for a packet that was admitted. -/
def pushAdmitted (packet : Packet) (info : PacketInfo) (owner : Option Owner) (now : BitVec 64)
    (coalescer : Coalescer) : Result :=
  Result.andThen
    (flushIf config
      (coalescer.hasPending && !canAppend coalescer.batch packet.bytes info) coalescer)
    fun coalescer => settle config packet.bytes info (store config packet info owner now coalescer)

def pushInternal (packet : Packet) (owner : Option Owner) (checksumPartial : Bool)
    (now : BitVec 64) (coalescer : Coalescer) : Result :=
  if packet.bytes.length = 0 then (false, coalescer)
  else if coalescer.enabled = false then writeOrdinary config packet checksumPartial coalescer
  else
    -- The flush can disable the coalescer; what follows does not look at that again.
    Result.andThen (flushIf config (expired config now coalescer) coalescer) fun coalescer =>
      match accepts config packet.bytes with
      | .error _ =>
        Result.andThen (flush config coalescer) (writeOrdinary config packet checksumPartial)
      | .ok info => pushAdmitted config packet info owner now coalescer

def flushExpired (now : BitVec 64) (coalescer : Coalescer) : Result :=
  flushIf config (expired config now coalescer) coalescer

def disableAndFlush (coalescer : Coalescer) : Result :=
  let flushed := if coalescer.enabled then flush config coalescer else (true, coalescer)
  (flushed.1, { flushed.2 with enabled := false })

inductive Call
  | push (bytes : Bytes) (now : BitVec 64)
  | pushOwned (bytes : Bytes) (owner : Owner) (now : BitVec 64)
  | flushExpired (now : BitVec 64)
  | flush

/-- The packet that a call pushes, the calls before it having pushed `serial` packets. -/
def Call.packets (serial : Nat) : Call → List Packet
  | .push bytes _ => [{ serial := serial, bytes := bytes }]
  | .pushOwned bytes _ _ => [{ serial := serial, bytes := bytes }]
  | .flushExpired _ => []
  | .flush => []

def perform (serial : Nat) (coalescer : Coalescer) : Call → Result
  | .push bytes now =>
    pushInternal config { serial := serial, bytes := bytes } none false now coalescer
  | .pushOwned bytes owner now =>
    if owner.hasValue = false then (false, coalescer)
    else
      pushInternal config { serial := serial, bytes := bytes } (some owner) owner.checksumPartial
        now coalescer
  | .flushExpired now => flushExpired config now coalescer
  | .flush => flush config coalescer

/-- The calls made so far: the packets pushed, and whether all of the calls returned true. -/
structure History where
  coalescer : Coalescer
  pushed : List Packet
  succeeded : Bool

namespace History

def fresh : History := { coalescer := Coalescer.fresh, pushed := [], succeeded := true }

def step (history : History) (call : Call) : History :=
  let result := perform config history.pushed.length history.coalescer call
  { coalescer := result.2
    pushed := history.pushed ++ call.packets history.pushed.length
    succeeded := history.succeeded && result.1 }

def after (calls : List Call) : History := run (step config) fresh calls

/-- The calls of a list, ended by `DisableAndFlush`. -/
def ended (calls : List Call) : History :=
  let history := after config calls
  let result := disableAndFlush config history.coalescer
  { history with coalescer := result.2, succeeded := history.succeeded && result.1 }

end History

end OpenPpp2.Tap
