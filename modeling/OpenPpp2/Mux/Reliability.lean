import OpenPpp2.Mux.Receive
import OpenPpp2.Mux.Transmit

/-!
# Acknowledgment, retransmission and forward error correction

The reliability sub-protocol of the session: recording what arrived, sending and receiving ACK
frames, sending frames again, and emitting parity groups.
-/

namespace OpenPpp2.Mux

open Mux.FecCodec

def fastRetxThreshold : Nat := 3

def rxtBurst : Nat := 32

def ptoInit : Nat := 500

def ptoMin : Nat := 200

def ptoMax : Nat := 3000

/-- What one turn of the `retransmit_pending` loop does with a key. -/
inductive RtxOutcome
  | settled
  | leftover
  | sent
  | stop
  deriving DecidableEq, Repr

namespace Session

def ackKey (s : Session) (cid : ConnectionId) : ConnectionId :=
  if s.isFlowV2 then cid else 0

def ackTracker (s : Session) (cid : ConnectionId) : AckTracker :=
  (s.ackTrackers.lookup cid).getD AckTracker.empty

def ackTrackerFull (s : Session) (cid : ConnectionId) : Bool :=
  s.ackTrackers.entries.length ≥ flowMaxContexts && (s.ackTrackers.lookup (s.ackKey cid)).isNone

/-- `note_ack_pending` up to its `maybe_send_ack`. -/
def noteAckPending (s : Session) (cid : ConnectionId) (seq : SeqNumber) (now : Nat) : Session :=
  if !s.config.reliability || s.ackTrackerFull cid then s
  else
    { s with
      ackTrackers := s.ackTrackers.insert (s.ackKey cid)
        ((s.ackTracker (s.ackKey cid)).add seq ackMaxRanges)
      ackFirstPendingTick := if s.ackPendingCount = 0 then now else s.ackFirstPendingTick
      ackPendingCount := s.ackPendingCount + 1 }

/-- The gates of `maybe_send_ack`. -/
def ackDue (s : Session) (now : Nat) (force : Bool) : Bool :=
  s.config.reliability && s.established && s.ackPendingCount ≠ 0 &&
    (force || s.ackPendingCount ≥ 2 || now - s.ackFirstPendingTick ≥ s.config.ackDelayMs) &&
    (force || s.ackLastSentTick = 0 || now - s.ackLastSentTick ≥ max (s.config.ackDelayMs / 2) 1)

/-- The blocks of the next ACK frame; the remaining spaces wait for another one. -/
def ackBlocks (s : Session) : List AckBlock :=
  ((s.ackTrackers.entries.filter fun entry => !entry.2.ranges.isEmpty).take ackMaxBlocks).map
    fun entry =>
      { connectionId := entry.1
        largest := entry.2.largest
        ranges := entry.2.ranges }

/-- `maybe_send_ack`. The attempt is stamped even when the queue refuses it. -/
def maybeSendAck (s : Session) (now : Nat) (force : Bool) (answers : PostAnswers) :
    Session × PostOutcome :=
  if !s.ackDue now force then (s, .done)
  else if s.ackBlocks.isEmpty then ({ s with ackPendingCount := 0 }, .done)
  else
    match encodeMuxAckFrame s.ackBlocks (ackFrameMaxSize ackMaxBlocks ackMaxRanges)
        ackMaxRanges with
    | none => (s, .done)
    | some payload =>
      match ({ s with ackLastSentTick := now } : Session).postInternal
          { seq := 0, cmd := .ack, connectionId := 0, payload := payload } false false
          answers with
      | (after, .rejected) => (after, .done)
      | (after, outcome) => ({ after with ackPendingCount := 0 }, outcome)

/-- The RTT bookkeeping of one acknowledged block: the session's estimate, and
the carrier's when the sample can be attributed to one. -/
def sampleRtt (s : Session) (sample linkId : Nat) : Session :=
  if sample = 0 then s
  else
    { s with
      srttMs := if s.srttMs = 0 then sample else (s.srttMs * 7 + sample) / 8
      links :=
        match s.links.rxLinks.find? fun key =>
            linkId ≠ 0 && (s.links.table.lookup key).any fun carrier => carrier.id = linkId with
        | none => s.links
        | some key => s.links.modify key fun carrier => carrier.sampleRtt sample }

/-- The loop body of `packet_input_ack`. -/
def ackOne (now : Nat) (s : Session) (ackBlock : AckBlock) : Session :=
  let fastTime := if s.srttMs = 0 then 0 else max (s.srttMs / 4) 1
  let result := s.rtx.ack (s.ackKey ackBlock.connectionId) ackBlock.largest ackBlock.ranges now
    fastRetxThreshold fastTime
  { ({ s with rtx := result.buffer } : Session).sampleRtt result.rttSample result.linkId with
    rtxPending := if s.config.rtxFastOn then s.rtxPending ++ result.candidates else s.rtxPending }

/-- `packet_input_ack` up to the retransmissions and the unparking it triggers. -/
def packetInputAck (s : Session) (payload : List UInt8) (now : Nat) : Session :=
  if !s.config.reliability then s
  else
    match decodeMuxAckFrame payload ackMaxBlocks ackMaxRanges with
    | none => s
    | some blocks => blocks.foldl (ackOne now) s

def unparkAll (s : Session) : Session := { s with tx := s.tx.drrUnparkAll.1 }

def currentPto (s : Session) : Nat :=
  min (max (if s.srttMs > 0 then s.srttMs * 2 else ptoInit) ptoMin) ptoMax

/-- One key of the `retransmit_pending` loop, while the burst lasts. -/
def retransmitKey (s : Session) (key : RtxKey) (now : Nat) (answer : Bool) : Session × RtxOutcome :=
  match s.rtx.entries.lookup key with
  | none => (s, .settled)
  | some entry =>
    if entry.lastSentTick = now && entry.lastLinkId ≠ 0 then (s, .settled)
    else if entry.attempts ≥ s.config.rtxMaxAttempts then
      if s.isFlowV2 then (s.failFlow key.connectionId, .settled) else (s.closeExec now, .stop)
    else
      match s.links.txLinkPick entry.frame.length with
      | (none, _) => (s, .leftover)
      | (some link, links) =>
        let picked := { s with links := links }
        let carrierId := (links.table.lookup link).map Carrier.id
        if !((links.table.lookup link).any Carrier.schedulable) then (picked, .leftover)
        else if !picked.carrierAccepts link entry.frame.length answer then
          ({ picked with links := links.txLinkWithdraw link }, .leftover)
        else
          let begun := picked.beginWrite link entry.frame.length none
          ({ begun with
              links := begun.links.withdrawIfFull link
              rtx := begun.rtx.markRetransmitted key now (carrierId.getD 0) }, .sent)

/-- `fec_flush_group`, as the tick calls it, up to the drain its post starts. -/
def fecEmit (s : Session) (answers : PostAnswers) : Session × PostOutcome :=
  let cleared := { s with fecFlushDue := false }
  if s.fecEncoder.count = 0 || !s.config.fec || !s.established then (cleared, .done)
  else
    match s.fecEncoder.build s.fecEncoder.maxPayloadSize with
    | none => (cleared, .done)
    | some payload =>
      ({ cleared with log := { s.log with fecEmitted := s.log.fecEmitted ++ [payload] } } :
        Session).postInternal
          { seq := 0, cmd := .fec, connectionId := 0, payload := payload } false false answers

/-- The end of `fec_flush_group`. Frames the drain folded in go with the group. -/
def fecReset (s : Session) (now : Nat) : Session := { s with fecEncoder := Encoder.reset now }

/-- The caching half of `fec_note_received`. -/
def fecRemember (s : Session) (frame : Frame) : Session :=
  if !s.config.fec || !frame.cmd.isPerFlowData then s
  else
    { s with
      fecStore := s.fecStore.remember s.config.fecGroupK
        { connectionId := frame.connectionId, sequence := frame.seq } frame.bytes }

/-- `packet_input_fec` up to its evaluation of the new group. -/
def fecOpen (s : Session) (payload : List UInt8) : Session :=
  if !s.config.fec then s
  else { s with fecStore := s.fecStore.openGroup s.config.fecGroupK payload }

/-- One group of the `fec_try_recover_groups` loop: the frame it yields, and
whether the group was erased. -/
def fecVisit (s : Session) (key : RtxKey) (index : Nat) : Session × Option Frame × Bool :=
  let visited := s.fecStore.visitGroup key index
  ({ s with fecStore := visited.1 }, visited.2)

end Session

open Lib.Run

inductive CarrierEvent
  | attach
  | handshake (id : Nat)
  | offer
  | unlink
  | retire
  | exit
  | leaseExpired
  deriving DecidableEq, Repr

def Carriers.happen (links : Carriers) (key : CarrierKey) : CarrierEvent → Carriers
  | .attach => links.attach key
  | .handshake id => links.modify key fun carrier =>
    { carrier with
      id := id
      handshakeComplete := true }
  | .offer => links.txLinkOffer key
  | .unlink => links.modify key fun carrier => { carrier with linked := false }
  | .retire => (links.modify key fun carrier => { carrier with retiring := true }).txLinkWithdraw key
  | .exit => links.exit key
  | .leaseExpired => links.modify key fun carrier => { carrier with rxPaused := false }

inductive Op
  | register (cid : ConnectionId)
  | connectSent (cid : ConnectionId)
  | post (frame : Frame) (acceleration callback : Bool) (answers : Session.PostAnswers) (now : Nat)
  | sendData (answer : Bool)
  | sendCtrl (answer : Bool)
  | trackSent (frame : Frame) (now linkId : Nat)
  | fecNoteSent (frame : Frame) (now : Nat)
  | completeWrite (ticket : Nat) (ok : Bool)
  | abortWrite (ticket : Nat)
  | runEarlyAck (completion : CompletionId)
  | carrier (key : CarrierKey) (event : CarrierEvent)
  | unparkAll
  | noteAck (cid : ConnectionId) (seq : SeqNumber) (now : Nat)
  | sendAck (now : Nat) (force : Bool) (answers : Session.PostAnswers)
  | arrive (frame : Frame) (link : Option CarrierKey) (now : Nat)
  | receiveAck (payload : List UInt8) (now : Nat)
  | reinject (linkId : Nat)
  | collectExpired (now : Nat)
  | retransmit (key : RtxKey) (now : Nat) (answer : Bool)
  | setRtxPending (keys : List RtxKey)
  | fecEmit (answers : Session.PostAnswers)
  | fecReset (now : Nat)
  | fecRemember (frame : Frame)
  | fecOpen (payload : List UInt8)
  | fecVisit (key : RtxKey) (index : Nat)
  | failFlow (cid : ConnectionId)
  | releaseConnection (cid : ConnectionId)
  | closeExec (now : Nat)
  deriving DecidableEq, Repr

namespace Session

/-- `note_ack_pending`, remembering the number until its frame is decided on. -/
def noteArrival (s : Session) (cid : ConnectionId) (seq : SeqNumber) (now : Nat) : Session :=
  let noted := s.noteAckPending cid seq now
  { noted with log := { noted.log with noted := (cid, seq) :: noted.log.noted } }

def packetInputOrdered (s : Session) (frame : Frame) (link : Option CarrierKey) (now : Nat) :
    Session × Bool :=
  if s.isFlowV2 then s.packetInputFlow frame link now else s.packetInputUnorder frame link now

def settleArrival (s : Session) (frame : Frame) : Session :=
  { s with
    log := { s.log with
      noted :=
        if frame.cmd.isPerFlowData then s.log.noted.erase (frame.connectionId, frame.seq)
        else s.log.noted } }

def closeUnless (outcome : Session × Bool) (now : Nat) : Session :=
  if outcome.2 then outcome.1 else outcome.1.closeExec now

theorem closeUnless_true (s : Session) (now : Nat) : closeUnless (s, true) now = s := rfl

theorem closeUnless_false (s : Session) (now : Nat) :
    closeUnless (s, false) now = s.closeExec now := rfl

def arrive (s : Session) (frame : Frame) (link : Option CarrierKey) (now : Nat) : Session :=
  closeUnless ((s.settleArrival frame).packetInputOrdered frame link now) now

/-- The keys `reinject_link_inflight` schedules. -/
def reinject (s : Session) (linkId : Nat) : Session :=
  if !s.config.reliability then s
  else
    { s with
      rtx := (s.rtx.takeLinkInflight linkId).1
      rtxPending := s.rtxPending ++ (s.rtx.takeLinkInflight linkId).2 }

/-- The probe timeout of `reliability_tick`. -/
def collectExpired (s : Session) (now : Nat) : Session :=
  if !s.config.rtxPtoOn then s
  else
    { s with
      rtxPending := s.rtxPending ++ s.rtx.collectExpired now s.currentPto ptoMax rxtBurst }

/-- One step of the session. Every caller of `fail_flow` checks for flow v2 first. -/
def step (s : Session) : Op → Session
  | .register cid => s.register cid
  | .connectSent cid => s.modifySkt cid fun skt => { skt with fin := true }
  | .post frame acceleration callback answers now =>
    (s.post frame acceleration callback answers now).1
  | .sendData answer => (s.sendData answer).1
  | .sendCtrl answer => (s.sendCtrl answer).1
  | .trackSent frame now linkId => (s.trackSentFrame frame now linkId).1
  | .fecNoteSent frame now => s.fecNoteSent frame now
  | .completeWrite ticket ok => s.completeWrite ticket ok
  | .abortWrite ticket => s.abortWrite ticket
  | .runEarlyAck completion => s.runEarlyAck completion
  | .carrier key event => { s with links := s.links.happen key event }
  | .unparkAll => s.unparkAll
  | .noteAck cid seq now => s.noteArrival cid seq now
  | .sendAck now force answers => (s.maybeSendAck now force answers).1
  | .arrive frame link now => s.arrive frame link now
  | .receiveAck payload now => s.packetInputAck payload now
  | .reinject linkId => s.reinject linkId
  | .collectExpired now => s.collectExpired now
  | .retransmit key now answer => (s.retransmitKey key now answer).1
  | .setRtxPending keys => { s with rtxPending := keys }
  | .fecEmit answers => (s.fecEmit answers).1
  | .fecReset now => s.fecReset now
  | .fecRemember frame => s.fecRemember frame
  | .fecOpen payload => s.fecOpen payload
  | .fecVisit key index => (s.fecVisit key index).1
  | .failFlow cid => if s.isFlowV2 then s.failFlow cid else s
  | .releaseConnection cid => s.releaseConnection cid
  | .closeExec now => s.closeExec now

end Session

end OpenPpp2.Mux
