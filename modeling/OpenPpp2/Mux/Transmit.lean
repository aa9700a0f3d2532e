import OpenPpp2.Mux.Session

/-!
# The transmit path

`post_internal` up to the drain it starts, one iteration of each drain loop, and the completion of
carrier writes.
-/

namespace OpenPpp2.Mux

open Mux.FecCodec

namespace Session

def txAssignSeq (s : Session) (packet : TxPacket) : Session × TxPacket :=
  if packet.assignSeq then
    let frame := { packet.frame with seq := s.txSeq }
    ({ s with
        txSeq := s.txSeq + 1
        log := { s.log with numbered := s.log.numbered ++ [frame] } },
      { packet with
        frame := frame
        assignSeq := false })
  else (s, packet)

/-- The checks of `underlyin_sent` before the write is accounted; `answer` is
whether the executor took it. -/
def carrierAccepts (s : Session) (link : CarrierKey) (length : Nat) (answer : Bool) : Bool :=
  !s.disposed && !s.closeRequested &&
    ((s.links.table.lookup link).map fun carrier =>
      carrier.linked && carrier.hasByteCredit length && !carrier.retiring && answer).getD false

def beginWrite (s : Session) (link : CarrierKey) (length : Nat)
    (completion : Option CompletionId) : Session :=
  { s with
    links := s.links.modify link fun carrier =>
      { carrier with queuedBytes := carrier.queuedBytes + length }
    writes := s.writes ++
      [{ ticket := s.nextTicket
         link := link
         length := length
         completion := completion }]
    nextTicket := s.nextTicket + 1 }

/-- `tx_send_on`; the flag tells whether the carrier took the frame. -/
def txSendOn (s : Session) (link : CarrierKey) (packet : TxPacket) (answer : Bool) :
    Session × TxPacket × Bool :=
  let numbered := s.txAssignSeq packet
  if numbered.1.carrierAccepts link numbered.2.length answer then
    let begun := numbered.1.beginWrite link numbered.2.length numbered.2.completion
    ({ begun with
        links := begun.links.withdrawIfFull link
        log := { begun.log with accepted := begun.log.accepted ++ [numbered.2.frame] } },
      numbered.2, true)
  else
    ({ numbered.1 with links := numbered.1.links.txLinkWithdraw link }, numbered.2, false)

def rtxKey (s : Session) (frame : Frame) : RtxKey :=
  { connectionId := if s.isFlowV2 then frame.connectionId else 0
    sequence := frame.seq }

def rtxChargeBytes (s : Session) (frame : Frame) : Nat :=
  if !s.config.reliability || frame.cmd.isReliabilityControl then 0
  else if s.isFlowV2 && !frame.cmd.isPerFlowData then 0
  else if (s.rtx.entries.lookup (s.rtxKey frame)).isSome then 0
  else frame.length

/-- The decision of `tx_rtx_window_hold`. -/
def windowHolds (s : Session) (packet : TxPacket) : Bool :=
  let charge :=
    if packet.assignSeq then (if s.config.reliability then packet.length else 0)
    else s.rtxChargeBytes packet.frame
  charge ≠ 0 &&
    admitTxFrame s.rtx.bytes (if s.isFlowV2 then s.rtx.bytesOf packet.connectionId else 0) charge
      s.config.rtxCapBytes (if s.isFlowV2 then s.config.rtxFlowWindowBytes else 0) ≠ .send

/-- The per-flow hard cap of `track_sent_frame`. -/
def flowOverHardCap (s : Session) (frame : Frame) : Bool :=
  s.isFlowV2 &&
    txOverHardCap (s.rtx.bytesOf frame.connectionId) frame.length s.config.rtxFlowWindowBytes
      rtxHardFactor

/-- `rtx_.Track` under the session's hard cap. -/
def trackRtx (s : Session) (frame : Frame) (now linkId : Nat) : Option RetransmitBuffer :=
  s.rtx.track (s.rtxKey frame) frame now (hardCap s.config.rtxCapBytes rtxHardFactor) linkId

/-- `track_sent_frame`; true when the frame was a first send and is retained. -/
def trackSentFrame (s : Session) (frame : Frame) (now linkId : Nat) : Session × Bool :=
  if s.rtxChargeBytes frame = 0 then (s, false)
  else if s.flowOverHardCap frame then (s.failFlow frame.connectionId, false)
  else
    match s.trackRtx frame now linkId with
    | none => (if s.isFlowV2 then s.failFlow frame.connectionId else s.closeExec now, false)
    | some rtx => ({ s with rtx := rtx }, true)

def fecNoteSent (s : Session) (frame : Frame) (now : Nat) : Session :=
  if !s.config.fec || frame.length > fecMaxFrame || !frame.cmd.isPerFlowData then s
  else
    let encoder := if s.fecEncoder.count = 0 then Encoder.reset now else s.fecEncoder
    let added := encoder.add
      { connectionId := frame.connectionId, sequence := frame.seq } frame.bytes
    { s with
      fecEncoder := added
      fecFlushDue := s.fecFlushDue || added.count ≥ s.config.fecGroupK }

inductive DrainResult
  | stop
  | again
  | sent (frame : Frame) (link : CarrierKey)
  deriving DecidableEq, Repr

/-- The carrier for the next data frame: the striped one when it is listed and
has credit, otherwise the least loaded. -/
def chooseCarrier (s : Session) (length : Nat) : Option CarrierKey × Carriers :=
  match s.mode with
  | .stripe =>
    let striped := s.links.selectStriped
    let usable := (striped.1.bind striped.2.table.lookup).map fun carrier =>
      carrier.inTxLinks && carrier.hasByteCredit length
    if usable.getD false then striped else striped.2.txLinkPick length
  | _ => s.links.txLinkPick length

/-- One iteration of `process_tx_compat_packets` or `process_tx_stripe_packets`. -/
def sendData (s : Session) (answer : Bool) : Session × DrainResult :=
  if s.links.txLinks.isEmpty || s.tx.txDataFrames = 0 then (s, .stop)
  else
    match s.tx.drrPopNext with
    | (tx, none) => ({ s with tx := tx }, .stop)
    | (tx, some packet) =>
      if s.windowHolds packet then ({ s with tx := tx.drrParkFront packet }, .again)
      else
        match s.chooseCarrier packet.length with
        | (none, links) =>
          ({ s with
              tx := tx.drrRequeueFront packet
              links := links }, .stop)
        | (some link, links) =>
          match ({ s with
              tx := tx
              links := links } : Session).txSendOn link packet answer with
          | (after, sentPacket, true) => (after, .sent sentPacket.frame link)
          | (after, refused, false) =>
            ({ after with tx := after.tx.drrRequeueFront refused }, .again)

/-- One iteration of `process_tx_ctrl_packets`. -/
def sendCtrl (s : Session) (answer : Bool) : Session × DrainResult :=
  match s.txCtrlQueue with
  | [] => (s, .stop)
  | packet :: rest =>
    match s.links.txLinkPick packet.length with
    | (none, _) => (s, .stop)
    | (some link, links) =>
      match ({ s with
          txCtrlQueue := rest
          links := links } : Session).txSendOn link packet answer with
      | (after, sentPacket, true) => (after, .sent sentPacket.frame link)
      | (after, refused, false) =>
        ({ after with txCtrlQueue := refused :: after.txCtrlQueue }, .again)

/-- Where `post_internal` sends a frame: the control queue, or the data queues
with or without a deferred global number. -/
inductive Lane
  | control
  | data (deferSeq : Bool)
  deriving DecidableEq, Repr

def nextDsn (s : Session) (cid : ConnectionId) : SeqNumber :=
  match s.txFlowSeq.lookup cid with
  | none => 1
  | some dsn => if dsn = 0 then 1 else dsn

/-- The numbering block of `post_internal`. -/
def stampFrame (s : Session) (frame : Frame) : Session × Frame × Lane :=
  if frame.cmd.isReliabilityControl then (s, { frame with seq := 0 }, .control)
  else if s.isFlowV2 then
    if frame.cmd.isPerFlowData then
      let cid := frame.connectionId
      let dsn := s.nextDsn cid
      ({ s with
          txFlowSeq := s.txFlowSeq.insert cid (dsn + 1)
          log := { s.log with
            posted := Function.update s.log.posted cid (s.log.posted cid ++ [dsn]) } },
        { frame with seq := dsn }, .data false)
    else
      (s, { frame with seq := 0 },
        if frame.cmd.isSessionControl || frame.cmd.isConnectionControl then .control
        else .data false)
  else (s, { frame with seq := 0 }, .data true)

/-- `enqueue_flow_tx`. The map access creates the context before the quota test. -/
def enqueueFlowTx (s : Session) (packet : TxPacket) : Session × Bool :=
  if s.tx.overflows packet then
    let touched := { s with
      tx := s.tx.setFlow packet.connectionId (s.tx.flow packet.connectionId) }
    (if s.isFlowV2 then touched.failFlow packet.connectionId else touched, false)
  else ({ s with tx := s.tx.enqueue packet }, true)

inductive PostOutcome
  | rejected
  | done
  | drain
  | sent (frame : Frame) (link : CarrierKey)
  deriving DecidableEq, Repr

def failTxEnqueue (s : Session) (completion : Option CompletionId) : Session × PostOutcome :=
  (s.finishTxCompletion completion false, if s.isFlowV2 then .done else .rejected)

/-- Queue a data frame with the completion that is to be finished if the queue
refuses it. -/
def enqueueOrFail (s : Session) (packet : TxPacket) (completion : Option CompletionId) :
    Session × PostOutcome :=
  match s.enqueueFlowTx packet with
  | (after, true) => (after, .drain)
  | (after, false) => after.failTxEnqueue completion

/-- Post the early acknowledgment of an accelerated push; when the executor is
stopped the completion fails inline. -/
def postEarlyAck (s : Session) (completion : Option CompletionId) (posted : Bool) : Session :=
  match completion with
  | none => s
  | some id =>
    if posted then { s with earlyAcks := s.earlyAcks ++ [id] }
    else s.finishTxCompletion (some id) false

/-- `MuxTxShouldCoupleCompletion` on the connection's present queue. -/
def couplesCompletion (s : Session) (cid : ConnectionId) : Bool :=
  txShouldCoupleCompletion s.tx.txDataFrames txQueueHighWater (s.tx.flowParked cid)
    (s.tx.flow cid).queue.length (s.tx.flow cid).bytes txFlowMaxFrames txFlowMaxBytes

/-- The data half of `post_internal`, after the turbo attempt. -/
def postData (s : Session) (packet : TxPacket) (acceleration earlyPosted : Bool) :
    Session × PostOutcome :=
  if acceleration && s.config.acceleration && !s.links.txLinks.isEmpty &&
      !s.couplesCompletion packet.connectionId then
    match s.enqueueOrFail { packet with completion := none } packet.completion with
    | (after, .drain) => (after.postEarlyAck packet.completion earlyPosted, .drain)
    | refused => refused
  else s.enqueueOrFail packet packet.completion

def isExpendable (queued : TxPacket) : Bool :=
  queued.frame.cmd = Cmd.ack || queued.frame.cmd = Cmd.keepAlived

/-- The control half of `post_internal`: a full queue makes room by dropping its
oldest ACK or keep-alive, or refuses the frame. -/
def postCtrl (s : Session) (packet : TxPacket) : Session × PostOutcome :=
  if s.txCtrlQueue.length ≥ txCtrlMax then
    match s.txCtrlQueue.find? isExpendable with
    | some _ => ({ s with txCtrlQueue := s.txCtrlQueue.eraseP isExpendable ++ [packet] }, .drain)
    | none => (s, .rejected)
  else ({ s with txCtrlQueue := s.txCtrlQueue ++ [packet] }, .drain)

def turboCarrier (s : Session) (frame : Frame) : Option CarrierKey :=
  if s.config.turbo && frame.cmd = Cmd.syn then
    s.links.selectTurbo.filter fun link =>
      ((s.links.table.lookup link).map fun carrier =>
        carrier.inTxLinks && carrier.hasByteCredit frame.length).getD false
  else none

/-- `track_tx_completion` on a fresh completion; `none` when the post is
refused because the session is closing. -/
def trackTxCompletion (s : Session) (callback : Bool) : Session × Option (Option CompletionId) :=
  if !callback then (s, some none)
  else if s.closeRequested then
    ({ s with
        nextTxCompletion := s.nextTxCompletion + 1
        firedTxCompletions := fire s.nextTxCompletion false s.firedTxCompletions }, none)
  else
    ({ s with
        nextTxCompletion := s.nextTxCompletion + 1
        pendingTxCompletions := s.pendingTxCompletions ++ [s.nextTxCompletion] },
      some (some s.nextTxCompletion))

structure PostAnswers where
  turboWrite : Bool
  earlyAck : Bool
  deriving DecidableEq, Repr

/-- The data half of `post_internal` with the turbo attempt in front. A refused
turbo frame falls through and is queued again with its number still to be
assigned. -/
def postLane (s : Session) (packet : TxPacket) (acceleration : Bool) (answers : PostAnswers) :
    Session × PostOutcome :=
  match s.turboCarrier packet.frame with
  | none => s.postData packet acceleration answers.earlyAck
  | some link =>
    match s.txSendOn link packet answers.turboWrite with
    | (after, sentPacket, true) => (after, .sent sentPacket.frame link)
    | (after, refused, false) =>
      after.postData { refused with assignSeq := packet.assignSeq } acceleration answers.earlyAck

/-- `post_internal` up to the drain it starts. -/
def postInternal (s : Session) (frame : Frame) (acceleration callback : Bool)
    (answers : PostAnswers) : Session × PostOutcome :=
  if s.disposed || !s.established then (s, .rejected)
  else
    match s.trackTxCompletion callback with
    | (refused, none) => (refused, .rejected)
    | (tracked, some completion) =>
      match tracked.stampFrame frame with
      | (stamped, framed, .control) =>
        stamped.postCtrl { frame := framed, completion := completion, assignSeq := false }
      | (stamped, framed, .data deferSeq) =>
        stamped.postLane { frame := framed, completion := completion, assignSeq := deferSeq }
          acceleration answers

/-- `post` and `post_frame`: a frame that is too large or refused closes the
session. -/
def post (s : Session) (frame : Frame) (acceleration callback : Bool) (answers : PostAnswers)
    (now : Nat) : Session × PostOutcome :=
  if frame.payload.length > maxBuffersSize then (s.closeExec now, .rejected)
  else
    match s.postInternal frame acceleration callback answers with
    | (after, .rejected) => (after.closeExec now, .rejected)
    | accepted => accepted

def completeWrite (s : Session) (ticket : Nat) (ok : Bool) : Session :=
  match s.writes.find? fun write => write.ticket = ticket with
  | none => s
  | some write =>
    ({ s with
      writes := s.writes.eraseP fun write => write.ticket = ticket
      links := s.links.modify write.link fun carrier =>
        { carrier with queuedBytes := carrier.queuedBytes - write.length } } :
      Session).finishTxCompletion write.completion ok

/-- The accounting fallback of a write whose completion could not be posted. -/
def abortWrite (s : Session) (ticket : Nat) : Session :=
  match s.writes.find? fun write => write.ticket = ticket with
  | none => s
  | some write =>
    ({ s with writes := s.writes.eraseP fun write => write.ticket = ticket } :
      Session).finishTxCompletion write.completion false

def runEarlyAck (s : Session) (completion : CompletionId) : Session :=
  if completion ∈ s.earlyAcks then
    ({ s with earlyAcks := s.earlyAcks.erase completion } :
      Session).finishTxCompletion (some completion) true
  else s

end Session

theorem add_le_hardCap_of_fits {inflight incoming window factor : Nat} (counted : window ≤ sizeMax)
    (alone : incoming ≤ hardCap window factor) (positive : window ≠ 0)
    (fits : txFitsWindow inflight incoming window) :
    inflight + incoming ≤ hardCap window factor := by
  by_cases empty : inflight = 0
  · omega
  · have both : incoming ≤ window ∧ inflight ≤ window - incoming := by
      simpa [txFitsWindow, positive, empty] using fits
    exact le_hardCap (by omega) (by omega)

theorem fits_of_admit {sessionInflight flowInflight incoming sessionWindow flowWindow : Nat}
    (charged : incoming ≠ 0)
    (admitted : admitTxFrame sessionInflight flowInflight incoming sessionWindow flowWindow = .send) :
    txFitsWindow flowInflight incoming flowWindow ∧
      txFitsWindow sessionInflight incoming sessionWindow := by
  rw [admitTxFrame, if_neg charged] at admitted
  split_ifs at admitted with flow session
  simpa using And.intro flow session

namespace Session

variable {s : Session} {frame : Frame}

theorem rtxChargeBytes_ne_zero (charged : s.rtxChargeBytes frame ≠ 0) :
    s.config.reliability ∧ s.rtx.entries.lookup (s.rtxKey frame) = none ∧
      s.rtxChargeBytes frame = frame.length := by
  unfold rtxChargeBytes at charged ⊢
  split_ifs at charged ⊢ with off control known
  · exact absurd rfl charged
  · exact absurd rfl charged
  · exact absurd rfl charged
  · simp_all

theorem flowOverHardCap_eq_false (positive : 0 < s.config.rtxFlowWindowBytes) :
    s.flowOverHardCap frame = false ↔ (s.isFlowV2 = true →
      s.rtx.bytesOf frame.connectionId + frame.length ≤
        hardCap s.config.rtxFlowWindowBytes rtxHardFactor) := by
  cases v2 : s.isFlowV2
  · simp [flowOverHardCap, v2]
  · simp only [flowOverHardCap, txOverHardCap, v2, positive.ne', Bool.true_and, if_false,
      Bool.or_eq_false_iff, decide_eq_false_iff_not, true_implies]
    omega

theorem trackSentFrame_iff (charged : s.rtxChargeBytes frame ≠ 0)
    (positive : 0 < s.config.rtxFlowWindowBytes ∧ 0 < hardCap s.config.rtxCapBytes rtxHardFactor)
    (now linkId : Nat) :
    (∃ rtx, s.trackSentFrame frame now linkId = ({ s with rtx := rtx }, true)) ↔
      (s.isFlowV2 = true → s.rtx.bytesOf frame.connectionId + frame.length ≤
        hardCap s.config.rtxFlowWindowBytes rtxHardFactor) ∧
      s.rtx.bytes + frame.length ≤ hardCap s.config.rtxCapBytes rtxHardFactor := by
  have tracked : s.trackRtx frame now linkId = none ↔
      ¬ s.rtx.bytes + frame.length ≤ hardCap s.config.rtxCapBytes rtxHardFactor := by
    rw [trackRtx, RetransmitBuffer.track, (rtxChargeBytes_ne_zero charged).2.1, if_neg (by simp)]
    simp [positive.2]
  rw [← flowOverHardCap_eq_false positive.1, trackSentFrame, if_neg charged]
  cases s.flowOverHardCap frame with
  | true => simp
  | false =>
    rcases retained : s.trackRtx frame now linkId with _ | rtx
    · simpa using tracked.1 retained
    · simpa [retained] using tracked

/-- A frame that the window lets through is retained if and only if it fits the caps alone. -/
theorem trackSentFrame_of_window (s : Session) (packet : TxPacket) (seq : SeqNumber)
    (now linkId : Nat) (windows : 0 < s.config.rtxFlowWindowBytes ∧
      s.config.rtxFlowWindowBytes ≤ s.config.rtxCapBytes ∧ s.config.rtxCapBytes ≤ sizeMax)
    (admitted : s.windowHolds packet = false) :
    let frame := if packet.assignSeq then { packet.frame with seq := seq } else packet.frame
    s.rtxChargeBytes frame ≠ 0 →
      ((∃ rtx, s.trackSentFrame frame now linkId = ({ s with rtx := rtx }, true)) ↔
        (s.isFlowV2 = true →
          packet.length ≤ hardCap s.config.rtxFlowWindowBytes rtxHardFactor) ∧
        packet.length ≤ hardCap s.config.rtxCapBytes rtxHardFactor) := by
  intro frame charged
  have same : frame.length = packet.length ∧ frame.connectionId = packet.connectionId := by
    simp only [frame]
    split_ifs <;> exact ⟨rfl, rfl⟩
  obtain ⟨on, -, value⟩ := rtxChargeBytes_ne_zero charged
  have charge : (if packet.assignSeq then (if s.config.reliability then packet.length else 0)
      else s.rtxChargeBytes packet.frame) = packet.length := by
    split_ifs with deferred
    · rfl
    · rw [← same.1, ← value]
      simp [frame, deferred]
  have positive : packet.length ≠ 0 := by
    have := packet.frame.length_pos
    omega
  have verdict : admitTxFrame s.rtx.bytes
      (if s.isFlowV2 then s.rtx.bytesOf packet.connectionId else 0) packet.length
      s.config.rtxCapBytes (if s.isFlowV2 then s.config.rtxFlowWindowBytes else 0) = .send := by
    simpa [windowHolds, charge, positive] using admitted
  obtain ⟨flow, session⟩ := fits_of_admit positive verdict
  have capped : 0 < hardCap s.config.rtxCapBytes rtxHardFactor :=
    Nat.lt_of_lt_of_le (by omega) (le_hardCap le_rfl windows.2.2)
  rw [trackSentFrame_iff charged ⟨windows.1, capped⟩, same.1, same.2]
  constructor
  · rintro ⟨flows, total⟩
    exact ⟨fun v2 => by have := flows v2; omega, by omega⟩
  · rintro ⟨flows, total⟩
    refine ⟨fun v2 => ?_, add_le_hardCap_of_fits windows.2.2 total (by omega) session⟩
    rw [if_pos v2, if_pos v2] at flow
    exact add_le_hardCap_of_fits (by omega) (flows v2) (by omega) flow

theorem trackSentFrame_of_window_default :
    ∃ rtx, (initial (Config.defaults .flowV2) .flow 0 0).trackSentFrame (Frame.push 1 1 [7]) 5 1 =
      ({ initial (Config.defaults .flowV2) .flow 0 0 with rtx := rtx }, true) :=
  (trackSentFrame_of_window (initial (Config.defaults .flowV2) .flow 0 0)
    ⟨Frame.push 1 1 [7], none, false⟩ 0 5 1 (by decide) (by decide) (by decide)).2 (by decide)

/-- A window of four bytes admits a FIN of nine bytes when nothing is in flight, and the flow is
failed for it. -/
theorem admitted_frame_fails_flow :
    let s := initial { Config.defaults .flowV2 with rtxCapBytes := 4, rtxFlowWindowBytes := 4 }
      .flow 0 0
    s.windowHolds ⟨Frame.fin 1 1, none, false⟩ = false ∧ s.flowOverHardCap (Frame.fin 1 1) = true ∧
      s.trackSentFrame (Frame.fin 1 1) 5 1 = (s.failFlow 1, false) := by
  refine ⟨by decide, by decide, ?_⟩
  rfl

end Session

end OpenPpp2.Mux
