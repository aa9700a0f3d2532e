import Mathlib.Logic.Function.Basic
import OpenPpp2.Mux.Buffers
import OpenPpp2.Mux.TxScheduler

/-!
# The session state

`vmux_net` runs on one strand: every handler is a function on the state below.
-/

namespace OpenPpp2.Mux

open Mux.FecCodec Function

inductive OrderingMode
  | compat
  | flowV2
  deriving DecidableEq, Repr

inductive MuxMode
  | compat
  | flow
  | balance
  | stripe
  deriving DecidableEq, Repr

structure Config where
  ordering : OrderingMode
  turbo : Bool
  acceleration : Bool
  reliability : Bool
  fec : Bool
  /-- below 2^29: `fec_group_k_ * 4` is computed as an `int` -/
  fecGroupK : Nat
  maxOpenFlows : Nat
  flowContextCap : Nat
  flowReorderCapBytes : Nat
  sessionReorderCapBytes : Nat
  rtxCapBytes : Nat
  rtxFlowWindowBytes : Nat
  rtxMaxAttempts : Nat
  rtxPtoOn : Bool
  rtxFastOn : Bool
  ackDelayMs : Nat
  debugKey : List UInt8
  deriving DecidableEq, Repr

/-- What an empty configuration file latches, for the agreed ordering mode. -/
def Config.defaults (ordering : OrderingMode) : Config :=
  { ordering := ordering
    turbo := false
    acceleration := false
    reliability := true
    fec := false
    fecGroupK := 8
    maxOpenFlows := 4096
    flowContextCap := flowMaxContexts
    flowReorderCapBytes := 8 * 2 ^ 20
    sessionReorderCapBytes := 32 * 2 ^ 20
    rtxCapBytes := 32 * 2 ^ 20
    rtxFlowWindowBytes := 8 * 2 ^ 20
    rtxMaxAttempts := 8
    rtxPtoOn := false
    rtxFastOn := false
    ackDelayMs := 10
    debugKey := [] }

def Config.isFlowV2 (config : Config) : Bool := config.ordering = OrderingMode.flowV2

/-- The part of `vmux_skt` the session reads or writes. -/
structure Skt where
  fin : Bool
  connected : Bool
  txAcceleration : Bool
  fcRxVersioned : Bool
  fcRxVersion : BitVec 32
  deriving DecidableEq, Repr

def Skt.opened : Skt :=
  { fin := false
    connected := false
    txAcceleration := true
    fcRxVersioned := false
    fcRxVersion := 0 }

/-- `flow_rx_context` -/
structure FlowRx where
  flowRxNext : SeqNumber
  flowReorder : ReorderBuffer Frame
  oldestBufferedTick : Nat
  primed : Bool
  finSeen : Bool

def FlowRx.fresh : FlowRx :=
  { flowRxNext := 0
    flowReorder := ReorderBuffer.empty
    oldestBufferedTick := 0
    primed := false
    finSeen := false }

structure CarrierWrite where
  ticket : Nat
  link : CarrierKey
  length : Nat
  completion : Option CompletionId
  deriving DecidableEq, Repr

/-- Ghost record of the session's behaviour. Per-connection entries start over
when the connection id is registered. -/
structure Log where
  /-- data sequence numbers `post_internal` wrote, oldest first -/
  posted : ConnectionId → List SeqNumber
  /-- data sequence numbers handed to `deliver_one`, oldest first -/
  delivered : ConnectionId → List SeqNumber
  /-- the flow was failed, or released after its FIN, with its socket or with the
  session -/
  ended : ConnectionId → Bool
  /-- recorded for acknowledgment, not yet through `packet_input_flow` -/
  noted : List (ConnectionId × SeqNumber)
  dispatched : List Frame
  /-- frames as numbered by `tx_assign_seq` -/
  numbered : List Frame
  /-- frames `tx_send_on` saw accepted by the carrier -/
  accepted : List Frame
  /-- payloads built by `fec_flush_group` -/
  fecEmitted : List (List UInt8)

def Log.empty : Log :=
  { posted := fun _ => []
    delivered := fun _ => []
    ended := fun _ => false
    noted := []
    dispatched := []
    numbered := []
    accepted := []
    fecEmitted := [] }

structure Session where
  config : Config
  mode : MuxMode
  established : Bool
  disposed : Bool
  closeRequested : Bool
  muxModeSetLastAccept : Nat
  skts : AList fun _ : ConnectionId => Skt
  flows : AList fun _ : ConnectionId => FlowRx
  rxQueue : List (SeqNumber × Frame)
  rxAck : SeqNumber
  rxGapOldestTick : Nat
  sessionReorderBytes : Nat
  flowAggregateBytes : Nat
  rxPressureFlows : List ConnectionId
  tx : TxScheduler
  txCtrlQueue : List TxPacket
  txFlowSeq : AList fun _ : ConnectionId => SeqNumber
  txSeq : SeqNumber
  pendingTxCompletions : List CompletionId
  firedTxCompletions : List (CompletionId × Bool)
  nextTxCompletion : CompletionId
  earlyAcks : List CompletionId
  links : Carriers
  writes : List CarrierWrite
  nextTicket : Nat
  ackTrackers : AList fun _ : ConnectionId => AckTracker
  ackPendingCount : Nat
  ackFirstPendingTick : Nat
  ackLastSentTick : Nat
  rtx : RetransmitBuffer
  rtxPending : List RtxKey
  srttMs : Nat
  fecEncoder : Encoder
  fecFlushDue : Bool
  fecStore : FecStore
  log : Log

namespace Session

/-- A session right after establishment: sequence origins agreed by `ftt`, no
connection open, no frame queued. -/
def initial (config : Config) (mode : MuxMode) (txSeq rxAck : SeqNumber) : Session :=
  { config := config
    mode := mode
    established := true
    disposed := false
    closeRequested := false
    muxModeSetLastAccept := 0
    skts := ∅
    flows := ∅
    rxQueue := []
    rxAck := rxAck
    rxGapOldestTick := 0
    sessionReorderBytes := 0
    flowAggregateBytes := 0
    rxPressureFlows := []
    tx := TxScheduler.empty
    txCtrlQueue := []
    txFlowSeq := ∅
    txSeq := txSeq
    pendingTxCompletions := []
    firedTxCompletions := []
    nextTxCompletion := 0
    earlyAcks := []
    links := Carriers.empty
    writes := []
    nextTicket := 0
    ackTrackers := ∅
    ackPendingCount := 0
    ackFirstPendingTick := 0
    ackLastSentTick := 0
    rtx := RetransmitBuffer.empty
    rtxPending := []
    srttMs := 0
    fecEncoder := Encoder.reset 0
    fecFlushDue := false
    fecStore := FecStore.empty
    log := Log.empty }

def isFlowV2 (s : Session) : Bool := s.config.isFlowV2

/-- `get_connection(cid) != NULL` -/
def hasConnection (s : Session) (cid : ConnectionId) : Bool := cid ≠ 0 && (s.skts.lookup cid).isSome

def bufferedBytesOf (s : Session) (cid : ConnectionId) : Nat :=
  ((s.flows.lookup cid).map fun fx => fx.flowReorder.bufferedBytes).getD 0

/-- `tx_completion::Finish`: the callback runs once, whoever asks first. -/
def fire (completion : CompletionId) (ok : Bool) (fired : List (CompletionId × Bool)) :
    List (CompletionId × Bool) :=
  if completion ∈ fired.map Prod.fst then fired else fired ++ [(completion, ok)]

def finishTxCompletion (s : Session) (completion : Option CompletionId) (ok : Bool) : Session :=
  match completion with
  | none => s
  | some id =>
    { s with
      pendingTxCompletions := s.pendingTxCompletions.filter (· ≠ id)
      firedTxCompletions := fire id ok s.firedTxCompletions }

/-- `begin_close`: from here on every tracked completion has been fired. -/
def beginClose (s : Session) : Session :=
  if s.closeRequested then s
  else
    { s with
      closeRequested := true
      pendingTxCompletions := []
      firedTxCompletions :=
        s.pendingTxCompletions.foldl (fun fired id => fire id false fired) s.firedTxCompletions }

/-- `finalize`, run on the strand. The sockets it closes afterwards post nothing:
the session is disposed by then. -/
def finalize (s : Session) (now : Nat) : Session :=
  if s.disposed then s.beginClose
  else
    { s with
      closeRequested := true
      pendingTxCompletions := s.beginClose.pendingTxCompletions
      firedTxCompletions := s.beginClose.firedTxCompletions
      disposed := true
      skts := ∅
      flows := ∅
      rxQueue := []
      rxPressureFlows := []
      tx := TxScheduler.empty
      txCtrlQueue := []
      txFlowSeq := ∅
      links := { s.links.rxResumeAllLinks with
        rxLinks := []
        txLinks := []
        stripeCursor := 0 }
      ackTrackers := ∅
      ackPendingCount := 0
      ackFirstPendingTick := 0
      rtx := RetransmitBuffer.empty
      rtxPending := []
      srttMs := 0
      fecEncoder := Encoder.reset now
      fecFlushDue := false
      fecStore := FecStore.empty
      log := { s.log with ended := fun _ => true } }

def closeExec (s : Session) (now : Nat) : Session :=
  if s.closeRequested then s else s.finalize now

/-- A connection is entered unless the session is disposed, the id is live or the
table is full. -/
def canRegister (s : Session) (cid : ConnectionId) : Bool :=
  !s.disposed && (s.skts.lookup cid).isNone &&
    (s.config.maxOpenFlows = 0 || s.skts.entries.length < s.config.maxOpenFlows)

def register (s : Session) (cid : ConnectionId) : Session :=
  if s.canRegister cid then
    { s with
      skts := s.skts.insert cid Skt.opened
      log := { s.log with
        posted := update s.log.posted cid []
        delivered := update s.log.delivered cid []
        ended := update s.log.ended cid false } }
  else s

def changeSkt (skts : AList fun _ : ConnectionId => Skt) (cid : ConnectionId)
    (change : Skt → Skt) : AList fun _ : ConnectionId => Skt :=
  match skts.lookup cid with
  | none => skts
  | some skt => if cid = 0 then skts else skts.insert cid (change skt)

def modifySkt (s : Session) (cid : ConnectionId) (change : Skt → Skt) : Session :=
  { s with skts := changeSkt s.skts cid change }

/-- `rx_maybe_resume` on the members it reads: drop relieved flows from the
pressure set and resume the carriers once everything is back under its resume
mark. -/
def resumeLinks (config : Config) (flows : AList fun _ : ConnectionId => FlowRx) (buffered : Nat)
    (pressure : List ConnectionId) (links : Carriers) : List ConnectionId × Carriers :=
  let relieved : ConnectionId → Bool := fun cid =>
    match flows.lookup cid with
    | none => true
    | some fx => reorderShouldResume fx.flowReorder.bufferedBytes config.flowReorderCapBytes
  if links.rxPausedLinks.isEmpty then ([], links)
  else
    let pressed := pressure.filter fun cid => !relieved cid
    (pressed,
      if pressed.isEmpty && reorderShouldResume buffered config.sessionReorderCapBytes then
        links.rxResumeAllLinks
      else links)

def rxMaybeResume (s : Session) : Session :=
  let resumed := resumeLinks s.config s.flows s.sessionReorderBytes s.rxPressureFlows s.links
  { s with
    rxPressureFlows := resumed.1
    links := resumed.2 }

def noteFlowBuffered (s : Session) (bytes : Nat) : Session :=
  { s with
    flowAggregateBytes := s.flowAggregateBytes + bytes
    sessionReorderBytes := s.sessionReorderBytes + bytes }

/-- `note_flow_unbuffered`; truncated subtraction is its saturation at zero. -/
def noteFlowUnbuffered (s : Session) (bytes : Nat) : Session :=
  { s with
    flowAggregateBytes := s.flowAggregateBytes - bytes
    sessionReorderBytes := s.sessionReorderBytes - bytes }

/-- `fail_flow`. The socket's own close is posted, so it is a later step. -/
def failFlow (s : Session) (cid : ConnectionId) : Session :=
  let buffered := s.bufferedBytesOf cid
  let resumed := resumeLinks s.config (s.flows.erase cid) (s.sessionReorderBytes - buffered)
    (s.rxPressureFlows.filter (· ≠ cid)) s.links
  { s with
    skts := changeSkt s.skts cid fun skt => { skt with fin := true }
    flows := s.flows.erase cid
    sessionReorderBytes := s.sessionReorderBytes - buffered
    flowAggregateBytes := s.flowAggregateBytes - buffered
    rxPressureFlows := resumed.1
    links := resumed.2
    txFlowSeq := s.txFlowSeq.erase cid
    tx := s.tx.dropFlow cid true
    rtx := if s.isFlowV2 then s.rtx.eraseCid cid else s.rtx
    ackTrackers := if s.isFlowV2 then s.ackTrackers.erase cid else s.ackTrackers
    fecStore := if s.config.fec then s.fecStore.dropCid cid else s.fecStore
    log := { s.log with ended := update s.log.ended cid true } }

/-- `release_connection`, called by the socket that owns the entry. -/
def releaseConnection (s : Session) (cid : ConnectionId) : Session :=
  if !s.hasConnection cid then s
  else
    { s with
      skts := s.skts.erase cid
      flows := s.flows.erase cid
      txFlowSeq := s.txFlowSeq.erase cid
      tx := s.tx.dropFlow cid false
      rtx := if s.isFlowV2 then s.rtx.eraseCid cid else s.rtx
      ackTrackers := if s.isFlowV2 then s.ackTrackers.erase cid else s.ackTrackers
      fecStore := if s.config.fec then s.fecStore.dropCid cid else s.fecStore
      log := { s.log with ended := update s.log.ended cid true } }

end Session

end OpenPpp2.Mux
