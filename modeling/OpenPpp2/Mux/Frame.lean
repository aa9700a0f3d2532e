import OpenPpp2.Lib.ByteLayout
import Mathlib.Data.List.AList

/-!
# Frames of the multiplexed session

Every frame is a 9-byte packed header (`seq`, `cmd`, `connection_id`, multi-byte fields in network
order) followed by the payload.
-/

namespace OpenPpp2.Mux

open Lib.BigEndian

abbrev ConnectionId := BitVec 32

abbrev SeqNumber := BitVec 32

inductive Cmd
  | syn
  | synOk
  | push
  | fin
  | keepAlived
  | acceleration
  | muxModeSet
  | ack
  | fec
  deriving DecidableEq, Repr

namespace Cmd

/-- `cmd_none` is `'E' - 1`; the commands follow it contiguously. -/
def code : Cmd → Nat
  | syn => 69
  | synOk => 70
  | push => 71
  | fin => 72
  | keepAlived => 73
  | acceleration => 74
  | muxModeSet => 75
  | ack => 76
  | fec => 77

def isPerFlowData : Cmd → Bool
  | push | fin => true
  | _ => false

def isSessionControl : Cmd → Bool
  | keepAlived | muxModeSet => true
  | _ => false

def isConnectionControl : Cmd → Bool
  | syn | synOk | acceleration => true
  | _ => false

def isReliabilityControl : Cmd → Bool
  | ack | fec => true
  | _ => false

theorem exactly_one_class (cmd : Cmd) :
    [cmd.isPerFlowData, cmd.isSessionControl, cmd.isConnectionControl,
      cmd.isReliabilityControl].count true = 1 := by
  cases cmd <;> rfl

theorem not_isPerFlowData {cmd : Cmd} (control : cmd.isReliabilityControl) :
    cmd.isPerFlowData = false := by
  cases cmd <;> first | rfl | cases control

end Cmd

/-- `sizeof(vmux_hdr)` -/
def headerSize : Nat := 9

/-- `max_buffers_size = UINT16_MAX - sizeof(vmux_hdr)` -/
def maxBuffersSize : Nat := 65535 - headerSize

structure Frame where
  seq : SeqNumber
  cmd : Cmd
  connectionId : ConnectionId
  payload : List UInt8
  deriving DecidableEq, Repr

namespace Frame

def push (cid : ConnectionId) (seq : SeqNumber) (payload : List UInt8) : Frame :=
  { seq := seq, cmd := .push, connectionId := cid, payload := payload }

def fin (cid : ConnectionId) (seq : SeqNumber) : Frame :=
  { seq := seq, cmd := .fin, connectionId := cid, payload := [] }

def length (frame : Frame) : Nat := headerSize + frame.payload.length

def bytes (frame : Frame) : List UInt8 :=
  bigEndian 4 frame.seq.toNat ++ UInt8.ofNat frame.cmd.code ::
    bigEndian 4 frame.connectionId.toNat ++ frame.payload

@[simp] theorem bytes_length (frame : Frame) : frame.bytes.length = frame.length := by
  simp only [bytes, length, headerSize, List.length_append, List.length_cons, bigEndian_length]

theorem length_pos (frame : Frame) : 0 < frame.length := by
  simp only [length, headerSize]
  omega

def wellSized (frame : Frame) : Bool :=
  headerSize ≤ frame.length && frame.length ≤ headerSize + maxBuffersSize

end Frame

/-- `std::numeric_limits<std::size_t>::max()` -/
def sizeMax : Nat := 2 ^ 64 - 1

def reorderHardFactor : Nat := 2

def rtxHardFactor : Nat := 2

def txFlowQuantum : Nat := 16 * 1024

def txFlowMaxVisit : Nat := 8

def txFlowMaxFrames : Nat := 256

def txFlowMaxBytes : Nat := 1024 * 1024

def txCtrlMax : Nat := 256

def txQueueHighWater : Nat := 4096

def linkByteHighWater : Nat := 256 * 1024

def flowMaxContexts : Nat := 4096

def ackMaxRanges : Nat := 24

def ackMaxBlocks : Nat := 8

def fecMaxFrame : Nat := 60000

def fecWindowGroups : Nat := 64

def fecCacheMaxBytes : Nat := 4 * 1024 * 1024

/-- The common shape of `MuxReorderHardCap` and `MuxTxHardCap`: a soft bound
times a factor, saturating. -/
def hardCap (soft factor : Nat) : Nat :=
  let factor := if factor < 1 then 1 else factor
  if soft > sizeMax / factor then sizeMax else soft * factor

inductive ReorderAdmit
  | accept
  | acceptAndPause
  | reject
  deriving DecidableEq, Repr

def admitReorderBytes (buffered incoming softCap hardFactor : Nat) : ReorderAdmit :=
  if softCap = 0 then .accept
  else
    let total := if incoming > sizeMax - buffered then sizeMax else buffered + incoming
    if total ≤ softCap then .accept
    else if total ≤ hardCap softCap hardFactor then .acceptAndPause
    else .reject

theorem le_hardCap {value soft factor : Nat} (withinSoft : value ≤ soft)
    (counted : value ≤ sizeMax) : value ≤ hardCap soft factor := by
  have one : 1 ≤ if factor < 1 then 1 else factor := by split_ifs <;> omega
  simp only [hardCap]
  generalize (if factor < 1 then 1 else factor) = scale at one ⊢
  split_ifs
  · exact counted
  · calc value ≤ soft * 1 := by omega
      _ ≤ soft * scale := Nat.mul_le_mul_left soft one

theorem le_hardCap_of_admit {buffered incoming soft factor : Nat} (fits : incoming ≤ soft)
    (positive : 0 < incoming) (counted : buffered + incoming ≤ sizeMax)
    (admitted : admitReorderBytes buffered incoming soft factor ≠ .reject) :
    buffered + incoming ≤ hardCap soft factor := by
  have capped : soft ≠ 0 := by omega
  have exact_total : ¬ incoming > sizeMax - buffered := by omega
  simp only [admitReorderBytes, if_neg capped, if_neg exact_total] at admitted
  split_ifs at admitted with low high
  · exact le_hardCap low counted
  · exact high
  · exact absurd rfl admitted

def reorderShouldResume (buffered softCap : Nat) : Bool := softCap = 0 || buffered ≤ softCap / 2

def pauseWouldStallAll (paused live : Nat) : Bool := live = 0 || paused ≥ live

def gapClockOnBuffered (since now : Nat) : Nat := if since = 0 then now else since

def gapClockAfterAdvance (now : Nat) (stillBuffered : Bool) : Nat :=
  if stillBuffered then now else 0

inductive FlowContextAdmission
  | allowExisting
  | allowCreate
  | rejectUnknown
  | rejectCap
  | rejectZero
  deriving DecidableEq, Repr

def admitFlowContext (connectionId : ConnectionId) (alreadyTracked socketExists : Bool)
    (currentContexts contextCap : Nat) : FlowContextAdmission :=
  if connectionId = 0 then .rejectZero
  else if alreadyTracked then .allowExisting
  else if !socketExists then .rejectUnknown
  else if contextCap > 0 ∧ currentContexts ≥ contextCap then .rejectCap
  else .allowCreate

inductive TxAdmit
  | send
  | holdSession
  | holdFlow
  deriving DecidableEq, Repr

def txFitsWindow (inflight incoming window : Nat) : Bool :=
  if window = 0 || inflight = 0 then true
  else incoming ≤ window && inflight ≤ window - incoming

def admitTxFrame (sessionInflight flowInflight incoming sessionWindow flowWindow : Nat) : TxAdmit :=
  if incoming = 0 then .send
  else if !txFitsWindow flowInflight incoming flowWindow then .holdFlow
  else if !txFitsWindow sessionInflight incoming sessionWindow then .holdSession
  else .send

def txOverHardCap (inflight incoming window hardFactor : Nat) : Bool :=
  if window = 0 then false
  else
    let hard := hardCap window hardFactor
    incoming > hard || inflight > hard - incoming

def txShouldCoupleCompletion (sessionFrames sessionHighWater : Nat) (flowParked : Bool)
    (flowFrames flowBytes flowMaxFrames flowMaxBytes : Nat) : Bool :=
  if sessionHighWater > 0 ∧ sessionFrames ≥ sessionHighWater then true
  else if flowParked then true
  else if flowMaxFrames > 0 ∧ flowFrames ≥ flowMaxFrames / 2 then true
  else decide (flowMaxBytes > 0 ∧ flowBytes ≥ flowMaxBytes / 2)

structure LinkLoad where
  queuedBytes : Nat
  srttMs : Nat
  hasRtt : Bool
  hasCredit : Bool
  deriving DecidableEq, Repr

def rttTieMarginMs : Nat := 10

def displaces (load best : LinkLoad) : Bool :=
  if load.queuedBytes ≠ best.queuedBytes then load.queuedBytes < best.queuedBytes
  else load.hasRtt && best.hasRtt && load.srttMs + rttTieMarginMs < best.srttMs

def pickLeastLoaded (loads : List LinkLoad) : Option Nat :=
  let folded := loads.foldl
    (fun (state : Nat × Option (Nat × LinkLoad)) load =>
      (state.1 + 1,
        if !load.hasCredit then state.2
        else
          match state.2 with
          | none => some (state.1, load)
          | some best => if displaces load best.2 then some (state.1, load) else some best))
    (0, none)
  folded.2.map Prod.fst

inductive FlowControlAction
  | none
  | sendXon
  | sendXoff
  deriving DecidableEq, Repr

def flowControlNext (peerRunning : Bool) (backlog threshold : Int) : FlowControlAction :=
  if threshold < 1 then .none
  else if peerRunning then
    if backlog ≥ threshold then .sendXoff else .none
  else if backlog ≤ threshold / 2 then .sendXon
  else .none

def flowControlIsFresh (haveLast : Bool) (last version : BitVec 32) : Bool :=
  if !haveLast then true else (version - last).toInt > 0

abbrev CarrierKey := Nat

/-- `vmux_linklayer`. `linked` is `connection->IsLinked()`. -/
structure Carrier where
  id : Nat
  queuedBytes : Nat
  linked : Bool
  handshakeComplete : Bool
  retiring : Bool
  inTxLinks : Bool
  exited : Bool
  lastActive : Nat
  srttMs : Nat
  rttvarMs : Nat
  minRttMs : Nat
  hasRttSample : Bool
  rxPaused : Bool
  rxPausedSince : Nat
  deriving DecidableEq, Repr

namespace Carrier

def attached : Carrier :=
  { id := 0
    queuedBytes := 0
    linked := true
    handshakeComplete := false
    retiring := false
    inTxLinks := true
    exited := false
    lastActive := 0
    srttMs := 0
    rttvarMs := 0
    minRttMs := 0
    hasRttSample := false
    rxPaused := false
    rxPausedSince := 0 }

def schedulable (carrier : Carrier) : Bool := carrier.handshakeComplete && !carrier.retiring

def hasByteCredit (carrier : Carrier) (length : Nat) : Bool :=
  if length > linkByteHighWater then carrier.queuedBytes = 0
  else carrier.queuedBytes + length ≤ linkByteHighWater

/-- `is_linklayer_active` -/
def isActive (carrier : Carrier) : Bool := carrier.schedulable && carrier.linked

/-- The per-link RTT update of `packet_input_ack`. -/
def sampleRtt (carrier : Carrier) (sample : Nat) : Carrier :=
  if !carrier.hasRttSample then
    { carrier with
      srttMs := sample
      rttvarMs := sample / 2
      minRttMs := sample
      hasRttSample := true }
  else
    let distance :=
      if carrier.srttMs ≥ sample then carrier.srttMs - sample else sample - carrier.srttMs
    { carrier with
      rttvarMs := (carrier.rttvarMs * 3 + distance) / 4
      srttMs := (carrier.srttMs * 7 + sample) / 8
      minRttMs := if sample < carrier.minRttMs then sample else carrier.minRttMs }

end Carrier

structure Carriers where
  table : AList fun _ : CarrierKey => Carrier
  rxLinks : List CarrierKey
  txLinks : List CarrierKey
  rxPausedLinks : List CarrierKey
  stripeCursor : Nat

namespace Carriers

def empty : Carriers :=
  { table := ∅
    rxLinks := []
    txLinks := []
    rxPausedLinks := []
    stripeCursor := 0 }

def modify (links : Carriers) (key : CarrierKey) (change : Carrier → Carrier) : Carriers :=
  match links.table.lookup key with
  | none => links
  | some carrier => { links with table := links.table.insert key (change carrier) }

/-- `attach_linklayer_locked` -/
def attach (links : Carriers) (key : CarrierKey) : Carriers :=
  { links with
    table := links.table.insert key Carrier.attached
    txLinks := links.txLinks ++ [key]
    rxLinks := links.rxLinks ++ [key] }

/-- `count_live_carriers` -/
def countLive (links : Carriers) (except : Option CarrierKey) : Nat :=
  (links.rxLinks.filter fun key =>
    some key ≠ except && ((links.table.lookup key).map Carrier.schedulable).getD false).length

def txLinkOffer (links : Carriers) (key : CarrierKey) : Carriers :=
  match links.table.lookup key with
  | none => links
  | some carrier =>
    if carrier.inTxLinks || carrier.retiring || carrier.queuedBytes ≥ linkByteHighWater then links
    else
      { links with
        table := links.table.insert key { carrier with inTxLinks := true }
        txLinks := links.txLinks ++ [key] }

def txLinkWithdraw (links : Carriers) (key : CarrierKey) : Carriers :=
  match links.table.lookup key with
  | none => links
  | some carrier =>
    if !carrier.inTxLinks then links
    else
      { links with
        table := links.table.insert key { carrier with inTxLinks := false }
        txLinks := links.txLinks.filter (· ≠ key) }

/-- The withdrawal that ends `tx_send_on`: a full carrier leaves the list until
its write completes. -/
def withdrawIfFull (links : Carriers) (key : CarrierKey) : Carriers :=
  match links.table.lookup key with
  | none => links
  | some carrier =>
    if carrier.queuedBytes ≥ linkByteHighWater then links.txLinkWithdraw key else links

def load (length : Nat) (carrier : Carrier) : LinkLoad :=
  { queuedBytes := carrier.queuedBytes
    srttMs := carrier.srttMs
    hasRtt := carrier.hasRttSample
    hasCredit := !carrier.retiring && carrier.hasByteCredit length }

/-- `tx_link_pick`: the least loaded listed carrier, rotated to the back. -/
def txLinkPick (links : Carriers) (length : Nat) : Option CarrierKey × Carriers :=
  let listed := links.txLinks.filterMap fun key =>
    (links.table.lookup key).map fun carrier => (key, load length carrier)
  match (pickLeastLoaded (listed.map Prod.snd)).bind fun index => listed[index]? with
  | none => (none, links)
  | some chosen =>
    (some chosen.1, { links with txLinks := links.txLinks.filter (· ≠ chosen.1) ++ [chosen.1] })

def stripedScan (links : Carriers) : Nat → Nat → Option CarrierKey × Nat
  | 0, cursor => (none, cursor)
  | remaining + 1, cursor =>
    let candidate := links.rxLinks[cursor % links.rxLinks.length]?
    let active := (candidate.bind links.table.lookup).map Carrier.isActive
    if active.getD false then (candidate, cursor + 1)
    else stripedScan links remaining (cursor + 1)

/-- `select_striped_linklayer` -/
def selectStriped (links : Carriers) : Option CarrierKey × Carriers :=
  let found := links.stripedScan links.rxLinks.length links.stripeCursor
  (found.1, { links with stripeCursor := found.2 })

/-- `select_turbo_linklayer`: fewest bytes in flight, then most recent. -/
def selectTurbo (links : Carriers) : Option CarrierKey :=
  (links.rxLinks.foldl
    (fun (best : Option (CarrierKey × Carrier)) key =>
      match links.table.lookup key with
      | none => best
      | some carrier =>
        if !carrier.isActive || !carrier.hasByteCredit headerSize then best
        else
          match best with
          | none => some (key, carrier)
          | some held =>
            if carrier.queuedBytes < held.2.queuedBytes ||
                (carrier.queuedBytes = held.2.queuedBytes &&
                  held.2.lastActive ≤ carrier.lastActive) then some (key, carrier)
            else best)
    none).map Prod.fst

def rxResumeAllLinks (links : Carriers) : Carriers :=
  let resumed := links.rxPausedLinks.foldl
    (fun (state : Carriers) key => state.modify key fun carrier => { carrier with rxPaused := false })
    links
  { resumed with rxPausedLinks := [] }

def rxReleaseIfStalled (links : Carriers) : Carriers :=
  if links.rxPausedLinks.isEmpty then links
  else
    let pausedLive := (links.rxPausedLinks.filter fun key =>
      ((links.table.lookup key).map fun carrier =>
        carrier.schedulable && carrier.rxPaused).getD false).length
    if pauseWouldStallAll pausedLive (links.countLive none) then links.rxResumeAllLinks else links

def rxPauseLink (links : Carriers) (key : CarrierKey) (now : Nat) : Carriers :=
  match links.table.lookup key with
  | none => links
  | some carrier =>
    if !carrier.schedulable || carrier.rxPaused then links
    else
      rxReleaseIfStalled
        { links with
          table := links.table.insert key
            { carrier with
              rxPaused := true
              rxPausedSince := now }
          rxPausedLinks :=
            if key ∈ links.rxPausedLinks then links.rxPausedLinks
            else links.rxPausedLinks ++ [key] }

/-- `remove_linklayer` and `rx_forget_paused_link`, as `on_link_exit` runs them. -/
def exit (links : Carriers) (key : CarrierKey) : Carriers :=
  let retired := links.modify key fun carrier =>
    { carrier with
      exited := true
      retiring := true }
  let removed := txLinkWithdraw
    { retired with rxLinks := retired.rxLinks.filter (· ≠ key) } key
  let forgotten := removed.modify key fun carrier =>
    { carrier with
      rxPaused := false
      linked := false }
  rxReleaseIfStalled
    { forgotten with rxPausedLinks := forgotten.rxPausedLinks.filter (· ≠ key) }

end Carriers

end OpenPpp2.Mux
