import OpenPpp2.Lib.CircularOrder
import OpenPpp2.Lib.OrderedMap
import OpenPpp2.Mux.Session

/-!
# The receive path

An arriving frame goes to `packet_input_flow` under flow v2 and to `packet_input_unorder` under
compat.
-/

namespace OpenPpp2.Mux

open Lib.BigEndian Lib.CircularOrder Lib.OrderedMap

def parseModeByte (value : UInt8) : MuxMode :=
  if value = 1 then .flow
  else if value = 2 then .balance
  else if value = 3 then .stripe
  else .compat

namespace Config

def flowHardCap (config : Config) : Nat := hardCap config.flowReorderCapBytes reorderHardFactor

def sessionHardCap (config : Config) : Nat :=
  hardCap config.sessionReorderCapBytes reorderHardFactor

/-- `std::max<size_t>(1, flow_hard_cap / sizeof(vmux_hdr))` -/
def entryCap (config : Config) : Nat := max 1 (config.flowHardCap / headerSize)

end Config

namespace Skt

/-- `connect_ok` on a socket that still owns its local end. -/
def connectOk (skt : Skt) (successed : Bool) : Skt :=
  if !successed then { skt with fin := true }
  else if skt.connected then skt
  else
    { skt with
      fin := false
      connected := true }

/-- `tx_acceleration`; a stale version leaves the socket alone. -/
def txAccelerate (skt : Skt) (acceleration : Bool) (version : Option (BitVec 32)) : Skt :=
  match version with
  | none => { skt with txAcceleration := acceleration }
  | some version =>
    if !flowControlIsFresh skt.fcRxVersioned skt.fcRxVersion version then skt
    else
      { skt with
        fcRxVersioned := true
        fcRxVersion := version
        txAcceleration := acceleration }

end Skt

namespace FlowRx

def prime (fx : FlowRx) : FlowRx :=
  if fx.primed then fx
  else
    { fx with
      primed := true
      flowRxNext := 1 }

/-- One frame handed to `deliver_one`. -/
def pass (fx : FlowRx) (frame : Frame) : FlowRx :=
  { fx with
    finSeen := fx.finSeen || frame.cmd = Cmd.fin
    flowRxNext := fx.flowRxNext + 1 }

def drain : Nat → FlowRx → List Frame × FlowRx
  | 0, fx => ([], fx)
  | fuel + 1, fx =>
    match fx.flowReorder.take fx.flowRxNext with
    | none => ([], fx)
    | some (entry, rest) =>
      let later := drain fuel (pass { fx with flowReorder := rest } entry.value)
      (entry.value :: later.1, later.2)

def advance (fx : FlowRx) (frame : Frame) (now : Nat) : List Frame × FlowRx :=
  let drained := drain fx.flowReorder.size (fx.pass frame)
  (frame :: drained.1,
    { drained.2 with
      oldestBufferedTick := gapClockAfterAdvance now (!drained.2.flowReorder.isEmpty) })

end FlowRx

/-- What `packet_input_flow` decides about a data frame. `fx` is the primed
context; `victim` is the connection reset to make room, zero for none. -/
inductive FlowVerdict
  | unknown
  | stale (fx : FlowRx)
  | inOrder (fx : FlowRx)
  | invalid (fx : FlowRx)
  | reset (fx : FlowRx) (victim : ConnectionId)
  | drop (fx : FlowRx) (victim : ConnectionId)
  | store (fx : FlowRx) (victim : ConnectionId)

namespace Session

def linklayerUpdate (s : Session) (link : Option CarrierKey) (now : Nat) : Session :=
  match link with
  | none => s
  | some key =>
    { s with links := s.links.modify key fun carrier => { carrier with lastActive := now } }

/-- `rx_pause_link`, a no-op without a carrier. -/
def rxPause (s : Session) (link : Option CarrierKey) (now : Nat) : Session :=
  match link with
  | none => s
  | some key => { s with links := s.links.rxPauseLink key now }

def packetInputMuxModeSet (s : Session) (payload : List UInt8) (now : Nat) : Session :=
  match payload with
  | requested :: keyLength :: rest =>
    if s.config.debugKey.isEmpty || keyLength = 0 || rest.length < keyLength.toNat ||
        rest.take keyLength.toNat ≠ s.config.debugKey ||
        (s.muxModeSetLastAccept ≠ 0 && now - s.muxModeSetLastAccept < 1000) then s
    else
      let mode := parseModeByte requested
      { s with
        mode := mode
        links := if s.mode = mode then s.links else { s.links with stripeCursor := 0 }
        muxModeSetLastAccept := now }
  | _ => s

/-- `packet_input` for everything but ACK and FEC frames. -/
def packetInput (s : Session) (frame : Frame) (now : Nat) : Session :=
  match frame.cmd with
  | .syn => s.register frame.connectionId
  | .synOk =>
    match frame.payload with
    | [] => s
    | err :: _ => s.modifySkt frame.connectionId fun skt => skt.connectOk (err = 65)
  | .acceleration =>
    let acceleration := (frame.payload.head?.map fun flag => flag != 0).getD true
    let version :=
      if frame.payload.length ≥ 5 then
        some (BitVec.ofNat 32 (ofBigEndian ((frame.payload.drop 1).take 4)))
      else none
    s.modifySkt frame.connectionId fun skt => skt.txAccelerate acceleration version
  | .muxModeSet => s.packetInputMuxModeSet frame.payload now
  | .push | .fin | .keepAlived | .ack | .fec => s

def tryGetOrCreateFlow (s : Session) (cid : ConnectionId) : Option FlowRx :=
  let cap := if s.config.flowContextCap > 0 then s.config.flowContextCap else flowMaxContexts
  match admitFlowContext cid (s.flows.lookup cid).isSome (s.hasConnection cid)
      s.flows.entries.length cap with
  | .allowExisting | .allowCreate => some ((s.flows.lookup cid).getD FlowRx.fresh)
  | .rejectUnknown | .rejectCap | .rejectZero => none

def olderGap (best : ConnectionId × Nat) (entry : Sigma fun _ : ConnectionId => FlowRx) :
    ConnectionId × Nat :=
  if entry.2.flowReorder.isEmpty || entry.2.oldestBufferedTick = 0 then best
  else if best.2 = 0 || entry.2.oldestBufferedTick < best.2 then
    (entry.1, entry.2.oldestBufferedTick)
  else best

def oldestVictim (s : Session) : ConnectionId := (s.flows.entries.foldl olderGap (0, 0)).1

def flowAdmit (s : Session) (fx : FlowRx) (frame : Frame) : ReorderAdmit :=
  admitReorderBytes fx.flowReorder.bufferedBytes frame.length s.config.flowReorderCapBytes
    reorderHardFactor

def sessionAdmit (s : Session) (frame : Frame) : ReorderAdmit :=
  admitReorderBytes s.sessionReorderBytes frame.length s.config.sessionReorderCapBytes
    reorderHardFactor

/-- The connection reset before this frame is held: none unless the session is
past its hard cap. -/
def victimFor (s : Session) (frame : Frame) : ConnectionId :=
  if s.sessionAdmit frame = .reject then s.oldestVictim else 0

def stillCrowded (s : Session) (frame : Frame) : Bool :=
  let victim := s.victimFor frame
  let freed := if victim = 0 then 0 else s.bufferedBytesOf victim
  s.sessionAdmit frame = .reject &&
    s.sessionReorderBytes - freed + frame.length > s.config.sessionHardCap

def futureVerdict (s : Session) (fx : FlowRx) (frame : Frame) : FlowVerdict :=
  if !frame.wellSized then .invalid fx
  else if frame.length > s.config.flowReorderCapBytes then .reset fx 0
  else if s.flowAdmit fx frame = .reject && !fx.flowReorder.isEmpty then .reset fx 0
  else if s.sessionAdmit frame = .reject && !fx.flowReorder.isEmpty then .reset fx 0
  else if s.stillCrowded frame then .drop fx (s.victimFor frame)
  else if fx.flowReorder.size ≥ s.config.entryCap then .reset fx (s.victimFor frame)
  else .store fx (s.victimFor frame)

def flowVerdict (s : Session) (frame : Frame) : FlowVerdict :=
  match s.tryGetOrCreateFlow frame.connectionId with
  | none => .unknown
  | some found =>
    let fx := found.prime
    if frame.seq = fx.flowRxNext then .inOrder fx
    else if before fx.flowRxNext frame.seq then s.futureVerdict fx frame
    else .stale fx

def keepFlow (s : Session) (cid : ConnectionId) (fx : FlowRx) : Session :=
  { s with flows := s.flows.insert cid fx }

def evictVictim (s : Session) (victim : ConnectionId) : Session :=
  if victim = 0 then s else s.failFlow victim

def maybeReleaseFlow (s : Session) (cid : ConnectionId) (fx : FlowRx) : Session :=
  if fx.finSeen && fx.flowReorder.isEmpty then
    { s with
      flows := s.flows.erase cid
      txFlowSeq := s.txFlowSeq.erase cid
      rtx := if s.isFlowV2 then s.rtx.eraseCid cid else s.rtx
      ackTrackers := if s.isFlowV2 then s.ackTrackers.erase cid else s.ackTrackers
      fecStore := if s.config.fec then s.fecStore.dropCid cid else s.fecStore
      log := { s.log with ended := Function.update s.log.ended cid true } }
  else s

def deliverAll (s : Session) (cid : ConnectionId) (frames : List Frame) : Session :=
  { s with
    log := { s.log with
      delivered := Function.update s.log.delivered cid
        (s.log.delivered cid ++ frames.map Frame.seq) } }

/-- The in-order branch. The frame itself was never buffered; the replayed ones
give their bytes back. -/
def acceptInOrder (s : Session) (fx : FlowRx) (frame : Frame) (now : Nat) : Session :=
  let cid := frame.connectionId
  let advanced := fx.advance frame now
  let delivered := (s.keepFlow cid advanced.2).deliverAll cid advanced.1
  let credited := delivered.noteFlowUnbuffered (advanced.1.tail.map Frame.length).sum
  (credited.maybeReleaseFlow cid advanced.2).rxMaybeResume

/-- The buffering branch after every check passed; `TryInsert` still refuses a
duplicate. -/
def bufferFrame (s : Session) (fx : FlowRx) (frame : Frame) (pressed paused : Bool)
    (link : Option CarrierKey) (now : Nat) : Session :=
  let cid := frame.connectionId
  match fx.flowReorder.tryInsert frame.seq fx.flowRxNext frame frame.length s.config.flowHardCap
      s.config.entryCap with
  | none => s
  | some reorder =>
    let stored := (s.keepFlow cid
      { fx with
        flowReorder := reorder
        oldestBufferedTick := gapClockOnBuffered fx.oldestBufferedTick now }).noteFlowBuffered
          frame.length
    let marked := { stored with
      rxPressureFlows :=
        if pressed && cid ∉ s.rxPressureFlows then s.rxPressureFlows ++ [cid]
        else s.rxPressureFlows }
    if paused then marked.rxPause link now else marked

def packetInputFlowData (s : Session) (frame : Frame) (link : Option CarrierKey) (now : Nat) :
    Session × Bool :=
  let cid := frame.connectionId
  match s.flowVerdict frame with
  | .unknown => (s.linklayerUpdate link now, true)
  | .stale fx => (s.keepFlow cid fx, true)
  | .inOrder fx => ((s.acceptInOrder fx frame now).linklayerUpdate link now, true)
  | .invalid fx => (s.keepFlow cid fx, false)
  | .reset fx victim =>
    ((((s.keepFlow cid fx).evictVictim victim).failFlow cid).linklayerUpdate link now, true)
  | .drop fx victim =>
    (((s.keepFlow cid fx).evictVictim victim).linklayerUpdate link now, true)
  | .store fx victim =>
    let pressed := s.flowAdmit fx frame = .acceptAndPause
    let paused := pressed || s.sessionAdmit frame = .acceptAndPause
    ((((s.keepFlow cid fx).evictVictim victim).bufferFrame fx frame pressed paused link
      now).linklayerUpdate link now, true)

def packetInputFlow (s : Session) (frame : Frame) (link : Option CarrierKey) (now : Nat) :
    Session × Bool :=
  if s.disposed then (s, false)
  else if frame.cmd.isPerFlowData then s.packetInputFlowData frame link now
  else ((s.packetInput frame now).linklayerUpdate link now, true)

/-- The replay loop of `packet_input_unorder`: the frames at the front of the
queue that continue from `ack`, and the rest. -/
def replay (ack : SeqNumber) : List (SeqNumber × Frame) → List Frame × List (SeqNumber × Frame)
  | [] => ([], [])
  | entry :: rest =>
    if ack = entry.1 then
      let later := replay (ack + 1) rest
      (entry.2 :: later.1, later.2)
    else ([], entry :: rest)

/-- The in-order branch: dispatch the frame and everything it makes contiguous. -/
def dispatchInOrder (s : Session) (frame : Frame) (now : Nat) : Session :=
  let replayed := replay (s.rxAck + 1) s.rxQueue
  let frames := frame :: replayed.1
  let advanced := ({ s with
    rxQueue := replayed.2
    rxAck := s.rxAck + BitVec.ofNat 32 frames.length
    rxGapOldestTick := gapClockAfterAdvance now (!replayed.2.isEmpty)
    log := { s.log with dispatched := s.log.dispatched ++ frames } } :
      Session).noteFlowUnbuffered (replayed.1.map Frame.length).sum
  (frames.foldl (fun state dispatched => state.packetInput dispatched now) advanced).rxMaybeResume

def queueUnorder (s : Session) (frame : Frame) (link : Option CarrierKey) (now : Nat) :
    Session × Bool :=
  match emplace before frame.seq frame s.rxQueue with
  | (_, false) => (s, false)
  | (queue, true) =>
    let stored := { s with
      rxQueue := queue
      rxGapOldestTick := gapClockOnBuffered s.rxGapOldestTick now
      flowAggregateBytes := s.flowAggregateBytes + frame.length
      sessionReorderBytes := s.sessionReorderBytes + frame.length }
    (if s.sessionAdmit frame = .acceptAndPause then stored.rxPause link now else stored, true)

/-- The future branch: past its hard cap the session is rebuilt, and a duplicate
is an error unless reliability was negotiated. -/
def bufferUnorder (s : Session) (frame : Frame) (link : Option CarrierKey) (now : Nat) :
    Session × Bool :=
  if !frame.wellSized then (s, false)
  else if s.sessionAdmit frame = .reject then ((s.closeExec now).linklayerUpdate link now, true)
  else
    let queued := s.queueUnorder frame link now
    (queued.1.linklayerUpdate link now, queued.2 || s.config.reliability)

def packetInputUnorder (s : Session) (frame : Frame) (link : Option CarrierKey) (now : Nat) :
    Session × Bool :=
  if s.disposed then (s, false)
  else if frame.cmd.isReliabilityControl then (s.linklayerUpdate link now, true)
  else if s.rxAck = frame.seq then ((s.dispatchInOrder frame now).linklayerUpdate link now, true)
  else if before s.rxAck frame.seq then s.bufferUnorder frame link now
  else if s.config.reliability then (s.linklayerUpdate link now, true)
  else (s, false)

end Session

open List ReorderBuffer

namespace FlowRx

/-- Every held frame sits under its own number and is accounted at its length. -/
def Stamped (fx : FlowRx) : Prop :=
  ∀ key entry, fx.flowReorder.packets.lookup key = some entry →
    entry.value.seq = key ∧ entry.bytes = entry.value.length

theorem stamped_fresh : fresh.Stamped := by
  intro key entry found
  simp [fresh, empty] at found

variable {fx after : FlowRx} {entry : ReorderEntry Frame} {frame : Frame}

theorem Stamped.congr (stamped : fx.Stamped)
    (same : after.flowReorder = fx.flowReorder) : after.Stamped := by
  intro key entry found
  exact stamped key entry (same ▸ found)

theorem Stamped.take (stamped : fx.Stamped)
    (taken : fx.flowReorder.take fx.flowRxNext = some (entry, after.flowReorder)) :
    after.Stamped := by
  obtain ⟨_, packets, _⟩ := take_eq_some taken
  intro key held found
  rw [packets] at found
  by_cases same : key = fx.flowRxNext
  · subst same
    simp at found
  · exact stamped key held (by rwa [AList.lookup_erase_ne same] at found)

theorem Stamped.tryInsert {byteCap entryCap : Nat} (stamped : fx.Stamped)
    (inserted : fx.flowReorder.tryInsert frame.seq fx.flowRxNext frame frame.length byteCap
      entryCap = some after.flowReorder) : after.Stamped := by
  obtain ⟨_, packets, _⟩ := tryInsert_eq_some inserted
  intro key held found
  rw [packets] at found
  by_cases same : key = frame.seq
  · subst same
    rw [AList.lookup_insert] at found
    obtain rfl := Option.some.inj found
    exact ⟨rfl, rfl⟩
  · exact stamped key held (by rwa [AList.lookup_insert_ne same] at found)

theorem prime_flowReorder (fx : FlowRx) : fx.prime.flowReorder = fx.flowReorder := by
  unfold prime
  split_ifs <;> rfl

theorem prime_primed (fx : FlowRx) : fx.prime.primed := by
  unfold prime
  split_ifs with primed
  · exact primed
  · rfl

theorem prime_of_primed (primed : fx.primed) : fx.prime = fx := by
  rw [prime, if_pos primed]

/-- What delivering a run of frames leaves behind; `credited` are those of them
that were held. -/
structure Replayed (fx : FlowRx) (frames credited : List Frame) (after : FlowRx) : Prop where
  primed : after.primed = fx.primed
  stamped : after.Stamped
  numbers : frames.map Frame.seq = consecutive fx.flowRxNext frames.length
  next : after.flowRxNext = fx.flowRxNext + BitVec.ofNat 32 frames.length
  bytes : fx.flowReorder.bufferedBytes =
    (credited.map Frame.length).sum + after.flowReorder.bufferedBytes
  kept : ∀ seq, fx.flowReorder.Holds seq → seq ∈ frames.map Frame.seq ∨ after.flowReorder.Holds seq

theorem Replayed.nil (stamped : fx.Stamped) : Replayed fx [] [] fx where
  primed := rfl
  stamped := stamped
  numbers := rfl
  next := by simp
  bytes := by simp
  kept _ held := Or.inr held

theorem Replayed.cons {rest : ReorderBuffer Frame} {frames : List Frame} (stamped : fx.Stamped)
    (taken : fx.flowReorder.take fx.flowRxNext = some (entry, rest))
    (later : Replayed (pass { fx with flowReorder := rest } entry.value) frames frames after) :
    Replayed fx (entry.value :: frames) (entry.value :: frames) after := by
  obtain ⟨found, _, bytes⟩ := take_eq_some taken
  obtain ⟨seq, length⟩ := stamped _ _ found
  refine ⟨later.primed, later.stamped, ?_, ?_, ?_, ?_⟩
  · rw [map_cons, seq, later.numbers, length_cons, consecutive_cons]
    rfl
  · rw [later.next, length_cons, Nat.add_comm, BitVec.ofNat_add, ← BitVec.add_assoc]
    rfl
  · have laterBytes : rest.bufferedBytes = _ := later.bytes
    rw [bytes, laterBytes, length, map_cons, sum_cons]
    omega
  · intro other held
    by_cases same : other = fx.flowRxNext
    · exact .inl (by simp [seq, same])
    · rcases later.kept other ((holds_take taken other).mpr ⟨same, held⟩) with
        delivered | held
      · exact .inl (mem_cons_of_mem _ delivered)
      · exact .inr held

theorem replayed_drain (fuel : Nat) (stamped : fx.Stamped) :
    Replayed fx (drain fuel fx).1 (drain fuel fx).1 (drain fuel fx).2 := by
  fun_induction drain fuel fx with
  | case1 | case2 => exact .nil stamped
  | case3 fx fuel entry rest taken =>
    rename_i ih
    exact .cons stamped taken (ih (stamped.take taken))

theorem replayed_advance (now : Nat) (stamped : fx.Stamped) (inOrder : frame.seq = fx.flowRxNext) :
    Replayed fx (fx.advance frame now).1 (fx.advance frame now).1.tail
      (fx.advance frame now).2 := by
  have replayed := replayed_drain fx.flowReorder.size (stamped.congr rfl : (fx.pass frame).Stamped)
  refine ⟨replayed.primed, replayed.stamped.congr rfl, ?_, ?_, replayed.bytes, ?_⟩
  · have numbers := replayed.numbers
    simp only [advance, map_cons, inOrder, length_cons, consecutive_cons, numbers]
    rfl
  · have next := replayed.next
    simp only [advance, length_cons, next]
    rw [Nat.add_comm _ 1, BitVec.ofNat_add, ← BitVec.add_assoc]
    rfl
  · intro seq held
    rcases replayed.kept seq held with delivered | held
    · exact .inl (mem_cons_of_mem _ delivered)
    · exact .inr held

end FlowRx

end OpenPpp2.Mux
