import OpenPpp2.Mux.Arrival
import OpenPpp2.Mux.Posting

/-!
# What a step does to the transmit side

The inversion lemma of the transmit path: `Session.txMoves_step` writes every
step as a sequence of elementary moves. What the step may lose on the way is
computed from the state before it.
-/

namespace OpenPpp2.Mux

namespace Session

variable {rules : TxRules}

variable (s : Session) (cid : ConnectionId) (fx : FlowRx) (frame : Frame) (link : Option CarrierKey)
    (now : Nat) (hand : Hand) (answers : PostAnswers)

theorem carries_register : Carries rules s hand (s.register cid) hand := by
  unfold register
  split_ifs
  · exact .move (TxMove.enter s.sendSide hand cid)
  · exact .of_eq rfl

theorem carries_releaseConnection {s : Session} {cid : ConnectionId}
    (permitted : s.hasConnection cid → ∀ packet ∈ s.tx.queueOf cid, rules.mayDrop packet) :
    Carries rules s .empty (s.releaseConnection cid) .empty := by
  unfold releaseConnection
  split
  · exact .of_eq rfl
  · rename_i absent
    exact .move (TxMove.leave s.sendSide .empty cid (permitted (by simpa using absent)))

theorem offRx_linklayerUpdate : (s.linklayerUpdate link now).offRx = s.offRx := by
  cases link <;> rfl

theorem offRx_rxPause : (s.rxPause link now).offRx = s.offRx := by
  cases link <;> rfl

theorem offRx_bufferFrame (pressed paused : Bool) (link : Option CarrierKey) (now : Nat) :
    (s.bufferFrame fx frame pressed paused link now).offRx = s.offRx := by
  have paused_eq : ∀ state : Session,
      (if paused then state.rxPause link now else state).offRx = state.offRx := by
    intro state
    split_ifs
    · exact state.offRx_rxPause link now
    · rfl
  simp only [bufferFrame]
  split
  · rfl
  · rw [paused_eq]
    rfl

theorem carries_linklayerUpdate : Carries rules s hand (s.linklayerUpdate link now) hand :=
  Carries.of_eq (congrArg Prod.fst (s.offRx_linklayerUpdate link now))

theorem carries_packetInput : Carries rules s .empty (s.packetInput frame now) .empty := by
  unfold packetInput
  cases frame.cmd with
  | syn => exact s.carries_register frame.connectionId .empty
  | synOk => cases frame.payload <;> exact .of_eq rfl
  | muxModeSet =>
    refine .of_eq ?_
    simp only [packetInputMuxModeSet]
    split
    · split_ifs <;> rfl
    · rfl
  | acceleration | push | fin | keepAlived | ack | fec => exact .of_eq rfl

theorem carries_maybeReleaseFlow : Carries rules s .empty (s.maybeReleaseFlow cid fx) .empty := by
  unfold maybeReleaseFlow
  split
  · exact .move (TxMove.forget s.sendSide .empty cid)
  · exact .of_eq rfl

theorem carries_rxMaybeResume : Carries rules s hand s.rxMaybeResume hand := Carries.of_eq rfl

theorem carries_acceptInOrder : Carries rules s .empty (s.acceptInOrder fx frame now) .empty := by
  have credited : Carries rules s .empty
      (((s.keepFlow frame.connectionId (fx.advance frame now).2).deliverAll frame.connectionId
        (fx.advance frame now).1).noteFlowUnbuffered
          ((fx.advance frame now).1.tail.map Frame.length).sum) .empty := Carries.of_eq rfl
  exact credited.trans ((carries_maybeReleaseFlow _ _ _).trans (carries_rxMaybeResume _ _))

def verdictResets (cid : ConnectionId) : FlowVerdict → List ConnectionId
  | .reset _ victim => cid :: [victim].filter (· ≠ 0)
  | .drop _ victim | .store _ victim => [victim].filter (· ≠ 0)
  | .unknown | .stale _ | .inOrder _ | .invalid _ => []

theorem carries_evictVictim {s : Session} (v2 : s.isFlowV2) {victim : ConnectionId}
    (permitted : ∀ cid ∈ [victim].filter (· ≠ 0), ∀ packet ∈ s.tx.queueOf cid,
      rules.mayDrop packet) : Carries rules s .empty (s.evictVictim victim) .empty := by
  unfold evictVictim
  split_ifs with none
  · exact .of_eq rfl
  · exact carries_failFlow v2 .empty victim (permitted victim (by simpa using none))

theorem queueOf_evictVictim (victim cid : ConnectionId) :
    ∀ packet ∈ (s.evictVictim victim).tx.queueOf cid, packet ∈ s.tx.queueOf cid := by
  intro packet queued
  unfold evictVictim at queued
  split_ifs at queued
  · exact queued
  · have dropped := TxScheduler.queueOf_dropFlow s.tx victim true cid
    change packet ∈ (s.tx.dropFlow victim true).queueOf cid at queued
    rw [dropped] at queued
    split_ifs at queued
    · cases queued
    · exact queued

theorem carries_packetInputFlowData {s : Session} (v2 : s.isFlowV2) {frame : Frame}
    (permitted : ∀ cid ∈ verdictResets frame.connectionId (s.flowVerdict frame),
      ∀ packet ∈ s.tx.queueOf cid, rules.mayDrop packet) (link : Option CarrierKey) (now : Nat) :
    Carries rules s .empty (closeUnless (s.packetInputFlowData frame link now) now) .empty := by
  have kept : ∀ fx, Carries rules s .empty (s.keepFlow frame.connectionId fx) .empty :=
    fun _ => Carries.of_eq rfl
  have evicted : ∀ fx victim,
      (∀ cid ∈ [victim].filter (· ≠ 0), ∀ packet ∈ s.tx.queueOf cid, rules.mayDrop packet) →
        Carries rules s .empty ((s.keepFlow frame.connectionId fx).evictVictim victim) .empty := by
    intro fx victim allowed
    have settled : (s.keepFlow frame.connectionId fx).isFlowV2 := v2
    exact (kept fx).trans (carries_evictVictim settled allowed)
  cases verdict : s.flowVerdict frame <;> rw [verdict] at permitted <;>
    simp only [packetInputFlowData, verdict, closeUnless_true, closeUnless_false]
  case unknown => exact s.carries_linklayerUpdate link now .empty
  case stale fx => exact kept fx
  case inOrder fx =>
    exact (s.carries_acceptInOrder fx frame now).trans (carries_linklayerUpdate _ link now _)
  case invalid fx => exact (kept fx).trans (carries_closeExec _ now)
  case reset fx victim =>
    have room := evicted fx victim fun cid member =>
      permitted cid (List.mem_cons_of_mem _ member)
    have mode : ((s.keepFlow frame.connectionId fx).evictVictim victim).isFlowV2 :=
      (congrArg Config.isFlowV2 (config_evictVictim _ victim)).trans v2
    have failed := @carries_failFlow rules _ mode .empty frame.connectionId
      fun packet queued => permitted frame.connectionId List.mem_cons_self packet
        (queueOf_evictVictim (s.keepFlow frame.connectionId fx) victim _ packet queued)
    exact room.trans (failed.trans (carries_linklayerUpdate _ link now _))
  case drop fx victim =>
    exact (evicted fx victim permitted).trans (carries_linklayerUpdate _ link now _)
  case store fx victim =>
    refine (evicted fx victim permitted).trans (Carries.trans ?_ (carries_linklayerUpdate _ _ _ _))
    exact .of_eq (congrArg Prod.fst (offRx_bufferFrame _ _ _ _ _ _ _))

theorem carries_foldl_packetInput (frames : List Frame) (s : Session) (now : Nat) :
    Carries rules s .empty (frames.foldl (fun state frame => state.packetInput frame now) s)
      .empty := by
  induction frames generalizing s with
  | nil => exact .of_eq rfl
  | cons frame rest ih => exact (s.carries_packetInput frame now).trans (ih _)

theorem carries_dispatchInOrder : Carries rules s .empty (s.dispatchInOrder frame now) .empty := by
  have advanced : Carries rules s .empty
      (({ s with
        rxQueue := (replay (s.rxAck + 1) s.rxQueue).2
        rxAck := s.rxAck + BitVec.ofNat 32 (frame :: (replay (s.rxAck + 1) s.rxQueue).1).length
        rxGapOldestTick := gapClockAfterAdvance now (!(replay (s.rxAck + 1) s.rxQueue).2.isEmpty)
        log := { s.log with
          dispatched := s.log.dispatched ++ frame :: (replay (s.rxAck + 1) s.rxQueue).1 } } :
        Session).noteFlowUnbuffered ((replay (s.rxAck + 1) s.rxQueue).1.map Frame.length).sum)
      .empty := Carries.of_eq rfl
  exact advanced.trans ((carries_foldl_packetInput _ _ now).trans (carries_rxMaybeResume _ _))

theorem offRx_queueUnorder : (s.queueUnorder frame link now).1.offRx = s.offRx := by
  rcases placed : Lib.OrderedMap.emplace Lib.CircularOrder.before frame.seq frame
    s.rxQueue with ⟨queue, _ | _⟩
  · simp only [queueUnorder, placed]
  · simp only [queueUnorder, placed]
    split_ifs
    · rw [offRx_rxPause]
      rfl
    · rfl

theorem carries_closeUnless {s : Session} {outcome : Session × Bool}
    (carried : Carries rules s .empty outcome.1 .empty) (now : Nat) :
    Carries rules s .empty (closeUnless outcome now) .empty := by
  unfold closeUnless
  split_ifs
  · exact carried
  · exact carried.trans (carries_closeExec _ now)

theorem carries_bufferUnorder : Carries rules s .empty (s.bufferUnorder frame link now).1 .empty :=
    by
  simp only [bufferUnorder]
  split_ifs
  · exact Carries.of_eq rfl
  · exact (s.carries_closeExec now).trans (carries_linklayerUpdate _ link now _)
  · exact Carries.trans (Carries.of_eq (congrArg Prod.fst (s.offRx_queueUnorder frame link now)))
      (carries_linklayerUpdate _ link now _)

theorem carries_packetInputUnorder : Carries rules s .empty (s.packetInputUnorder frame link now).1
    .empty := by
  unfold packetInputUnorder
  split_ifs
  · exact .of_eq rfl
  · exact s.carries_linklayerUpdate link now .empty
  · exact (s.carries_dispatchInOrder frame now).trans (carries_linklayerUpdate _ link now _)
  · exact s.carries_bufferUnorder frame link now
  · exact s.carries_linklayerUpdate link now .empty
  · exact .of_eq rfl

theorem carries_arrive {s : Session} {frame : Frame}
    (permitted : s.isFlowV2 → s.disposed = false → frame.cmd.isPerFlowData →
      ∀ cid ∈ verdictResets frame.connectionId (s.flowVerdict frame),
        ∀ packet ∈ s.tx.queueOf cid, rules.mayDrop packet) (link : Option CarrierKey) (now : Nat) :
    Carries rules s .empty (s.arrive frame link now) .empty := by
  have settled : Carries rules s .empty (s.settleArrival frame) .empty := Carries.of_eq rfl
  refine settled.trans ?_
  cases v2 : s.isFlowV2 with
  | false =>
    have compat : (s.settleArrival frame).isFlowV2 = false := v2
    simp only [arrive, packetInputOrdered, compat, Bool.false_eq_true, if_false]
    exact carries_closeUnless (carries_packetInputUnorder _ frame link now) now
  | true =>
    have mode : (s.settleArrival frame).isFlowV2 := v2
    simp only [arrive, packetInputOrdered, mode, if_true, packetInputFlow]
    split_ifs with gone data
    · exact carries_closeExec _ now
    · exact carries_packetInputFlowData mode
        (permitted v2 (Bool.eq_false_iff.mpr gone) data) link now
    · exact carries_closeUnless ((carries_packetInput _ frame now).trans
        (carries_linklayerUpdate _ link now _)) now

def cannotTrack (s : Session) (frame : Frame) (now linkId : Nat) : Bool :=
  s.rtxChargeBytes frame ≠ 0 && (s.flowOverHardCap frame || (s.trackRtx frame now linkId).isNone)

theorem carries_trackSentFrame {s : Session} {frame : Frame} {now linkId : Nat}
    (permitted : s.isFlowV2 → s.cannotTrack frame now linkId →
      ∀ packet ∈ s.tx.queueOf frame.connectionId, rules.mayDrop packet) :
    Carries rules s .empty (s.trackSentFrame frame now linkId).1 .empty := by
  unfold trackSentFrame
  split_ifs with untracked capped v2
  · exact .of_eq rfl
  · have v2 : s.isFlowV2 := by
      rw [flowOverHardCap, Bool.and_eq_true] at capped
      exact capped.1
    exact carries_failFlow v2 .empty _ (permitted v2 (by simp [cannotTrack, untracked, capped]))
  · split
    · rename_i failed
      exact carries_failFlow v2 .empty _ (permitted v2 (by simp [cannotTrack, untracked, failed]))
    · exact .of_eq rfl
  · split
    · exact s.carries_closeExec now
    · exact .of_eq rfl

def rtxExhausted (s : Session) (key : RtxKey) (now : Nat) : Bool :=
  (s.rtx.entries.lookup key).any fun entry =>
    !(entry.lastSentTick = now && entry.lastLinkId ≠ 0) && entry.attempts ≥ s.config.rtxMaxAttempts

theorem carries_retransmitKey {s : Session} {key : RtxKey} {now : Nat} {answer : Bool}
    (permitted : s.isFlowV2 → s.rtxExhausted key now →
      ∀ packet ∈ s.tx.queueOf key.connectionId, rules.mayDrop packet) :
    Carries rules s .empty (s.retransmitKey key now answer).1 .empty := by
  rcases found : s.rtx.entries.lookup key with _ | entry
  · simp only [retransmitKey, found]
    exact .of_eq rfl
  simp only [retransmitKey, found]
  split_ifs with repeated exhausted v2
  · exact .of_eq rfl
  · refine carries_failFlow v2 .empty _ (permitted v2 ?_)
    simp only [rtxExhausted, found, Option.any_some, Bool.and_eq_true, Bool.not_eq_true']
    exact ⟨Bool.eq_false_iff.mpr repeated, by simpa using exhausted⟩
  · exact s.carries_closeExec now
  · split
    · exact .of_eq rfl
    · split_ifs
      · exact .of_eq rfl
      · exact Carries.of_eq rfl
      · exact .move (TxMove.resend s.sendSide .empty _ rfl)

theorem carries_postReliability (control : frame.cmd.isReliabilityControl)
    (permitted : ∀ victim, s.controlVictim = some victim → rules.mayEvict victim) :
    Carries rules s .empty (s.postInternal frame false false answers).1 .empty := by
  have notData := Cmd.not_isPerFlowData control
  have notSyn : frame.cmd ≠ .syn := by
    intro syn
    rw [syn] at control
    cases control
  have permits : PostPermits rules s frame answers := by
    refine ⟨?_, ?_, fun _ => permitted, ?_, ?_⟩
    · intro sequenced
      rw [control] at sequenced
      cases sequenced
    · intro _ data
      rw [notData] at data
      cases data
    · intro _ link turbo
      simp [turboCarrier, notSyn] at turbo
    · intro _ data
      rw [notData] at data
      cases data
  rcases carries_postInternal permits false false with carried | ⟨called, _⟩
  · exact carried
  · cases called

theorem carries_maybeSendAck {s : Session} {now : Nat} {force : Bool}
    (permitted : s.ackDue now force →
      ∀ victim, s.controlVictim = some victim → rules.mayEvict victim) :
    Carries rules s .empty (s.maybeSendAck now force answers).1 .empty := by
  unfold maybeSendAck
  split_ifs with idle
  · exact .of_eq rfl
  · exact .of_eq rfl
  · split
    · exact .of_eq rfl
    · rename_i payload _
      have carried := carries_postReliability { s with ackLastSentTick := now }
        { seq := 0, cmd := .ack, connectionId := 0, payload := payload } answers rfl
        (permitted (by simpa using idle))
      split <;> rename_i posted <;> rw [posted] at carried <;> exact carried

theorem carries_fecEmit {s : Session} (permitted : s.fecEncoder.count ≠ 0 → s.config.fec →
      ∀ victim, s.controlVictim = some victim → rules.mayEvict victim) :
    Carries rules s .empty (s.fecEmit answers).1 .empty := by
  simp only [fecEmit]
  split_ifs with idle
  · exact .of_eq rfl
  split
  · exact .of_eq rfl
  · rename_i payload _
    simp only [Bool.or_eq_true, decide_eq_true_eq, not_or] at idle
    exact carries_postReliability
      { s with
        fecFlushDue := false
        log := { s.log with fecEmitted := s.log.fecEmitted ++ [payload] } }
      _ answers rfl (permitted idle.1.1 (by simpa using idle.1.2))

def endedFlows (s : Session) : Op → List ConnectionId
  | .post frame _ _ _ _ =>
    if s.isFlowV2 && s.takesPost frame && frame.cmd.isPerFlowData &&
        s.tx.overflows { frame := frame, completion := none, assignSeq := false } then
      [frame.connectionId]
    else []
  | .trackSent frame now linkId =>
    if s.isFlowV2 && s.cannotTrack frame now linkId then [frame.connectionId] else []
  | .retransmit key now _ =>
    if s.isFlowV2 && s.rtxExhausted key now then [key.connectionId] else []
  | .arrive frame _ _ =>
    if s.isFlowV2 && !s.disposed && frame.cmd.isPerFlowData then
      verdictResets frame.connectionId (s.flowVerdict frame)
    else []
  | .failFlow cid => if s.isFlowV2 then [cid] else []
  | .releaseConnection cid => if s.hasConnection cid then [cid] else []
  | _ => []

def evicted (s : Session) : Op → Option TxPacket
  | .post frame _ _ _ _ =>
    if s.takesPost frame && (frame.cmd.isReliabilityControl ||
        s.isFlowV2 && !frame.cmd.isPerFlowData) then s.controlVictim
    else none
  | .sendAck now force _ => if s.ackDue now force then s.controlVictim else none
  | .fecEmit _ => if s.fecEncoder.count ≠ 0 && s.config.fec then s.controlVictim else none
  | _ => none

def renumbers (s : Session) : Op → Bool
  | .post frame _ _ answers _ =>
    !s.isFlowV2 && s.takesPost frame &&
      (s.turboCarrier frame).any fun link =>
        !s.carrierAccepts link frame.length answers.turboWrite
  | _ => false

def stamped (s : Session) : Op → Option ConnectionId
  | .post frame _ _ _ _ =>
    if s.isFlowV2 && s.takesPost frame && frame.cmd.isPerFlowData then some frame.connectionId
    else none
  | _ => none

def postedCmd : Op → Option Cmd
  | .post frame _ _ _ _ => some frame.cmd
  | _ => none

def drainsData : Op → Bool
  | .sendData _ => true
  | _ => false

structure Permits (rules : TxRules) (s : Session) (op : Op) : Prop where
  picks : ∀ packet : TxPacket, postedCmd op = some packet.frame.cmd → rules.mayPick packet
  takes : drainsData op → rules.mayTake
  drops : ∀ cid ∈ s.endedFlows op, ∀ packet ∈ s.tx.queueOf cid, rules.mayDrop packet
  evicts : ∀ victim, s.evicted op = some victim → rules.mayEvict victim
  repeats : s.renumbers op → rules.mayRepeat
  stamps : ∀ cid, s.stamped op = some cid →
    rules.mayStamp (s.txFlowSeq.lookup cid) (s.log.posted cid)

theorem Permits.post {s : Session} {frame : Frame} {acceleration callback : Bool}
    {answers : PostAnswers} {now : Nat}
    (permits : Permits rules s (.post frame acceleration callback answers now))
    (taken : s.takesPost frame) : PostPermits rules s frame answers where
  picks _ packet same := permits.picks packet (congrArg some same.symm)
  drops v2 data full := by
    have ended : s.endedFlows (.post frame acceleration callback answers now) =
        [frame.connectionId] := by
      simp [endedFlows, v2, taken, data, full]
    exact permits.drops _ (by simp [ended])
  evicts control victim found := by
    refine permits.evicts victim ?_
    rcases control with reliable | ⟨v2, notData⟩
    · simp [evicted, taken, reliable, found]
    · simp [evicted, taken, v2, notData, found]
  repeats compat link turbo refused := by
    refine permits.repeats ?_
    simp [renumbers, compat, taken, turbo, refused]
  stamps v2 data := permits.stamps _ (by simp [stamped, v2, taken, data])

theorem txMoves_step {s : Session} {op : Op} (permits : Permits rules s op) :
    TxMoves rules (s.sendSide, .empty) ((s.step op).sendSide, .empty) := by
  have drops := permits.drops
  cases op with
  | register cid => exact s.carries_register cid .empty
  | post frame acceleration callback answers now =>
    exact carries_post permits.post acceleration callback now
  | sendData answer => exact s.carries_sendData answer (permits.takes rfl)
  | sendCtrl answer => exact s.carries_sendCtrl answer
  | trackSent frame now linkId =>
    refine carries_trackSentFrame fun v2 failed => drops _ ?_
    simp [endedFlows, v2, failed]
  | completeWrite ticket ok => exact s.carries_completeWrite ticket ok
  | abortWrite ticket =>
    simpa only [Carries, step, s.sendSide_abortWrite] using s.carries_completeWrite ticket false
  | runEarlyAck completion => exact s.carries_runEarlyAck completion
  | unparkAll => exact Carries.move (TxMove.unpark s.sendSide .empty)
  | sendAck now force answers =>
    refine carries_maybeSendAck answers fun due victim found => permits.evicts victim ?_
    simp [evicted, due, found]
  | arrive frame link now =>
    refine carries_arrive (fun v2 alive data cid reset => drops cid ?_) link now
    simpa [endedFlows, v2, alive, data] using reset
  | receiveAck payload now => exact Carries.of_eq (congrArg Prod.fst (s.sides_packetInputAck payload now))
  | fecNoteSent | noteAck | reinject | collectExpired | fecRemember | fecOpen =>
    refine Carries.of_eq ?_
    simp only [step, fecNoteSent, noteArrival, noteAckPending, reinject, collectExpired,
      fecRemember, fecOpen]
    split_ifs <;> rfl
  | retransmit key now answer =>
    refine carries_retransmitKey fun v2 exhausted => drops _ ?_
    simp [endedFlows, v2, exhausted]
  | fecEmit answers =>
    refine carries_fecEmit answers fun due fec victim found => permits.evicts victim ?_
    simp [evicted, due, fec, found]
  | failFlow cid =>
    simp only [step]
    split_ifs with v2
    · exact carries_failFlow v2 .empty cid (drops cid (by simp [endedFlows, v2]))
    · exact Carries.of_eq rfl
  | releaseConnection cid =>
    exact carries_releaseConnection fun owned => drops cid (by simp [endedFlows, owned])
  | closeExec now => exact s.carries_closeExec now
  | connectSent | carrier | setRtxPending | fecReset | fecVisit => exact Carries.of_eq rfl

end Session

end OpenPpp2.Mux
