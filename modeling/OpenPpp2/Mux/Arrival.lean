import OpenPpp2.Lib.InverseMaps
import OpenPpp2.Mux.Sides

/-!
# What an arrival does to the receive side

One inversion lemma per ordering mode: a data frame under flow v2 has the effect its verdict names,
a control frame at most enters a connection, and a refused frame at most closes the session.
-/

namespace OpenPpp2.Mux

open Lib.CircularOrder Lib.OrderedMap Lib.InverseMaps RecvSide Function

namespace RecvSide

def settle (side : RecvSide) (frame : Frame) : RecvSide :=
  { side with
    noted :=
      if frame.cmd.isPerFlowData then side.noted.erase (frame.connectionId, frame.seq)
      else side.noted }

def enter (side : RecvSide) (cid : ConnectionId) : RecvSide :=
  { side with
    present := update side.present cid true
    delivered := update side.delivered cid []
    ended := update side.ended cid false }

def keep (side : RecvSide) (cid : ConnectionId) (fx : FlowRx) : RecvSide :=
  { side with flows := side.flows.insert cid fx }

def evict (side : RecvSide) (victim : ConnectionId) : RecvSide :=
  if victim = 0 then side else side.failFlow victim

/-- `maybe_release_flow` on the receive side. -/
def release (side : RecvSide) (cid : ConnectionId) : RecvSide :=
  { side with
    flows := side.flows.erase cid
    ackTrackers :=
      if side.config.isFlowV2 then side.ackTrackers.erase cid else side.ackTrackers
    ended := update side.ended cid true }

/-- `release_connection` on the receive side. -/
def leave (side : RecvSide) (cid : ConnectionId) : RecvSide :=
  { side.release cid with present := update side.present cid false }

def note (side : RecvSide) (cid : ConnectionId) (seq : SeqNumber)
    (trackers : AList fun _ : ConnectionId => AckTracker) : RecvSide :=
  { side with
    ackTrackers := trackers
    noted := (cid, seq) :: side.noted }

def deliver (side : RecvSide) (cid : ConnectionId) (frames credited : List Frame) (fx : FlowRx) :
    RecvSide :=
  { side.keep cid fx with
    sessionReorderBytes := side.sessionReorderBytes - (credited.map Frame.length).sum
    delivered := update side.delivered cid (side.delivered cid ++ frames.map Frame.seq) }

def hold (side : RecvSide) (cid : ConnectionId) (fx : FlowRx) (bytes : Nat) : RecvSide :=
  { side.keep cid fx with sessionReorderBytes := side.sessionReorderBytes + bytes }

def dispatch (side : RecvSide) (frame : Frame) : RecvSide :=
  let replayed := Session.replay (side.rxAck + 1) side.rxQueue
  { side with
    rxQueue := replayed.2
    rxAck := side.rxAck + BitVec.ofNat 32 (replayed.1.length + 1)
    sessionReorderBytes := side.sessionReorderBytes - (replayed.1.map Frame.length).sum
    dispatched := side.dispatched ++ frame :: replayed.1 }

end RecvSide

inductive DataArrival (side : RecvSide) (frame : Frame) : FlowVerdict → RecvSide → Prop
  | unknown : DataArrival side frame .unknown side
  | stale (fx : FlowRx) : DataArrival side frame (.stale fx) (side.keep frame.connectionId fx)
  | inOrder (fx : FlowRx) (now : Nat) :
      DataArrival side frame (.inOrder fx)
        (side.deliver frame.connectionId (fx.advance frame now).1
          (fx.advance frame now).1.tail (fx.advance frame now).2)
  | released (fx : FlowRx) (now : Nat)
      (drained : (fx.advance frame now).2.flowReorder.isEmpty) :
      DataArrival side frame (.inOrder fx)
        ((side.deliver frame.connectionId (fx.advance frame now).1
          (fx.advance frame now).1.tail (fx.advance frame now).2).release frame.connectionId)
  | invalid (fx : FlowRx) (after : RecvSide)
      (moved : RecvMoves (side.keep frame.connectionId fx) after)
      (closed : side.closeRequested = false → side.disposed = false →
        after = (side.keep frame.connectionId fx).finalize) :
      DataArrival side frame (.invalid fx) after
  | reset (fx : FlowRx) (victim : ConnectionId) :
      DataArrival side frame (.reset fx victim)
        (((side.keep frame.connectionId fx).evict victim).failFlow frame.connectionId)
  | drop (fx : FlowRx) (victim : ConnectionId) :
      DataArrival side frame (.drop fx victim) ((side.keep frame.connectionId fx).evict victim)
  | refused (fx : FlowRx) (victim : ConnectionId)
      (refusal : fx.flowReorder.tryInsert frame.seq fx.flowRxNext frame frame.length
        side.config.flowHardCap side.config.entryCap = none) :
      DataArrival side frame (.store fx victim) ((side.keep frame.connectionId fx).evict victim)
  | stored (fx after : FlowRx) (victim : ConnectionId)
      (inserted : fx.flowReorder.tryInsert frame.seq fx.flowRxNext frame frame.length
        side.config.flowHardCap side.config.entryCap = some after.flowReorder)
      (primed : after.primed = fx.primed) (next : after.flowRxNext = fx.flowRxNext) :
      DataArrival side frame (.store fx victim)
        (((side.keep frame.connectionId fx).evict victim).hold frame.connectionId after
          frame.length)

inductive CompatArrival (side : RecvSide) (frame : Frame) : RecvSide → Prop
  | settled : CompatArrival side frame side
  | closed (after : RecvSide) (moves : RecvMoves side after) : CompatArrival side frame after
  | dispatched (sequenced : frame.cmd.isReliabilityControl = false)
      (inOrder : side.rxAck = frame.seq) (entered : List ConnectionId) :
      CompatArrival side frame (entered.foldl RecvSide.enter (side.dispatch frame))
  | buffered (sequenced : frame.cmd.isReliabilityControl = false)
      (future : before side.rxAck frame.seq) (queue : List (SeqNumber × Frame))
      (placed : emplace before frame.seq frame side.rxQueue = (queue, true)) :
      CompatArrival side frame
        { side with
          rxQueue := queue
          sessionReorderBytes := side.sessionReorderBytes + frame.length }

namespace Session

variable (s : Session) (cid : ConnectionId) (fx : FlowRx) (frame : Frame) (victim : ConnectionId)
    (link : Option CarrierKey) (now : Nat)

theorem recvSide_linklayerUpdate : (s.linklayerUpdate link now).recvSide = s.recvSide := by
  cases link <;> rfl

theorem recvSide_rxPause : (s.rxPause link now).recvSide = s.recvSide := by
  cases link <;> rfl

theorem recvSide_evictVictim : (s.evictVictim victim).recvSide = s.recvSide.evict victim := by
  unfold evictVictim evict
  split_ifs
  · rfl
  · exact s.recvSide_failFlow victim

theorem config_evictVictim : (s.evictVictim victim).config = s.config := by
  unfold evictVictim
  split_ifs <;> rfl

theorem recvSide_maybeReleaseFlow : (s.maybeReleaseFlow cid fx).recvSide =
      if fx.finSeen && fx.flowReorder.isEmpty then s.recvSide.release cid else s.recvSide := by
  by_cases done : (fx.finSeen && fx.flowReorder.isEmpty)
  · rw [maybeReleaseFlow, if_pos done, if_pos done]
    rfl
  · rw [maybeReleaseFlow, if_neg done, if_neg done]

theorem recvSide_rxMaybeResume : s.rxMaybeResume.recvSide = s.recvSide := rfl

theorem recvSide_acceptInOrder :
    DataArrival s.recvSide frame (.inOrder fx) (s.acceptInOrder fx frame now).recvSide := by
  have delivered : (((s.keepFlow frame.connectionId (fx.advance frame now).2).deliverAll
      frame.connectionId (fx.advance frame now).1).noteFlowUnbuffered
        ((fx.advance frame now).1.tail.map Frame.length).sum).recvSide =
      s.recvSide.deliver frame.connectionId (fx.advance frame now).1
        (fx.advance frame now).1.tail (fx.advance frame now).2 := rfl
  simp only [acceptInOrder, recvSide_rxMaybeResume, recvSide_maybeReleaseFlow, delivered]
  split_ifs with done
  · rw [Bool.and_eq_true] at done
    exact .released fx now done.2
  · exact .inOrder fx now

theorem recvSide_bufferFrame (pressed paused : Bool) (link : Option CarrierKey) (now : Nat) :
    DataArrival s.recvSide frame (.store fx victim)
      (((s.keepFlow frame.connectionId fx).evictVictim victim).bufferFrame fx frame pressed paused
        link now).recvSide := by
  have room := recvSide_evictVictim (s.keepFlow frame.connectionId fx) victim
  have config := config_evictVictim (s.keepFlow frame.connectionId fx) victim
  generalize (s.keepFlow frame.connectionId fx).evictVictim victim = made at room config
  rcases inserted : fx.flowReorder.tryInsert frame.seq fx.flowRxNext frame frame.length
      made.config.flowHardCap made.config.entryCap with _ | reorder
  · simp only [bufferFrame, inserted]
    rw [config] at inserted
    rw [room]
    exact .refused fx victim inserted
  · simp only [bufferFrame, inserted]
    rw [config] at inserted
    have paused_eq : ∀ state : Session,
        (if paused then state.rxPause link now else state).recvSide = state.recvSide := by
      intro state
      split_ifs
      · exact state.recvSide_rxPause link now
      · rfl
    rw [paused_eq]
    change DataArrival s.recvSide frame (.store fx victim) (made.recvSide.hold frame.connectionId
      { fx with
        flowReorder := reorder
        oldestBufferedTick := gapClockOnBuffered fx.oldestBufferedTick now } frame.length)
    rw [room]
    exact .stored fx _ victim inserted rfl rfl

variable {s : Session}

theorem recvSide_closeExec (requested : s.closeRequested = false)
    (alive : s.disposed = false) (now : Nat) : (s.closeExec now).recvSide = s.recvSide.finalize :=
    by
  rw [closeExec, if_neg (by simp [requested]), finalize, if_neg (by simp [alive])]
  rfl

theorem arrive_data {frame : Frame} (v2 : s.isFlowV2) (alive : s.disposed = false)
    (data : frame.cmd.isPerFlowData) (link : Option CarrierKey) (now : Nat) :
    DataArrival (s.recvSide.settle frame) frame (s.flowVerdict frame)
      (s.arrive frame link now).recvSide := by
  have settledV2 : (s.settleArrival frame).isFlowV2 := v2
  have settledAlive : (s.settleArrival frame).disposed = false := alive
  have same : (s.settleArrival frame).flowVerdict frame = s.flowVerdict frame := rfl
  rw [← same]
  change DataArrival (s.settleArrival frame).recvSide _ _ _
  simp only [arrive, packetInputOrdered, settledV2, if_true, packetInputFlow, settledAlive, data,
    Bool.false_eq_true, if_false]
  generalize s.settleArrival frame = settled
  cases verdict : settled.flowVerdict frame <;> simp only [packetInputFlowData, verdict,
    closeUnless_true, recvSide_linklayerUpdate, recvSide_failFlow, recvSide_evictVictim]
  case unknown => exact .unknown
  case stale fx => exact .stale fx
  case inOrder fx => exact settled.recvSide_acceptInOrder fx frame now
  case invalid fx =>
    refine .invalid fx _
      ((settled.keepFlow frame.connectionId fx).recvMoves_closeExec now) ?_
    intro requested live
    have kept : (settled.keepFlow frame.connectionId fx).closeRequested = false := requested
    exact recvSide_closeExec kept live now
  case reset fx victim => exact .reset fx victim
  case drop fx victim => exact .drop fx victim
  case store fx victim => exact settled.recvSide_bufferFrame fx frame victim _ _ link now

theorem recvSide_register :
    (s.register cid).recvSide = if s.canRegister cid then s.recvSide.enter cid else s.recvSide := by
  unfold register
  split_ifs
  · have present : (fun other => ((s.skts.insert cid Skt.opened).lookup other).isSome) =
        update (fun other => (s.skts.lookup other).isSome) cid true :=
      (congrArg (Option.isSome ∘ ·) (lookup_insert_eq_update s.skts cid _)).trans
        (comp_update ..)
    unfold recvSide enter
    simp only [present]
  · rfl

theorem recvSide_packetInput :
    (s.packetInput frame now).recvSide = if frame.cmd = .syn ∧ s.canRegister frame.connectionId =
      true then s.recvSide.enter frame.connectionId else s.recvSide := by
  have modeSet : (s.packetInputMuxModeSet frame.payload now).recvSide = s.recvSide := by
    unfold packetInputMuxModeSet
    split
    · split_ifs <;> rfl
    · rfl
  unfold packetInput
  cases cmd : frame.cmd with
  | syn => simpa using s.recvSide_register frame.connectionId
  | synOk =>
    cases frame.payload with
    | nil => rfl
    | cons err rest => simpa using s.recvSide_modifySkt frame.connectionId _
  | muxModeSet => simpa using modeSet
  | acceleration => simpa using s.recvSide_modifySkt frame.connectionId _
  | push | fin | keepAlived | ack | fec => rfl

theorem arrive_control {frame : Frame} (v2 : s.isFlowV2) (alive : s.disposed = false)
    (control : frame.cmd.isPerFlowData = false) (link : Option CarrierKey) (now : Nat) :
    (s.arrive frame link now).recvSide = if frame.cmd = .syn ∧ s.canRegister frame.connectionId then
        (s.recvSide.settle frame).enter frame.connectionId else s.recvSide.settle frame := by
  have settledV2 : (s.settleArrival frame).isFlowV2 := v2
  have settledAlive : (s.settleArrival frame).disposed = false := alive
  simp only [arrive, packetInputOrdered, settledV2, if_true, packetInputFlow, settledAlive, control,
    Bool.false_eq_true, if_false, closeUnless_true, recvSide_linklayerUpdate]
  exact (s.settleArrival frame).recvSide_packetInput frame now

theorem arrive_disposed (gone : s.disposed) (frame : Frame) (link : Option CarrierKey) (now : Nat) :
    RecvMoves (s.recvSide.settle frame) (s.arrive frame link now).recvSide := by
  have settledGone : (s.settleArrival frame).disposed := gone
  have refused : (s.settleArrival frame).packetInputOrdered frame link now =
      (s.settleArrival frame, false) := by
    unfold packetInputOrdered packetInputFlow packetInputUnorder
    simp only [settledGone, if_true, ite_self]
  simp only [arrive, refused, closeUnless_false]
  exact (s.settleArrival frame).recvMoves_closeExec now

theorem recvSide_foldl_packetInput (frames : List Frame) (s : Session) (now : Nat) :
    ∃ entered : List ConnectionId,
      (frames.foldl (fun state frame => state.packetInput frame now) s).recvSide =
        entered.foldl enter s.recvSide := by
  induction frames generalizing s with
  | nil => exact ⟨[], rfl⟩
  | cons frame rest ih =>
    obtain ⟨entered, later⟩ := ih (s.packetInput frame now)
    rw [List.foldl_cons, later, recvSide_packetInput]
    split_ifs
    · exact ⟨frame.connectionId :: entered, rfl⟩
    · exact ⟨entered, rfl⟩

section

variable (sequenced : frame.cmd.isReliabilityControl = false)
include sequenced

theorem recvSide_queueUnorder (future : before s.rxAck frame.seq) :
    CompatArrival s.recvSide frame (s.queueUnorder frame link now).1.recvSide := by
  rcases placed : emplace before frame.seq frame s.rxQueue with ⟨queue, _ | _⟩
  · simp only [queueUnorder, placed]
    exact .settled
  · have buffered := @CompatArrival.buffered s.recvSide frame sequenced future queue placed
    simp only [queueUnorder, placed]
    split_ifs
    · rw [recvSide_rxPause]
      exact buffered
    · exact buffered

theorem recvSide_bufferUnorder (future : before s.rxAck frame.seq) :
    CompatArrival s.recvSide frame (closeUnless (s.bufferUnorder frame link now) now).recvSide := by
  simp only [bufferUnorder]
  split_ifs
  · exact .closed _ (s.recvMoves_closeExec now)
  · simp only [closeUnless_true, recvSide_linklayerUpdate]
    exact .closed _ (s.recvMoves_closeExec now)
  · cases accepted : (s.queueUnorder frame link now).2 || s.config.reliability with
    | true =>
      simp only [closeUnless_true, recvSide_linklayerUpdate]
      exact s.recvSide_queueUnorder frame link now sequenced future
    | false =>
      have duplicate : (s.queueUnorder frame link now).1 = s := by
        rcases placed : emplace before frame.seq frame s.rxQueue with ⟨queue, _ | _⟩
        · simp only [queueUnorder, placed]
        · simp [queueUnorder, placed] at accepted
      have moves := (s.linklayerUpdate link now).recvMoves_closeExec now
      rw [recvSide_linklayerUpdate] at moves
      simp only [closeUnless_false, duplicate]
      exact .closed _ moves

theorem recvSide_dispatchInOrder (inOrder : s.rxAck = frame.seq) :
    CompatArrival s.recvSide frame (s.dispatchInOrder frame now).recvSide := by
  simp only [dispatchInOrder, recvSide_rxMaybeResume]
  obtain ⟨entered, effect⟩ := recvSide_foldl_packetInput
    (frame :: (replay (s.rxAck + 1) s.rxQueue).1) _ now
  rw [effect]
  exact .dispatched sequenced inOrder entered

end

theorem arrive_compat (compat : s.isFlowV2 = false) (alive : s.disposed = false)
    (frame : Frame) (link : Option CarrierKey) (now : Nat) :
    CompatArrival (s.recvSide.settle frame) frame (s.arrive frame link now).recvSide := by
  have settledCompat : (s.settleArrival frame).isFlowV2 = false := compat
  have settledAlive : (s.settleArrival frame).disposed = false := alive
  change CompatArrival (s.settleArrival frame).recvSide frame _
  simp only [arrive, packetInputOrdered, settledCompat, packetInputUnorder, settledAlive,
    Bool.false_eq_true, if_false]
  generalize s.settleArrival frame = settled
  split_ifs with control inOrder future reliable
  · simp only [closeUnless_true, recvSide_linklayerUpdate]
    exact .settled
  · simp only [closeUnless_true, recvSide_linklayerUpdate]
    exact settled.recvSide_dispatchInOrder frame now (Bool.eq_false_iff.mpr control) inOrder
  · exact settled.recvSide_bufferUnorder frame link now (Bool.eq_false_iff.mpr control) future
  · simp only [closeUnless_true, recvSide_linklayerUpdate]
    exact .settled
  · exact .closed _ (settled.recvMoves_closeExec now)

theorem recvSide_releaseConnection : (s.releaseConnection cid).recvSide =
      if s.hasConnection cid then s.recvSide.leave cid else s.recvSide := by
  by_cases owned : s.hasConnection cid
  · have present : (fun other => ((s.skts.erase cid).lookup other).isSome) =
        update (fun other => (s.skts.lookup other).isSome) cid false :=
      (congrArg (Option.isSome ∘ ·) (lookup_erase_eq_update s.skts cid)).trans
        (comp_update ..)
    simp only [releaseConnection, owned, Bool.not_true, Bool.false_eq_true, if_false, if_true]
    unfold recvSide leave release
    simp only [present]
    rfl
  · simp [releaseConnection, owned]

end Session

inductive RecvStep (s : Session) : Op → RecvSide → Prop
  | moves (op : Op) {after : RecvSide} (made : RecvMoves s.recvSide after) : RecvStep s op after
  | settled (frame : Frame) (link : Option CarrierKey) (now : Nat) {after : RecvSide}
      (quiet : s.disposed ∨ frame.cmd.isPerFlowData = false)
      (made : RecvMoves (s.recvSide.settle frame) after) :
      RecvStep s (.arrive frame link now) after
  | register (cid : ConnectionId) (free : s.canRegister cid) :
      RecvStep s (.register cid) (s.recvSide.enter cid)
  | syn (frame : Frame) (link : Option CarrierKey) (now : Nat) (isSyn : frame.cmd = .syn)
      (free : s.canRegister frame.connectionId) :
      RecvStep s (.arrive frame link now) ((s.recvSide.settle frame).enter frame.connectionId)
  | note (cid : ConnectionId) (seq : SeqNumber) (now : Nat) :
      RecvStep s (.noteAck cid seq now)
        (s.recvSide.note cid seq (s.noteAckPending cid seq now).ackTrackers)
  | leave (cid : ConnectionId) (owned : s.hasConnection cid) :
      RecvStep s (.releaseConnection cid) (s.recvSide.leave cid)
  | data (frame : Frame) (link : Option CarrierKey) (now : Nat) {after : RecvSide}
      (v2 : s.isFlowV2) (alive : s.disposed = false)
      (isData : frame.cmd.isPerFlowData)
      (effect : DataArrival (s.recvSide.settle frame) frame (s.flowVerdict frame) after) :
      RecvStep s (.arrive frame link now) after
  | compat (frame : Frame) (link : Option CarrierKey) (now : Nat) {after : RecvSide}
      (compat : s.isFlowV2 = false) (alive : s.disposed = false)
      (effect : CompatArrival (s.recvSide.settle frame) frame after) :
      RecvStep s (.arrive frame link now) after

namespace Session

theorem recvStep_arrive (s : Session) (frame : Frame) (link : Option CarrierKey) (now : Nat) :
    RecvStep s (.arrive frame link now) (s.arrive frame link now).recvSide := by
  cases gone : s.disposed with
  | true =>
    exact .settled frame link now (.inl gone) (arrive_disposed gone frame link now)
  | false =>
    cases v2 : s.isFlowV2 with
    | false => exact .compat frame link now v2 gone (arrive_compat v2 gone frame link now)
    | true =>
      cases data : frame.cmd.isPerFlowData with
      | true =>
        exact .data frame link now v2 gone data (arrive_data v2 gone data link now)
      | false =>
        rw [arrive_control v2 gone data link now]
        split_ifs with entering
        · exact .syn frame link now entering.1 entering.2
        · exact .settled frame link now (.inr data) Relation.ReflTransGen.refl

theorem recvStep (s : Session) (op : Op) : RecvStep s op (s.step op).recvSide := by
  cases receives : op.receives with
  | false => exact .moves op (s.recvMoves_step op receives)
  | true =>
    cases op with
    | register cid =>
      simp only [step, recvSide_register]
      split_ifs with free
      · exact .register cid free
      · exact .moves _ Relation.ReflTransGen.refl
    | noteAck cid seq now =>
      have noted : (s.step (.noteAck cid seq now)).recvSide =
          s.recvSide.note cid seq (s.noteAckPending cid seq now).ackTrackers := by
        simp only [step, noteArrival, noteAckPending]
        split_ifs <;> rfl
      rw [noted]
      exact .note cid seq now
    | arrive frame link now => exact s.recvStep_arrive frame link now
    | releaseConnection cid =>
      simp only [step, recvSide_releaseConnection]
      split_ifs with owned
      · exact .leave cid owned
      · exact .moves _ Relation.ReflTransGen.refl
    | _ => simp [Op.receives] at receives

end Session

theorem RecvMoves.config {before after : RecvSide} (moves : RecvMoves before after) :
    after.config = before.config := by
  induction moves with
  | refl => rfl
  | tail _ move ih => cases move <;> exact ih

theorem RecvSide.config_evict (side : RecvSide) (victim : ConnectionId) :
    (side.evict victim).config = side.config := by
  unfold evict
  split_ifs <;> rfl

theorem RecvSide.config_foldl_enter (entered : List ConnectionId) (side : RecvSide) :
    (entered.foldl enter side).config = side.config := by
  induction entered generalizing side with
  | nil => rfl
  | cons cid rest ih => exact ih _

variable {frame : Frame} (s : Session) (op : Op) {side after : RecvSide}

theorem DataArrival.config {verdict : FlowVerdict}
    (effect : DataArrival side frame verdict after) : after.config = side.config := by
  cases effect with
  | unknown | stale | inOrder | released => rfl
  | invalid fx after moved => exact moved.config
  | reset fx victim | drop fx victim | refused fx victim refusal | stored fx after victim =>
    exact config_evict _ victim

theorem CompatArrival.config
    (effect : CompatArrival side frame after) : after.config = side.config := by
  cases effect with
  | settled | buffered => rfl
  | closed after moves => exact moves.config
  | dispatched sequenced inOrder entered => exact config_foldl_enter entered _

theorem Session.config_step : (s.step op).config = s.config := by
  have step := s.recvStep op
  change (s.step op).recvSide.config = s.recvSide.config
  generalize (s.step op).recvSide = after at step
  cases step with
  | moves op made | settled frame link now quiet made => exact made.config
  | register | syn | note | leave => rfl
  | data frame link now v2 alive isData effect | compat frame link now compat alive effect =>
    exact effect.config

theorem Session.isFlowV2_step : (s.step op).isFlowV2 = s.isFlowV2 :=
  congrArg Config.isFlowV2 (s.config_step op)

end OpenPpp2.Mux
