import OpenPpp2.Mux.TxMoves

/-!
# Posting and draining, move by move

What the functions of the transmit path do to the transmit side: each is a sequence of the
elementary moves, from the hand it is called with to the hand it leaves.
-/

namespace OpenPpp2.Mux

open TxMove

namespace Session

variable {rules : TxRules}

/-- The function took the transmit side from one hand to another by moves. -/
def Carries (rules : TxRules) (s : Session) (hand : Hand) (after : Session) (left : Hand) : Prop :=
  TxMoves rules (s.sendSide, hand) (after.sendSide, left)

variable {s after : Session} {hand : Hand} {packet : TxPacket} {callback : Bool}
    {completion : Option CompletionId} {frame : Frame} {answers : PostAnswers}

theorem Carries.of_eq (same : after.sendSide = s.sendSide) : Carries rules s hand after hand := by
  unfold Carries
  rw [same]

open Carries

theorem Carries.move {left : Hand} (move : TxMove rules (s.sendSide, hand) (after.sendSide, left)) :
    Carries rules s hand after left :=
  Relation.ReflTransGen.single move

theorem Carries.trans {middle : Session} {held left : Hand}
    (first : Carries rules s hand middle held) (second : Carries rules middle held after left) :
    Carries rules s hand after left :=
  Relation.ReflTransGen.trans first second

theorem sendSide_finishTxCompletion (s : Session) (completion : Option CompletionId) (ok : Bool) :
    (s.finishTxCompletion completion ok).sendSide = s.sendSide.finish completion ok := by
  cases completion <;> rfl

theorem carries_closeExec_open (opened : s.closeRequested = false) (hand : Hand)
    (now : Nat) : Carries rules s hand (s.closeExec now) .empty := by
  have begun : s.beginClose.sendSide = s.sendSide.requestClose := by
    rw [beginClose, if_neg (by simp [opened])]
    rfl
  rw [closeExec, if_neg (by simp [opened])]
  by_cases gone : s.disposed
  · rw [finalize, if_pos gone]
    exact move (begun ▸ requestClose s.sendSide hand)
  · have finalized : (s.finalize now).sendSide = s.sendSide.finalize := by
      have open' : ¬ s.closeRequested := by simp [opened]
      simp only [finalize, if_neg gone, beginClose, if_neg open']
      rfl
    exact move (finalized ▸ close s.sendSide hand)

theorem carries_closeExec (s : Session) (now : Nat) :
    Carries rules s .empty (s.closeExec now) .empty := by
  cases requested : s.closeRequested with
  | true =>
    rw [closeExec, if_pos requested]
    exact .of_eq rfl
  | false => exact carries_closeExec_open requested .empty now

theorem carries_failFlow (v2 : s.isFlowV2) (hand : Hand) (cid : ConnectionId)
    (permitted : ∀ packet ∈ s.tx.queueOf cid, rules.mayDrop packet) :
    Carries rules s hand (s.failFlow cid) hand :=
  move (fail s.sendSide hand cid v2 permitted)

theorem sendSide_txAssignSeq (due : packet.assignSeq) :
    (s.txAssignSeq packet).1.sendSide = s.sendSide.number packet.frame ∧
      (s.txAssignSeq packet).2 = packet.numbered s.sendSide.txSeq := by
  rw [txAssignSeq, if_pos due]
  exact ⟨rfl, rfl⟩

theorem txAssignSeq_of_numbered
    (numbered : packet.assignSeq = false) : s.txAssignSeq packet = (s, packet) := by
  rw [txAssignSeq, if_neg (by simp [numbered])]

theorem txAssignSeq_assignSeq (s : Session) (packet : TxPacket) :
    (s.txAssignSeq packet).2.assignSeq = false := by
  cases due : packet.assignSeq with
  | true => rw [(sendSide_txAssignSeq due).2]; rfl
  | false => rwa [txAssignSeq_of_numbered due]

def Hand.afterSend (outcome : Session × TxPacket × Bool) (hold : TxPacket → Hand) : Hand :=
  if outcome.2.2 then .empty else hold outcome.2.1

section Sending

variable {hold : TxPacket → Hand}
  (number : ∀ (side : SendSide) (packet : TxPacket), packet.assignSeq = true →
    TxMove rules (side, hold packet) (side.number packet.frame, hold (packet.numbered side.txSeq)))
include number

theorem carries_txAssignSeq (s : Session) (packet : TxPacket) :
    Carries rules s (hold packet) (s.txAssignSeq packet).1 (hold (s.txAssignSeq packet).2) := by
  cases due : packet.assignSeq with
  | true =>
    obtain ⟨side, framed⟩ := @sendSide_txAssignSeq s packet due
    refine move ?_
    rw [side, framed]
    exact number s.sendSide packet due
  | false =>
    rw [txAssignSeq_of_numbered due]
    exact .of_eq rfl

theorem carries_sendOn (send : ∀ (side : SendSide) (packet : TxPacket) (write : CarrierWrite),
      packet.assignSeq = false → write.completion = packet.completion →
      TxMove rules (side, hold packet) (side.accept packet.frame write, .empty))
    (s : Session) (link : CarrierKey) (packet : TxPacket) (answer : Bool) :
    Carries rules s (hold packet) (s.txSendOn link packet answer).1
      (Hand.afterSend (s.txSendOn link packet answer) hold) := by
  have assigned := carries_txAssignSeq number s packet
  have numbered := s.txAssignSeq_assignSeq packet
  rcases framing : s.txAssignSeq packet with ⟨middle, framed⟩
  rw [framing] at assigned numbered
  simp only [txSendOn, framing]
  split_ifs
  · exact assigned.trans (move (send middle.sendSide framed _ numbered rfl))
  · exact assigned.trans (Carries.of_eq rfl)

end Sending

section

variable (s : Session) (link : CarrierKey) (packet : TxPacket) (answer : Bool)

theorem carries_txSendOn : Carries rules s (.data packet) (s.txSendOn link packet answer).1
    (Hand.afterSend (s.txSendOn link packet answer) .data) :=
  carries_sendOn number send s link packet answer

theorem txSendOn_keeps : (s.txSendOn link packet answer).1.tx = s.tx ∧
      (s.txSendOn link packet answer).1.config = s.config ∧
      (s.txSendOn link packet answer).2.1.length = packet.length ∧
      (s.txSendOn link packet answer).2.2 = s.carrierAccepts link packet.length answer := by
  have assigned : ∀ due, packet.assignSeq = due → (s.txAssignSeq packet).1.tx = s.tx ∧
      (s.txAssignSeq packet).1.config = s.config ∧
      (s.txAssignSeq packet).2.length = packet.length ∧
      ∀ length, (s.txAssignSeq packet).1.carrierAccepts link length answer =
        s.carrierAccepts link length answer := by
    intro due assign
    cases due <;> simp only [txAssignSeq, assign] <;> exact ⟨rfl, rfl, rfl, fun _ => rfl⟩
  obtain ⟨tx, config, length, accepts⟩ := assigned _ rfl
  simp only [txSendOn, length, accepts]
  split_ifs with taken
  · exact ⟨tx, config, length, taken.symm⟩
  · exact ⟨tx, config, length, (Bool.eq_false_iff.mpr taken).symm⟩

theorem carries_repeat (refused : (s.txSendOn link packet answer).2.2 = false)
    (permitted : packet.assignSeq → rules.mayRepeat) :
    Carries rules s (.data packet) (s.txSendOn link packet answer).1
      (.data { (s.txSendOn link packet answer).2.1 with assignSeq := packet.assignSeq }) := by
  have sending := @carries_txSendOn rules s link packet answer
  rw [Hand.afterSend, if_neg (by simp [refused])] at sending
  cases due : packet.assignSeq with
  | true =>
    exact sending.trans (move (repeatNumber _ _ (permitted due)))
  | false =>
    have same : (s.txSendOn link packet answer).2.1 = packet := by
      simp only [txSendOn, txAssignSeq_of_numbered due]
      split_ifs <;> rfl
    rw [same] at sending ⊢
    rw [← due]
    exact sending

end

theorem carries_sendData (s : Session) (answer : Bool) (permitted : rules.mayTake) :
    Carries rules s .empty (s.sendData answer).1 .empty := by
  unfold sendData
  split
  · exact .of_eq rfl
  split
  · rename_i tx popped
    exact move (spin s.sendSide tx popped)
  rename_i tx packet popped
  have taken : Carries rules s .empty { s with tx := tx } (.data packet) :=
    move (take s.sendSide tx packet popped permitted)
  split
  · exact taken.trans (move (park _ packet))
  split
  · exact taken.trans (move (requeue _ packet))
  · rename_i link links chosen
    have sending := @carries_txSendOn rules { s with tx := tx, links := links } link packet answer
    split <;> rename_i after framed sent <;> rw [sent] at sending
    · exact taken.trans sending
    · exact taken.trans (sending.trans (move (requeue after.sendSide framed)))

theorem carries_sendCtrl (s : Session) (answer : Bool) :
    Carries rules s .empty (s.sendCtrl answer).1 .empty := by
  unfold sendCtrl
  split
  · exact .of_eq rfl
  rename_i packet rest queued
  split
  · exact .of_eq rfl
  · rename_i link links chosen
    have taken : Carries rules s .empty { s with txCtrlQueue := rest, links := links }
        (.control packet) := move (takeControl s.sendSide packet rest queued)
    have sending := @carries_sendOn rules .control numberControl
      (fun side packet write _ => sendControl side packet write)
      { s with txCtrlQueue := rest, links := links } link packet answer
    split <;> rename_i after framed sent <;> rw [sent] at sending
    · exact taken.trans sending
    · exact taken.trans (sending.trans (move (returnControl after.sendSide framed)))

theorem carries_completeWrite (s : Session) (ticket : Nat) (ok : Bool) :
    Carries rules s .empty (s.completeWrite ticket ok) .empty := by
  unfold completeWrite
  split
  · exact .of_eq rfl
  · rename_i write found
    refine move ?_
    rw [sendSide_finishTxCompletion]
    exact complete s.sendSide .empty ticket write ok found

theorem sendSide_abortWrite (s : Session) (ticket : Nat) :
    (s.abortWrite ticket).sendSide = (s.completeWrite ticket false).sendSide := by
  simp only [abortWrite, completeWrite]
  split
  · rfl
  · rw [sendSide_finishTxCompletion, sendSide_finishTxCompletion]
    rfl

theorem carries_runEarlyAck (s : Session) (completion : CompletionId) :
    Carries rules s .empty (s.runEarlyAck completion) .empty := by
  unfold runEarlyAck
  split_ifs with posted
  · exact move (early s.sendSide .empty completion posted)
  · exact .of_eq rfl

theorem enqueueOrFail_room (room : s.tx.overflows packet = false)
    (completion : Option CompletionId) :
    s.enqueueOrFail packet completion = ({ s with tx := s.tx.enqueue packet }, .drain) := by
  simp only [enqueueOrFail, enqueueFlowTx, room, Bool.false_eq_true, if_false]

theorem carries_discard (unnumbered : s.isFlowV2 ∨ packet.assignSeq) :
    Carries rules s (.data packet) (s.finishTxCompletion packet.completion false) .empty := by
  refine move ?_
  rw [sendSide_finishTxCompletion]
  exact discard s.sendSide packet unnumbered

theorem carries_enqueueOrFail_full {queued : TxPacket} (full : s.tx.overflows queued)
    (owner : queued.connectionId = packet.connectionId) (unnumbered : s.isFlowV2 ∨ packet.assignSeq)
    (permitted : s.isFlowV2 → ∀ other ∈ s.tx.queueOf packet.connectionId, rules.mayDrop other) :
    Carries rules s (.data packet) (s.enqueueOrFail queued packet.completion).1 .empty ∧
      (s.enqueueOrFail queued packet.completion).2 ≠ .drain := by
  have touched : Carries rules s (.data packet)
      { s with tx := s.tx.setFlow packet.connectionId (s.tx.flow packet.connectionId) }
      (.data packet) :=
    move (touch s.sendSide (.data packet) packet.connectionId)
  generalize moved : ({ s with
    tx := s.tx.setFlow packet.connectionId (s.tx.flow packet.connectionId) } : Session) = middle
    at touched
  have mode : middle.isFlowV2 = s.isFlowV2 := by
    rw [← moved]
    rfl
  have queue : middle.tx.queueOf packet.connectionId = s.tx.queueOf packet.connectionId := by
    rw [← moved]
    exact TxScheduler.queueOf_touch s.tx _ _
  by_cases v2 : s.isFlowV2
  · have failed := carries_failFlow (mode.trans v2) (.data packet) packet.connectionId
      (queue ▸ permitted v2)
    simp only [enqueueOrFail, enqueueFlowTx, full, if_true, owner, moved, if_pos v2, failTxEnqueue]
    refine ⟨touched.trans (failed.trans (carries_discard (.inl (mode.trans v2)))), ?_⟩
    split_ifs <;> simp
  · have due := unnumbered.resolve_left v2
    simp only [enqueueOrFail, enqueueFlowTx, full, if_true, owner, moved, if_neg v2, failTxEnqueue]
    refine ⟨touched.trans (carries_discard (.inr due)), ?_⟩
    split_ifs <;> simp

theorem carries_enqueue_early (s : Session) (packet : TxPacket) (posted : Bool) :
    Carries rules s (.data packet)
      (({ s with tx := s.tx.enqueue { packet with completion := none } } : Session).postEarlyAck
        packet.completion posted) .empty := by
  rcases attached : packet.completion with _ | id
  · have bare : ({ packet with completion := none } : TxPacket) = packet := by
      rw [← attached]
    rw [bare]
    exact move (enqueue s.sendSide packet)
  · cases posted with
    | true =>
      have detached : Carries rules s (.data packet) { s with earlyAcks := s.earlyAcks ++ [id] }
          (.data { packet with completion := none }) :=
        move (detach s.sendSide packet id attached)
      exact detached.trans (move (enqueue _ { packet with completion := none }))
    | false =>
      have settled : Carries rules s (.data packet) (s.finishTxCompletion (some id) false)
          (.data { packet with completion := none }) := by
        refine move ?_
        rw [sendSide_finishTxCompletion, ← attached]
        exact settle s.sendSide packet false
      exact settled.trans (move (enqueue _ { packet with completion := none }))

section

variable (unnumbered : s.isFlowV2 = true ∨ packet.assignSeq = true)
  (permitted : s.isFlowV2 = true → s.tx.overflows packet = true →
    ∀ other ∈ s.tx.queueOf packet.connectionId, rules.mayDrop other)
include unnumbered permitted

theorem carries_enqueueOrFail :
    Carries rules s (.data packet) (s.enqueueOrFail packet packet.completion).1 .empty := by
  cases full : s.tx.overflows packet with
  | false =>
    rw [enqueueOrFail_room full]
    exact move (enqueue s.sendSide packet)
  | true =>
    exact (carries_enqueueOrFail_full full rfl unnumbered fun v2 => permitted v2 full).1

theorem carries_postData (acceleration early : Bool) :
    Carries rules s (.data packet) (s.postData packet acceleration early).1 .empty := by
  unfold postData
  split_ifs
  · cases full : s.tx.overflows packet with
    | false =>
      have room : s.tx.overflows { packet with completion := none } = false := full
      rw [enqueueOrFail_room room]
      exact carries_enqueue_early s packet early
    | true =>
      have stripped : s.tx.overflows { packet with completion := none } := full
      obtain ⟨given, refused⟩ :=
        carries_enqueueOrFail_full stripped (Eq.refl packet.connectionId) unnumbered
        fun v2 => permitted v2 full
      split
      · rename_i after queued
        rw [queued] at refused
        exact absurd rfl refused
      · exact given
  · exact carries_enqueueOrFail unnumbered permitted

theorem carries_postLane (acceleration : Bool) (answers : PostAnswers)
    (repeats : ∀ link, s.turboCarrier packet.frame = some link →
      s.carrierAccepts link packet.length answers.turboWrite = false →
        packet.assignSeq → rules.mayRepeat) :
    Carries rules s (.data packet) (s.postLane packet acceleration answers).1 .empty := by
  rcases turbo : s.turboCarrier packet.frame with _ | link
  · simp only [postLane, turbo]
    exact carries_postData unnumbered permitted acceleration answers.earlyAck
  · obtain ⟨tx, config, length, accepts⟩ := s.txSendOn_keeps link packet answers.turboWrite
    have owner := s.txSendOn_connectionId link packet answers.turboWrite
    have sending := @carries_txSendOn rules s link packet answers.turboWrite
    have again := @carries_repeat rules s link packet answers.turboWrite
    rcases sent : s.txSendOn link packet answers.turboWrite with ⟨after, framed, _ | _⟩
    · rw [sent] at tx config length accepts owner again
      simp only [postLane, turbo, sent]
      have kept : after.tx = s.tx := tx
      have mode : after.isFlowV2 = s.isFlowV2 := congrArg Config.isFlowV2 config
      have frameOwner : ({ framed with assignSeq := packet.assignSeq } : TxPacket).connectionId =
          packet.connectionId := owner
      have overflow : after.tx.overflows { framed with assignSeq := packet.assignSeq } =
          s.tx.overflows packet := by
        have frameLength : ({ framed with assignSeq := packet.assignSeq } : TxPacket).length =
            packet.length := length
        simp only [TxScheduler.overflows, frameOwner, frameLength, kept]
      refine (again rfl (repeats link turbo accepts.symm)).trans
        (carries_postData ?_ ?_ acceleration answers.earlyAck)
      · rw [mode]
        exact unnumbered
      · rw [mode, overflow, frameOwner, kept]
        exact permitted
    · rw [sent] at sending
      simp only [postLane, turbo, sent]
      exact sending

end

def controlVictim (s : Session) : Option TxPacket :=
  if s.txCtrlQueue.length ≥ txCtrlMax then s.txCtrlQueue.find? isExpendable else none

theorem carries_postCtrl (packet : TxPacket)
    (permitted : ∀ victim, s.controlVictim = some victim → rules.mayEvict victim) :
    Carries rules s (.control packet) (s.postCtrl packet).1 .empty ∨
      s.postCtrl packet = (s, .rejected) := by
  unfold postCtrl
  split_ifs with full
  · rw [controlVictim, if_pos full] at permitted
    split
    · rename_i victim found
      have evicted : Carries rules s (.control packet)
          { s with txCtrlQueue := s.txCtrlQueue.eraseP isExpendable } (.control packet) :=
        move (evictControl s.sendSide _ victim found (permitted victim found))
      exact .inl (evicted.trans (move (pushControl _ packet)))
    · exact .inr rfl
  · exact .inl (move (pushControl s.sendSide packet))

structure PostPermits (rules : TxRules) (s : Session) (frame : Frame) (answers : PostAnswers) :
    Prop where
  picks : frame.cmd.isReliabilityControl = false → ∀ packet : TxPacket,
    packet.frame.cmd = frame.cmd → rules.mayPick packet
  drops : s.isFlowV2 → frame.cmd.isPerFlowData →
    s.tx.overflows { frame := frame, completion := none, assignSeq := false } →
      ∀ packet ∈ s.tx.queueOf frame.connectionId, rules.mayDrop packet
  evicts : frame.cmd.isReliabilityControl ∨
      s.isFlowV2 ∧ frame.cmd.isPerFlowData = false →
    ∀ victim, s.controlVictim = some victim → rules.mayEvict victim
  repeats : s.isFlowV2 = false → ∀ link, s.turboCarrier frame = some link →
    s.carrierAccepts link frame.length answers.turboWrite = false → rules.mayRepeat
  stamps : s.isFlowV2 → frame.cmd.isPerFlowData →
    rules.mayStamp (s.txFlowSeq.lookup frame.connectionId) (s.log.posted frame.connectionId)

theorem stampFrame_cmd (s : Session) (frame : Frame) :
    (s.stampFrame frame).2.1.cmd = frame.cmd := by
  unfold stampFrame
  split_ifs <;> rfl

theorem stampFrame_lane (s : Session) (frame : Frame) : ((s.stampFrame frame).2.2 = .control ∧
        (frame.cmd.isReliabilityControl ∨ s.isFlowV2 ∧ frame.cmd.isPerFlowData = false) ∧
        (s.stampFrame frame).1 = s) ∨ (s.isFlowV2 ∧ frame.cmd.isPerFlowData ∧
        (s.stampFrame frame).2 = ({ frame with seq := s.nextDsn frame.connectionId }, .data false) ∧
        (s.stampFrame frame).1.sendSide = s.sendSide.stamp frame.connectionId) ∨
      (s.isFlowV2 = false ∧ frame.cmd.isReliabilityControl = false ∧
        s.stampFrame frame = (s, { frame with seq := 0 }, .data true)) := by
  unfold stampFrame
  split_ifs with reliable v2 data control
  · exact .inl ⟨rfl, .inl reliable, rfl⟩
  · exact .inr (.inl ⟨v2, data, rfl, rfl⟩)
  · exact .inl ⟨rfl, .inr ⟨v2, Bool.eq_false_iff.mpr data⟩, rfl⟩
  · have classes := frame.cmd.exactly_one_class
    simp_all
  · exact .inr (.inr ⟨Bool.eq_false_iff.mpr v2, Bool.eq_false_iff.mpr reliable, rfl⟩)

section Tracking

variable {tracked : Session}

theorem trackTxCompletion_keeps
    (tracking : s.trackTxCompletion callback = (tracked, some completion)) :
    (∃ pending next, tracked = { s with
        pendingTxCompletions := pending
        nextTxCompletion := next }) ∧
      (tracked = s ∧ completion = none ∨
        callback ∧ s.closeRequested = false ∧ tracked.sendSide = s.sendSide.track ∧
          completion = some s.nextTxCompletion) := by
  unfold trackTxCompletion at tracking
  split_ifs at tracking with silent closing
  · cases tracking
    exact ⟨⟨s.pendingTxCompletions, s.nextTxCompletion, rfl⟩, .inl ⟨rfl, rfl⟩⟩
  · cases tracking
  · cases tracking
    refine ⟨⟨_, _, rfl⟩, .inr ⟨?_, Bool.eq_false_iff.mpr closing, rfl, rfl⟩⟩
    simpa using silent

theorem carries_track {hold : TxPacket → Hand}
    (track : ∀ (side : SendSide) (packet : TxPacket), packet.completion = none →
      side.closeRequested = false → TxMove rules (side, hold packet)
        (side.track, hold { packet with completion := some side.nextTxCompletion }))
    (tracking : s.trackTxCompletion callback = (tracked, some completion))
    (frame : Frame) (assignSeq : Bool) :
    Carries rules s (hold { frame := frame, completion := none, assignSeq := assignSeq }) tracked
      (hold { frame := frame, completion := completion, assignSeq := assignSeq }) := by
  rcases (trackTxCompletion_keeps tracking).2 with ⟨rfl, rfl⟩ | ⟨-, opened, side, rfl⟩
  · exact .of_eq rfl
  · refine move ?_
    rw [side]
    exact track s.sendSide _ rfl opened

theorem carries_refuseTracking (tracking : s.trackTxCompletion callback = (tracked, none)) :
    Carries rules s .empty tracked .empty := by
  unfold trackTxCompletion at tracking
  split_ifs at tracking
  · cases tracking
  · cases tracking
    exact move (refuseTracking s.sendSide .empty)
  · cases tracking

end Tracking

theorem PostPermits.tracked
    (permits : PostPermits rules s frame answers) (pending : List CompletionId)
    (next : CompletionId) : PostPermits rules { s with
      pendingTxCompletions := pending
      nextTxCompletion := next } frame answers :=
  ⟨permits.picks, permits.drops, permits.evicts, permits.repeats, permits.stamps⟩

theorem carries_control {tracked : Session}
    (tracking : s.trackTxCompletion callback = (tracked, some completion))
    (control : frame.cmd.isPerFlowData = false)
    (permitted : ∀ victim, tracked.controlVictim = some victim → rules.mayEvict victim)
    (outcome : Session × PostOutcome)
    (posted : tracked.postCtrl { frame := frame, completion := completion, assignSeq := false } =
      outcome) :
    Carries rules s .empty outcome.1 .empty ∨
      callback ∧ outcome.2 = .rejected ∧ outcome.1.closeRequested = false ∧
        ∃ packet, Carries rules s .empty outcome.1 (.control packet) := by
  have picked : Carries rules s .empty tracked
      (.control { frame := frame, completion := completion, assignSeq := false }) :=
    (move (pickControl s.sendSide _ rfl rfl control)).trans
      (carries_track trackControl tracking frame false)
  rcases carries_postCtrl { frame := frame, completion := completion, assignSeq := false }
    permitted with queued | refused
  · left
    rw [posted] at queued
    exact picked.trans queued
  · rw [posted] at refused
    rw [refused]
    rcases (trackTxCompletion_keeps tracking).2 with ⟨-, bare⟩ | ⟨called, opened, side, -⟩
    · left
      exact picked.trans (move (refuseControl tracked.sendSide _ bare))
    · exact .inr ⟨called, rfl, (congrArg SendSide.closeRequested side).trans opened, _, picked⟩

theorem carries_postInternal
    (permits : PostPermits rules s frame answers) (acceleration callback : Bool) :
    Carries rules s .empty (s.postInternal frame acceleration callback answers).1 .empty ∨
      callback ∧ (s.postInternal frame acceleration callback answers).2 = .rejected ∧
        (s.postInternal frame acceleration callback answers).1.closeRequested = false ∧
        ∃ packet, Carries rules s .empty (s.postInternal frame acceleration callback answers).1
          (.control packet) := by
  by_cases closed : (s.disposed || !s.established)
  · rw [postInternal, if_pos closed]
    exact .inl (Carries.of_eq rfl)
  rcases tracking : s.trackTxCompletion callback with ⟨tracked, _ | completion⟩
  · simp only [postInternal, if_neg closed, tracking]
    exact .inl (carries_refuseTracking tracking)
  obtain ⟨⟨pending, next, same⟩, -⟩ := trackTxCompletion_keeps tracking
  have allowed := same ▸ permits.tracked pending next
  have picked : ∀ (framed : Frame) (assignSeq : Bool), framed.cmd = frame.cmd →
      frame.cmd.isReliabilityControl = false → Carries rules s .empty tracked
        (.data { frame := framed, completion := completion, assignSeq := assignSeq }) :=
    fun framed assignSeq same sequenced =>
      (move (pick s.sendSide _ rfl (permits.picks sequenced _ same))).trans
        (carries_track track tracking framed assignSeq)
  rcases tracked.stampFrame_lane frame with
    ⟨lane, control, unchanged⟩ | ⟨v2, data, framing, stamping⟩ | ⟨compat, sequenced, framing⟩
  · have kind := tracked.stampFrame_cmd frame
    rcases stamped : tracked.stampFrame frame with ⟨numbered, framed, _ | deferSeq⟩
    · rw [stamped] at unchanged kind
      have notData : framed.cmd.isPerFlowData = false := by
        rw [show framed.cmd = frame.cmd from kind]
        exact control.elim Cmd.not_isPerFlowData And.right
      simp only [postInternal, if_neg closed, tracking, stamped]
      cases unchanged
      exact carries_control tracking notData (allowed.evicts control) _ rfl
    · rw [stamped] at lane
      cases lane
  · left
    rcases stamped : tracked.stampFrame frame with ⟨numbered, rest⟩
    rw [stamped] at framing stamping
    cases framing
    simp only [postInternal, if_neg closed, tracking, stamped]
    have keeps : numbered.tx = tracked.tx ∧ numbered.config = tracked.config := 
      ⟨congrArg SendSide.tx stamping, congrArg SendSide.config stamping⟩
    have mode := (congrArg Config.isFlowV2 keeps.2).trans v2
    have framed : Carries rules tracked
        (.data { frame := frame, completion := completion, assignSeq := false }) numbered
        (.data
          { frame := { frame with seq := tracked.nextDsn frame.connectionId }
            completion := completion
            assignSeq := false }) := by
      refine move ?_
      rw [stamping]
      exact stamp tracked.sendSide _ v2 (allowed.stamps v2 data)
    have sequenced : frame.cmd.isReliabilityControl = false := by
      by_contra reliable
      simp [Cmd.not_isPerFlowData (Bool.not_eq_false _ ▸ reliable)] at data
    refine ((picked frame false rfl sequenced).trans framed).trans
      (carries_postLane (.inl mode) ?_ acceleration answers ?_)
    · intro _ full
      rw [keeps.1] at full ⊢
      exact allowed.drops v2 data full
    · intro _ _ _ due
      cases due
  · left
    simp only [postInternal, if_neg closed, tracking, framing]
    refine (picked { frame with seq := 0 } true rfl sequenced).trans
      (carries_postLane (.inr rfl) ?_ acceleration answers ?_)
    · intro v2
      rw [compat] at v2
      cases v2
    · exact fun link turbo refused _ => allowed.repeats compat link turbo refused

/-- A post gets as far as the numbering block, unless its completion is refused. -/
def takesPost (s : Session) (frame : Frame) : Bool :=
  !s.disposed && s.established && frame.payload.length ≤ maxBuffersSize

theorem carries_post (permits : s.takesPost frame → PostPermits rules s frame answers)
    (acceleration callback : Bool) (now : Nat) :
    Carries rules s .empty (s.post frame acceleration callback answers now).1 .empty := by
  unfold post
  split_ifs with large
  · exact s.carries_closeExec now
  by_cases closed : (s.disposed || !s.established)
  · simp only [postInternal, if_pos closed]
    exact s.carries_closeExec now
  have taken : s.takesPost frame := by
    rw [Bool.or_eq_true, not_or] at closed
    simp only [takesPost, Bool.and_eq_true, decide_eq_true_eq]
    exact ⟨⟨by simpa using closed.1, by simpa using closed.2⟩, by omega⟩
  rcases carries_postInternal (permits taken) acceleration callback with
    carried | ⟨-, rejected, opened, packet, carried⟩
  · split
    · rename_i after posted
      rw [posted] at carried
      exact carried.trans (after.carries_closeExec now)
    · exact carried
  · split
    · rename_i after posted
      rw [posted] at carried opened
      exact carried.trans (carries_closeExec_open opened _ now)
    · rename_i accepted
      exact (accepted _ (Prod.ext rfl rejected)).elim

end Session

end OpenPpp2.Mux
