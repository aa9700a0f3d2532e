import OpenPpp2.Mux.Sides

/-!
# The moves of the transmit side

A frame on its way out is always somewhere: in a queue, in the hand of the function that is posting
or draining it, or in flight on a carrier.
-/

namespace OpenPpp2.Mux

structure TxRules where
  mayPick : TxPacket → Prop
  mayTake : Prop
  mayDrop : TxPacket → Prop
  mayEvict : TxPacket → Prop
  mayRepeat : Prop
  mayStamp : Option SeqNumber → List SeqNumber → Prop

/-- The frame the running function holds, taken from the data or the control
side. -/
inductive Hand
  | empty
  | data (packet : TxPacket)
  | control (packet : TxPacket)

def TxPacket.numbered (packet : TxPacket) (seq : SeqNumber) : TxPacket :=
  { packet with
    frame := { packet.frame with seq := seq }
    assignSeq := false }

namespace SendSide

/-- `finish_tx_completion` -/
def finish (side : SendSide) (completion : Option CompletionId) (ok : Bool) : SendSide :=
  match completion with
  | none => side
  | some id =>
    { side with
      pendingTxCompletions := side.pendingTxCompletions.filter (· ≠ id)
      firedTxCompletions := Session.fire id ok side.firedTxCompletions }

theorem finish_eq (side : SendSide) (completion : Option CompletionId) (ok : Bool) :
    side.finish completion ok = { side with
        pendingTxCompletions := (side.finish completion ok).pendingTxCompletions
        firedTxCompletions := (side.finish completion ok).firedTxCompletions } := by
  cases completion <;> rfl

/-- `begin_close` of a session that was not closing. -/
def requestClose (side : SendSide) : SendSide :=
  { side with
    closeRequested := true
    pendingTxCompletions := []
    firedTxCompletions := side.pendingTxCompletions.foldl
      (fun fired id => Session.fire id false fired) side.firedTxCompletions }

/-- `finalize` of a live session. -/
def finalize (side : SendSide) : SendSide :=
  { side.requestClose with
    disposed := true
    tx := TxScheduler.empty
    txCtrlQueue := []
    txFlowSeq := ∅ }

/-- `release_connection` -/
def leave (side : SendSide) (cid : ConnectionId) : SendSide :=
  { side with
    txFlowSeq := side.txFlowSeq.erase cid
    tx := side.tx.dropFlow cid false }

/-- `maybe_release_flow` -/
def forget (side : SendSide) (cid : ConnectionId) : SendSide :=
  { side with txFlowSeq := side.txFlowSeq.erase cid }

def enter (side : SendSide) (cid : ConnectionId) : SendSide :=
  { side with posted := Function.update side.posted cid [] }

def nextDsn (side : SendSide) (cid : ConnectionId) : SeqNumber :=
  match side.txFlowSeq.lookup cid with
  | none => 1
  | some dsn => if dsn = 0 then 1 else dsn

def stamp (side : SendSide) (cid : ConnectionId) : SendSide :=
  { side with
    txFlowSeq := side.txFlowSeq.insert cid (side.nextDsn cid + 1)
    posted := Function.update side.posted cid (side.posted cid ++ [side.nextDsn cid]) }

def track (side : SendSide) : SendSide :=
  { side with
    nextTxCompletion := side.nextTxCompletion + 1
    pendingTxCompletions := side.pendingTxCompletions ++ [side.nextTxCompletion] }

def refuseTracking (side : SendSide) : SendSide :=
  { side with
    nextTxCompletion := side.nextTxCompletion + 1
    firedTxCompletions := Session.fire side.nextTxCompletion false side.firedTxCompletions }

/-- `tx_assign_seq` -/
def number (side : SendSide) (frame : Frame) : SendSide :=
  { side with
    txSeq := side.txSeq + 1
    numbered := side.numbered ++ [{ frame with seq := side.txSeq }] }

def accept (side : SendSide) (frame : Frame) (write : CarrierWrite) : SendSide :=
  { side with
    writes := side.writes ++ [write]
    accepted := side.accepted ++ [frame] }

end SendSide

inductive TxMove (rules : TxRules) : SendSide × Hand → SendSide × Hand → Prop
  | fail (side : SendSide) (hand : Hand) (cid : ConnectionId) (v2 : side.config.isFlowV2)
      (permitted : ∀ packet ∈ side.tx.queueOf cid, rules.mayDrop packet) :
      TxMove rules (side, hand) (side.failFlow cid, hand)
  | leave (side : SendSide) (hand : Hand) (cid : ConnectionId)
      (permitted : ∀ packet ∈ side.tx.queueOf cid, rules.mayDrop packet) :
      TxMove rules (side, hand) (side.leave cid, hand)
  | forget (side : SendSide) (hand : Hand) (cid : ConnectionId) :
      TxMove rules (side, hand) (side.forget cid, hand)
  | enter (side : SendSide) (hand : Hand) (cid : ConnectionId) :
      TxMove rules (side, hand) (side.enter cid, hand)
  -- a closing session forgets what it was posting
  | requestClose (side : SendSide) (hand : Hand) :
      TxMove rules (side, hand) (side.requestClose, .empty)
  | close (side : SendSide) (hand : Hand) : TxMove rules (side, hand) (side.finalize, .empty)
  | unpark (side : SendSide) (hand : Hand) :
      TxMove rules (side, hand) ({ side with tx := side.tx.drrUnparkAll.1 }, hand)
  -- posting
  | pick (side : SendSide) (packet : TxPacket) (bare : packet.completion = none)
      (permitted : rules.mayPick packet) :
      TxMove rules (side, .empty) (side, .data packet)
  | track (side : SendSide) (packet : TxPacket) (bare : packet.completion = none)
      (opened : side.closeRequested = false) :
      TxMove rules (side, .data packet)
        (side.track, .data { packet with completion := some side.nextTxCompletion })
  | refuseTracking (side : SendSide) (hand : Hand) :
      TxMove rules (side, hand) (side.refuseTracking, hand)
  | stamp (side : SendSide) (packet : TxPacket) (v2 : side.config.isFlowV2)
      (permitted : rules.mayStamp (side.txFlowSeq.lookup packet.connectionId)
        (side.posted packet.connectionId)) :
      TxMove rules (side, .data packet)
        (side.stamp packet.connectionId,
          .data { packet with frame := { packet.frame with seq := side.nextDsn packet.connectionId } })
  | touch (side : SendSide) (hand : Hand) (cid : ConnectionId) :
      TxMove rules (side, hand) ({ side with tx := side.tx.setFlow cid (side.tx.flow cid) }, hand)
  | enqueue (side : SendSide) (packet : TxPacket) :
      TxMove rules (side, .data packet) ({ side with tx := side.tx.enqueue packet }, .empty)
  | discard (side : SendSide) (packet : TxPacket)
      (unnumbered : side.config.isFlowV2 ∨ packet.assignSeq) :
      TxMove rules (side, .data packet) (side.finish packet.completion false, .empty)
  | repeatNumber (side : SendSide) (packet : TxPacket) (permitted : rules.mayRepeat) :
      TxMove rules (side, .data packet) (side, .data { packet with assignSeq := true })
  | detach (side : SendSide) (packet : TxPacket) (id : CompletionId)
      (attached : packet.completion = some id) :
      TxMove rules (side, .data packet)
        ({ side with earlyAcks := side.earlyAcks ++ [id] },
          .data { packet with completion := none })
  | settle (side : SendSide) (packet : TxPacket) (ok : Bool) :
      TxMove rules (side, .data packet)
        (side.finish packet.completion ok, .data { packet with completion := none })
  -- posting to the control queue
  | pickControl (side : SendSide) (packet : TxPacket) (bare : packet.completion = none)
      (numbered : packet.assignSeq = false)
      (control : packet.frame.cmd.isPerFlowData = false) :
      TxMove rules (side, .empty) (side, .control packet)
  | trackControl (side : SendSide) (packet : TxPacket) (bare : packet.completion = none)
      (opened : side.closeRequested = false) :
      TxMove rules (side, .control packet)
        (side.track, .control { packet with completion := some side.nextTxCompletion })
  | pushControl (side : SendSide) (packet : TxPacket) :
      TxMove rules (side, .control packet)
        ({ side with txCtrlQueue := side.txCtrlQueue ++ [packet] }, .empty)
  | evictControl (side : SendSide) (hand : Hand) (victim : TxPacket)
      (found : side.txCtrlQueue.find? Session.isExpendable = some victim)
      (permitted : rules.mayEvict victim) :
      TxMove rules (side, hand)
        ({ side with txCtrlQueue := side.txCtrlQueue.eraseP Session.isExpendable }, hand)
  | refuseControl (side : SendSide) (packet : TxPacket) (bare : packet.completion = none) :
      TxMove rules (side, .control packet) (side, .empty)
  -- draining
  | spin (side : SendSide) (tx : TxScheduler) (popped : side.tx.drrPopNext = (tx, none)) :
      TxMove rules (side, .empty) ({ side with tx := tx }, .empty)
  | take (side : SendSide) (tx : TxScheduler) (packet : TxPacket)
      (popped : side.tx.drrPopNext = (tx, some packet)) (permitted : rules.mayTake) :
      TxMove rules (side, .empty) ({ side with tx := tx }, .data packet)
  | park (side : SendSide) (packet : TxPacket) :
      TxMove rules (side, .data packet) ({ side with tx := side.tx.drrParkFront packet }, .empty)
  | requeue (side : SendSide) (packet : TxPacket) :
      TxMove rules (side, .data packet) ({ side with tx := side.tx.drrRequeueFront packet }, .empty)
  | number (side : SendSide) (packet : TxPacket) (due : packet.assignSeq) :
      TxMove rules (side, .data packet)
        (side.number packet.frame, .data (packet.numbered side.txSeq))
  | send (side : SendSide) (packet : TxPacket) (write : CarrierWrite)
      (numbered : packet.assignSeq = false) (same : write.completion = packet.completion) :
      TxMove rules (side, .data packet) (side.accept packet.frame write, .empty)
  -- draining the control queue
  | takeControl (side : SendSide) (packet : TxPacket) (rest : List TxPacket)
      (queued : side.txCtrlQueue = packet :: rest) :
      TxMove rules (side, .empty) ({ side with txCtrlQueue := rest }, .control packet)
  | returnControl (side : SendSide) (packet : TxPacket) :
      TxMove rules (side, .control packet)
        ({ side with txCtrlQueue := packet :: side.txCtrlQueue }, .empty)
  | numberControl (side : SendSide) (packet : TxPacket) (due : packet.assignSeq) :
      TxMove rules (side, .control packet)
        (side.number packet.frame, .control (packet.numbered side.txSeq))
  | sendControl (side : SendSide) (packet : TxPacket) (write : CarrierWrite)
      (same : write.completion = packet.completion) :
      TxMove rules (side, .control packet) (side.accept packet.frame write, .empty)
  -- in flight
  | resend (side : SendSide) (hand : Hand) (write : CarrierWrite) (bare : write.completion = none) :
      TxMove rules (side, hand) ({ side with writes := side.writes ++ [write] }, hand)
  | complete (side : SendSide) (hand : Hand) (ticket : Nat) (write : CarrierWrite) (ok : Bool)
      (found : side.writes.find? (fun write => write.ticket = ticket) = some write) :
      TxMove rules (side, hand)
        (({ side with writes := side.writes.eraseP fun write => write.ticket = ticket } :
          SendSide).finish write.completion ok, hand)
  | early (side : SendSide) (hand : Hand) (id : CompletionId) (posted : id ∈ side.earlyAcks) :
      TxMove rules (side, hand)
        (({ side with earlyAcks := side.earlyAcks.erase id } : SendSide).finish (some id) true, hand)

abbrev TxMoves (rules : TxRules) : SendSide × Hand → SendSide × Hand → Prop :=
  Relation.ReflTransGen (TxMove rules)

theorem TxMoves.keeps {rules : TxRules} {invariant : SendSide × Hand → Prop}
    {start finish : SendSide × Hand} (moves : TxMoves rules start finish)
    (kept : ∀ current next, TxMove rules current next → invariant current → invariant next)
    (holds : invariant start) : invariant finish := by
  induction moves with
  | refl => exact holds
  | tail _ move ih => exact kept _ _ move ih

namespace TxScheduler

def Queued (tx : TxScheduler) (packet : TxPacket) : Prop := ∃ cid, packet ∈ tx.queueOf cid

section Operations

variable {tx : TxScheduler}

theorem not_queued_empty (packet : TxPacket) : ¬ empty.Queued packet := by
  rintro ⟨cid, member⟩
  exact absurd member List.not_mem_nil

@[simp] theorem queued_enqueue (tx : TxScheduler) (added : TxPacket) :
    (tx.enqueue added).Queued added := by
  refine ⟨added.connectionId, ?_⟩
  simp [queueOf_enqueue]

@[simp] theorem queued_drrRequeueFront (tx : TxScheduler) (added : TxPacket) :
    (tx.drrRequeueFront added).Queued added := by
  refine ⟨added.connectionId, ?_⟩
  simp [queueOf_drrRequeueFront]

@[simp] theorem queued_drrParkFront (tx : TxScheduler) (added : TxPacket) :
    (tx.drrParkFront added).Queued added := by
  refine ⟨added.connectionId, ?_⟩
  simp [queueOf_drrParkFront]

theorem queueOf_touch (tx : TxScheduler) (cid other : ConnectionId) :
    (tx.setFlow cid (tx.flow cid)).queueOf other = tx.queueOf other := by
  unfold queueOf
  rw [flow_of_insert rfl]
  split_ifs with same
  · rw [same]
  · rfl

theorem Inv.touch (inv : Inv tx) (cid : ConnectionId) : Inv (tx.setFlow cid (tx.flow cid)) := by
  have placed : (tx.setFlow cid (tx.flow cid)).Placed cid :=
    (inv.placed cid).transfer (flow_setFlow_self tx cid _) rfl id
  exact inv.replace cid (tx.flow cid) rfl rfl rfl (inv.sound cid) placed fun _ _ => ⟨rfl, id⟩

end Operations

end TxScheduler

theorem TxMove.inv {rules : TxRules} {before after : SendSide × Hand}
    (move : TxMove rules before after) (inv : before.1.tx.Inv) : after.1.tx.Inv := by
  cases move with
  | fail side hand cid => exact inv.dropFlow cid true
  | leave side hand cid => exact inv.dropFlow cid false
  | close side hand => exact TxScheduler.inv_empty
  | unpark side hand => exact inv.drrUnparkAll
  | touch side hand cid => exact inv.touch cid
  | enqueue side packet => exact inv.enqueue packet
  | spin side tx popped | take side tx packet popped =>
    have kept := inv.drrPopNext.1
    rw [popped] at kept
    exact kept
  | park side packet => exact inv.drrParkFront packet
  | requeue side packet => exact inv.drrRequeueFront packet
  | discard | settle | complete | early =>
    rw [SendSide.finish_eq]
    exact inv
  | _ => exact inv

def HoldsData (state : SendSide × Hand) (packet : TxPacket) : Prop :=
  state.1.tx.Queued packet ∨ state.2 = .data packet

def HoldsControl (state : SendSide × Hand) (packet : TxPacket) : Prop :=
  packet ∈ state.1.txCtrlQueue ∨ state.2 = .control packet

/-- What a step does to the queue of a connection. -/
inductive QueueStep (rules : TxRules) (before after : SendSide × Hand) (cid : ConnectionId) : Prop
  | same (queue : after.1.tx.queueOf cid = before.1.tx.queueOf cid)
  | dropped (permitted : ∀ packet ∈ before.1.tx.queueOf cid, rules.mayDrop packet)
      (queue : after.1.tx.queueOf cid = [])
  | closed (closed : after = (before.1.finalize, .empty))
  | pushed (packet : TxPacket) (inHand : before.2 = .data packet)
      (queue : after.1.tx.queueOf cid = before.1.tx.queueOf cid ++ [packet] ∨
        after.1.tx.queueOf cid = packet :: before.1.tx.queueOf cid)
  | popped (packet : TxPacket) (permitted : rules.mayTake) (taken : after.2 = .data packet)
      (queue : before.1.tx.queueOf cid = packet :: after.1.tx.queueOf cid)

section

variable {rules : TxRules} {before after : SendSide × Hand} {packet : TxPacket}

open List TxScheduler

theorem QueueStep.of_ite {cid other : ConnectionId} {changed : List TxPacket}
    (queue : after.1.tx.queueOf cid = if cid = other then changed else before.1.tx.queueOf cid)
    (step : cid = other → after.1.tx.queueOf cid = changed → QueueStep rules before after cid) :
    QueueStep rules before after cid := by
  by_cases own : cid = other
  · exact step own (queue.trans (if_pos own))
  · exact .same (queue.trans (if_neg own))

namespace TxMove

theorem queueStep (move : TxMove rules before after) (inv : before.1.tx.Inv) (cid : ConnectionId) :
    QueueStep rules before after cid := by
  cases move with
  | fail side hand ended v2 permitted | leave side hand ended permitted =>
    exact .of_ite (queueOf_dropFlow side.tx ended _ cid) fun own => .dropped (own ▸ permitted)
  | close => exact .closed rfl
  | unpark side => exact .same (queueOf_drrUnparkAll side.tx cid)
  | touch side hand touched => exact .same (queueOf_touch side.tx touched cid)
  | enqueue side packet =>
    exact .of_ite (queueOf_enqueue side.tx packet cid) fun _ queue => .pushed packet rfl (.inl queue)
  | park side packet =>
    exact .of_ite (queueOf_drrParkFront side.tx packet cid) fun _ queue =>
      .pushed packet rfl (.inr queue)
  | requeue side packet =>
    exact .of_ite (queueOf_drrRequeueFront side.tx packet cid) fun _ queue =>
      .pushed packet rfl (.inr queue)
  | spin side tx popped =>
    have effect := inv.drrPopNext.2
    rw [popped] at effect
    exact .same (effect cid)
  | take side tx packet popped permitted =>
    have effect := inv.drrPopNext.2
    rw [popped] at effect
    by_cases own : cid = packet.connectionId
    · subst own
      exact .popped packet permitted rfl effect.1
    · exact .same (effect.2 cid own)
  | discard | settle | complete | early => exact .same (by rw [SendSide.finish_eq])
  | _ => exact .same rfl

theorem queued (move : TxMove rules before after) (inv : before.1.tx.Inv)
    (queued : before.1.tx.Queued packet) :
    after.1.tx.Queued packet ∨ after.2 = .data packet ∨ rules.mayDrop packet ∨
      after = (before.1.finalize, .empty) := by
  obtain ⟨cid, member⟩ := queued
  cases move.queueStep inv cid with
  | same queue => exact .inl ⟨cid, queue ▸ member⟩
  | dropped permitted => exact .inr (.inr (.inl (permitted packet member)))
  | closed closed => exact .inr (.inr (.inr closed))
  | pushed added inHand queue =>
    refine .inl ⟨cid, ?_⟩
    rcases queue with queue | queue <;> rw [queue] <;> simp [member]
  | popped head permitted taken queue =>
    rw [queue] at member
    rcases mem_cons.mp member with rfl | later
    · exact .inr (.inl taken)
    · exact .inl ⟨cid, later⟩

theorem heldControl {property : TxPacket → Prop} (move : TxMove rules before after)
    (picked : ∀ packet, packet.assignSeq = false → packet.frame.cmd.isPerFlowData = false →
      property packet)
    (tracked : ∀ packet id, property packet → property { packet with completion := some id })
    (numbered : ∀ packet seq, property packet → property (packet.numbered seq))
    (all : ∀ packet, HoldsControl before packet → property packet) (held : HoldsControl after packet) :
    property packet := by
  rcases held with queued | inHand
  · cases move with
    | close => cases queued
    | pushControl side added =>
      rcases mem_append.mp queued with old | new
      · exact all packet (.inl old)
      · exact all packet (.inr (congrArg Hand.control (mem_singleton.mp new).symm))
    | returnControl side added =>
      rcases mem_cons.mp queued with rfl | old
      · exact all packet (.inr rfl)
      · exact all packet (.inl old)
    | evictControl => exact all packet (.inl (mem_of_mem_eraseP queued))
    | takeControl side taken rest queue =>
      exact all packet (.inl (queue ▸ mem_cons_of_mem taken queued))
    | discard | settle | complete | early =>
      rw [SendSide.finish_eq] at queued
      exact all packet (.inl queued)
    | _ => exact all packet (.inl queued)
  · cases move with
    | pickControl side held bare assigned control =>
      cases inHand
      exact picked _ assigned control
    | trackControl side held =>
      cases inHand
      exact tracked _ _ (all held (.inr rfl))
    | takeControl side taken rest queue =>
      cases inHand
      exact all packet (.inl (queue ▸ mem_cons_self))
    | numberControl side held =>
      cases inHand
      exact numbered _ _ (all held (.inr rfl))
    | _ => first | exact all packet (.inr inHand) | cases inHand

end TxMove

end

open Lib.AssocTotal Lib.Run

structure SchedulerRun where
  session : Session
  /-- every frame that joined and was not dropped, in the order of the line -/
  line : ConnectionId → List TxPacket
  /-- what `drr_pop_next` took, oldest first -/
  left : ConnectionId → List TxPacket

inductive SchedulerOp
  | register (cid : ConnectionId)
  | enqueueFlowTx (packet : TxPacket)
  | drrPopNext
  | drrRequeueFront (packet : TxPacket)
  | drrParkFront (packet : TxPacket)
  | drrUnparkAll
  | failFlow (cid : ConnectionId)
  | releaseConnection (cid : ConnectionId)
  deriving DecidableEq, Repr

namespace SchedulerRun

def start (s : Session) : SchedulerRun :=
  { session := s
    line := fun _ => []
    left := fun _ => [] }

def clear (state : SchedulerRun) (cid : ConnectionId) : SchedulerRun :=
  { state with line := Function.update state.line cid (state.left cid) }

def jump (state : SchedulerRun) (packet : TxPacket) : SchedulerRun :=
  let cid := packet.connectionId
  { state with
    line := Function.update state.line cid
      (state.left cid ++ packet :: (state.line cid).drop (state.left cid).length) }

def join (state : SchedulerRun) (packet : TxPacket) : SchedulerRun :=
  let cid := packet.connectionId
  { state with line := Function.update state.line cid (state.line cid ++ [packet]) }

def take (state : SchedulerRun) (packet : TxPacket) : SchedulerRun :=
  let cid := packet.connectionId
  { state with left := Function.update state.left cid (state.left cid ++ [packet]) }

def step (state : SchedulerRun) : SchedulerOp → SchedulerRun
  | .register cid => { state with session := state.session.register cid }
  | .enqueueFlowTx packet =>
    let outcome := state.session.enqueueFlowTx packet
    let lined :=
      if outcome.2 then state.join packet
      else if state.session.isFlowV2 then state.clear packet.connectionId
      else state
    { lined with session := outcome.1 }
  | .drrPopNext =>
    let popped := state.session.tx.drrPopNext
    let lined :=
      match popped.2 with
      | none => state
      | some packet => state.take packet
    { lined with session := { state.session with tx := popped.1 } }
  | .drrRequeueFront packet =>
    { state.jump packet with
      session := { state.session with tx := state.session.tx.drrRequeueFront packet } }
  | .drrParkFront packet =>
    { state.jump packet with
      session := { state.session with tx := state.session.tx.drrParkFront packet } }
  | .drrUnparkAll => { state with session := state.session.unparkAll }
  | .failFlow cid => { state.clear cid with session := state.session.failFlow cid }
  | .releaseConnection cid =>
    if state.session.hasConnection cid then
      { state.clear cid with session := state.session.releaseConnection cid }
    else state

structure Sound (state : SchedulerRun) : Prop where
  scheduler : state.session.tx.Inv
  waiting : ∀ cid, state.line cid = state.left cid ++ state.session.tx.queueOf cid

variable {tx : TxScheduler}

namespace Sound

variable {state after : SchedulerRun}

theorem change (sound : state.Sound) (cid : ConnectionId) (scheduler : after.session.tx.Inv)
    (own : after.line cid = after.left cid ++ after.session.tx.queueOf cid)
    (others : ∀ other, other ≠ cid → after.line other = state.line other ∧
      after.left other = state.left other ∧
      after.session.tx.queueOf other = state.session.tx.queueOf other) : after.Sound := by
  refine ⟨scheduler, fun other => ?_⟩
  by_cases same : other = cid
  · exact same ▸ own
  · obtain ⟨line, left, queue⟩ := others other same
    rw [line, left, queue]
    exact sound.waiting other

variable {session : Session}

theorem keep (sound : state.Sound) (scheduler : session.tx.Inv)
    (queues : ∀ cid, session.tx.queueOf cid = state.session.tx.queueOf cid) :
    Sound { state with session := session } :=
  ⟨scheduler, fun cid => by rw [queues cid]; exact sound.waiting cid⟩

theorem reline (sound : state.Sound) {cid : ConnectionId} (scheduler : session.tx.Inv)
    {queue : ConnectionId → List TxPacket} {line : List TxPacket}
    (queues : ∀ other, session.tx.queueOf other =
      if other = cid then queue other else state.session.tx.queueOf other)
    (own : line = state.left cid ++ queue cid) :
    Sound { state with line := Function.update state.line cid line, session := session } := by
  refine sound.change cid scheduler ?_ fun other apart => ?_
  · simp [queues cid, own]
  · simp [queues other, apart]

theorem clear (sound : state.Sound) (cid : ConnectionId) (scheduler : session.tx.Inv)
    (queues : ∀ other, session.tx.queueOf other =
      if other = cid then [] else state.session.tx.queueOf other) :
    Sound { state.clear cid with session := session } :=
  sound.reline scheduler queues (by simp)

theorem jump (sound : state.Sound) (packet : TxPacket) (scheduler : session.tx.Inv)
    (queues : ∀ other, session.tx.queueOf other =
      if other = packet.connectionId then packet :: state.session.tx.queueOf other
      else state.session.tx.queueOf other) : Sound { state.jump packet with session := session } :=
  sound.reline scheduler queues (by simp [sound.waiting])

theorem take (sound : state.Sound) (packet : TxPacket) (scheduler : tx.Inv)
    (effect : TxScheduler.PopEffect state.session.tx tx (some packet)) :
    Sound { state.take packet with session := { state.session with tx := tx } } := by
  have waiting := sound.waiting packet.connectionId
  refine sound.change packet.connectionId scheduler ?_ fun other apart => ?_
  · simp [SchedulerRun.take, waiting, effect.1]
  · simp [SchedulerRun.take, apart, effect.2 other apart]

end Sound

open TxScheduler in
theorem Sound.step {state : SchedulerRun} (sound : state.Sound) (op : SchedulerOp) :
    (state.step op).Sound := by
  have inv := sound.scheduler
  cases op with
  | register cid =>
    have same : (state.session.register cid).tx = state.session.tx := by
      unfold Session.register
      split_ifs <;> rfl
    exact sound.keep (same ▸ inv) fun other => by rw [same]
  | enqueueFlowTx packet =>
    have touched := inv.touch packet.connectionId
    by_cases full : state.session.tx.overflows packet <;> by_cases v2 : state.session.isFlowV2 <;>
      simp only [SchedulerRun.step, Session.enqueueFlowTx, full, v2, if_true, Bool.false_eq_true,
        if_false]
    · refine sound.clear packet.connectionId (touched.dropFlow _ true) fun other => ?_
      rw [← queueOf_touch state.session.tx packet.connectionId other]
      exact queueOf_dropFlow _ packet.connectionId true other
    · exact sound.keep touched (queueOf_touch state.session.tx packet.connectionId)
    all_goals
      exact sound.reline (inv.enqueue packet) (queueOf_enqueue state.session.tx packet)
        (by simp [sound.waiting])
  | drrPopNext =>
    obtain ⟨kept, effect⟩ := inv.drrPopNext
    rcases popped : state.session.tx.drrPopNext with ⟨tx, _ | packet⟩ <;>
      rw [popped] at kept effect <;> simp only [SchedulerRun.step, popped]
    · exact sound.keep kept effect
    · exact sound.take packet kept effect
  | drrRequeueFront packet =>
    exact sound.jump packet (inv.drrRequeueFront packet)
      (queueOf_drrRequeueFront state.session.tx packet)
  | drrParkFront packet =>
    exact sound.jump packet (inv.drrParkFront packet) (queueOf_drrParkFront state.session.tx packet)
  | drrUnparkAll => exact sound.keep inv.drrUnparkAll (queueOf_drrUnparkAll state.session.tx)
  | failFlow cid =>
    exact sound.clear cid (inv.dropFlow cid true) (queueOf_dropFlow state.session.tx cid true)
  | releaseConnection cid =>
    cases owned : state.session.hasConnection cid with
    | false =>
      simp only [SchedulerRun.step, owned, Bool.false_eq_true, if_false]
      exact sound
    | true =>
      simp only [SchedulerRun.step, Session.releaseConnection, owned, if_true, Bool.not_true,
        Bool.false_eq_true, if_false]
      exact sound.clear cid (inv.dropFlow cid false) (queueOf_dropFlow state.session.tx cid false)

theorem bytes_queued (inv : tx.Inv) : tx.txDataBytesTotal =
      total (fun fx : FlowTx => (fx.queue.map TxPacket.length).sum) tx.txFlows := by
  rw [inv.bytes_eq]
  refine total_congr fun cid fx found => ?_
  have sound := (inv.sound cid).bytes_eq
  rwa [TxScheduler.flow, found] at sound

/-- After any interleaving of the scheduler operations: the two totals and the
byte counter of every connection are those of the queued frames; a connection
with queued frames is on the ring exactly once and not parked, or off the ring,
parked and listed; and the frames of a connection have left in the order they
were lined up, the queue holding the rest. -/
theorem scheduler_represents_queues (config : Config) (mode : MuxMode) (txSeq rxAck : SeqNumber)
    (ops : List SchedulerOp) :
    let reached := run step (start (Session.initial config mode txSeq rxAck)) ops
    let tx := reached.session.tx
    tx.txDataFrames = total (fun fx : FlowTx => fx.queue.length) tx.txFlows ∧
      tx.txDataBytesTotal =
        total (fun fx : FlowTx => (fx.queue.map TxPacket.length).sum) tx.txFlows ∧
      (∀ cid, (tx.flow cid).bytes = ((tx.queueOf cid).map TxPacket.length).sum) ∧
      (∀ cid, tx.queueOf cid ≠ [] →
        tx.activeTxFlows.count cid = 1 ∧ (tx.flow cid).rtxParked = false ∨
          cid ∉ tx.activeTxFlows ∧ (tx.flow cid).rtxParked = true ∧ cid ∈ tx.txRtxParkedFlows) ∧
      ∀ cid, reached.line cid = reached.left cid ++ tx.queueOf cid := by
  intro reached tx
  have fresh : Sound (start (Session.initial config mode txSeq rxAck)) :=
    ⟨TxScheduler.inv_empty, fun _ => rfl⟩
  have sound : reached.Sound :=
    run_invariant (fun (state : SchedulerRun) op (kept : state.Sound) => kept.step op) fresh ops
  have inv := sound.scheduler
  refine ⟨inv.frames_eq, bytes_queued inv, fun cid => (inv.sound cid).bytes_eq, ?_, sound.waiting⟩
  intro cid queued
  rcases inv.placed cid with ⟨idle, _⟩ | ⟨_, _, parked, ring⟩ | ⟨_, _, parked, ring, listed⟩
  · exact absurd idle queued
  · exact .inl ⟨ring, parked⟩
  · exact .inr ⟨List.count_eq_zero.mp ring, parked, listed⟩

end SchedulerRun

end OpenPpp2.Mux
