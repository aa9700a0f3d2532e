import Mathlib.Logic.Relation
import OpenPpp2.Mux.Reliability

/-!
# What the two directions leave alone

The transmit path and the receive path of a session meet in few places: a flow that is failed, a
flow released after its FIN, a connection entered by a SYN, and the close of the session.
-/

namespace OpenPpp2.Mux

open Mux.FecCodec Prod Relation.ReflTransGen

structure RecvSide where
  config : Config
  closeRequested : Bool
  disposed : Bool
  present : ConnectionId → Bool
  flows : AList fun _ : ConnectionId => FlowRx
  rxQueue : List (SeqNumber × Frame)
  rxAck : SeqNumber
  sessionReorderBytes : Nat
  ackTrackers : AList fun _ : ConnectionId => AckTracker
  delivered : ConnectionId → List SeqNumber
  ended : ConnectionId → Bool
  noted : List (ConnectionId × SeqNumber)
  dispatched : List Frame

structure SendSide where
  config : Config
  disposed : Bool
  closeRequested : Bool
  tx : TxScheduler
  txCtrlQueue : List TxPacket
  txFlowSeq : AList fun _ : ConnectionId => SeqNumber
  txSeq : SeqNumber
  pendingTxCompletions : List CompletionId
  firedTxCompletions : List (CompletionId × Bool)
  nextTxCompletion : CompletionId
  earlyAcks : List CompletionId
  writes : List CarrierWrite
  posted : ConnectionId → List SeqNumber
  numbered : List Frame
  accepted : List Frame

structure FecSide where
  config : Config
  fecEncoder : Encoder
  fecEmitted : List (List UInt8)

namespace Session

def recvSide (s : Session) : RecvSide :=
  { config := s.config
    closeRequested := s.closeRequested
    disposed := s.disposed
    present := fun cid => (s.skts.lookup cid).isSome
    flows := s.flows
    rxQueue := s.rxQueue
    rxAck := s.rxAck
    sessionReorderBytes := s.sessionReorderBytes
    ackTrackers := s.ackTrackers
    delivered := s.log.delivered
    ended := s.log.ended
    noted := s.log.noted
    dispatched := s.log.dispatched }

def sendSide (s : Session) : SendSide :=
  { config := s.config
    disposed := s.disposed
    closeRequested := s.closeRequested
    tx := s.tx
    txCtrlQueue := s.txCtrlQueue
    txFlowSeq := s.txFlowSeq
    txSeq := s.txSeq
    pendingTxCompletions := s.pendingTxCompletions
    firedTxCompletions := s.firedTxCompletions
    nextTxCompletion := s.nextTxCompletion
    earlyAcks := s.earlyAcks
    writes := s.writes
    posted := s.log.posted
    numbered := s.log.numbered
    accepted := s.log.accepted }

def fecSide (s : Session) : FecSide :=
  { config := s.config
    fecEncoder := s.fecEncoder
    fecEmitted := s.log.fecEmitted }

def offTx (s : Session) : RecvSide × FecSide := (s.recvSide, s.fecSide)

def offRx (s : Session) : SendSide × FecSide := (s.sendSide, s.fecSide)

def sides (s : Session) : SendSide × RecvSide × FecSide := (s.sendSide, s.offTx)

variable (s : Session) (completion : Option CompletionId) (packet : TxPacket) (answer : Bool)
    (ticket : Nat) (ok : Bool)

theorem offTx_finishTxCompletion : (s.finishTxCompletion completion ok).offTx = s.offTx := by
  cases completion <;> rfl

theorem offTx_txAssignSeq : (s.txAssignSeq packet).1.offTx = s.offTx := by
  unfold txAssignSeq
  split_ifs <;> rfl

theorem offTx_txSendOn (link : CarrierKey) (packet : TxPacket) (answer : Bool) :
    (s.txSendOn link packet answer).1.offTx = s.offTx := by
  simp only [txSendOn]
  split_ifs
  · exact s.offTx_txAssignSeq packet
  · exact s.offTx_txAssignSeq packet

theorem offTx_sendData : (s.sendData answer).1.offTx = s.offTx := by
  unfold sendData
  split
  · rfl
  split
  · rfl
  split
  · rfl
  split
  · rfl
  · rename_i tx packet _ _ _ link links _
    have kept := offTx_txSendOn { s with tx := tx, links := links } link packet answer
    split <;> rename_i sent <;> rw [sent] at kept <;> exact kept

theorem offTx_sendCtrl : (s.sendCtrl answer).1.offTx = s.offTx := by
  unfold sendCtrl
  split
  · rfl
  split
  · rfl
  · rename_i packet rest _ _ link links _
    have kept := offTx_txSendOn { s with txCtrlQueue := rest, links := links } link packet answer
    split <;> rename_i sent <;> rw [sent] at kept <;> exact kept

theorem offTx_trackTxCompletion (callback : Bool) :
    (s.trackTxCompletion callback).1.offTx = s.offTx := by
  unfold trackTxCompletion
  split_ifs <;> rfl

theorem offTx_stampFrame (frame : Frame) : (s.stampFrame frame).1.offTx = s.offTx := by
  unfold stampFrame
  split_ifs <;> rfl

theorem offTx_postEarlyAck (posted : Bool) :
    (s.postEarlyAck completion posted).offTx = s.offTx := by
  unfold postEarlyAck
  split
  · rfl
  · split_ifs <;> rfl

theorem offTx_postCtrl : (s.postCtrl packet).1.offTx = s.offTx := by
  unfold postCtrl
  split_ifs
  · split <;> rfl
  · rfl

theorem offTx_completeWrite : (s.completeWrite ticket ok).offTx = s.offTx := by
  unfold completeWrite
  split
  · rfl
  · rw [offTx_finishTxCompletion]
    rfl

theorem offTx_abortWrite : (s.abortWrite ticket).offTx = s.offTx := by
  unfold abortWrite
  split
  · rfl
  · rw [offTx_finishTxCompletion]
    rfl

theorem offTx_runEarlyAck (completion : CompletionId) :
    (s.runEarlyAck completion).offTx = s.offTx := by
  unfold runEarlyAck
  split_ifs <;> rfl

end Session

def RecvSide.failFlow (side : RecvSide) (cid : ConnectionId) : RecvSide :=
  { side with
    flows := side.flows.erase cid
    sessionReorderBytes := side.sessionReorderBytes -
      ((side.flows.lookup cid).map fun fx => fx.flowReorder.bufferedBytes).getD 0
    ackTrackers :=
      if side.config.isFlowV2 then side.ackTrackers.erase cid else side.ackTrackers
    ended := Function.update side.ended cid true }

def SendSide.failFlow (side : SendSide) (cid : ConnectionId) : SendSide :=
  { side with
    txFlowSeq := side.txFlowSeq.erase cid
    tx := side.tx.dropFlow cid true }

namespace Session

theorem isSome_changeSkt (skts : AList fun _ : ConnectionId => Skt) (cid : ConnectionId)
    (change : Skt → Skt) (other : ConnectionId) :
    ((changeSkt skts cid change).lookup other).isSome = (skts.lookup other).isSome := by
  unfold changeSkt
  cases found : skts.lookup cid with
  | none => rfl
  | some skt =>
    split_ifs
    · rfl
    · by_cases same : other = cid
      · subst same
        simp [found]
      · rw [AList.lookup_insert_ne same]

variable (s : Session) (cid : ConnectionId) (packet : TxPacket) (frame : Frame)
    (acceleration : Bool)

theorem recvSide_modifySkt (change : Skt → Skt) :
    (s.modifySkt cid change).recvSide = s.recvSide := by
  unfold modifySkt recvSide
  simp only [isSome_changeSkt]

theorem recvSide_failFlow : (s.failFlow cid).recvSide = s.recvSide.failFlow cid := by
  unfold failFlow recvSide RecvSide.failFlow
  simp only [isSome_changeSkt]
  rfl

theorem fecSide_failFlow : (s.failFlow cid).fecSide = s.fecSide := rfl

theorem offTx_failFlow : (s.failFlow cid).offTx = (s.recvSide.failFlow cid, s.fecSide) := by
  rw [offTx, recvSide_failFlow, fecSide_failFlow]

def SparesOrFails (cid : ConnectionId) (s after : Session) : Prop :=
  after.offTx = s.offTx ∨ s.isFlowV2 ∧ after.offTx = (s.failFlow cid).offTx

theorem isFlowV2_of_offTx {a b : Session} (same : a.offTx = b.offTx) : a.isFlowV2 = b.isFlowV2 :=
  congrArg (fun side : RecvSide × FecSide => side.1.config.isFlowV2) same

theorem offTx_failFlow_congr {a b : Session} (same : a.offTx = b.offTx) (cid : ConnectionId) :
    (a.failFlow cid).offTx = (b.failFlow cid).offTx := by
  rw [offTx_failFlow, offTx_failFlow]
  exact congrArg (fun side : RecvSide × FecSide => (side.1.failFlow cid, side.2)) same

theorem SparesOrFails.prepend {cid : ConnectionId} {s middle after : Session}
    (same : middle.offTx = s.offTx) (effect : SparesOrFails cid middle after) :
    SparesOrFails cid s after := by
  rcases effect with spared | ⟨v2, failed⟩
  · exact .inl (spared.trans same)
  · exact .inr ⟨isFlowV2_of_offTx same ▸ v2, failed.trans (offTx_failFlow_congr same cid)⟩

theorem SparesOrFails.append {cid : ConnectionId} {s middle after : Session}
    (effect : SparesOrFails cid s middle) (same : after.offTx = middle.offTx) :
    SparesOrFails cid s after := by
  rcases effect with spared | ⟨v2, failed⟩
  · exact .inl (same.trans spared)
  · exact .inr ⟨v2, same.trans failed⟩

theorem enqueueFlowTx_effect : SparesOrFails packet.connectionId s (s.enqueueFlowTx packet).1 := by
  simp only [enqueueFlowTx]
  split_ifs with full v2
  · exact .inr ⟨v2, offTx_failFlow_congr rfl _⟩
  · exact .inl rfl
  · exact .inl rfl

theorem enqueueOrFail_effect (completion : Option CompletionId) :
    SparesOrFails packet.connectionId s (s.enqueueOrFail packet completion).1 := by
  have effect := s.enqueueFlowTx_effect packet
  unfold enqueueOrFail
  split <;> rename_i after queued <;> rw [queued] at effect
  · exact effect
  · exact effect.append (after.offTx_finishTxCompletion completion false)

theorem postData_effect (early : Bool) :
    SparesOrFails packet.connectionId s (s.postData packet acceleration early).1 := by
  unfold postData
  split_ifs
  · have effect := s.enqueueOrFail_effect { packet with completion := none } packet.completion
    split
    · rename_i after queued
      rw [queued] at effect
      exact effect.append (after.offTx_postEarlyAck packet.completion early)
    · exact effect
  · exact s.enqueueOrFail_effect packet packet.completion

theorem txAssignSeq_connectionId : (s.txAssignSeq packet).2.connectionId = packet.connectionId := by
  unfold txAssignSeq
  split_ifs <;> rfl

theorem txSendOn_connectionId (link : CarrierKey) (packet : TxPacket) (answer : Bool) :
    (s.txSendOn link packet answer).2.1.connectionId = packet.connectionId := by
  simp only [txSendOn]
  split_ifs <;> exact s.txAssignSeq_connectionId packet

theorem postLane_effect (answers : PostAnswers) :
    SparesOrFails packet.connectionId s (s.postLane packet acceleration answers).1 := by
  unfold postLane
  split
  · exact s.postData_effect packet acceleration answers.earlyAck
  · rename_i link _
    have kept := s.offTx_txSendOn link packet answers.turboWrite
    have owner := s.txSendOn_connectionId link packet answers.turboWrite
    split <;> rename_i after numbered sent <;> rw [sent] at kept owner
    · exact .inl kept
    · refine .prepend kept ?_
      rw [← owner]
      exact after.postData_effect { numbered with assignSeq := packet.assignSeq } _ _

theorem stampFrame_connectionId : (s.stampFrame frame).2.1.connectionId = frame.connectionId := by
  unfold stampFrame
  split_ifs <;> rfl

theorem postInternal_effect (callback : Bool) (answers : PostAnswers) :
    SparesOrFails frame.connectionId s (s.postInternal frame acceleration callback answers).1 := by
  have tracking := s.offTx_trackTxCompletion callback
  unfold postInternal
  split
  · exact .inl rfl
  split <;> rename_i tracked <;> rw [tracked] at tracking
  · exact .inl tracking
  · rename_i begun completion
    have stamping := begun.offTx_stampFrame frame
    have owner := begun.stampFrame_connectionId frame
    split <;> rename_i stamped <;> rw [stamped] at stamping owner
    · exact .inl ((offTx_postCtrl _ _).trans (stamping.trans tracking))
    · rw [← owner]
      exact .prepend (stamping.trans tracking) (postLane_effect _ _ _ _)

end Session

def RecvSide.finalize (side : RecvSide) : RecvSide :=
  { side with
    closeRequested := true
    disposed := true
    present := fun _ => false
    flows := ∅
    rxQueue := []
    ackTrackers := ∅
    ended := fun _ => true }

inductive RecvMove (side : RecvSide) : RecvSide → Prop
  | fail (cid : ConnectionId) (v2 : side.config.isFlowV2) : RecvMove side (side.failFlow cid)
  | request (gone : side.disposed) : RecvMove side { side with closeRequested := true }
  | close : RecvMove side side.finalize

abbrev RecvMoves : RecvSide → RecvSide → Prop := Relation.ReflTransGen RecvMove

theorem RecvMoves.keeps {invariant : RecvSide → Prop} {before after : RecvSide}
    (moves : RecvMoves before after)
    (fail : ∀ side cid, side.config.isFlowV2 → invariant side → invariant (side.failFlow cid))
    (request : ∀ side, side.disposed → invariant side →
      invariant { side with closeRequested := true })
    (close : ∀ side, invariant side → invariant side.finalize)
    (holds : invariant before) : invariant after := by
  induction moves with
  | refl => exact holds
  | tail _ move ih =>
    cases move with
    | fail cid v2 => exact fail _ cid v2 ih
    | request gone => exact request _ gone ih
    | close => exact close _ ih

namespace Session

theorem recvMoves_of_eq {s after : Session} (same : after.recvSide = s.recvSide) :
    RecvMoves s.recvSide after.recvSide := by
  rw [same]

variable (s : Session) (frame : Frame) (now : Nat)

theorem recvMoves_failFlow (cid : ConnectionId) (v2 : s.isFlowV2) :
    RecvMoves s.recvSide (s.failFlow cid).recvSide := by
  rw [recvSide_failFlow]
  exact single (RecvMove.fail cid v2)

theorem recvMoves_finalize : RecvMoves s.recvSide (s.finalize now).recvSide := by
  unfold finalize
  split_ifs with gone
  · unfold beginClose
    split_ifs
    · exact refl
    · exact single (RecvMove.request gone)
  · exact single RecvMove.close

theorem recvMoves_closeExec : RecvMoves s.recvSide (s.closeExec now).recvSide := by
  unfold closeExec
  split_ifs
  · exact refl
  · exact s.recvMoves_finalize now

theorem SparesOrFails.recvMoves {cid : ConnectionId} {s after : Session}
    (effect : SparesOrFails cid s after) : RecvMoves s.recvSide after.recvSide := by
  rcases effect with spared | ⟨v2, failed⟩
  · exact recvMoves_of_eq (congrArg fst spared)
  · have same : after.recvSide = (s.failFlow cid).recvSide := congrArg fst failed
    rw [same]
    exact s.recvMoves_failFlow cid v2

/-- What a function of the transmit path does to the rest: it fails a flow at most, and may close
the session after that. -/
inductive TxEffect (s : Session) : Session → Prop
  | kept {after : Session} (cid : ConnectionId) (effect : SparesOrFails cid s after) :
      TxEffect s after
  | closes {middle : Session} (cid : ConnectionId) (now : Nat)
      (effect : SparesOrFails cid s middle) : TxEffect s (middle.closeExec now)

namespace TxEffect

variable {s} {after : Session}

theorem of_eq (same : after.offTx = s.offTx) : TxEffect s after := .kept 0 (.inl same)

theorem fail (v2 : s.isFlowV2) (cid : ConnectionId) : TxEffect s (s.failFlow cid) :=
  .kept cid (.inr ⟨v2, rfl⟩)

theorem close (s : Session) (now : Nat) : TxEffect s (s.closeExec now) := .closes 0 now (.inl rfl)

theorem recvMoves (effect : TxEffect s after) : RecvMoves s.recvSide after.recvSide := by
  cases effect with
  | kept cid effect => exact effect.recvMoves
  | closes cid now effect => exact effect.recvMoves.trans (recvMoves_closeExec _ now)

end TxEffect

theorem post_effect (acceleration callback : Bool) (answers : PostAnswers) (now : Nat) :
    TxEffect s (s.post frame acceleration callback answers now).1 := by
  have effect := s.postInternal_effect frame acceleration callback answers
  unfold post
  split_ifs
  · exact .close s now
  · split
    · rename_i after rejected
      rw [rejected] at effect
      exact .closes _ now effect
    · exact .kept _ effect

theorem trackSentFrame_effect (linkId : Nat) :
    TxEffect s (s.trackSentFrame frame now linkId).1 := by
  unfold trackSentFrame
  split_ifs with untracked capped v2
  · exact .of_eq rfl
  · rw [flowOverHardCap, Bool.and_eq_true] at capped
    exact .fail capped.1 _
  · split
    · exact .fail v2 _
    · exact .of_eq rfl
  · split
    · exact .close s now
    · exact .of_eq rfl

theorem retransmitKey_effect (key : RtxKey) (now : Nat) (answer : Bool) :
    TxEffect s (s.retransmitKey key now answer).1 := by
  simp only [retransmitKey]
  split
  · exact .of_eq rfl
  · split_ifs with repeated exhausted v2
    · exact .of_eq rfl
    · exact .fail v2 _
    · exact .close s now
    · split
      · exact .of_eq rfl
      · split_ifs <;> exact .of_eq rfl

theorem maybeSendAck_effect (force : Bool) (answers : PostAnswers) :
    TxEffect s (s.maybeSendAck now force answers).1 := by
  unfold maybeSendAck
  split_ifs
  · exact .of_eq rfl
  · exact .of_eq rfl
  · split
    · exact .of_eq rfl
    · rename_i payload _
      have effect := SparesOrFails.prepend rfl (postInternal_effect
        { s with ackLastSentTick := now }
        { seq := 0, cmd := .ack, connectionId := 0, payload := payload } false false answers)
      split <;> rename_i posted <;> rw [posted] at effect <;> exact .kept _ effect

theorem recvMoves_fecEmit (answers : PostAnswers) :
    RecvMoves s.recvSide (s.fecEmit answers).1.recvSide := by
  simp only [fecEmit]
  split_ifs
  · exact refl
  · split
    · exact refl
    · rename_i payload _
      exact (postInternal_effect
        { s with
          fecFlushDue := false
          log := { s.log with fecEmitted := s.log.fecEmitted ++ [payload] } }
        _ _ _ _).recvMoves

theorem sides_packetInputAck (payload : List UInt8) (now : Nat) :
    (s.packetInputAck payload now).sides = s.sides := by
  have sampled : ∀ (state : Session) (sample linkId : Nat),
      (state.sampleRtt sample linkId).sides = state.sides := by
    intro state sample linkId
    unfold sampleRtt
    split_ifs <;> rfl
  have folded : ∀ (blocks : List AckBlock) (state : Session),
      (blocks.foldl (ackOne now) state).sides = state.sides := by
    intro blocks
    induction blocks with
    | nil => exact fun _ => rfl
    | cons ackBlock rest ih => exact fun state => (ih _).trans (sampled _ _ _)
  unfold packetInputAck
  split_ifs
  · rfl
  · split
    · rfl
    · exact folded _ s

end Session

def Op.receives : Op → Bool
  | .register _ | .noteAck .. | .arrive .. | .releaseConnection _ => true
  | _ => false

def Op.encodes : Op → Bool
  | .fecNoteSent .. | .fecEmit _ | .fecReset _ => true
  | _ => false

namespace Session

theorem step_effect (s : Session) (op : Op) (transmits : op.receives = false)
    (plain : op.encodes = false) : TxEffect s (s.step op) := by
  cases op with
  | register | noteAck | arrive | releaseConnection => simp [Op.receives] at transmits
  | fecNoteSent | fecEmit | fecReset => simp [Op.encodes] at plain
  | post frame acceleration callback answers now => exact s.post_effect ..
  | sendData answer => exact .of_eq (s.offTx_sendData answer)
  | sendCtrl answer => exact .of_eq (s.offTx_sendCtrl answer)
  | trackSent frame now linkId => exact s.trackSentFrame_effect frame now linkId
  | completeWrite ticket ok => exact .of_eq (s.offTx_completeWrite ticket ok)
  | abortWrite ticket => exact .of_eq (s.offTx_abortWrite ticket)
  | runEarlyAck completion => exact .of_eq (s.offTx_runEarlyAck completion)
  | sendAck now force answers => exact s.maybeSendAck_effect now force answers
  | receiveAck payload now => exact .of_eq (congrArg snd (s.sides_packetInputAck payload now))
  | reinject | collectExpired | fecRemember | fecOpen =>
    refine .of_eq ?_
    simp only [step, reinject, collectExpired, fecRemember, fecOpen]
    split_ifs <;> rfl
  | retransmit key now answer => exact s.retransmitKey_effect key now answer
  | failFlow cid =>
    simp only [step]
    split_ifs with v2
    · exact .fail v2 cid
    · exact .of_eq rfl
  | closeExec now => exact .close s now
  | connectSent cid => exact .of_eq (congrArg (·, s.fecSide) (s.recvSide_modifySkt cid _))
  | carrier | unparkAll | setRtxPending | fecVisit => exact .of_eq rfl

theorem recvMoves_step (s : Session) (op : Op) (transmits : op.receives = false) :
    RecvMoves s.recvSide (s.step op).recvSide := by
  by_cases plain : op.encodes = false
  · exact (s.step_effect op transmits plain).recvMoves
  cases op with
  | fecNoteSent frame now =>
    refine recvMoves_of_eq ?_
    simp only [step, fecNoteSent]
    split_ifs <;> rfl
  | fecEmit answers => exact s.recvMoves_fecEmit answers
  | fecReset => exact refl
  | _ => simp [Op.encodes] at plain

end Session

end OpenPpp2.Mux
