import OpenPpp2.Mux.Numbering

/-!
# Posting and draining data

What the two ways a data frame moves do to the queues: it is posted and joins the end of its
connection's queue, or the drain takes the head of a queue and hands it to a carrier.
-/

namespace OpenPpp2.Mux

open List Option TxScheduler Frame TxPacket

namespace Session

/-- The queue the post of a data frame joins, and the packet it joins with. -/
structure Queues (s : Session) (packet : TxPacket) (after : Session) : Prop where
  queues : ∀ cid, after.tx.queueOf cid =
    if cid = packet.connectionId then s.tx.queueOf cid ++ [packet] else s.tx.queueOf cid
  control : after.txCtrlQueue = s.txCtrlQueue
  numbered : after.log.numbered = s.log.numbered
  accepted : after.log.accepted = s.log.accepted

structure Fails (s : Session) (after : Session) : Prop where
  queues : ∀ cid, ∀ packet ∈ after.tx.queueOf cid, packet ∈ s.tx.queueOf cid
  control : after.txCtrlQueue = s.txCtrlQueue
  accepted : after.log.accepted = s.log.accepted

theorem sameData_finishTxCompletion (s : Session) (completion : Option CompletionId) (ok : Bool) :
    SameData s.sendSide (s.finishTxCompletion completion ok).sendSide := by
  cases completion <;> exact ⟨fun _ => rfl, rfl, rfl, rfl⟩

theorem sameData_postEarlyAck (s : Session) (completion : Option CompletionId) (posted : Bool) :
    SameData s.sendSide (s.postEarlyAck completion posted).sendSide := by
  unfold postEarlyAck
  split
  · exact ⟨fun _ => rfl, rfl, rfl, rfl⟩
  · split_ifs <;> exact ⟨fun _ => rfl, rfl, rfl, rfl⟩

inductive PostsData (s : Session) (packet : TxPacket) : Session × PostOutcome → Prop
  | queued (completion : Option CompletionId) {after : Session}
      (joins : Queues s { packet with completion := completion } after) :
      PostsData s packet (after, .drain)
  | failed {after : Session} (v2 : s.isFlowV2) (fails : Fails s after) :
      PostsData s packet (after, .done)
  | refused {after : Session} (same : SameData s.sendSide after.sendSide) :
      PostsData s packet (after, .rejected)

theorem queues_enqueue (s : Session) (packet : TxPacket) :
    Queues s packet { s with tx := s.tx.enqueue packet } :=
  ⟨queueOf_enqueue s.tx packet, rfl, rfl, rfl⟩

variable {s : Session} {frame : Frame} {after : Session} {op : Op} {cid : ConnectionId}
    {Numbered : Chunk → SeqNumber → Prop}

theorem postsData_full {queued : TxPacket} (full : s.tx.overflows queued)
    (packet : TxPacket) (completion : Option CompletionId) :
    PostsData s packet (s.enqueueOrFail queued completion) ∧
      (s.enqueueOrFail queued completion).2 ≠ .drain := by
  simp only [enqueueOrFail, enqueueFlowTx, full, if_true]
  have touched : SameData s.sendSide ({ s with
      tx := s.tx.setFlow queued.connectionId (s.tx.flow queued.connectionId) } :
        Session).sendSide :=
    ⟨queueOf_touch s.tx queued.connectionId, rfl, rfl, rfl⟩
  have mode : ({ s with
      tx := s.tx.setFlow queued.connectionId (s.tx.flow queued.connectionId) } :
        Session).isFlowV2 = s.isFlowV2 := rfl
  generalize ({ s with
    tx := s.tx.setFlow queued.connectionId (s.tx.flow queued.connectionId) } : Session) = middle
    at touched mode
  by_cases v2 : s.isFlowV2
  · have failedMode : (middle.failFlow queued.connectionId).isFlowV2 := mode.trans v2
    have finished := sameData_finishTxCompletion (middle.failFlow queued.connectionId) completion
      false
    simp only [if_pos v2, failTxEnqueue, failedMode, if_true]
    refine ⟨.failed v2 ⟨fun cid held member => ?_, ?_, ?_⟩, by simp⟩
    · have queue := (finished.queues cid).trans
        (queueOf_dropFlow middle.tx queued.connectionId true cid)
      rw [show (finishTxCompletion _ completion false).tx.queueOf cid = _ from queue] at member
      split_ifs at member
      · cases member
      · exact (touched.queues cid) ▸ member
    · exact finished.control.trans touched.control
    · exact finished.accepted.trans touched.accepted
  · have compat := mode ▸ v2
    have finished := sameData_finishTxCompletion middle completion false
    simp only [if_neg v2, failTxEnqueue, if_neg compat]
    exact ⟨.refused (touched.trans finished), by simp⟩

theorem postsData_postData (s : Session) (packet : TxPacket) (acceleration early : Bool) :
    PostsData s packet (s.postData packet acceleration early) := by
  cases full : s.tx.overflows packet with
  | false =>
    have stripped : s.tx.overflows { packet with completion := none } = false := full
    unfold postData
    rw [enqueueOrFail_room full, enqueueOrFail_room stripped]
    split_ifs
    · have kept := sameData_postEarlyAck
        { s with tx := s.tx.enqueue { packet with completion := none } } packet.completion early
      have joins := s.queues_enqueue { packet with completion := none }
      exact .queued none ⟨fun cid => (kept.queues cid).trans (joins.queues cid),
        kept.control, kept.numbered, kept.accepted⟩
    · exact .queued packet.completion (s.queues_enqueue packet)
  | true =>
    have stripped : s.tx.overflows { packet with completion := none } := full
    unfold postData
    split_ifs
    · obtain ⟨effect, refused⟩ := postsData_full stripped packet packet.completion
      split
      · rename_i after queued
        rw [queued] at refused
        exact absurd rfl refused
      · exact effect
    · exact (postsData_full full packet packet.completion).1

theorem PostsData.of_same {middle : Session} {packet held : TxPacket}
    {outcome : Session × PostOutcome} (effect : PostsData middle held outcome)
    (same : SameData s.sendSide middle.sendSide) (mode : middle.isFlowV2 = s.isFlowV2)
    (frame : held.frame = packet.frame) (assign : held.assignSeq = packet.assignSeq) :
    PostsData s packet outcome := by
  cases effect with
  | queued completion joins =>
    have packets : ({ held with completion := completion } : TxPacket) =
        { packet with completion := completion } := by rw [frame, assign]
    rw [packets] at joins
    refine .queued completion ⟨fun cid => ?_, ?_, ?_, ?_⟩
    · have queue : middle.tx.queueOf cid = s.tx.queueOf cid := same.queues cid
      rw [joins.queues cid, queue]
    · exact joins.control.trans same.control
    · exact joins.numbered.trans same.numbered
    · exact joins.accepted.trans same.accepted
  | failed v2 fails =>
    refine .failed (mode ▸ v2) ⟨fun cid other member => ?_, ?_, ?_⟩
    · have kept := fails.queues cid other member
      exact (same.queues cid) ▸ kept
    · exact fails.control.trans same.control
    · exact fails.accepted.trans same.accepted
  | refused kept => exact .refused (same.trans kept)

def dataPacket (s : Session) (frame : Frame) : TxPacket :=
  { frame := { frame with seq := if s.isFlowV2 then s.nextDsn frame.connectionId else 0 }
    completion := none
    assignSeq := !s.isFlowV2 }

variable {packet : TxPacket}

theorem postLane_of_data (data : packet.frame.cmd.isPerFlowData)
    (s : Session) (acceleration : Bool) (answers : PostAnswers) :
    s.postLane packet acceleration answers = s.postData packet acceleration answers.earlyAck := by
  have notSyn : packet.frame.cmd ≠ .syn := by
    intro syn
    rw [syn] at data
    cases data
  have none : s.turboCarrier packet.frame = none := by simp [turboCarrier, notSyn]
  simp only [postLane, none]

theorem postsData_postInternal (data : frame.cmd.isPerFlowData)
    (acceleration callback : Bool) (answers : PostAnswers) :
    PostsData s (s.dataPacket frame) (s.postInternal frame acceleration callback answers) := by
  by_cases closed : (s.disposed || !s.established)
  · rw [postInternal, if_pos closed]
    exact .refused ⟨fun _ => rfl, rfl, rfl, rfl⟩
  rcases tracking : s.trackTxCompletion callback with ⟨tracked, _ | completion⟩
  · simp only [postInternal, if_neg closed, tracking]
    refine .refused ?_
    unfold trackTxCompletion at tracking
    split_ifs at tracking <;> cases tracking
    exact ⟨fun _ => rfl, rfl, rfl, rfl⟩
  obtain ⟨⟨pending, next, same⟩, -⟩ := trackTxCompletion_keeps tracking
  have kept : SameData s.sendSide tracked.sendSide := by
    rw [same]
    exact ⟨fun _ => rfl, rfl, rfl, rfl⟩
  have mode : tracked.isFlowV2 = s.isFlowV2 := by rw [same]; rfl
  have counter : tracked.nextDsn frame.connectionId = s.nextDsn frame.connectionId := by
    rw [same]
    rfl
  rcases tracked.stampFrame_lane frame with
    ⟨_, control, _⟩ | ⟨v2, _, framing, stamping⟩ | ⟨compat, _, framing⟩
  · have notData := control.elim Cmd.not_isPerFlowData And.right
    rw [notData] at data
    cases data
  · rcases stamped : tracked.stampFrame frame with ⟨numbered, rest⟩
    rw [stamped] at framing stamping
    cases framing
    simp only [postInternal, if_neg closed, tracking, stamped]
    rw [postLane_of_data data]
    have stampedSame : SameData s.sendSide numbered.sendSide := by
      rw [stamping]
      exact ⟨kept.queues, kept.control, kept.numbered, kept.accepted⟩
    have stampedMode := (congrArg (fun side : SendSide => side.config.isFlowV2) stamping).trans mode
    refine (numbered.postsData_postData _ acceleration answers.earlyAck).of_same stampedSame
      stampedMode ?_ ?_
    · simp [dataPacket, ← mode, v2, counter]
    · simp [dataPacket, ← mode, v2]
  · simp only [postInternal, if_neg closed, tracking, framing]
    rw [postLane_of_data data]
    refine (tracked.postsData_postData _ acceleration answers.earlyAck).of_same kept mode ?_ ?_
    · simp [dataPacket, ← mode, compat]
    · simp [dataPacket, ← mode, compat]

theorem closeExec_eq_or_disposed (s : Session) (now : Nat) :
    s.closeExec now = s ∨ (s.closeExec now).disposed := by
  unfold closeExec
  split_ifs
  · exact .inl rfl
  · right
    unfold finalize
    split_ifs with gone
    · unfold beginClose
      split_ifs
      exact gone
    · rfl

theorem postsData_post (data : frame.cmd.isPerFlowData)
    (acceleration callback : Bool) (answers : PostAnswers) (now : Nat) :
    (s.post frame acceleration callback answers now).1.disposed ∨
      PostsData s (s.dataPacket frame) (s.post frame acceleration callback answers now) := by
  have closing : ∀ after : Session, SameData s.sendSide after.sendSide →
      (after.closeExec now).disposed ∨
        PostsData s (s.dataPacket frame) (after.closeExec now, .rejected) := by
    intro after same
    rcases after.closeExec_eq_or_disposed now with unchanged | gone
    · rw [unchanged]
      exact .inr (PostsData.refused same)
    · exact .inl gone
  have effect : PostsData s _ _ := postsData_postInternal data acceleration callback answers
  unfold post
  split_ifs
  · exact closing s ⟨fun _ => rfl, rfl, rfl, rfl⟩
  · split
    · rename_i after rejected
      rw [rejected] at effect
      cases effect with
      | refused same => exact closing after same
    · exact .inr effect

/-- What one iteration of the drain does to the frame it takes: a carrier accepts
it, or it goes back to the head of its queue with the number it was given. -/
inductive SendsData (s : Session) : Session → Prop
  | kept {after : Session} (same : SameData s.sendSide after.sendSide) : SendsData s after
  | sent {after : Session} (packet : TxPacket) (rest : List TxPacket)
      (head : s.tx.queueOf packet.connectionId = packet :: rest)
      (queues : ∀ cid, after.tx.queueOf cid =
        if cid = packet.connectionId then rest else s.tx.queueOf cid)
      (control : after.txCtrlQueue = s.txCtrlQueue)
      (numbered : after.log.numbered = s.log.numbered ++
        if packet.assignSeq then [{ packet.frame with seq := s.txSeq }] else [])
      (accepted : after.log.accepted = s.log.accepted ++
        [if packet.assignSeq then { packet.frame with seq := s.txSeq } else packet.frame]) :
      SendsData s after
  | returned {after : Session} (packet : TxPacket) (rest : List TxPacket)
      (head : s.tx.queueOf packet.connectionId = packet :: rest)
      (queues : ∀ cid, after.tx.queueOf cid =
        if cid = packet.connectionId then
          (if packet.assignSeq then packet.numbered s.txSeq else packet) :: rest
        else s.tx.queueOf cid)
      (control : after.txCtrlQueue = s.txCtrlQueue)
      (numbered : after.log.numbered = s.log.numbered ++
        if packet.assignSeq then [{ packet.frame with seq := s.txSeq }] else [])
      (accepted : after.log.accepted = s.log.accepted) :
      SendsData s after

theorem txAssignSeq_eq (s : Session) (packet : TxPacket) :
    (s.txAssignSeq packet).2 = (if packet.assignSeq then packet.numbered s.txSeq else packet) ∧
      (s.txAssignSeq packet).1.tx = s.tx ∧ (s.txAssignSeq packet).1.txCtrlQueue = s.txCtrlQueue ∧
      (s.txAssignSeq packet).1.log.numbered = s.log.numbered ++
        (if packet.assignSeq then [{ packet.frame with seq := s.txSeq }] else []) ∧
      (s.txAssignSeq packet).1.log.accepted = s.log.accepted := by
  unfold txAssignSeq
  split_ifs
  · exact ⟨rfl, rfl, rfl, rfl, rfl⟩
  · exact ⟨rfl, rfl, rfl, (append_nil _).symm, rfl⟩

theorem sendsData_sendData (inv : s.tx.Inv) (answer : Bool) :
    SendsData s (s.sendData answer).1 := by
  have effect := inv.drrPopNext.2
  unfold sendData
  split
  · exact .kept ⟨fun _ => rfl, rfl, rfl, rfl⟩
  split <;> rename_i popped <;> rw [popped] at effect
  · exact .kept ⟨effect, rfl, rfl, rfl⟩
  rename_i tx packet
  have whole : ∀ cid, (if cid = packet.connectionId then packet :: tx.queueOf cid
      else tx.queueOf cid) = s.tx.queueOf cid := by
    intro cid
    split_ifs with own
    · rw [own, effect.1]
    · exact effect.2 cid own
  split
  · refine .kept ⟨fun cid => ?_, rfl, rfl, rfl⟩
    exact (queueOf_drrParkFront tx packet cid).trans (whole cid)
  split
  · refine .kept ⟨fun cid => ?_, rfl, rfl, rfl⟩
    exact (queueOf_drrRequeueFront tx packet cid).trans (whole cid)
  rename_i link links _
  obtain ⟨framed, sameTx, control, numbered, accepted⟩ :=
    txAssignSeq_eq { s with tx := tx, links := links } packet
  have owner := txAssignSeq_connectionId { s with tx := tx, links := links } packet
  simp only [txSendOn]
  generalize txAssignSeq { s with tx := tx, links := links } packet = assigned at *
  split_ifs with taken
  · refine .sent packet _ effect.1 (fun cid => ?_) control numbered ?_
    · change assigned.1.tx.queueOf cid = _
      rw [sameTx]
      split_ifs with own
      · rw [own]
      · exact effect.2 cid own
    · change assigned.1.log.accepted ++ [assigned.2.frame] = _
      rw [accepted, framed]
      split_ifs <;> rfl
  · refine .returned packet _ effect.1 (fun cid => ?_) control numbered accepted
    rw [queueOf_drrRequeueFront, sameTx, owner, framed]
    split_ifs with own
    · rw [own]
    · rw [own]
    · exact effect.2 cid own

/-- The frame a step's `post` accepts. -/
def accepts (s : Session) : Op → Option Frame
  | .post frame acceleration callback answers now =>
    if (s.post frame acceleration callback answers now).2 = .rejected then none else some frame
  | _ => none

def takesIn (s : Session) (cid : ConnectionId) (op : Op) : Option Chunk :=
  (s.accepts op).bind (Frame.chunk cid)

def ControlOnly (s : Session) : Prop :=
  ∀ packet ∈ s.txCtrlQueue, packet.frame.cmd.isPerFlowData = false

theorem ControlOnly.keep (control : s.ControlOnly)
    (same : after.txCtrlQueue = s.txCtrlQueue) : after.ControlOnly :=
  fun packet queued => control packet (same ▸ queued)

theorem takesIn_quiet (calm : quiet op) (s : Session) (cid : ConnectionId) :
    s.takesIn cid op = none := by
  cases op with
  | post frame acceleration callback answers now =>
    have control : frame.cmd.isPerFlowData = false := by simpa [quiet] using calm
    simp only [takesIn, accepts]
    split_ifs
    · rfl
    · exact chunk_of_control control
  | _ => rfl

theorem idle_of_controlOnly (control : s.ControlOnly) : Idle (s.sendSide, .empty) :=
  ⟨control, by simp⟩

theorem endedFlows_compat (compat : s.isFlowV2 = false)
    {ended : ConnectionId} (member : ended ∈ s.endedFlows op) : op = .releaseConnection ended := by
  cases op <;> simp_all [endedFlows]

theorem line_quiet (compat : s.isFlowV2 = false)
    (inv : s.tx.Inv) (control : s.ControlOnly) (calm : quiet op)
    (released : op = .releaseConnection cid →
      ∀ packet ∈ s.tx.queueOf cid, packet.waiting cid = none) : (s.step op).disposed ∨
      (s.step op).ControlOnly ∧ (s.step op).sendSide.line cid = s.sendSide.line cid := by
  have drops : ∀ ended ∈ s.endedFlows op, ∀ packet ∈ s.tx.queueOf ended,
      packet.waiting cid = none := by
    intro ended member packet queued
    by_cases own : ended = cid
    · subst own
      exact released (endedFlows_compat compat member) packet queued
    · have apart : packet.frame.connectionId ≠ cid := fun same =>
        own (((inv.sound ended).own packet queued).symm.trans same)
      simp [waiting, chunk, apart]
  have start : KeepsLine cid (s.sendSide.line cid) (s.sendSide, .empty) :=
    Or.inr ⟨compat, inv, idle_of_controlOnly control, rfl⟩
  have kept := (txMoves_step (permits_quiet calm drops)).keeps (fun _ _ move => move.keepsLine) start
  rcases kept with gone | ⟨-, -, idle, same⟩
  · exact .inl gone
  · exact .inr ⟨idle.control, same⟩

theorem carried_quiet (inv : s.tx.Inv) (control : s.ControlOnly)
    (calm : quiet op) (carried : s.sendSide.Carried cid Numbered) :
    (s.step op).ControlOnly ∧ (s.step op).sendSide.Carried cid Numbered := by
  have drops : ∀ ended ∈ s.endedFlows op, ∀ packet ∈ s.tx.queueOf ended, True :=
    fun _ _ _ _ => trivial
  have kept := (txMoves_step (permits_quiet calm drops)).keeps (fun _ _ move => move.keepsCarried)
      ⟨inv, idle_of_controlOnly control, carried⟩
  exact ⟨kept.idle.control, kept.carried⟩

theorem Queues.line {completion : Option CompletionId}
    (joins : Queues s { s.dataPacket frame with completion := completion } after)
    (compat : s.isFlowV2 = false) (cid : ConnectionId) :
    after.sendSide.line cid = s.sendSide.line cid ++ (frame.chunk cid).toList := by
  have waiting : ({ s.dataPacket frame with completion := completion } : TxPacket).waiting cid =
      frame.chunk cid := by
    simp [waiting, dataPacket, compat, chunk_seq]
  have queue := joins.queues cid
  simp only [SendSide.line, sendSide, joins.numbered, queue]
  split_ifs with own
  · rw [filterMap_append, ← append_assoc]
    cases carried : frame.chunk cid <;> simp [waiting, carried]
  · have none : frame.chunk cid = none := chunk_of_other (Ne.symm own)
    rw [none, toList_none, append_nil]

theorem SendsData.control (effect : SendsData s after) : after.txCtrlQueue = s.txCtrlQueue := by
  cases effect with
  | kept same => exact same.control
  | sent packet rest head queues control | returned packet rest head queues control => exact control

theorem line_of_head {rest : List TxPacket} (front : List TxPacket)
    (head : s.tx.queueOf packet.connectionId = packet :: rest)
    (queues : ∀ cid, after.tx.queueOf cid =
      if cid = packet.connectionId then front ++ rest else s.tx.queueOf cid)
    (numbered : after.log.numbered = s.log.numbered ++
      if packet.assignSeq then [{ packet.frame with seq := s.txSeq }] else [])
    (cid : ConnectionId) (settled : front.filterMap (TxPacket.waiting cid) = []) :
    after.sendSide.line cid = s.sendSide.line cid := by
  simp only [SendSide.line, sendSide, numbered, queues cid]
  by_cases own : cid = packet.connectionId
  · have queue := own ▸ head
    have left : (front ++ rest).filterMap (waiting cid) = rest.filterMap (waiting cid) := by
      rw [filterMap_append, settled, nil_append]
    rw [if_pos own, queue, left, filterMap_append]
    cases due : packet.assignSeq <;> cases carried : packet.frame.chunk cid <;>
      simp [waiting, due, carried, chunk_seq]
  · have none := chunk_of_other (Ne.symm own)
    rw [if_neg own, filterMap_append]
    cases due : packet.assignSeq <;> simp [none, chunk_seq]

theorem SendsData.line (effect : SendsData s after) (cid : ConnectionId) :
    after.sendSide.line cid = s.sendSide.line cid := by
  cases effect with
  | kept same => exact same.line cid
  | sent packet rest head queues control numbered =>
    exact line_of_head [] head queues numbered cid rfl
  | returned packet rest head queues control numbered =>
    refine line_of_head [_] head queues numbered cid ?_
    cases due : packet.assignSeq <;> simp [waiting, TxPacket.numbered, due]

theorem line_step (compat : s.isFlowV2 = false) (inv : s.tx.Inv) (control : s.ControlOnly)
    (released : op = .releaseConnection cid →
      ∀ packet ∈ s.tx.queueOf cid, packet.waiting cid = none) : (s.step op).disposed ∨
      (s.step op).ControlOnly ∧
        (s.step op).sendSide.line cid = s.sendSide.line cid ++ (s.takesIn cid op).toList := by
  cases calm : quiet op with
  | true =>
    rw [takesIn_quiet calm, toList_none, append_nil]
    exact line_quiet compat inv control calm released
  | false =>
    cases op with
    | post frame acceleration callback answers now =>
      have data : frame.cmd.isPerFlowData := by simpa [quiet] using calm
      have effect : _ ∨ PostsData s _ _ := postsData_post data acceleration callback answers now
      simp only [step, takesIn, accepts]
      generalize s.post frame acceleration callback answers now = outcome at effect
      rcases effect with gone | effect
      · exact .inl gone
      · right
        cases effect with
        | queued completion joins => exact ⟨control.keep joins.control, joins.line compat cid⟩
        | failed v2 fails => simp [compat] at v2
        | refused same =>
          rw [if_pos rfl, bind_none, toList_none, append_nil]
          exact ⟨control.keep same.control, same.line cid⟩
    | sendData answer =>
      right
      have effect := sendsData_sendData inv answer
      rw [show s.takesIn cid (.sendData answer) = none from rfl, toList_none, append_nil]
      exact ⟨control.keep effect.control, effect.line cid⟩
    | _ => cases calm

theorem SendsData.carried (effect : SendsData s after)
    (carried : s.sendSide.Carried cid Numbered) : after.sendSide.Carried cid Numbered := by
  -- a chunk at the head of a queue has its number, so it goes out or back as it is
  have whole : ∀ (packet : TxPacket) (rest : List TxPacket),
      s.tx.queueOf packet.connectionId = packet :: rest → packet.frame.chunk cid = none ∨
        packet.assignSeq = false ∧ packet ∈ s.tx.queueOf cid := by
    intro packet rest head
    cases found : packet.frame.chunk cid with
    | none => exact .inl rfl
    | some chunk =>
      have owner : packet.connectionId = cid := (chunk_eq_some found).1
      have queued : packet ∈ s.tx.queueOf cid := by
        rw [← owner, head]
        exact mem_cons_self
      exact .inr ⟨(carried.queued packet queued chunk found).1, queued⟩
  cases effect with
  | kept same =>
    exact carried.keep (fun packet member => .inl (same.queues cid ▸ member))
      fun frame member => .inl (same.accepted ▸ member)
  | sent packet rest head queues control numbered accepted =>
    refine carried.keep (fun held member => ?_) fun frame member => ?_
    · rw [show after.sendSide.tx.queueOf cid = _ from queues cid] at member
      split_ifs at member with own
      · exact .inl (by rw [own]; exact head ▸ mem_cons_of_mem _ member)
      · exact .inl member
    · rw [show after.sendSide.accepted = _ from accepted] at member
      refine (mem_append.mp member).imp_right fun new => ?_
      rw [mem_singleton.mp new]
      rcases whole packet rest head with none | ⟨assigned, queued⟩
      · exact .inl (by split_ifs <;> exact none)
      · exact .inr ⟨packet, queued, by simp [assigned]⟩
  | returned packet rest head queues control numbered accepted =>
    have logged : after.sendSide.accepted = s.sendSide.accepted := accepted
    refine carried.keep (fun held member => ?_) fun frame member => .inl (logged ▸ member)
    rw [show after.sendSide.tx.queueOf cid = _ from queues cid] at member
    split_ifs at member with own due
    · rcases mem_cons.mp member with rfl | later
      · exact .inr ((whole packet rest head).resolve_right (by simp [due]))
      · exact .inl (by rw [own]; exact head ▸ mem_cons_of_mem _ later)
    · exact .inl (by rw [own]; exact head ▸ member)
    · exact .inl member

theorem carried_step (v2 : s.isFlowV2) (inv : s.tx.Inv)
    (control : s.ControlOnly) (carried : s.sendSide.Carried cid Numbered)
    (fresh : ∀ chunk, s.takesIn cid op = some chunk → Numbered chunk (s.nextDsn cid)) :
    (s.step op).disposed ∨ (s.step op).ControlOnly ∧ (s.step op).sendSide.Carried cid Numbered := by
  cases calm : quiet op with
  | true => exact .inr (carried_quiet inv control calm carried)
  | false =>
    cases op with
    | post frame acceleration callback answers now =>
      have data : frame.cmd.isPerFlowData := by simpa [quiet] using calm
      have effect : _ ∨ PostsData s _ _ := postsData_post data acceleration callback answers now
      simp only [takesIn, accepts] at fresh
      simp only [step]
      generalize s.post frame acceleration callback answers now = outcome at effect fresh
      rcases effect with gone | effect
      · exact .inl gone
      · right
        cases effect with
        | queued completion joins =>
          refine ⟨control.keep joins.control, fun packet member chunk found => ?_, ?_⟩
          · rw [show (sendSide _).tx.queueOf cid = _ from joins.queues cid] at member
            split_ifs at member
            · rcases mem_append.mp member with old | new
              · exact carried.queued packet old chunk found
              · rw [mem_singleton.mp new] at found ⊢
                have same : frame.chunk cid = some chunk := found
                have owner := (chunk_eq_some same).1
                have placed := fresh chunk (by simpa using same)
                simp only [dataPacket, v2, if_true, owner, Bool.not_true]
                exact ⟨trivial, placed⟩
            · exact carried.queued packet member chunk found
          · intro sent member
            rw [show (sendSide _).accepted = _ from joins.accepted] at member
            exact carried.accepted sent member
        | failed _ fails =>
          refine ⟨control.keep fails.control, carried.keep ?_ ?_⟩
          · exact fun packet member => .inl (fails.queues cid packet member)
          · intro sent member
            rw [show (sendSide _).accepted = _ from fails.accepted] at member
            exact .inl member
        | refused same =>
          refine ⟨control.keep same.control, carried.keep ?_ ?_⟩
          · exact fun packet member => .inl (same.queues cid ▸ member)
          · exact fun sent member => .inl (same.accepted ▸ member)
    | sendData answer =>
      right
      have effect := sendsData_sendData inv answer
      exact ⟨control.keep effect.control, effect.carried carried⟩
    | _ => cases calm

end Session

end OpenPpp2.Mux
