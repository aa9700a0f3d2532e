import OpenPpp2.Mux.Departure

/-!
# What becomes of a global sequence number under compat

`tx_assign_seq` spends a number just before the carrier write, and the write can be refused.
-/

namespace OpenPpp2.Mux

open Lib.CircularOrder Lib.Run List SendSide

/-- Every numbered frame was accepted, or is held as data with its number. -/
def NumbersKept (state : SendSide × Hand) : Prop :=
  ∀ frame ∈ state.1.numbered, frame ∈ state.1.accepted ∨
    ∃ packet, HoldsData state packet ∧ packet.assignSeq = false ∧ packet.frame = frame

theorem NumbersKept.carry {before after : SendSide × Hand} (kept : NumbersKept before)
    (numbered : after.1.numbered = before.1.numbered)
    (accepted : before.1.accepted ⊆ after.1.accepted)
    (carried : ∀ packet, HoldsData before packet → packet.assignSeq = false →
      packet.frame ∈ after.1.accepted ∨
        ∃ moved, HoldsData after moved ∧ moved.assignSeq = false ∧ moved.frame = packet.frame) :
    NumbersKept after := by
  intro frame member
  rw [numbered] at member
  rcases kept frame member with taken | ⟨packet, held, assigned, rfl⟩
  · exact .inl (accepted taken)
  · exact carried packet held assigned

def ControlAssigned (state : SendSide × Hand) : Prop :=
  ∀ packet, HoldsControl state packet → packet.assignSeq = false

/-- The state of a compat sender whose numbers started at `origin`. -/
structure GloballyNumbered (origin : SeqNumber) (state : SendSide × Hand) : Prop where
  compat : state.1.config.isFlowV2 = false
  scheduler : state.1.tx.Inv
  control : ControlAssigned state
  numbers : state.1.numbered.map Frame.seq = consecutive origin state.1.numbered.length
  next : state.1.txSeq = origin + BitVec.ofNat 32 state.1.numbered.length
  kept : state.1.closeRequested = false → NumbersKept state

/-- Queued frames may be dropped before they are numbered, and none is numbered
twice. -/
def numberingRules : TxRules :=
  { mayPick := fun _ => True
    mayTake := True
    mayDrop := fun packet => packet.assignSeq
    mayEvict := fun _ => True
    mayRepeat := False
    mayStamp := fun _ _ => True }

variable {origin : SeqNumber} {packet : TxPacket}

namespace TxMove

variable {rules : TxRules} {before after : SendSide × Hand}

theorem config (move : TxMove rules before after) : after.1.config = before.1.config := by
  cases move <;> first | rfl | rw [finish_eq]

theorem controlAssigned (move : TxMove rules before after) (assigned : ControlAssigned before) :
    ControlAssigned after :=
  fun _ => move.heldControl (fun _ unnumbered _ => unnumbered) (fun _ _ same => same)
    (fun _ _ _ => rfl) assigned

theorem numbers (move : TxMove rules before after) (assigned : ControlAssigned before)
    (numbers : before.1.numbered.map Frame.seq = consecutive origin before.1.numbered.length)
    (next : before.1.txSeq = origin + BitVec.ofNat 32 before.1.numbered.length) :
    after.1.numbered.map Frame.seq = consecutive origin after.1.numbered.length ∧
      after.1.txSeq = origin + BitVec.ofNat 32 after.1.numbered.length := by
  cases move with
  | number side packet due =>
    simp only [SendSide.number, map_append, length_append, map_singleton,
      length_singleton, consecutive_succ, BitVec.ofNat_add, ← BitVec.add_assoc]
    exact ⟨by rw [numbers, next], congrArg (· + 1) next⟩
  | numberControl side packet due =>
    have plain := assigned packet (.inr rfl)
    rw [due] at plain
    cases plain
  | discard | settle | complete | early =>
    rw [finish_eq]
    exact ⟨numbers, next⟩
  | _ => exact ⟨numbers, next⟩

theorem opened (move : TxMove rules before after) (opened : after.1.closeRequested = false) :
    before.1.closeRequested = false := by
  cases move with
  | discard | settle | complete | early => rwa [finish_eq] at opened
  | requestClose | close => cases opened
  | _ => exact opened

theorem holdsNumbered (move : TxMove numberingRules before after)
    (compat : before.1.config.isFlowV2 = false) (scheduler : before.1.tx.Inv)
    (opened : after.1.closeRequested = false) (held : HoldsData before packet)
    (numbered : packet.assignSeq = false) : packet.frame ∈ after.1.accepted ∨
      ∃ moved, HoldsData after moved ∧ moved.assignSeq = false ∧ moved.frame = packet.frame := by
  rcases held with queued | inHand
  · rcases move.queued scheduler queued with stays | taken | unnumbered | rfl
    · exact .inr ⟨packet, .inl stays, numbered, rfl⟩
    · exact .inr ⟨packet, .inr taken, numbered, rfl⟩
    · exact absurd (numbered.symm.trans unnumbered) nofun
    · cases opened
  · cases move with
    | requestClose | close => cases opened
    | stamp side held v2 => simp [compat] at v2
    | repeatNumber side held permitted => exact permitted.elim
    | enqueue | park | requeue =>
      cases inHand
      exact .inr ⟨packet, .inl (by simp), numbered, rfl⟩
    | discard side held unnumbered =>
      cases inHand
      simp [compat, numbered] at unnumbered
    | track | detach | settle =>
      cases inHand
      exact .inr ⟨_, .inr rfl, numbered, rfl⟩
    | number side held due =>
      cases inHand
      simp [numbered] at due
    | send =>
      cases inHand
      exact .inl (mem_append_right _ (mem_singleton.mpr rfl))
    | _ => first | exact .inr ⟨packet, .inr inHand, numbered, rfl⟩ | cases inHand

theorem numbersKept (move : TxMove numberingRules before after)
    (compat : before.1.config.isFlowV2 = false) (scheduler : before.1.tx.Inv)
    (assigned : ControlAssigned before) (opened : after.1.closeRequested = false)
    (kept : before.1.closeRequested = false → NumbersKept before) : NumbersKept after := by
  have kept := kept (move.opened opened)
  have held : ∀ packet, HoldsData before packet → packet.assignSeq = false → _ :=
    fun _ => move.holdsNumbered compat scheduler opened
  cases move with
  | number side packet due =>
    intro frame member
    rcases mem_append.mp member with earlier | added
    · rcases kept frame earlier with taken | ⟨other, before, numbered, rfl⟩
      · exact .inl taken
      · exact held other before numbered
    · obtain rfl := mem_singleton.mp added
      exact .inr ⟨packet.numbered side.txSeq, .inr rfl, rfl, rfl⟩
  | numberControl side packet due =>
    have plain := assigned packet (.inr rfl)
    simp [due] at plain
  | send | sendControl => exact kept.carry rfl (subset_append_left _ _) held
  | discard | settle | complete | early => 
    rw [finish_eq] at held ⊢
    exact kept.carry rfl (Subset.refl _) held
  | _ => exact kept.carry rfl (Subset.refl _) held

end TxMove

theorem TxMove.globallyNumbered {before after : SendSide × Hand}
    (move : TxMove numberingRules before after) (holds : GloballyNumbered origin before) :
    GloballyNumbered origin after := by
  obtain ⟨numbers, next⟩ := move.numbers holds.control holds.numbers holds.next
  exact
    { compat := (congrArg Config.isFlowV2 move.config).trans holds.compat
      scheduler := move.inv holds.scheduler
      control := move.controlAssigned holds.control
      numbers := numbers
      next := next
      kept := fun opened =>
        move.numbersKept holds.compat holds.scheduler holds.control opened holds.kept }

namespace Session

/-- The step throws away a queued frame that has its number, or queues one to be
numbered again. -/
def wastesNumber (s : Session) (op : Op) : Bool :=
  (s.endedFlows op).any (fun cid => (s.tx.queueOf cid).any fun packet => !packet.assignSeq) ||
    s.renumbers op

variable {s : Session} {op : Op}

theorem permits_numbering (guard : s.wastesNumber op = false) : Permits numberingRules s op := by
  rw [wastesNumber, Bool.or_eq_false_iff] at guard
  refine ⟨fun _ _ => trivial, fun _ => trivial, ?_, fun _ _ => trivial, ?_, fun _ _ => trivial⟩
  · intro cid ended packet queued
    have kept := any_eq_false.mp guard.1 cid ended
    have waiting : packet.assignSeq := by
      simpa using any_eq_false.mp (Bool.eq_false_iff.mpr kept) packet queued
    exact waiting
  · intro renumbered
    simp [renumbered] at guard

theorem globallyNumbered_step (guard : s.wastesNumber op = false)
    (holds : GloballyNumbered origin (s.sendSide, .empty)) :
    GloballyNumbered origin ((s.step op).sendSide, .empty) :=
  (txMoves_step (permits_numbering guard)).keeps (fun _ _ move => move.globallyNumbered) holds

theorem globallyNumbered_initial {config : Config} (compat : config.isFlowV2 = false)
    (mode : MuxMode) (txSeq rxAck : SeqNumber) :
    GloballyNumbered txSeq ((initial config mode txSeq rxAck).sendSide, .empty) where
  compat := compat
  scheduler := TxScheduler.inv_empty
  control := by rintro packet (queued | inHand) <;> simp_all [initial, sendSide]
  numbers := rfl
  next := by simp [initial, sendSide, Log.empty]
  kept _ := by simp [NumbersKept, initial, sendSide, Log.empty]

/-- Along a compat run in which no queued frame is thrown away with its number
and no turbo SYN is refused after it was numbered, the numbers spent are
consecutive, and while the session is open each belongs to a frame a carrier
accepted or to a frame still queued with that number. -/
theorem compat_numbers_kept (config : Config) (mode : MuxMode) (txSeq rxAck : SeqNumber)
    (compat : config.isFlowV2 = false) (ops : List Op)
    (guarded : Guarded step (fun s op => s.wastesNumber op = false)
      (initial config mode txSeq rxAck) ops) :
    let reached := run step (initial config mode txSeq rxAck) ops
    reached.log.numbered.map Frame.seq = consecutive txSeq reached.log.numbered.length ∧
      reached.txSeq = txSeq + BitVec.ofNat 32 reached.log.numbered.length ∧
      (reached.closeRequested = false →
        ∀ frame ∈ reached.log.numbered, frame ∈ reached.log.accepted ∨
          ∃ cid, ∃ packet ∈ reached.tx.queueOf cid,
            packet.frame = frame ∧ packet.assignSeq = false) := by
  intro reached
  have holds := guarded_invariant
    (fun (s : Session) op allowed (holds : GloballyNumbered txSeq (s.sendSide, .empty)) =>
      globallyNumbered_step allowed holds)
    guarded (globallyNumbered_initial compat mode txSeq rxAck)
  refine ⟨holds.numbers, holds.next, fun opened frame member => ?_⟩
  rcases holds.kept opened frame member with taken | ⟨packet, held, assigned, same⟩
  · exact .inl taken
  · rcases held with ⟨cid, queued⟩ | inHand
    · exact .inr ⟨cid, packet, queued, same, assigned⟩
    · cases inHand

/-- A refused push is sent later with its number; the second one is still queued
with its own. -/
theorem compat_numbers_kept_requeued :
    let reached := run step (initial (Config.defaults .compat) .compat 7 0)
      [.register 1, .carrier 1 .attach, .carrier 1 (.handshake 1),
        .post (Frame.push 1 0 [6]) false false ⟨true, true⟩ 5, .sendData false,
        .post (Frame.push 1 0 [7]) false false ⟨true, true⟩ 5, .carrier 1 .offer, .sendData true,
        .sendData false]
    reached.log.numbered.map Frame.seq = consecutive 7 reached.log.numbered.length ∧
      reached.txSeq = 7 + BitVec.ofNat 32 reached.log.numbered.length ∧
      (reached.closeRequested = false →
        ∀ frame ∈ reached.log.numbered, frame ∈ reached.log.accepted ∨
          ∃ cid, ∃ packet ∈ reached.tx.queueOf cid,
            packet.frame = frame ∧ packet.assignSeq = false) :=
  compat_numbers_kept _ _ _ _ (by decide) _ (by decide +kernel)

/-- Number 7 is lost when the connection of a refused push is released, and when a
refused turbo SYN is numbered 8 on its second attempt. -/
theorem compat_numbers_wasted :
    (let reached := run step (initial (Config.defaults .compat) .compat 7 0)
        [.register 1, .carrier 1 .attach, .carrier 1 (.handshake 1),
          .post (Frame.push 1 0 [6]) false false ⟨true, true⟩ 5, .sendData false,
          .releaseConnection 1]
     reached.closeRequested = false ∧ reached.log.numbered.map Frame.seq = [7] ∧
      reached.log.accepted = [] ∧ reached.tx.txFlows.keys = []) ∧
      (let reached := run step (initial { Config.defaults .compat with turbo := true } .compat 7 0)
          [.register 1, .carrier 1 .attach, .carrier 1 (.handshake 1),
            .post { seq := 0, cmd := .syn, connectionId := 1, payload := [] } false false
              ⟨false, true⟩ 5, .carrier 1 .offer, .sendData true]
       reached.closeRequested = false ∧ reached.log.numbered.map Frame.seq = [7, 8] ∧
        reached.log.accepted.map Frame.seq = [8] ∧ reached.tx.txDataFrames = 0) := by
  decide +kernel

end Session

/-- The numbers are 1, 2, 3 and so on, short of a full circle, and a counter that
is there after the first of them holds the next one. -/
structure Counted (counter : Option SeqNumber) (posted : List SeqNumber) : Prop where
  short : posted.length < 2 ^ 32
  numbers : posted = consecutive 1 posted.length
  next : ∀ dsn, counter = some dsn → posted ≠ [] → dsn = 1 + BitVec.ofNat 32 posted.length

/-- The counter is missing though the connection has posted, left over though it
has not, or has run through all its values. -/
def losesCount (counter : Option SeqNumber) (posted : List SeqNumber) : Bool :=
  counter.isNone != posted.isEmpty || counter = some 0

namespace Counted

variable {counter : Option SeqNumber} {posted : List SeqNumber}

theorem empty (counter : Option SeqNumber) : Counted counter [] :=
  ⟨by decide, rfl, fun _ _ nonempty => absurd rfl nonempty⟩

theorem erased (counted : Counted counter posted) : Counted none posted :=
  ⟨counted.short, counted.numbers, fun _ found => nomatch found⟩

variable {cid : ConnectionId} {side : SendSide}

section

variable (counted : Counted (side.txFlowSeq.lookup cid) (side.posted cid))
    (kept : losesCount (side.txFlowSeq.lookup cid) (side.posted cid) = false)
include counted kept

theorem nextDsn :
    side.nextDsn cid = 1 + BitVec.ofNat 32 (side.posted cid).length ∧ (side.posted cid).length + 1 <
      2 ^ 32 := by
  rw [losesCount, Bool.or_eq_false_iff] at kept
  obtain ⟨agree, nonzero⟩ := kept
  have short := counted.short
  rcases counter : side.txFlowSeq.lookup cid with _ | dsn
  · have fresh : side.posted cid = [] := by simpa [counter] using agree
    rw [SendSide.nextDsn, counter, fresh]
    exact ⟨rfl, by decide⟩
  · have begun : side.posted cid ≠ [] := by simpa [counter] using agree
    have value := counted.next dsn counter begun
    have running : dsn ≠ 0 := by simpa [counter] using nonzero
    have shown : side.nextDsn cid = dsn := by
      simp only [SendSide.nextDsn, counter, if_neg running]
    refine ⟨shown.trans value, ?_⟩
    -- a full circle would have brought the counter back to zero
    by_contra full
    apply running
    rw [value, show (side.posted cid).length = 2 ^ 32 - 1 by omega]
    rfl

theorem stamp : Counted (some (side.nextDsn cid + 1)) (side.posted cid ++ [side.nextDsn cid]) := by
  obtain ⟨value, short⟩ := counted.nextDsn kept
  refine ⟨by simpa using short, ?_, ?_⟩
  · rw [value, length_append, length_singleton, consecutive_succ, ← counted.numbers]
  · rintro dsn same -
    obtain rfl := Option.some.inj same
    rw [value, length_append, length_singleton, BitVec.ofNat_add, ← BitVec.add_assoc]
    rfl

end

end Counted

def SendSide.AllCounted (side : SendSide) : Prop :=
  ∀ cid, Counted (side.txFlowSeq.lookup cid) (side.posted cid)

theorem SendSide.AllCounted.erase {side after : SendSide} (counted : side.AllCounted)
    (cid : ConnectionId) (counters : after.txFlowSeq = side.txFlowSeq.erase cid)
    (posted : after.posted = side.posted) : after.AllCounted := by
  intro other
  rw [counters, posted]
  by_cases same : other = cid
  · rw [same, AList.lookup_erase]
    exact (counted cid).erased
  · rw [AList.lookup_erase_ne same]
    exact counted other

theorem TxMove.allCounted {rules : TxRules} {before after : SendSide × Hand}
    (move : TxMove rules before after)
    (kept : ∀ counter posted, rules.mayStamp counter posted → losesCount counter posted = false)
    (counted : before.1.AllCounted) : after.1.AllCounted := by
  cases move with
  | fail side hand cid | leave side hand cid | forget side hand cid =>
    exact counted.erase cid rfl rfl
  | enter side hand cid =>
    intro other
    by_cases same : other = cid
    · subst same
      simp only [SendSide.enter, Function.update_self]
      exact .empty _
    · simp only [SendSide.enter, Function.update_of_ne same]
      exact counted other
  | close side hand => exact fun other => (counted other).erased
  | stamp side packet v2 permitted =>
    intro other
    by_cases same : other = packet.connectionId
    · subst same
      simp only [SendSide.stamp, AList.lookup_insert, Function.update_self]
      exact (counted _).stamp (kept _ _ permitted)
    · simp only [SendSide.stamp, AList.lookup_insert_ne same, Function.update_of_ne same]
      exact counted other
  | discard | settle | complete | early =>
    intro other
    rw [finish_eq]
    exact counted other
  | _ => exact counted

namespace Session

def restartsCounter (s : Session) (op : Op) : Bool :=
  (s.stamped op).any fun cid => losesCount (s.txFlowSeq.lookup cid) (s.log.posted cid)

def countingRules : TxRules :=
  { mayPick := fun _ => True
    mayTake := True
    mayDrop := fun _ => True
    mayEvict := fun _ => True
    mayRepeat := True
    mayStamp := fun counter posted => losesCount counter posted = false }

theorem permits_counting {s : Session} {op : Op} (guard : s.restartsCounter op = false) :
    Permits countingRules s op where
  picks _ _ := trivial
  takes _ := trivial
  drops _ _ _ _ := trivial
  evicts _ _ := trivial
  repeats _ := trivial
  stamps cid found := by
    rw [restartsCounter, found] at guard
    exact guard

theorem allCounted_step {s : Session} {op : Op} (guard : s.restartsCounter op = false)
    (counted : s.sendSide.AllCounted) : (s.step op).sendSide.AllCounted :=
  (txMoves_step (permits_counting guard)).keeps
    (fun _ _ move holds => move.allCounted (fun _ _ kept => kept) holds) counted

/-- Along a run in which no data frame is numbered on a lost counter, the numbers
written into a connection's data frames since it was registered are 1, 2, 3 and
so on. -/
theorem flow_posts_in_sequence (config : Config) (mode : MuxMode) (txSeq rxAck : SeqNumber)
    (ops : List Op) (guarded : Guarded step (fun s op => s.restartsCounter op = false)
      (initial config mode txSeq rxAck) ops) (cid : ConnectionId) :
    ((run step (initial config mode txSeq rxAck) ops).log.posted cid).map BitVec.toNat =
      List.range' 1 ((run step (initial config mode txSeq rxAck) ops).log.posted cid).length := by
  have invariant := guarded_invariant
    (fun (s : Session) op allowed (counted : s.sendSide.AllCounted) =>
      allCounted_step allowed counted)
    guarded (fun _ => Counted.empty _)
  have counted := invariant cid
  calc ((run step (initial config mode txSeq rxAck) ops).log.posted cid).map BitVec.toNat
      = (consecutive (1 : SeqNumber)
          ((run step (initial config mode txSeq rxAck) ops).log.posted cid).length).map
            BitVec.toNat := congrArg (map BitVec.toNat) counted.numbers
    _ = _ := map_toNat_consecutive_one (by decide) counted.short

/-- Two pushes and the FIN of a connection, interleaved with another one's. -/
theorem flow_posts_in_sequence_closing :
    let reached := run step (initial (Config.defaults .flowV2) .flow 0 0)
      [.register 1, .register 2, .post (Frame.push 1 0 [6]) false false ⟨true, true⟩ 5,
        .post (Frame.push 2 0 [9]) false false ⟨true, true⟩ 5,
        .post (Frame.push 1 0 [7]) false true ⟨true, true⟩ 6,
        .post (Frame.fin 1 0) false false ⟨true, true⟩ 7, .releaseConnection 1]
    (reached.log.posted 1).map BitVec.toNat = range' 1 (reached.log.posted 1).length :=
  flow_posts_in_sequence _ _ _ _ _ (by decide +kernel) 1

/-- The FIN that `vmux_skt::finalize` posts after releasing the connection repeats
number one, and so does a push that follows the delivery of the peer's FIN. -/
theorem flow_posts_restart_after_release : (run step (initial (Config.defaults .flowV2) .flow 0 0)
        [.register 1, .post (Frame.push 1 0 [6]) false false ⟨true, true⟩ 5, .releaseConnection 1,
          .post (Frame.fin 1 0) false false ⟨true, true⟩ 6]).log.posted 1 = [1, 1] ∧
      (run step (initial (Config.defaults .flowV2) .flow 0 0)
        [.register 1, .post (Frame.push 1 0 [6]) false false ⟨true, true⟩ 5,
          .arrive (Frame.fin 1 1) none 6,
          .post (Frame.push 1 0 [7]) false false ⟨true, true⟩ 7]).log.posted 1 = [1, 1] := by
  decide +kernel

end Session

open TxScheduler

inductive Chunk
  | push (payload : List UInt8)
  | fin
  deriving DecidableEq, Repr

/-- The chunk a frame carries on the connection `cid`. -/
def Frame.chunk (cid : ConnectionId) (frame : Frame) : Option Chunk :=
  if frame.connectionId = cid then
    match frame.cmd with
    | .push => some (.push frame.payload)
    | .fin => some .fin
    | _ => none
  else none

variable {cid : ConnectionId} {frame : Frame}

theorem Frame.chunk_of_control
    (control : frame.cmd.isPerFlowData = false) : frame.chunk cid = none := by
  unfold chunk
  split_ifs
  · cases kind : frame.cmd <;> simp_all [Cmd.isPerFlowData]
  · rfl

theorem Frame.chunk_eq_some {chunk : Chunk} (carried : frame.chunk cid = some chunk) :
    frame.connectionId = cid ∧ frame.cmd.isPerFlowData := by
  constructor
  · by_contra apart
    simp [Frame.chunk, apart] at carried
  · by_contra control
    rw [chunk_of_control (Bool.eq_false_iff.mpr control)] at carried
    cases carried

theorem Frame.chunk_of_other (apart : frame.connectionId ≠ cid) : frame.chunk cid = none := by
  simp [chunk, apart]

theorem Frame.chunk_seq (cid : ConnectionId) (frame : Frame) (seq : SeqNumber) :
    ({ frame with seq := seq } : Frame).chunk cid = frame.chunk cid := rfl

def TxPacket.waiting (cid : ConnectionId) (packet : TxPacket) : Option Chunk :=
  if packet.assignSeq then packet.frame.chunk cid else none

theorem TxPacket.waiting_of_control
    (control : packet.frame.cmd.isPerFlowData = false) : packet.waiting cid = none := by
  simp [waiting, Frame.chunk_of_control control]

def SendSide.line (side : SendSide) (cid : ConnectionId) : List Chunk :=
  side.numbered.filterMap (Frame.chunk cid) ++
    (side.tx.queueOf cid).filterMap (TxPacket.waiting cid)

/-- Every chunk queued for the connection or accepted by a carrier has a number
for which `Numbered` holds. -/
structure SendSide.Carried (cid : ConnectionId) (Numbered : Chunk → SeqNumber → Prop)
    (side : SendSide) : Prop where
  queued : ∀ packet ∈ side.tx.queueOf cid, ∀ chunk, packet.frame.chunk cid = some chunk →
    packet.assignSeq = false ∧ Numbered chunk packet.frame.seq
  accepted : ∀ frame ∈ side.accepted, ∀ chunk, frame.chunk cid = some chunk →
    Numbered chunk frame.seq

structure Idle (state : SendSide × Hand) : Prop where
  control : ∀ packet ∈ state.1.txCtrlQueue, packet.frame.cmd.isPerFlowData = false
  hand : ∀ packet, state.2 = .data packet ∨ state.2 = .control packet →
    packet.frame.cmd.isPerFlowData = false

/-- No data frame is posted and no data queue drained; `mayDrop` says what may be
thrown away. -/
def quietRules (mayDrop : TxPacket → Prop) : TxRules :=
  { mayPick := fun packet => packet.frame.cmd.isPerFlowData = false
    mayTake := False
    mayDrop := mayDrop
    mayEvict := fun _ => True
    mayRepeat := True
    mayStamp := fun _ _ => True }

def freeRules : TxRules :=
  { mayPick := fun _ => True
    mayTake := True
    mayDrop := fun _ => True
    mayEvict := fun _ => True
    mayRepeat := True
    mayStamp := fun _ _ => True }

theorem SendSide.line_congr {before after : SendSide}
    (numbered : after.numbered.filterMap (Frame.chunk cid) =
      before.numbered.filterMap (Frame.chunk cid))
    (queue : (after.tx.queueOf cid).filterMap (TxPacket.waiting cid) =
      (before.tx.queueOf cid).filterMap (TxPacket.waiting cid)) :
    after.line cid = before.line cid := by
  rw [line, line, numbered, queue]

variable {Numbered : Chunk → SeqNumber → Prop}

theorem SendSide.Carried.keep {before after : SendSide} (carried : before.Carried cid Numbered)
    (queue : ∀ packet ∈ after.tx.queueOf cid,
      packet ∈ before.tx.queueOf cid ∨ packet.frame.chunk cid = none)
    (accepted : ∀ frame ∈ after.accepted, frame ∈ before.accepted ∨ frame.chunk cid = none ∨
      ∃ packet ∈ before.tx.queueOf cid, packet.frame = frame) : after.Carried cid Numbered where
  queued packet member chunk found := by
    rcases queue packet member with old | none
    · exact carried.queued packet old chunk found
    · cases none.symm.trans found
  accepted frame member chunk found := by
    rcases accepted frame member with old | none | ⟨packet, queued, rfl⟩
    · exact carried.accepted frame old chunk found
    · cases none.symm.trans found
    · exact (carried.queued packet queued chunk found).2

theorem SendSide.Carried.imp {side : SendSide} {Implied : Chunk → SeqNumber → Prop}
    (carried : side.Carried cid Numbered)
    (implies : ∀ {chunk dsn}, Numbered chunk dsn → Implied chunk dsn) : side.Carried cid Implied where
  queued packet member chunk found := (carried.queued packet member chunk found).imp_right implies
  accepted frame member chunk found := implies (carried.accepted frame member chunk found)

namespace TxMove

variable {rules : TxRules} {mayDrop : TxPacket → Prop} {before after : SendSide × Hand}

theorem disposed (move : TxMove rules before after) (gone : before.1.disposed) :
    after.1.disposed := by
  cases move with
  | discard side packet | settle side packet =>
    cases packet.completion <;> exact gone
  | complete side hand ticket write => cases write.completion <;> exact gone
  | close => rfl
  | _ => exact gone

theorem numbered_grows (move : TxMove rules before after) :
    before.1.numbered <+: after.1.numbered := by
  cases move with
  | number | numberControl => exact prefix_append _ _
  | discard | settle | complete | early =>
    rw [finish_eq]
  | _ => exact prefix_rfl

theorem idle (move : TxMove (quietRules mayDrop) before after) (idle : Idle before) :
    Idle after := by
  have control : ∀ packet, HoldsControl after packet → packet.frame.cmd.isPerFlowData = false :=
    fun _ => move.heldControl (fun _ _ control => control) (fun _ _ same => same)
      (fun _ _ same => same) fun packet held =>
        held.elim (idle.control packet) fun inHand => idle.hand packet (.inr inHand)
  refine ⟨fun packet queued => control packet (.inl queued), ?_⟩
  rintro packet (inHand | inHand)
  · cases move with
    | pick side picked bare permitted =>
      cases inHand
      exact permitted
    | take side tx taken popped permitted => exact permitted.elim
    | track side held | stamp side held | repeatNumber side held | detach side held
    | number side held | settle side held =>
      cases inHand
      exact idle.hand held (.inl rfl)
    | _ => first | exact idle.hand packet (.inl inHand) | cases inHand
  · exact control packet (.inr inHand)

variable {cid : ConnectionId}

theorem line (move : TxMove (quietRules fun packet => packet.waiting cid = none) before after)
    (inv : before.1.tx.Inv) (idle : Idle before) (opened : after.1.disposed = false) :
    after.1.line cid = before.1.line cid := by
  have unnumbered : ∀ packet seq, before.2 = .data packet ∨ before.2 = .control packet →
      ({ packet.frame with seq := seq } : Frame).chunk cid = none := fun packet seq inHand =>
    Frame.chunk_of_control (idle.hand packet inHand)
  apply line_congr
  · cases move with
    | number side packet due => simp [SendSide.number, unnumbered packet side.txSeq (.inl rfl)]
    | numberControl side packet due =>
      simp [SendSide.number, unnumbered packet side.txSeq (.inr rfl)]
    | discard | settle | complete | early => rw [finish_eq]
    | _ => rfl
  · cases move.queueStep inv cid with
    | same queue => rw [queue]
    | dropped permitted queue =>
      rw [queue, filterMap_eq_nil_iff.mpr permitted]
      rfl
    | closed closed =>
      rw [closed] at opened
      cases opened
    | pushed packet inHand queue =>
      have control : packet.waiting cid = none :=
        TxPacket.waiting_of_control (idle.hand packet (.inl inHand))
      rcases queue with queue | queue <;> simp [queue, control]
    | popped packet permitted => exact permitted.elim

theorem carried {Numbered : Chunk → SeqNumber → Prop}
    (move : TxMove (quietRules mayDrop) before after) (inv : before.1.tx.Inv) (idle : Idle before)
    (carried : before.1.Carried cid Numbered) : after.1.Carried cid Numbered := by
  apply carried.keep
  · intro packet member
    cases move.queueStep inv cid with
    | same queue => exact .inl (queue ▸ member)
    | dropped permitted queue =>
      rw [queue] at member
      cases member
    | closed closed =>
      rw [closed] at member
      exact absurd ⟨cid, member⟩ (not_queued_empty packet)
    | pushed added inHand queue =>
      have among : packet ∈ before.1.tx.queueOf cid ∨ packet = added := by
        rcases queue with queue | queue <;> simpa [queue, or_comm] using member
      rcases among with old | rfl
      · exact .inl old
      · exact .inr (Frame.chunk_of_control (idle.hand packet (.inl inHand)))
    | popped taken permitted => exact permitted.elim
  · intro frame member
    cases move with
    | send side packet | sendControl side packet =>
      rcases mem_append.mp member with old | new
      · exact .inl old
      · rw [mem_singleton.mp new]
        exact .inr (.inl (Frame.chunk_of_control (idle.hand packet (by simp))))
    | discard | settle | complete | early =>
      rw [finish_eq] at member
      exact .inl member
    | _ => exact .inl member

end TxMove

theorem TxMoves.numbered_grows {rules : TxRules} {start finish : SendSide × Hand}
    (moves : TxMoves rules start finish) : start.1.numbered <+: finish.1.numbered := by
  induction moves with
  | refl => exact prefix_rfl
  | tail _ move ih => exact ih.trans move.numbered_grows

def KeepsLine (cid : ConnectionId) (line : List Chunk) (state : SendSide × Hand) : Prop :=
  state.1.disposed ∨
    state.1.config.isFlowV2 = false ∧ state.1.tx.Inv ∧ Idle state ∧ state.1.line cid = line

variable {cid : ConnectionId}

variable {before after : SendSide × Hand}

theorem TxMove.keepsLine {line : List Chunk}
    (move : TxMove (quietRules fun packet => packet.waiting cid = none) before after)
    (holds : KeepsLine cid line before) : KeepsLine cid line after := by
  rcases holds with gone | ⟨compat, inv, idle, same⟩
  · exact .inl (move.disposed gone)
  · cases gone : after.1.disposed with
    | true => exact .inl gone
    | false =>
      have mode := (congrArg Config.isFlowV2 move.config).trans compat
      exact .inr ⟨mode, move.inv inv, move.idle idle, (move.line inv idle gone).trans same⟩

structure KeepsCarried (cid : ConnectionId) (Numbered : Chunk → SeqNumber → Prop)
    (state : SendSide × Hand) : Prop where
  scheduler : state.1.tx.Inv
  idle : Idle state
  carried : state.1.Carried cid Numbered

theorem TxMove.keepsCarried {mayDrop : TxPacket → Prop} (move : TxMove (quietRules mayDrop) before after)
    (holds : KeepsCarried cid Numbered before) : KeepsCarried cid Numbered after :=
  ⟨move.inv holds.scheduler, move.idle holds.idle,
    move.carried holds.scheduler holds.idle holds.carried⟩

structure Steady (origin : SeqNumber) (state : SendSide × Hand) : Prop where
  scheduler : state.1.tx.Inv
  assigned : ControlAssigned state
  numbers : state.1.numbered.map Frame.seq = consecutive origin state.1.numbered.length
  next : state.1.txSeq = origin + BitVec.ofNat 32 state.1.numbered.length

theorem TxMove.steady {rules : TxRules} {origin : SeqNumber}
    (move : TxMove rules before after) (steady : Steady origin before) : Steady origin after := by
  obtain ⟨numbers, next⟩ := move.numbers steady.assigned steady.numbers steady.next
  exact ⟨move.inv steady.scheduler, move.controlAssigned steady.assigned, numbers, next⟩

/-- The data queues, the control queue and the logs of numbered and accepted
frames are the same. -/
structure SameData (before after : SendSide) : Prop where
  queues : ∀ cid, after.tx.queueOf cid = before.tx.queueOf cid
  control : after.txCtrlQueue = before.txCtrlQueue
  numbered : after.numbered = before.numbered
  accepted : after.accepted = before.accepted

theorem SameData.trans {before middle after : SendSide} (first : SameData before middle)
    (second : SameData middle after) : SameData before after :=
  ⟨fun cid => (second.queues cid).trans (first.queues cid), second.control.trans first.control,
    second.numbered.trans first.numbered, second.accepted.trans first.accepted⟩

theorem SameData.line {before after : SendSide} (same : SameData before after)
    (cid : ConnectionId) : after.line cid = before.line cid :=
  line_congr (by rw [same.numbered]) (by rw [same.queues cid])

namespace Session

theorem permits_free (s : Session) (op : Op) : Permits freeRules s op :=
  ⟨fun _ _ => trivial, fun _ => trivial, fun _ _ _ _ => trivial, fun _ _ => trivial,
    fun _ => trivial, fun _ _ => trivial⟩

variable {s : Session}

theorem disposed_step (gone : s.disposed) (op : Op) : (s.step op).disposed := by
  have kept := (txMoves_step (s.permits_free op)).keeps (fun _ _ move => move.disposed) gone
  exact kept

theorem numbered_step (s : Session) (op : Op) : s.log.numbered <+: (s.step op).log.numbered :=
  (txMoves_step (s.permits_free op)).numbered_grows

theorem steady_step {origin : SeqNumber} (steady : Steady origin (s.sendSide, .empty))
    (op : Op) : Steady origin ((s.step op).sendSide, .empty) :=
  (txMoves_step (s.permits_free op)).keeps (fun _ _ move => move.steady) steady

theorem steady_initial (config : Config) (mode : MuxMode) (txSeq rxAck : SeqNumber) :
    Steady txSeq ((initial config mode txSeq rxAck).sendSide, .empty) where
  scheduler := inv_empty
  assigned := by rintro packet (queued | inHand) <;> simp_all [initial, sendSide]
  numbers := rfl
  next := by simp [initial, sendSide, Log.empty]

def quiet : Op → Bool
  | .post frame _ _ _ _ => !frame.cmd.isPerFlowData
  | .sendData _ => false
  | _ => true

theorem permits_quiet {op : Op} {mayDrop : TxPacket → Prop} (calm : quiet op)
    (drops : ∀ cid ∈ s.endedFlows op, ∀ packet ∈ s.tx.queueOf cid, mayDrop packet) :
    Permits (quietRules mayDrop) s op where
  picks packet posted := by
    cases op with
    | post frame =>
      have same := Option.some.inj posted
      have control : frame.cmd.isPerFlowData = false := by simpa [quiet] using calm
      exact (congrArg Cmd.isPerFlowData same.symm).trans control
    | _ => cases posted
  takes drains := by
    cases op with
    | sendData => cases calm
    | _ => cases drains
  drops := drops
  evicts _ _ := trivial
  repeats _ := trivial
  stamps _ _ := trivial

end Session

end OpenPpp2.Mux
