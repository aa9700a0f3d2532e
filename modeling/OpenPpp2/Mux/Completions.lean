import OpenPpp2.Mux.Departure

/-!
# Who will call a completion back

A tracked completion travels with its frame: through the queues, onto a carrier write, or into a
posted early acknowledgment.
-/

namespace OpenPpp2.Mux

open Lib.Run List Prod

def Hand.completion : Hand → Option CompletionId
  | .empty => none
  | .data packet | .control packet => packet.completion

inductive Attached (side : SendSide) (hand : Hand) (id : CompletionId) : Prop
  | queued (packet : TxPacket) (held : side.tx.Queued packet) (carries : packet.completion = some id)
  | control (packet : TxPacket) (held : packet ∈ side.txCtrlQueue)
      (carries : packet.completion = some id)
  | inHand (carries : hand.completion = some id)
  | inFlight (write : CarrierWrite) (held : write ∈ side.writes)
      (carries : write.completion = some id)
  | early (held : id ∈ side.earlyAcks)

namespace SendSide

theorem mem_pending_finish {side : SendSide} {completion : Option CompletionId} {ok : Bool}
    {id : CompletionId} (pending : id ∈ (side.finish completion ok).pendingTxCompletions) :
    id ∈ side.pendingTxCompletions ∧ completion ≠ some id := by
  cases completion with
  | none => exact ⟨pending, nofun⟩
  | some finished =>
    obtain ⟨member, apart⟩ := mem_filter.mp pending
    refine ⟨member, ?_⟩
    rintro ⟨⟩
    simp at apart

end SendSide

def completionRules : TxRules :=
  { mayPick := fun _ => True
    mayTake := True
    mayDrop := fun packet => packet.completion = none
    mayEvict := fun packet => packet.completion = none
    mayRepeat := True
    mayStamp := fun _ _ => True }

theorem mem_of_mem_of_find {α : Type*} {found : α → Bool} {values : List α} {first value : α}
    (search : values.find? found = some first) (member : value ∈ values) :
    value = first ∨ value ∈ values.eraseP found := by
  induction values with
  | nil => cases member
  | cons head tail ih =>
    by_cases hit : found head
    · rw [find?_cons_of_pos hit, Option.some.injEq] at search
      rw [eraseP_cons_of_pos hit]
      exact (mem_cons.mp member).imp_left fun same => same.trans search
    · rw [find?_cons_of_neg hit] at search
      rw [eraseP_cons_of_neg hit]
      rcases mem_cons.mp member with rfl | later
      · exact .inr mem_cons_self
      · exact (ih search later).imp_right (mem_cons_of_mem _)

def AllAttached (state : SendSide × Hand) : Prop :=
  ∀ id ∈ state.1.pendingTxCompletions, Attached state.1 state.2 id

namespace TxMove

open SendSide

variable {rules : TxRules} {before after : SendSide × Hand} {id : CompletionId}

theorem queuedControl {packet : TxPacket} (move : TxMove rules before after)
    (queued : packet ∈ before.1.txCtrlQueue) :
    packet ∈ after.1.txCtrlQueue ∨ after.2 = .control packet ∨ rules.mayEvict packet ∨
      after = (before.1.finalize, .empty) := by
  cases move with
  | close => exact .inr (.inr (.inr rfl))
  | pushControl => exact .inl (mem_append_left _ queued)
  | evictControl side hand victim found permitted =>
    rcases mem_of_mem_of_find found queued with rfl | stays
    · exact .inr (.inr (.inl permitted))
    · exact .inl stays
  | takeControl side taken rest queue =>
    have among := queue ▸ queued
    exact (mem_cons.mp among).symm.imp_right fun same => .inl (congrArg Hand.control same.symm)
  | returnControl => exact .inl (mem_cons_of_mem _ queued)
  | discard | settle | complete | early =>
    rw [finish_eq]
    exact .inl queued
  | _ => exact .inl queued

theorem pending (move : TxMove rules before after) (pending : id ∈ after.1.pendingTxCompletions) :
    id ∈ before.1.pendingTxCompletions ∨ after.2.completion = some id := by
  cases move with
  | requestClose | close => cases pending
  | track | trackControl =>
    exact (mem_append.mp pending).imp_right fun tracked =>
      congrArg some (mem_singleton.mp tracked).symm
  | discard | settle | complete | early => exact .inl (mem_pending_finish pending).1
  | _ => exact .inl pending

theorem handed (move : TxMove rules before after) (pending : id ∈ after.1.pendingTxCompletions)
    (carries : before.2.completion = some id) : Attached after.1 after.2 id := by
  cases move with
  | requestClose | close => cases pending
  | pick | pickControl | spin | take | takeControl => cases carries
  | track side packet bare | trackControl side packet bare | refuseControl side packet bare =>
    exact absurd (bare.symm.trans carries) nofun
  | discard | settle => exact absurd carries (mem_pending_finish pending).2
  | detach side packet finished attached =>
    have same : finished = id := Option.some.inj (attached.symm.trans carries)
    exact .early (mem_append_right _ (mem_singleton.mpr same.symm))
  | enqueue side packet | park side packet | requeue side packet =>
    exact .queued packet (by simp) carries
  | pushControl side packet => exact .control packet (mem_append_right _ mem_cons_self) carries
  | returnControl side packet => exact .control packet mem_cons_self carries
  | send side packet write numbered same | sendControl side packet write same =>
    exact .inFlight write (mem_append_right _ mem_cons_self) (same.trans carries)
  | _ => exact .inHand carries

theorem attached (move : TxMove completionRules before after) (scheduler : before.1.tx.Inv)
    (pending : id ∈ after.1.pendingTxCompletions) (attached : Attached before.1 before.2 id) :
    Attached after.1 after.2 id := by
  cases attached with
  | queued packet held carries =>
    rcases move.queued scheduler held with stays | taken | bare | rfl
    · exact .queued packet stays carries
    · exact .inHand (taken ▸ carries)
    · exact absurd (bare.symm.trans carries) nofun
    · cases pending
  | control packet held carries =>
    rcases move.queuedControl held with stays | taken | bare | rfl
    · exact .control packet stays carries
    · exact .inHand (taken ▸ carries)
    · exact absurd (bare.symm.trans carries) nofun
    · cases pending
  | inHand carries => exact move.handed pending carries
  | inFlight write held carries =>
    refine .inFlight write ?_ carries
    cases move with
    | send | sendControl | resend => exact mem_append_left _ held
    | complete side hand ticket finished ok found =>
      rw [finish_eq]
      refine (mem_of_mem_of_find found held).resolve_left ?_
      rintro rfl
      exact (mem_pending_finish pending).2 carries
    | discard | settle | early =>
      rw [finish_eq]
      exact held
    | _ => exact held
  | early held =>
    refine .early ?_
    cases move with
    | detach => exact mem_append_left _ held
    | early side hand finished posted =>
      refine (mem_erase_of_ne ?_).mpr held
      rintro rfl
      exact (mem_pending_finish pending).2 rfl
    | discard | settle | complete =>
      rw [finish_eq]
      exact held
    | _ => exact held

theorem allAttached (move : TxMove completionRules before after) (scheduler : before.1.tx.Inv)
    (all : AllAttached before) : AllAttached after :=
  fun id pending => (move.pending pending).elim
    (fun earlier => move.attached scheduler pending (all id earlier)) .inHand

end TxMove

namespace Session

variable {fired : List (CompletionId × Bool)}

theorem mem_fire {id other : CompletionId} {ok : Bool} :
    other ∈ (fire id ok fired).map fst ↔ other ∈ fired.map fst ∨ other = id := by
  unfold fire
  split_ifs with done
  · constructor
    · exact .inl
    · rintro (before | rfl)
      · exact before
      · exact done
  · simp

theorem nodup_fire (id : CompletionId) (ok : Bool)
    (once : (fired.map fst).Nodup) : ((fire id ok fired).map fst).Nodup := by
  unfold fire
  split_ifs with done
  · exact once
  · rw [map_append, map_singleton]
    exact once.append (nodup_singleton id) (by simpa using done)

theorem fire_all (ids : List CompletionId) (once : (fired.map fst).Nodup) :
    ((ids.foldl (fun fired id => fire id false fired) fired).map fst).Nodup ∧ ∀ other, other ∈
      ids ∨ other ∈ fired.map fst → other ∈
      (ids.foldl (fun fired id => fire id false fired) fired).map fst := by
  induction ids generalizing fired with
  | nil => exact ⟨once, fun other member => member.resolve_left not_mem_nil⟩
  | cons id rest ih =>
    obtain ⟨later, members⟩ := ih (nodup_fire id false once)
    refine ⟨later, fun other member => members other ?_⟩
    rcases member with listed | before
    · rcases mem_cons.mp listed with rfl | listed
      · exact .inr (mem_fire.mpr (.inr rfl))
      · exact .inl listed
    · exact .inr (mem_fire.mpr (.inl before))

end Session

/-- No completion was fired twice, and every one handed out is pending or fired. -/
structure Ledger (side : SendSide) : Prop where
  once : (side.firedTxCompletions.map fst).Nodup
  accounted : ∀ id < side.nextTxCompletion,
    id ∈ side.pendingTxCompletions ∨ id ∈ side.firedTxCompletions.map fst

namespace Ledger

variable {side : SendSide}

theorem congr {after : SendSide} (ledger : Ledger side)
    (fired : after.firedTxCompletions = side.firedTxCompletions)
    (pending : after.pendingTxCompletions = side.pendingTxCompletions)
    (next : after.nextTxCompletion = side.nextTxCompletion) : Ledger after := by
  refine ⟨fired ▸ ledger.once, fun id issued => ?_⟩
  rw [pending, fired]
  exact ledger.accounted id (next ▸ issued)

theorem finish (ledger : Ledger side) (completion : Option CompletionId) (ok : Bool) :
    Ledger (side.finish completion ok) := by
  cases completion with
  | none => exact ledger
  | some finished =>
    refine ⟨Session.nodup_fire finished ok ledger.once, fun id issued => ?_⟩
    by_cases same : id = finished
    · exact .inr (Session.mem_fire.mpr (.inr same))
    · rcases ledger.accounted id issued with pending | fired
      · exact .inl (mem_filter.mpr ⟨pending, by simpa using same⟩)
      · exact .inr (Session.mem_fire.mpr (.inl fired))

theorem track (ledger : Ledger side) : Ledger side.track := by
  refine ⟨ledger.once, fun id issued => ?_⟩
  rcases Nat.lt_succ_iff_lt_or_eq.mp issued with earlier | rfl
  · exact (ledger.accounted id earlier).imp_left (mem_append_left _)
  · exact .inl (mem_append_right _ mem_cons_self)

theorem refuseTracking (ledger : Ledger side) : Ledger side.refuseTracking := by
  refine ⟨Session.nodup_fire _ false ledger.once, fun id issued => ?_⟩
  rcases Nat.lt_succ_iff_lt_or_eq.mp issued with earlier | rfl
  · exact (ledger.accounted id earlier).imp_right fun fired =>
      Session.mem_fire.mpr (.inl fired)
  · exact .inr (Session.mem_fire.mpr (.inr rfl))

theorem requestClose (ledger : Ledger side) : Ledger side.requestClose := by
  obtain ⟨once, members⟩ := Session.fire_all side.pendingTxCompletions ledger.once
  exact ⟨once, fun id issued => .inr (members id (ledger.accounted id issued))⟩

end Ledger

theorem TxMove.ledger {rules : TxRules} {before after : SendSide × Hand}
    (move : TxMove rules before after) (ledger : Ledger before.1) : Ledger after.1 := by
  cases move with
  | requestClose side hand => exact ledger.requestClose
  | close side hand => exact ledger.requestClose.congr rfl rfl rfl
  | track side packet | trackControl side packet => exact ledger.track
  | refuseTracking side hand => exact ledger.refuseTracking
  | discard side packet | settle side packet => exact ledger.finish _ _
  | complete side hand ticket write ok found =>
    have kept : Ledger
        { side with writes := side.writes.eraseP fun write => write.ticket = ticket } :=
      ledger.congr rfl rfl rfl
    exact kept.finish write.completion ok
  | early side hand id posted =>
    have kept : Ledger { side with earlyAcks := side.earlyAcks.erase id } :=
      ledger.congr rfl rfl rfl
    exact kept.finish (some id) true
  | _ => exact ledger.congr rfl rfl rfl

structure Answered (state : SendSide × Hand) : Prop where
  scheduler : state.1.tx.Inv
  attached : AllAttached state
  ledger : Ledger state.1

namespace Session

def orphansCompletion (s : Session) (op : Op) : Bool :=
  (s.endedFlows op).any (fun cid =>
      (s.tx.queueOf cid).any fun packet => packet.completion.isSome) ||
    (s.evicted op).any fun packet => packet.completion.isSome

variable {s : Session} {op : Op}

theorem permits_completions (guard : s.orphansCompletion op = false) :
    Permits completionRules s op := by
  rw [orphansCompletion, Bool.or_eq_false_iff] at guard
  refine ⟨fun _ _ => trivial, fun _ => trivial, ?_, ?_, fun _ => trivial, fun _ _ => trivial⟩
  · intro cid ended packet queued
    have kept := any_eq_false.mp guard.1 cid ended
    have bare : packet.completion = none := by
      simpa using any_eq_false.mp (Bool.eq_false_iff.mpr kept) packet queued
    exact bare
  · intro victim found
    have bare : victim.completion = none := by simpa [found] using guard.2
    exact bare

theorem answered_step (guard : s.orphansCompletion op = false)
    (answered : Answered (s.sendSide, .empty)) : Answered ((s.step op).sendSide, .empty) :=
  (txMoves_step (permits_completions guard)).keeps
    (fun _ _ move holds => ⟨move.inv holds.scheduler, move.allAttached holds.scheduler
      holds.attached, move.ledger holds.ledger⟩) answered

theorem answered_initial (config : Config) (mode : MuxMode) (txSeq rxAck : SeqNumber) :
    Answered ((initial config mode txSeq rxAck).sendSide, .empty) where
  scheduler := TxScheduler.inv_empty
  attached _ member := nomatch member
  ledger := ⟨nodup_nil, fun _ issued => absurd issued (Nat.not_lt_zero _)⟩

/-- Along a run in which no frame is thrown away with its completion, every
pending completion is attached to a queued frame, a carrier write in flight or a
posted early acknowledgment; no callback runs twice, and every completion handed
out is pending or was called back. -/
theorem completions_attached (config : Config) (mode : MuxMode) (txSeq rxAck : SeqNumber)
    (ops : List Op) (guarded : Guarded step (fun s op => s.orphansCompletion op = false)
      (initial config mode txSeq rxAck) ops) :
    let reached := run step (initial config mode txSeq rxAck) ops
    (∀ id ∈ reached.pendingTxCompletions,
        (∃ cid, ∃ packet ∈ reached.tx.queueOf cid, packet.completion = some id) ∨
          (∃ packet ∈ reached.txCtrlQueue, packet.completion = some id) ∨
          (∃ write ∈ reached.writes, write.completion = some id) ∨ id ∈ reached.earlyAcks) ∧
      (reached.firedTxCompletions.map fst).Nodup ∧
      ∀ id < reached.nextTxCompletion, id ∈ reached.pendingTxCompletions ∨
        id ∈ reached.firedTxCompletions.map fst := by
  intro reached
  have answered := guarded_invariant
    (fun (s : Session) op allowed (holds : Answered (s.sendSide, .empty)) =>
      answered_step allowed holds)
    guarded (answered_initial config mode txSeq rxAck)
  refine ⟨fun id pending => ?_, answered.ledger.once, answered.ledger.accounted⟩
  cases answered.attached id pending with
  | queued packet held carries =>
    obtain ⟨cid, member⟩ := held
    exact .inl ⟨cid, packet, member, carries⟩
  | control packet held carries => exact .inr (.inl ⟨packet, held, carries⟩)
  | inHand carries => cases carries
  | inFlight write held carries => exact .inr (.inr (.inl ⟨write, held, carries⟩))
  | early held => exact .inr (.inr (.inr held))

/-- A push with a callback is queued while another one is in flight; the write
completes, and an accelerated push is acknowledged early. -/
theorem completions_attached_in_flight :
    let reached := run step
      (initial { Config.defaults .flowV2 with acceleration := true } .flow 0 0)
      [.register 1, .carrier 1 .attach, .carrier 1 (.handshake 1),
        .post (Frame.push 1 0 [6]) false true ⟨true, true⟩ 5, .sendData true,
        .post (Frame.push 1 0 [7]) false true ⟨true, true⟩ 6, .completeWrite 0 true,
        .post (Frame.push 1 0 [8]) true true ⟨true, true⟩ 7, .releaseConnection 2]
    (∀ id ∈ reached.pendingTxCompletions,
        (∃ cid, ∃ packet ∈ reached.tx.queueOf cid, packet.completion = some id) ∨
          (∃ packet ∈ reached.txCtrlQueue, packet.completion = some id) ∨
          (∃ write ∈ reached.writes, write.completion = some id) ∨ id ∈ reached.earlyAcks) ∧
      (reached.firedTxCompletions.map fst).Nodup ∧
      ∀ id < reached.nextTxCompletion, id ∈ reached.pendingTxCompletions ∨
        id ∈ reached.firedTxCompletions.map fst :=
  completions_attached _ _ _ _ _ (by decide +kernel)

/-- Releasing a connection with a queued push leaves its completion pending in an
open session that holds no frame, no write and no early acknowledgment. -/
theorem completion_orphaned_by_release :
    let reached := run step (initial (Config.defaults .flowV2) .flow 0 0)
      [.register 1, .post (Frame.push 1 0 [6]) false true ⟨true, true⟩ 5, .releaseConnection 1]
    reached.closeRequested = false ∧ reached.pendingTxCompletions = [0] ∧
      reached.firedTxCompletions = [] ∧ reached.tx.txFlows.keys = [] ∧
      reached.txCtrlQueue = [] ∧ reached.writes = [] ∧ reached.earlyAcks = [] := by
  decide +kernel

end Session

end OpenPpp2.Mux
