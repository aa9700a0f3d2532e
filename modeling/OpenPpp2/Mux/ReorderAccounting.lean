import OpenPpp2.Mux.Contexts

/-!
# The reorder byte counter

`session_reorder_bytes_` is kept by hand in every path that inserts, drains or drops a held frame.
-/

namespace OpenPpp2.Mux

open Lib.AssocTotal Lib.CircularOrder Lib.OrderedMap Lib.Run List

def FlowRx.bufferedBytes (fx : FlowRx) : Nat := fx.flowReorder.bufferedBytes

open FlowRx

def queueBytes (queue : List (SeqNumber × Frame)) : Nat :=
  (queue.map fun entry => entry.2.length).sum

/-- The counter agrees with the storage; a mode leaves the other's storage empty. -/
structure Accounted (side : RecvSide) : Prop where
  bytes : side.sessionReorderBytes = total FlowRx.bufferedBytes side.flows + queueBytes side.rxQueue
  queueless : side.config.isFlowV2 → side.rxQueue = []
  flowless : side.config.isFlowV2 = false → side.flows = ∅

variable {cid : ConnectionId}

variable {side : RecvSide}

theorem Found.weightAt {fx : FlowRx}
    (found : Found side cid fx) : weightAt FlowRx.bufferedBytes cid side.flows = fx.bufferedBytes :=
    by
  rcases found.origin with stored | ⟨missing, rfl⟩
  · exact weightAt_of_lookup stored
  · rw [weightAt_of_absent missing]
    rfl

theorem queueBytes_replay (ack : SeqNumber) (queue : List (SeqNumber × Frame)) :
    queueBytes queue = ((Session.replay ack queue).1.map Frame.length).sum +
      queueBytes (Session.replay ack queue).2 := by
  induction queue generalizing ack with
  | nil => rfl
  | cons entry rest ih =>
    unfold Session.replay
    split_ifs with next
    · have later := ih (ack + 1)
      simp only [queueBytes, map_cons, sum_cons] at later ⊢
      omega
    · simp

namespace Accounted

variable {side : RecvSide}

variable {after : RecvSide} {fx : FlowRx}

section

variable (holds : Accounted side)
include holds

theorem congr (config : after.config = side.config)
    (flows : after.flows = side.flows) (queue : after.rxQueue = side.rxQueue)
    (counted : after.sessionReorderBytes = side.sessionReorderBytes) : Accounted after where
  bytes := by rw [counted, flows, queue, holds.bytes]
  queueless v2 := queue.trans (holds.queueless (config ▸ v2))
  flowless compat := flows.trans (holds.flowless (config ▸ compat))

theorem exchange (cid : ConnectionId)
    (v2 : side.config.isFlowV2) (config : after.config = side.config)
    (flows : after.flows = side.flows.insert cid fx) (queue : after.rxQueue = side.rxQueue)
    (counted : after.sessionReorderBytes + weightAt FlowRx.bufferedBytes cid side.flows =
      side.sessionReorderBytes + fx.bufferedBytes) : Accounted after where
  bytes := by
    have split := total_eq_weightAt_add_erase bufferedBytes cid side.flows
    have bytes := holds.bytes
    rw [flows, queue, total_insert]
    omega
  queueless _ := queue.trans (holds.queueless v2)
  flowless compat := by simp [config, v2] at compat

theorem drop (cid : ConnectionId)
    (config : after.config = side.config) (flows : after.flows = side.flows.erase cid)
    (queue : after.rxQueue = side.rxQueue)
    (counted : after.sessionReorderBytes + weightAt FlowRx.bufferedBytes cid side.flows =
      side.sessionReorderBytes) : Accounted after where
  bytes := by
    have split := total_eq_weightAt_add_erase bufferedBytes cid side.flows
    have bytes := holds.bytes
    rw [flows, queue]
    omega
  queueless v2 := queue.trans (holds.queueless (config ▸ v2))
  flowless compat := by
    rw [flows, holds.flowless (config ▸ compat)]
    rfl

theorem failFlow (cid : ConnectionId) : Accounted (side.failFlow cid) := by
  refine holds.drop cid rfl rfl rfl ?_
  have within := weightAt_le_total bufferedBytes cid side.flows
  have bytes := holds.bytes
  change side.sessionReorderBytes - weightAt bufferedBytes cid side.flows + _ = _
  omega

theorem keep (v2 : side.config.isFlowV2)
    (found : Found side cid fx) : Accounted (side.keep cid fx) :=
  holds.exchange cid v2 rfl rfl rfl (by rw [found.weightAt]; rfl)

theorem deliver {after : FlowRx} {frames credited : List Frame} (v2 : side.config.isFlowV2)
    (found : Found side cid fx) (replayed : FlowRx.Replayed fx frames credited after) :
    Accounted (side.deliver cid frames credited after) := by
  refine holds.exchange cid v2 rfl rfl rfl ?_
  have within := weightAt_le_total bufferedBytes cid side.flows
  have bytes := holds.bytes
  have split : fx.bufferedBytes = _ + after.bufferedBytes := replayed.bytes
  rw [found.weightAt] at within ⊢
  change side.sessionReorderBytes - (credited.map Frame.length).sum + _ = _
  omega

theorem hold {after : FlowRx} {bytes : Nat}
    (v2 : side.config.isFlowV2) (stored : side.flows.lookup cid = some fx)
    (grown : after.bufferedBytes = fx.bufferedBytes + bytes) :
    Accounted (side.hold cid after bytes) := by
  refine holds.exchange cid v2 rfl rfl rfl ?_
  rw [weightAt_of_lookup stored, grown]
  change side.sessionReorderBytes + bytes + _ = _
  omega

theorem dispatch (frame : Frame)
    (compat : side.config.isFlowV2 = false) : Accounted (side.dispatch frame) where
  bytes := by
    have split := queueBytes_replay (side.rxAck + 1) side.rxQueue
    have bytes := holds.bytes
    simp only [RecvSide.dispatch]
    omega
  queueless v2 := by
    have same : side.config.isFlowV2 := v2
    simp [compat] at same
  flowless _ := holds.flowless compat

end

theorem foldl_enter (entered : List ConnectionId) (holds : Accounted side) :
    Accounted (entered.foldl RecvSide.enter side) := by
  induction entered generalizing side with
  | nil => exact holds
  | cons cid rest ih => exact ih (holds.congr rfl rfl rfl rfl)

end Accounted

def LiveAccounted (side : RecvSide) : Prop := side.disposed = false → Accounted side

variable {after : RecvSide} {s : Session} {frame : Frame}

theorem LiveAccounted.moves (holds : LiveAccounted side)
    (made : RecvMoves side after) : LiveAccounted after :=
  made.keeps (fun _ cid _ kept live => (kept live).failFlow cid)
    (fun _ _ kept live => (kept live).congr rfl rfl rfl rfl)
    (fun _ _ live => by simp [RecvSide.finalize] at live) holds

theorem DataEffect.accounted (effect : DataEffect s frame after) (v2 : s.isFlowV2)
    (holds : Accounted s.recvSide) : LiveAccounted after := by
  have settled : Accounted (s.recvSide.settle frame) := holds.congr rfl rfl rfl rfl
  have kept := fun {fx} (found : Found (s.recvSide.settle frame) frame.connectionId fx) =>
    settled.keep v2 found
  cases effect with
  | unknown => exact fun _ => settled
  | kept found moved => exact .moves (fun _ => kept found) moved
  | @delivered fx later frames credited _ verdict found replayed left =>
    intro _
    have delivered := settled.deliver v2 found replayed
    rcases left with rfl | ⟨drained, rfl⟩
    · exact delivered
    · refine delivered.drop frame.connectionId rfl rfl rfl ?_
      have stored : ((s.recvSide.settle frame).deliver frame.connectionId frames credited
          later).flows.lookup frame.connectionId = some later := AList.lookup_insert _
      rw [weightAt_of_lookup stored, bufferedBytes, ReorderBuffer.bufferedBytes_of_isEmpty drained]
      rfl
  | stored found moved spared inserted primed next =>
    intro live
    have middle := LiveAccounted.moves (fun _ => kept found) moved live
    exact middle.hold (moved.config ▸ v2) spared (ReorderBuffer.tryInsert_eq_some inserted).2.2

theorem CompatArrival.accounted (effect : CompatArrival side frame after)
    (compat : side.config.isFlowV2 = false) (holds : Accounted side) : LiveAccounted after := by
  cases effect with
  | settled => exact fun _ => holds
  | closed after moves =>
    have live : LiveAccounted side := fun _ => holds
    exact live.moves moves
  | dispatched sequenced inOrder entered =>
    exact fun _ => Accounted.foldl_enter entered (holds.dispatch frame compat)
  | buffered sequenced future queue placed =>
    intro _
    refine ⟨?_, fun v2 => ?_, fun _ => holds.flowless compat⟩
    · have sum := sum_emplace before Frame.length frame.seq frame side.rxQueue
      rw [placed] at sum
      have added : queueBytes queue = queueBytes side.rxQueue + frame.length := sum
      have bytes := holds.bytes
      simp only
      omega
    · have same := v2
      simp [compat] at same

def Session.releasesBuffered (s : Session) : Op → Bool
  | .releaseConnection cid => s.hasConnection cid && s.bufferedBytesOf cid ≠ 0
  | _ => false

theorem RecvStep.accounted {op : Op} (step : RecvStep s op after)
    (guard : s.releasesBuffered op = false) (sound : SoundContexts s.recvSide)
    (holds : LiveAccounted s.recvSide) : LiveAccounted after := by
  have settled : ∀ frame, LiveAccounted (s.recvSide.settle frame) := fun frame live =>
    (holds live).congr rfl rfl rfl rfl
  cases step with
  | moves op made => exact holds.moves made
  | settled frame link now quiet made => exact (settled frame).moves made
  | register | syn | note => exact fun live => (holds live).congr rfl rfl rfl rfl
  | leave cid owned =>
    intro live
    refine (holds live).drop cid rfl rfl rfl ?_
    have nothing : s.bufferedBytesOf cid = 0 := by
      simpa [Session.releasesBuffered, owned] using guard
    change s.sessionReorderBytes + s.bufferedBytesOf cid = s.sessionReorderBytes
    rw [nothing, Nat.add_zero]
  | data frame link now v2 alive isData effect =>
    exact (effect.summary v2 sound).accounted v2 (holds alive)
  | compat frame link now compat alive effect =>
    exact effect.accounted compat (settled frame alive)

theorem FlowRx.Stamped.bufferedBytes_eq {fx : FlowRx} (stamped : fx.Stamped) : fx.bufferedBytes =
      ((fx.flowReorder.packets.entries.map fun packet => packet.2.value).map Frame.length).sum := by
  rw [bufferedBytes, fx.flowReorder.accounted, total, map_map]
  congr 1
  refine map_congr_left fun packet member => ?_
  exact (stamped packet.1 packet.2 (AList.mem_lookup_iff.mpr member)).2

namespace Session

def heldFrames (s : Session) : List Frame :=
  if s.isFlowV2 then
    s.flows.entries.flatMap fun flow =>
      flow.2.flowReorder.packets.entries.map fun packet => packet.2.value
  else s.rxQueue.map Prod.snd

variable {s : Session}

theorem heldFrames_length (sound : SoundContexts s.recvSide) : (s.heldFrames.map Frame.length).sum =
      if s.isFlowV2 then total FlowRx.bufferedBytes s.flows else queueBytes s.rxQueue := by
  unfold heldFrames
  split_ifs
  · rw [map_flatMap, flatMap_def, sum_flatten, map_map, total]
    congr 1
    refine map_congr_left fun flow member => ?_
    exact (sound flow.1 flow.2 (AList.mem_lookup_iff.mpr member)).2.2.bufferedBytes_eq.symm
  · rw [map_map]
    rfl

theorem accounted_initial (config : Config) (mode : MuxMode) (txSeq rxAck : SeqNumber) :
    Accounted (initial config mode txSeq rxAck).recvSide :=
  ⟨rfl, fun _ => rfl, fun _ => rfl⟩

theorem bytes_of_accounted (holds : Accounted s.recvSide) : s.sessionReorderBytes =
      if s.isFlowV2 then total FlowRx.bufferedBytes s.flows else queueBytes s.rxQueue := by
  have bytes : s.sessionReorderBytes = total bufferedBytes s.flows + queueBytes s.rxQueue :=
    holds.bytes
  split_ifs with v2
  · have queue : s.rxQueue = [] := holds.queueless v2
    rw [bytes, queue]
    rfl
  · have flows : s.flows = ∅ := holds.flowless (Bool.eq_false_iff.mpr v2)
    rw [bytes, flows, total_empty, Nat.zero_add]

/-- Along a run in which no socket closes over a buffer that holds frames, the
counter of a live session is the total length of the frames in reorder storage:
the buffered bytes over all contexts under flow v2, the queued lengths under
compat. -/
theorem reorder_bytes_accounted (config : Config) (mode : MuxMode) (txSeq rxAck : SeqNumber)
    (ops : List Op) (guarded : Guarded step (fun s op => s.releasesBuffered op = false)
      (initial config mode txSeq rxAck) ops)
    (live : (run step (initial config mode txSeq rxAck) ops).disposed = false) :
    (run step (initial config mode txSeq rxAck) ops).sessionReorderBytes =
        ((run step (initial config mode txSeq rxAck) ops).heldFrames.map Frame.length).sum ∧
      (run step (initial config mode txSeq rxAck) ops).sessionReorderBytes =
        if (run step (initial config mode txSeq rxAck) ops).isFlowV2 then
          total FlowRx.bufferedBytes (run step (initial config mode txSeq rxAck) ops).flows
        else queueBytes (run step (initial config mode txSeq rxAck) ops).rxQueue := by
  have invariant := guarded_invariant
    (fun (s : Session) op allowed (holds : SoundContexts s.recvSide ∧ LiveAccounted s.recvSide) =>
      And.intro ((s.recvStep op).soundContexts holds.1)
        ((s.recvStep op).accounted allowed holds.1 holds.2))
    guarded ⟨soundContexts_initial config mode txSeq rxAck, fun _ => accounted_initial ..⟩
  rw [heldFrames_length invariant.1]
  exact ⟨bytes_of_accounted (invariant.2 live), bytes_of_accounted (invariant.2 live)⟩

/-- Two frames wait behind a gap, one of them is drained, and the socket closes
once nothing is held. -/
theorem reorder_bytes_accounted_drained : (run step (initial (Config.defaults .flowV2) .flow 0 0)
        [.register 1, .arrive (Frame.push 1 3 [8]) none 5, .arrive (Frame.push 1 2 [7]) none 6,
          .arrive (Frame.push 1 1 [6]) none 7, .releaseConnection 1,
          .register 2, .arrive (Frame.push 2 2 [5]) none 8]).sessionReorderBytes =
        ((run step (initial (Config.defaults .flowV2) .flow 0 0)
          [.register 1, .arrive (Frame.push 1 3 [8]) none 5, .arrive (Frame.push 1 2 [7]) none 6,
            .arrive (Frame.push 1 1 [6]) none 7, .releaseConnection 1,
            .register 2, .arrive (Frame.push 2 2 [5]) none 8]).heldFrames.map Frame.length).sum :=
  (reorder_bytes_accounted _ _ _ _ _ (by decide +kernel) (by decide +kernel)).1

/-- Closing a socket over one buffered frame of ten bytes leaves the counter at ten
with no frame held. -/
theorem reorder_bytes_leak_on_release : ((run step (initial (Config.defaults .flowV2) .flow 0 0)
        [.register 1, .arrive (Frame.push 1 2 [7]) none 5, .releaseConnection 1]).disposed = false ∧
      (run step (initial (Config.defaults .flowV2) .flow 0 0)
        [.register 1, .arrive (Frame.push 1 2 [7]) none 5,
          .releaseConnection 1]).sessionReorderBytes = 10) ∧
      (run step (initial (Config.defaults .flowV2) .flow 0 0)
        [.register 1, .arrive (Frame.push 1 2 [7]) none 5,
          .releaseConnection 1]).heldFrames = [] := by
  decide +kernel

end Session

end OpenPpp2.Mux
