import OpenPpp2.Mux.Frame
import Mathlib.Data.List.Count
import OpenPpp2.Lib.AssocTotal

/-!
# The transmit scheduler

Byte deficit round-robin over per-connection queues.
-/

namespace OpenPpp2.Mux

abbrev CompletionId := Nat

/-- `tx_packet`: a frame, its optional completion, and whether its global
sequence number is still to be assigned. -/
structure TxPacket where
  frame : Frame
  completion : Option CompletionId
  assignSeq : Bool
  deriving DecidableEq, Repr

namespace TxPacket

def length (packet : TxPacket) : Nat := packet.frame.length

def connectionId (packet : TxPacket) : ConnectionId := packet.frame.connectionId

end TxPacket

/-- `flow_tx_context` -/
structure FlowTx where
  queue : List TxPacket
  bytes : Nat
  deficit : Int
  quantumDue : Bool
  active : Bool
  visitCount : Nat
  rtxParked : Bool
  deriving DecidableEq, Repr

def FlowTx.fresh : FlowTx :=
  { queue := []
    bytes := 0
    deficit := 0
    quantumDue := true
    active := false
    visitCount := 0
    rtxParked := false }

def FlowTx.credited (fx : FlowTx) : FlowTx :=
  if fx.quantumDue then { fx with deficit := fx.deficit + txFlowQuantum, quantumDue := false }
  else fx

structure TxScheduler where
  txFlows : AList fun _ : ConnectionId => FlowTx
  activeTxFlows : List ConnectionId
  txRtxParkedFlows : List ConnectionId
  txDataFrames : Nat
  txDataBytesTotal : Nat

namespace TxScheduler

/-- `clear_flow_tx`, also the initial value. -/
def empty : TxScheduler :=
  { txFlows := ∅
    activeTxFlows := []
    txRtxParkedFlows := []
    txDataFrames := 0
    txDataBytesTotal := 0 }

/-- `tx_flows_[cid]`, a fresh context when the key is absent. -/
def flow (tx : TxScheduler) (cid : ConnectionId) : FlowTx :=
  (tx.txFlows.lookup cid).getD FlowTx.fresh

def queueOf (tx : TxScheduler) (cid : ConnectionId) : List TxPacket := (tx.flow cid).queue

def setFlow (tx : TxScheduler) (cid : ConnectionId) (fx : FlowTx) : TxScheduler :=
  { tx with txFlows := tx.txFlows.insert cid fx }

def flowParked (tx : TxScheduler) (cid : ConnectionId) : Bool := (tx.flow cid).rtxParked

/-- The quota test of `enqueue_flow_tx`. -/
def overflows (tx : TxScheduler) (packet : TxPacket) : Bool :=
  (tx.flow packet.connectionId).queue.length ≥ txFlowMaxFrames ||
    (tx.flow packet.connectionId).bytes + packet.length > txFlowMaxBytes

/-- `enqueue_flow_tx` past the quota test. -/
def enqueue (tx : TxScheduler) (packet : TxPacket) : TxScheduler :=
  let cid := packet.connectionId
  let fx := tx.flow cid
  let queued := { fx with
    queue := fx.queue ++ [packet]
    bytes := fx.bytes + packet.length }
  let counted := { tx with
    txDataFrames := tx.txDataFrames + 1
    txDataBytesTotal := tx.txDataBytesTotal + packet.length }
  if fx.active then counted.setFlow cid queued
  else
    { counted.setFlow cid { queued with active := true, deficit := 0, quantumDue := true } with
      activeTxFlows := tx.activeTxFlows ++ [cid] }

def drrRequeueFront (tx : TxScheduler) (packet : TxPacket) : TxScheduler :=
  let cid := packet.connectionId
  let fx := tx.flow cid
  let queued := { fx with
    queue := packet :: fx.queue
    bytes := fx.bytes + packet.length
    deficit := fx.deficit + packet.length
    quantumDue := false
    visitCount := 0 }
  let counted := { tx with
    txDataFrames := tx.txDataFrames + 1
    txDataBytesTotal := tx.txDataBytesTotal + packet.length }
  if fx.active then counted.setFlow cid queued
  else
    { counted.setFlow cid { queued with active := true } with
      activeTxFlows := cid :: tx.activeTxFlows }

def drrParkFront (tx : TxScheduler) (packet : TxPacket) : TxScheduler :=
  let cid := packet.connectionId
  let requeued := tx.drrRequeueFront packet
  let fx := requeued.flow cid
  let removed := { requeued with activeTxFlows := requeued.activeTxFlows.filter (· ≠ cid) }
  if fx.rtxParked then removed.setFlow cid { fx with active := true }
  else
    { removed.setFlow cid { fx with active := true, rtxParked := true } with
      txRtxParkedFlows := requeued.txRtxParkedFlows ++ [cid] }

/-- The loop body of `drr_unpark_all`. -/
def unparkOne (tx : TxScheduler) (cid : ConnectionId) : TxScheduler :=
  match tx.txFlows.lookup cid with
  | none => tx
  | some fx =>
    if !fx.rtxParked then tx
    else if fx.queue.isEmpty then
      tx.setFlow cid { fx with
        rtxParked := false
        active := false
        deficit := 0
        quantumDue := true }
    else
      { tx.setFlow cid { fx with rtxParked := false } with
        activeTxFlows := tx.activeTxFlows ++ [cid] }

/-- `drr_unpark_all`; false when nothing was parked. -/
def drrUnparkAll (tx : TxScheduler) : TxScheduler × Bool :=
  if tx.txRtxParkedFlows.isEmpty then (tx, false)
  else ({ tx.txRtxParkedFlows.foldl unparkOne tx with txRtxParkedFlows := [] }, true)

/-- Take the head frame of a flow that may send it, and put the flow back where
the rest of its turn belongs. -/
def serve (tx : TxScheduler) (cid : ConnectionId) (fx : FlowTx) (head : TxPacket)
    (tail : List TxPacket) : TxScheduler :=
  let served := { fx with
    queue := tail
    visitCount := fx.visitCount + 1
    bytes := fx.bytes - head.length
    deficit := max 0 (fx.deficit - head.length) }
  let counted := { tx with
    txDataFrames := tx.txDataFrames - 1
    txDataBytesTotal := tx.txDataBytesTotal - head.length }
  match tail with
  | [] =>
    counted.setFlow cid { served with
      active := false
      deficit := 0
      quantumDue := true
      visitCount := 0 }
  | next :: _ =>
    if next.length = 0 ∨ (next.length : Int) ≤ served.deficit then
      { counted.setFlow cid served with activeTxFlows := cid :: tx.activeTxFlows }
    else
      { counted.setFlow cid { served with quantumDue := true, visitCount := 0 } with
        activeTxFlows := tx.activeTxFlows ++ [cid] }

/-- One iteration of the `drr_pop_next` scan, with `cid` just taken off the
front of the ring. -/
def drrVisit (tx : TxScheduler) (cid : ConnectionId) : TxScheduler × Option TxPacket :=
  match tx.txFlows.lookup cid with
  | none => (tx, none)
  | some fx =>
    match fx.queue with
    | [] =>
      if fx.bytes = 0 then ({ tx with txFlows := tx.txFlows.erase cid }, none)
      else (tx.setFlow cid { fx with active := false, deficit := 0, quantumDue := true }, none)
    | head :: tail =>
      -- the visit cap and a head beyond the deficit both end the turn the same way
      if fx.credited.visitCount ≥ txFlowMaxVisit ∨
          (0 < head.length ∧ fx.credited.deficit < head.length) then
        ({ tx.setFlow cid { fx.credited with visitCount := 0, quantumDue := true } with
            activeTxFlows := tx.activeTxFlows ++ [cid] }, none)
      else (tx.serve cid fx.credited head tail, some head)

/-- `ceil(max_frame / quantum) + 1` -/
def drrMaxRounds : Nat := (65535 + txFlowQuantum - 1) / txFlowQuantum + 1

def drrScan : Nat → TxScheduler → TxScheduler × Option TxPacket
  | 0, tx => (tx, none)
  | budget + 1, tx =>
    match tx.activeTxFlows with
    | [] => (tx, none)
    | cid :: rest =>
      match drrVisit { tx with activeTxFlows := rest } cid with
      | (after, some packet) => (after, some packet)
      | (after, none) => drrScan budget after

def drrPopNext (tx : TxScheduler) : TxScheduler × Option TxPacket :=
  drrScan (tx.activeTxFlows.length * drrMaxRounds) tx

/-- The queue drop shared by `fail_flow` and `release_connection`. Only the
former also takes the connection off the parked list. -/
def dropFlow (tx : TxScheduler) (cid : ConnectionId) (forgetParked : Bool) : TxScheduler :=
  match tx.txFlows.lookup cid with
  | none => tx
  | some fx =>
    { txFlows := tx.txFlows.erase cid
      activeTxFlows :=
        if fx.active then tx.activeTxFlows.filter (· ≠ cid) else tx.activeTxFlows
      txRtxParkedFlows :=
        if forgetParked && fx.rtxParked then tx.txRtxParkedFlows.filter (· ≠ cid)
        else tx.txRtxParkedFlows
      txDataFrames := tx.txDataFrames - fx.queue.length
      txDataBytesTotal := tx.txDataBytesTotal - fx.bytes }

end TxScheduler

open Lib.AssocTotal List FlowTx

namespace TxScheduler

@[simp] theorem flow_setFlow_self (tx : TxScheduler) (cid : ConnectionId) (fx : FlowTx) :
    (tx.setFlow cid fx).flow cid = fx := by
  simp [flow, setFlow]

/-- Where one connection stands: idle and off the ring, or with queued frames
either on the ring exactly once, or parked, off the ring and listed. -/
def Placed (tx : TxScheduler) (cid : ConnectionId) : Prop :=
  let fx := tx.flow cid
  (fx.queue = [] ∧ fx.active = false ∧ fx.rtxParked = false ∧
      tx.activeTxFlows.count cid = 0) ∨
    (fx.queue ≠ [] ∧ fx.active ∧ fx.rtxParked = false ∧ tx.activeTxFlows.count cid = 1) ∨
    (fx.queue ≠ [] ∧ fx.active ∧ fx.rtxParked ∧
      tx.activeTxFlows.count cid = 0 ∧ cid ∈ tx.txRtxParkedFlows)

structure FlowSound (cid : ConnectionId) (fx : FlowTx) : Prop where
  bytes_eq : fx.bytes = (fx.queue.map TxPacket.length).sum
  own : ∀ packet ∈ fx.queue, packet.connectionId = cid

structure Inv (tx : TxScheduler) : Prop where
  frames_eq : tx.txDataFrames = total (fun fx => fx.queue.length) tx.txFlows
  bytes_eq : tx.txDataBytesTotal = total FlowTx.bytes tx.txFlows
  sound : ∀ cid, FlowSound cid (tx.flow cid)
  placed : ∀ cid, tx.Placed cid

theorem inv_empty : Inv empty where
  frames_eq := rfl
  bytes_eq := rfl
  sound cid := ⟨rfl, by simp [flow, empty, fresh]⟩
  placed cid := Or.inl ⟨rfl, rfl, rfl, rfl⟩

theorem weightAt_flow {weight : FlowTx → Nat} (unused : weight fresh = 0) (tx : TxScheduler)
    (cid : ConnectionId) : weightAt weight cid tx.txFlows = weight (tx.flow cid) := by
  unfold weightAt flow
  cases tx.txFlows.lookup cid with
  | none => simp [unused]
  | some fx => simp

variable {tx after : TxScheduler} {rest : List ConnectionId}

variable {cid other : ConnectionId} {fx : FlowTx}

theorem flow_of_insert (flows : after.txFlows = tx.txFlows.insert cid fx) (other : ConnectionId) :
    after.flow other = if other = cid then fx else tx.flow other := by
  unfold flow
  rw [flows]
  split_ifs with same
  · subst same
    simp
  · rw [AList.lookup_insert_ne same]

theorem queueOf_of_insert (flows : after.txFlows = tx.txFlows.insert cid fx)
    (other : ConnectionId) :
    after.queueOf other = if other = cid then fx.queue else tx.queueOf other := by
  rw [queueOf, flow_of_insert flows]
  split_ifs <;> rfl

theorem flow_of_erase (flows : after.txFlows = tx.txFlows.erase cid) (other : ConnectionId) :
    after.flow other = if other = cid then fresh else tx.flow other := by
  unfold flow
  rw [flows]
  split_ifs with same
  · subst same
    simp
  · rw [AList.lookup_erase_ne same]

theorem Placed.transfer (placed : tx.Placed cid) (flow_eq : after.flow cid = tx.flow cid)
    (count_eq : after.activeTxFlows.count cid = tx.activeTxFlows.count cid)
    (listed : cid ∈ tx.txRtxParkedFlows → cid ∈ after.txRtxParkedFlows) : after.Placed cid := by
  simp only [Placed, flow_eq, count_eq] at placed ⊢
  rcases placed with idle | ring | ⟨nonempty, active, parked, off, member⟩
  · exact .inl idle
  · exact .inr (.inl ring)
  · exact .inr (.inr ⟨nonempty, active, parked, off, listed member⟩)

theorem Inv.split (inv : Inv tx) (cid : ConnectionId) :
    tx.txDataFrames = (tx.flow cid).queue.length +
        total (fun fx => fx.queue.length) (tx.txFlows.erase cid) ∧
      tx.txDataBytesTotal = (tx.flow cid).bytes + total bytes (tx.txFlows.erase cid) := by
  rw [inv.frames_eq, inv.bytes_eq, total_eq_weightAt_add_erase _ cid tx.txFlows,
    total_eq_weightAt_add_erase _ cid tx.txFlows, weightAt_flow rfl, weightAt_flow rfl]
  exact ⟨rfl, rfl⟩

def Spares (cid : ConnectionId) (tx after : TxScheduler) : Prop :=
  ∀ other, other ≠ cid → after.activeTxFlows.count other = tx.activeTxFlows.count other ∧
    (other ∈ tx.txRtxParkedFlows → other ∈ after.txRtxParkedFlows)

section

variable (inv : Inv tx) (cid)
include inv

theorem Inv.update (fx : FlowTx)
    (flow_eq : ∀ other, after.flow other = if other = cid then fx else tx.flow other)
    (frames : after.txDataFrames = total (fun fx => fx.queue.length) after.txFlows)
    (bytes : after.txDataBytesTotal = total bytes after.txFlows) (sound : FlowSound cid fx)
    (placed : after.Placed cid) (others : Spares cid tx after) : Inv after := by
  refine ⟨frames, bytes, fun other => ?_, fun other => ?_⟩
  · rw [flow_eq]
    split_ifs with same
    · exact same ▸ sound
    · exact inv.sound other
  · by_cases same : other = cid
    · exact same ▸ placed
    · refine (inv.placed other).transfer ?_ (others other same).1 (others other same).2
      rw [flow_eq, if_neg same]

theorem Inv.replace (fx : FlowTx) (flows : after.txFlows = tx.txFlows.insert cid fx)
    (frames : after.txDataFrames + (tx.flow cid).queue.length = tx.txDataFrames + fx.queue.length)
    (bytes : after.txDataBytesTotal + (tx.flow cid).bytes = tx.txDataBytesTotal + fx.bytes)
    (sound : FlowSound cid fx) (placed : after.Placed cid) (others : Spares cid tx after) :
    Inv after := by
  obtain ⟨frameSplit, byteSplit⟩ := inv.split cid
  refine inv.update cid fx (flow_of_insert flows) ?_ ?_ sound placed others <;>
    rw [flows, total_insert] <;> omega

theorem Inv.remove (flows : after.txFlows = tx.txFlows.erase cid)
    (frames : after.txDataFrames = tx.txDataFrames - (tx.flow cid).queue.length)
    (bytes : after.txDataBytesTotal = tx.txDataBytesTotal - (tx.flow cid).bytes)
    (off : after.activeTxFlows.count cid = 0) (others : Spares cid tx after) : Inv after := by
  obtain ⟨frameSplit, byteSplit⟩ := inv.split cid
  have flow_eq := flow_of_erase flows
  refine inv.update cid fresh flow_eq (by rw [flows]; omega) (by rw [flows]; omega)
    ⟨rfl, by simp [fresh]⟩ (.inl ?_) others
  rw [flow_eq, if_pos rfl]
  exact ⟨rfl, rfl, rfl, off⟩

end

theorem count_remove_self (cid : ConnectionId) (ring : List ConnectionId) :
    (ring.filter (· ≠ cid)).count cid = 0 := by
  simp [count_eq_zero]

section

variable (apart : other ≠ cid) (ring : List ConnectionId)
include apart

theorem count_remove_other : (ring.filter (· ≠ cid)).count other = ring.count other :=
  count_filter (by simpa using apart)

theorem count_append_other : (ring ++ [cid]).count other = ring.count other := by
  simp [count_append, Ne.symm apart]

theorem count_cons_other : (cid :: ring).count other = ring.count other := by
  simp [Ne.symm apart]

end

theorem Inv.push (inv : Inv tx) {packet : TxPacket}
    (flows : after.txFlows = tx.txFlows.insert packet.connectionId fx)
    (queue : fx.queue.Perm (packet :: tx.queueOf packet.connectionId))
    (bytes : fx.bytes = (tx.flow packet.connectionId).bytes + packet.length) (active : fx.active)
    (parked : fx.rtxParked = (tx.flow packet.connectionId).rtxParked)
    (ring : after.activeTxFlows.Perm (if (tx.flow packet.connectionId).active then tx.activeTxFlows
        else packet.connectionId :: tx.activeTxFlows))
    (listed : after.txRtxParkedFlows = tx.txRtxParkedFlows)
    (frames : after.txDataFrames = tx.txDataFrames + 1)
    (total_eq : after.txDataBytesTotal = tx.txDataBytesTotal + packet.length) : Inv after := by
  have sound := inv.sound packet.connectionId
  have length_eq : fx.queue.length = (tx.flow packet.connectionId).queue.length + 1 :=
    queue.length_eq
  have nonempty : fx.queue ≠ [] := by
    intro none
    simp [none] at length_eq
  refine inv.replace packet.connectionId fx flows (by omega) (by omega) ⟨?_, ?_⟩ ?_ ?_
  · rw [bytes, sound.bytes_eq, (queue.map TxPacket.length).sum_eq]
    simp [queueOf, Nat.add_comm]
  · intro other member
    rcases mem_cons.mp (queue.mem_iff.mp member) with rfl | old
    · rfl
    · exact sound.own other old
  · right
    simp only [flow_of_insert flows, if_true, listed, ring.count_eq]
    rcases inv.placed packet.connectionId with ⟨_, idle, free, off⟩ | ⟨_, busy, free, once⟩ |
      ⟨_, busy, held, off, member⟩
    · refine .inl ⟨nonempty, active, parked.trans free, ?_⟩
      simp [idle, off]
    · refine Or.inl ⟨nonempty, active, parked.trans free, ?_⟩
      simpa [busy] using once
    · refine .inr ⟨nonempty, active, parked.trans held, ?_, member⟩
      simpa [busy] using off
  · intro other apart
    refine ⟨?_, fun member => listed ▸ member⟩
    rw [ring.count_eq]
    split_ifs
    · rfl
    · exact count_cons_other apart _

theorem Inv.enqueue (inv : Inv tx) (packet : TxPacket) : Inv (tx.enqueue packet) := by
  have back : ∀ queue : List TxPacket, (queue ++ [packet]).Perm (packet :: queue) :=
    fun _ => perm_append_singleton _ _
  unfold TxScheduler.enqueue
  by_cases active : (tx.flow packet.connectionId).active
  · rw [if_pos active]
    exact inv.push rfl (back _) rfl active rfl (by rw [if_pos active]; exact .refl _) rfl rfl rfl
  · rw [if_neg active]
    refine inv.push rfl (back _) rfl rfl rfl ?_ rfl rfl rfl
    rw [if_neg active]
    exact perm_append_singleton _ _

theorem Inv.drrRequeueFront (inv : Inv tx) (packet : TxPacket) :
    Inv (tx.drrRequeueFront packet) := by
  unfold TxScheduler.drrRequeueFront
  by_cases active : (tx.flow packet.connectionId).active
  · rw [if_pos active]
    exact inv.push rfl (.refl _) rfl active rfl (by rw [if_pos active]; exact .refl _) rfl rfl rfl
  · rw [if_neg active]
    exact inv.push rfl (.refl _) rfl rfl rfl (by rw [if_neg active]) rfl rfl rfl

theorem flow_drrRequeueFront_self (tx : TxScheduler) (packet : TxPacket) :
    ((tx.drrRequeueFront packet).flow packet.connectionId).queue =
        packet :: tx.queueOf packet.connectionId ∧
      ((tx.drrRequeueFront packet).flow packet.connectionId).rtxParked =
        (tx.flow packet.connectionId).rtxParked := by
  simp only [drrRequeueFront]
  split_ifs with active
  · rw [flow_setFlow_self]
    exact ⟨rfl, rfl⟩
  · rw [flow_of_insert rfl, if_pos rfl]
    exact ⟨rfl, rfl⟩

theorem Inv.drrParkFront (inv : Inv tx) (packet : TxPacket) : Inv (tx.drrParkFront packet) := by
  have requeued := inv.drrRequeueFront packet
  have sound := requeued.sound packet.connectionId
  have nonempty : ((tx.drrRequeueFront packet).flow packet.connectionId).queue ≠ [] := by
    rw [(flow_drrRequeueFront_self tx packet).1]
    simp
  unfold TxScheduler.drrParkFront
  by_cases parked : ((tx.drrRequeueFront packet).flow packet.connectionId).rtxParked
  · rw [if_pos parked]
    refine requeued.replace packet.connectionId _ rfl rfl rfl ⟨sound.bytes_eq, sound.own⟩ ?_
      fun other apart =>
      ⟨count_remove_other apart _, id⟩
    right
    right
    rw [flow_setFlow_self]
    refine ⟨nonempty, rfl, parked, count_remove_self _ _, ?_⟩
    rcases requeued.placed packet.connectionId with ⟨none, _⟩ | ⟨_, _, free, _⟩ |
      ⟨_, _, _, _, member⟩
    · exact absurd none nonempty
    · simp [parked] at free
    · exact member
  · rw [if_neg parked]
    refine requeued.replace packet.connectionId _ rfl rfl rfl ⟨sound.bytes_eq, sound.own⟩ ?_
      fun other apart =>
      ⟨count_remove_other apart _, fun member => mem_append_left _ member⟩
    right
    right
    rw [flow_of_insert rfl, if_pos rfl]
    exact ⟨nonempty, rfl, rfl, count_remove_self _ _, by simp⟩

theorem Inv.forget (inv : Inv { tx with txRtxParkedFlows := cid :: rest })
    (free : (tx.flow cid).rtxParked = false) : Inv { tx with txRtxParkedFlows := rest } := by
  refine ⟨inv.frames_eq, inv.bytes_eq, inv.sound, fun other => ?_⟩
  rcases inv.placed other with idle | ring | ⟨nonempty, active, parked, off, member⟩
  · exact .inl idle
  · exact .inr (.inl ring)
  · refine .inr (.inr ⟨nonempty, active, parked, off, ?_⟩)
    rcases mem_cons.mp member with rfl | later
    · have held : (tx.flow other).rtxParked := parked
      simp [held] at free
    · exact later

theorem Inv.unparkOne (inv : Inv { tx with txRtxParkedFlows := cid :: rest }) :
    Inv { tx.unparkOne cid with txRtxParkedFlows := rest } := by
  unfold TxScheduler.unparkOne
  cases found : tx.txFlows.lookup cid with
  | none => exact inv.forget (by simp [flow, found, fresh])
  | some fx =>
    have flow_eq : tx.flow cid = fx := by simp [flow, found]
    by_cases parked : fx.rtxParked
    · have sound := inv.sound cid
      rcases inv.placed cid with ⟨_, _, free, _⟩ | ⟨_, _, free, _⟩ | ⟨nonempty, active, _, off, _⟩
      · exact absurd (flow_eq ▸ free) (by simp [parked])
      · exact absurd (flow_eq ▸ free) (by simp [parked])
      · have queued : fx.queue ≠ [] := flow_eq ▸ nonempty
        simp only [parked, Bool.not_true, Bool.false_eq_true, if_false, List.isEmpty_iff, queued]
        refine inv.replace cid { fx with rtxParked := false } rfl ?_ ?_ ?_ ?_ ?_
        · exact congrArg (tx.txDataFrames + ·.queue.length) flow_eq
        · exact congrArg (tx.txDataBytesTotal + ·.bytes) flow_eq
        · exact ⟨flow_eq ▸ sound.bytes_eq, flow_eq ▸ sound.own⟩
        · refine .inr (.inl ?_)
          rw [flow_of_insert rfl, if_pos rfl]
          exact ⟨queued, flow_eq ▸ active, rfl, by simpa [count_append] using off⟩
        · intro other apart
          refine ⟨count_append_other apart _, fun member => ?_⟩
          exact (mem_cons.mp member).resolve_left apart
    · simp only [parked, Bool.not_false, if_true]
      exact inv.forget (by simpa [flow_eq] using parked)

theorem Inv.unparkLoop (parked : List ConnectionId)
    (inv : Inv { tx with txRtxParkedFlows := parked }) :
    Inv { parked.foldl TxScheduler.unparkOne tx with txRtxParkedFlows := [] } := by
  induction parked generalizing tx with
  | nil => exact inv
  | cons cid rest ih => exact ih inv.unparkOne

theorem Inv.drrUnparkAll (inv : Inv tx) : Inv tx.drrUnparkAll.1 := by
  unfold TxScheduler.drrUnparkAll
  split_ifs
  · exact inv
  · exact .unparkLoop tx.txRtxParkedFlows inv

theorem Inv.dropFlow (inv : Inv tx) (cid : ConnectionId)
    (forgetParked : Bool) : Inv (tx.dropFlow cid forgetParked) := by
  unfold TxScheduler.dropFlow
  cases found : tx.txFlows.lookup cid with
  | none => exact inv
  | some fx =>
    have flow_eq : tx.flow cid = fx := by simp [flow, found]
    refine inv.remove cid rfl (by rw [flow_eq]) (by rw [flow_eq]) ?_ ?_
    · rcases inv.placed cid with ⟨_, _, _, off⟩ | ⟨_, active, _, _⟩ | ⟨_, active, _, _, _⟩
      · simp only
        split_ifs
        · exact count_remove_self _ _
        · exact off
      · simp only [flow_eq ▸ active, if_true]
        exact count_remove_self _ _
      · simp only [flow_eq ▸ active, if_true]
        exact count_remove_self _ _
    · intro other apart
      simp only
      constructor
      · split_ifs
        · exact count_remove_other apart _
        · rfl
      · intro member
        split_ifs
        · exact mem_filter.mpr ⟨member, by simpa using apart⟩
        · exact member

/-- What a scan does to the queues: nothing, or it takes the head frame of one
connection. -/
def PopEffect (before after : TxScheduler) : Option TxPacket → Prop
  | none => ∀ cid, after.queueOf cid = before.queueOf cid
  | some packet =>
    before.queueOf packet.connectionId = packet :: after.queueOf packet.connectionId ∧
      ∀ cid, cid ≠ packet.connectionId → after.queueOf cid = before.queueOf cid

theorem PopEffect.after_skip {before middle : TxScheduler} {popped : Option TxPacket}
    (skipped : PopEffect before middle none) (effect : PopEffect middle after popped) :
    PopEffect before after popped := by
  cases popped with
  | none => exact fun cid => (effect cid).trans (skipped cid)
  | some packet =>
    refine ⟨(skipped _).symm.trans effect.1, fun cid apart => ?_⟩
    exact (effect.2 cid apart).trans (skipped cid)

theorem Inv.serve (inv : Inv tx) (front : tx.activeTxFlows = cid :: rest) {head : TxPacket}
    {tail : List TxPacket}
    (queue : (tx.flow cid).queue = head :: tail) (bytes : fx.bytes = (tx.flow cid).bytes)
    (active : fx.active) (free : fx.rtxParked = false) (off : rest.count cid = 0) :
    Inv (TxScheduler.serve { tx with activeTxFlows := rest } cid fx head tail) := by
  have sound := inv.sound cid
  have bytes_eq : (tx.flow cid).bytes = head.length + (tail.map TxPacket.length).sum := by
    rw [sound.bytes_eq, queue]
    simp
  obtain ⟨frameSplit, byteSplit⟩ := inv.split cid
  have length_eq : (tx.flow cid).queue.length = tail.length + 1 := by simp [queue]
  have tailSound : ∀ served : FlowTx, served.queue = tail →
      served.bytes = fx.bytes - head.length → FlowSound cid served := by
    intro served served_queue served_bytes
    constructor
    · rw [served_bytes, served_queue]
      omega
    · intro packet member
      refine sound.own packet ?_
      rw [queue]
      exact mem_cons_of_mem _ (served_queue ▸ member)
  have others : ∀ other, other ≠ cid → rest.count other = tx.activeTxFlows.count other :=
    fun other apart => by rw [front, count_cons_other apart]
  unfold TxScheduler.serve
  cases tail with
  | nil =>
    refine inv.replace cid _ rfl ?_ ?_ (tailSound _ rfl rfl) ?_ fun other apart =>
      ⟨others other apart, id⟩
    · simp only [setFlow, length_nil]
      simp only [length_nil] at length_eq
      omega
    · simp only [setFlow]
      omega
    · left
      rw [flow_setFlow_self]
      exact ⟨rfl, rfl, free, off⟩
  | cons next later =>
    have frames : tx.txDataFrames - 1 + (tx.flow cid).queue.length =
        tx.txDataFrames + (next :: later).length := by omega
    have total_bytes : tx.txDataBytesTotal - head.length + (tx.flow cid).bytes =
        tx.txDataBytesTotal + (fx.bytes - head.length) := by omega
    simp only
    split_ifs
    · refine inv.replace cid _ rfl frames total_bytes (tailSound _ rfl rfl) ?_
        fun other apart => ⟨(count_cons_other apart _).trans (others other apart), id⟩
      refine .inr (.inl ?_)
      rw [flow_of_insert rfl, if_pos rfl]
      exact ⟨by simp, active, free, by simp [off]⟩
    · refine inv.replace cid _ rfl frames total_bytes (tailSound _ rfl rfl) ?_
        fun other apart => ⟨(count_append_other apart _).trans (others other apart), id⟩
      refine .inr (.inl ?_)
      rw [flow_of_insert rfl, if_pos rfl]
      exact ⟨by simp, active, free, by simp [count_append, off]⟩

theorem queueOf_serve (tx : TxScheduler) (cid : ConnectionId) (fx : FlowTx) (head : TxPacket)
    (tail : List TxPacket) (other : ConnectionId) :
    (tx.serve cid fx head tail).queueOf other = if other = cid then tail else tx.queueOf other := by
  unfold serve
  cases tail with
  | nil =>
    rw [queueOf_of_insert rfl]
    rfl
  | cons next later =>
    dsimp only
    split <;> (rw [queueOf_of_insert rfl]; rfl)

theorem Inv.front (inv : Inv tx) (front : tx.activeTxFlows = cid :: rest) :
    ∃ fx head tail, tx.txFlows.lookup cid = some fx ∧ fx.queue = head :: tail ∧
      fx.active ∧ fx.rtxParked = false ∧ rest.count cid = 0 := by
  have counted : tx.activeTxFlows.count cid = rest.count cid + 1 := by simp [front]
  rcases inv.placed cid with ⟨_, _, _, off⟩ | ⟨nonempty, active, free, once⟩ | ⟨_, _, _, off, _⟩
  · omega
  · cases found : tx.txFlows.lookup cid with
    | none => simp [flow, found, fresh] at nonempty
    | some fx =>
      have flow_eq : tx.flow cid = fx := by simp [flow, found]
      rw [flow_eq] at nonempty active free
      obtain ⟨head, tail, queue⟩ := exists_cons_of_ne_nil nonempty
      exact ⟨fx, head, tail, rfl, queue, active, free, by omega⟩
  · omega

theorem credited_keeps (fx : FlowTx) : fx.credited.queue = fx.queue ∧ fx.credited.bytes = fx.bytes ∧
      fx.credited.active = fx.active ∧ fx.credited.rtxParked = fx.rtxParked := by
  unfold credited
  split_ifs <;> exact ⟨rfl, rfl, rfl, rfl⟩

theorem Inv.drrVisit (inv : Inv tx) (front : tx.activeTxFlows = cid :: rest) :
    Inv (TxScheduler.drrVisit { tx with activeTxFlows := rest } cid).1 ∧ PopEffect tx
      (TxScheduler.drrVisit { tx with activeTxFlows := rest } cid).1
      (TxScheduler.drrVisit { tx with activeTxFlows := rest } cid).2 := by
  obtain ⟨fx, head, tail, found, queue, active, free, off⟩ := inv.front front
  have flow_eq : tx.flow cid = fx := by simp [flow, found]
  have sound := inv.sound cid
  have headOwn : head.connectionId = cid := by
    refine sound.own head ?_
    rw [flow_eq, queue]
    exact mem_cons_self
  obtain ⟨credit_queue, credit_bytes, credit_active, credit_parked⟩ := credited_keeps fx
  simp only [TxScheduler.drrVisit, found, queue]
  split_ifs with ends
  · refine ⟨?_, ?_⟩
    · refine inv.replace cid _ rfl ?_ ?_ ⟨?_, ?_⟩ ?_ fun other apart => ⟨?_, id⟩
      · simp only [setFlow, credit_queue, flow_eq]
      · simp only [setFlow, credit_bytes, flow_eq]
      · simpa only [credit_queue, credit_bytes, flow_eq] using sound.bytes_eq
      · simpa only [credit_queue, flow_eq] using sound.own
      · refine .inr (.inl ?_)
        rw [flow_of_insert rfl, if_pos rfl]
        refine ⟨by simp [credit_queue, queue], credit_active.trans active,
          credit_parked.trans free, ?_⟩
        simp [count_append, off]
      · rw [count_append_other apart, front, count_cons_other apart]
    · intro other
      rw [queueOf_of_insert rfl]
      split_ifs with same
      · rw [same, queueOf, flow_eq]
        exact credit_queue
      · rfl
  · have tx_queue : (tx.flow cid).queue = head :: tail := by rw [flow_eq, queue]
    refine ⟨inv.serve front tx_queue (credit_bytes.trans (by rw [flow_eq]))
      (credit_active.trans active) (credit_parked.trans free) off, ?_, ?_⟩
    · rw [headOwn, queueOf_serve, if_pos rfl]
      exact tx_queue
    · intro other apart
      rw [queueOf_serve, if_neg (headOwn ▸ apart)]
      rfl

theorem Inv.drrScan (budget : Nat) (inv : Inv tx) : Inv (TxScheduler.drrScan budget tx).1 ∧
      PopEffect tx (TxScheduler.drrScan budget tx).1 (TxScheduler.drrScan budget tx).2 := by
  induction budget generalizing tx with
  | zero => exact ⟨inv, fun _ => rfl⟩
  | succ budget ih =>
    simp only [drrScan]
    split
    · exact ⟨inv, fun _ => rfl⟩
    · rename_i cid rest ring
      obtain ⟨kept, effect⟩ := inv.drrVisit ring
      split
      · rename_i after packet visited
        rw [visited] at kept effect
        exact ⟨kept, effect⟩
      · rename_i after visited
        rw [visited] at kept effect
        exact ⟨(ih kept).1, effect.after_skip (ih kept).2⟩

theorem Inv.drrPopNext (inv : Inv tx) :
    Inv tx.drrPopNext.1 ∧ PopEffect tx tx.drrPopNext.1 tx.drrPopNext.2 :=
  inv.drrScan _

section

variable (tx : TxScheduler) (packet : TxPacket) (cid : ConnectionId)

theorem queueOf_enqueue : (tx.enqueue packet).queueOf cid =
      if cid = packet.connectionId then tx.queueOf cid ++ [packet] else tx.queueOf cid := by
  unfold enqueue
  dsimp only
  split <;> rw [queueOf_of_insert rfl] <;>
    exact ite_congr rfl (fun same => same ▸ rfl) (fun _ => rfl)

theorem queueOf_drrRequeueFront : (tx.drrRequeueFront packet).queueOf cid =
      if cid = packet.connectionId then packet :: tx.queueOf cid else tx.queueOf cid := by
  unfold drrRequeueFront
  dsimp only
  split <;> rw [queueOf_of_insert rfl] <;>
    exact ite_congr rfl (fun same => same ▸ rfl) (fun _ => rfl)

theorem queueOf_drrParkFront : (tx.drrParkFront packet).queueOf cid =
      if cid = packet.connectionId then packet :: tx.queueOf cid else tx.queueOf cid := by
  rw [← queueOf_drrRequeueFront]
  unfold drrParkFront
  dsimp only
  split <;> rw [queueOf_of_insert rfl] <;>
    exact ite_eq_right_iff.mpr (fun same => same ▸ rfl)

end

theorem queueOf_unparkOne (tx : TxScheduler) (listed cid : ConnectionId) :
    (tx.unparkOne listed).queueOf cid = tx.queueOf cid := by
  unfold unparkOne
  cases found : tx.txFlows.lookup listed with
  | none => rfl
  | some fx =>
    have queue : cid = listed → fx.queue = tx.queueOf cid := by
      rintro rfl
      simp [queueOf, flow, found]
    dsimp only
    split_ifs
    · rfl
    · rw [queueOf_of_insert rfl]
      exact ite_eq_right_iff.mpr queue
    · rw [queueOf_of_insert rfl]
      exact ite_eq_right_iff.mpr queue

theorem queueOf_drrUnparkAll (tx : TxScheduler) (cid : ConnectionId) :
    tx.drrUnparkAll.1.queueOf cid = tx.queueOf cid := by
  have loop : ∀ (parked : List ConnectionId) (tx : TxScheduler),
      (parked.foldl unparkOne tx).queueOf cid = tx.queueOf cid := by
    intro parked
    induction parked with
    | nil => exact fun _ => rfl
    | cons listed rest ih => exact fun tx => (ih _).trans (queueOf_unparkOne tx listed cid)
  unfold drrUnparkAll
  split_ifs
  · rfl
  · exact loop _ _

theorem queueOf_dropFlow (tx : TxScheduler) (dropped : ConnectionId) (forgetParked : Bool)
    (cid : ConnectionId) : (tx.dropFlow dropped forgetParked).queueOf cid =
      if cid = dropped then [] else tx.queueOf cid := by
  simp only [dropFlow, queueOf]
  cases found : tx.txFlows.lookup dropped with
  | none =>
    split_ifs with same
    · subst same
      simp [flow, found, fresh]
    · rfl
  | some fx =>
    rw [flow_of_erase rfl]
    split_ifs <;> rfl

end TxScheduler

end OpenPpp2.Mux
