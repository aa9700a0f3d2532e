import Mathlib.Order.RelClasses
import OpenPpp2.Mux.Arrival

/-!
# Order of dispatch under compat

The compat receive queue is ordered by a circular comparator that is no order on the whole 32-bit
space.
-/

namespace OpenPpp2.Mux

open Lib.CircularOrder Lib.OrderedMap Lib.Run List Frame

variable {s : Session}

section Order

variable (origin : SeqNumber) (Wire : Nat → Frame → Prop)

/-- The state of the replay loop: `ack` is expected next, `dispatched` is what
went before, and every queued frame has its place from `ack` on. -/
structure Lined (ack : SeqNumber) (dispatched : List Frame) (queue : List (SeqNumber × Frame)) :
    Prop where
  ack_eq : ack = origin + BitVec.ofNat 32 dispatched.length
  numbers : dispatched.map Frame.seq = consecutive origin dispatched.length
  placed : ∀ index frame, dispatched[index]? = some frame → Wire index frame
  stamped : ∀ entry ∈ queue, entry.2.seq = entry.1
  near : ∀ entry ∈ queue, 2 * ahead ack entry.1 ≤ 2 ^ 32
  wired : ∀ entry ∈ queue, Wire (dispatched.length + ahead ack entry.1) entry.2
  sorted : Sorted (ahead ack) queue

structure Ordered (side : RecvSide) : Prop where
  lined : Lined origin Wire side.rxAck side.dispatched side.rxQueue
  gap : ∀ entry ∈ side.rxQueue, 0 < ahead side.rxAck entry.1

variable {origin Wire} {entry : SeqNumber × Frame}

namespace Lined

variable {ack : SeqNumber} {dispatched : List Frame} {queue : List (SeqNumber × Frame)}

theorem dispatch_next (lined : Lined origin Wire ack dispatched queue)
    (gap : ∀ entry ∈ queue, 0 < ahead ack entry.1) {frame : Frame} (due : frame.seq = ack)
    (own : Wire dispatched.length frame) :
    Lined origin Wire (ack + 1) (dispatched ++ [frame]) queue where
  ack_eq := by
    rw [lined.ack_eq, length_append, length_singleton, BitVec.ofNat_add, BitVec.add_assoc]
    rfl
  numbers := by
    rw [map_append, map_singleton, lined.numbers, length_append,
      length_singleton, consecutive_succ, due, ← lined.ack_eq]
  placed := by
    intro index other found
    rcases Nat.lt_trichotomy index dispatched.length with earlier | rfl | later
    · rw [getElem?_append_left earlier] at found
      exact lined.placed index other found
    · rw [getElem?_append_right (Nat.le_refl _)] at found
      obtain rfl : frame = other := by simpa using found
      exact own
    · have none : (dispatched ++ [frame])[index]? = none := by
        simp only [getElem?_eq_none_iff, length_append, length_singleton]
        omega
      simp [none] at found
  stamped := lined.stamped
  near entry member := by
    have shift := ahead_succ (by decide) (gap entry member)
    have near := lined.near entry member
    omega
  wired entry member := by
    have shift := ahead_succ (by decide) (gap entry member)
    have same : (dispatched ++ [frame]).length + ahead (ack + 1) entry.1 =
        dispatched.length + ahead ack entry.1 := by
      rw [length_append, length_singleton]
      omega
    rw [same]
    exact lined.wired entry member
  sorted := by
    refine .imp_of_mem ?_ lined.sorted
    intro left right leftMem rightMem less
    have leftShift := ahead_succ (by decide) (gap left leftMem)
    have rightShift := ahead_succ (by decide) (gap right rightMem)
    omega

theorem tail (lined : Lined origin Wire ack dispatched (entry :: queue)) :
    Lined origin Wire ack dispatched queue where
  ack_eq := lined.ack_eq
  numbers := lined.numbers
  placed := lined.placed
  stamped other member := lined.stamped other (mem_cons_of_mem _ member)
  near other member := lined.near other (mem_cons_of_mem _ member)
  wired other member := lined.wired other (mem_cons_of_mem _ member)
  sorted := (pairwise_cons.mp lined.sorted).2

theorem replay (lined : Lined origin Wire ack dispatched queue) :
    Lined origin Wire (ack + BitVec.ofNat 32 (Session.replay ack queue).1.length)
        (dispatched ++ (Session.replay ack queue).1) (Session.replay ack queue).2 ∧
      ∀ entry ∈ (Session.replay ack queue).2,
        0 < ahead (ack + BitVec.ofNat 32 (Session.replay ack queue).1.length) entry.1 := by
  induction queue generalizing ack dispatched with
  | nil => simpa [Session.replay] using lined
  | cons entry rest ih =>
    obtain ⟨first, _⟩ := pairwise_cons.mp lined.sorted
    by_cases due : ack = entry.1
    · -- the head is due: everything behind it is strictly ahead
      have gap : ∀ other ∈ rest, 0 < ahead ack other.1 := fun other member =>
        Nat.lt_of_le_of_lt (Nat.zero_le _) (first other member)
      have own : Wire dispatched.length entry.2 := by
        have wired := lined.wired entry mem_cons_self
        rwa [due, ahead_self, Nat.add_zero] at wired
      have seq : entry.2.seq = ack := (lined.stamped entry mem_cons_self).trans due.symm
      have later := ih (lined.tail.dispatch_next gap seq own)
      have shift : ack + BitVec.ofNat 32 ((Session.replay (ack + 1) rest).1.length + 1) =
          ack + 1 + BitVec.ofNat 32 (Session.replay (ack + 1) rest).1.length := by
        rw [Nat.add_comm, BitVec.ofNat_add, ← BitVec.add_assoc]
        rfl
      simp only [Session.replay, if_pos due, length_cons, shift]
      simpa only [append_assoc, singleton_append] using later
    · -- the head is not due, and it is the nearest
      simp only [Session.replay, if_neg due, length_nil, BitVec.ofNat_eq_ofNat,
        BitVec.add_zero, append_nil]
      have head : 0 < ahead ack entry.1 := by
        rw [Nat.pos_iff_ne_zero, ne_eq, ahead_eq_zero]
        exact fun same => due same.symm
      refine ⟨lined, fun other member => ?_⟩
      rcases mem_cons.mp member with rfl | later
      · exact head
      · exact head.trans (first other later)

end Lined

theorem rankedBy_ahead (ack : SeqNumber) :
    RankedBy before (ahead ack) fun key => before ack key where
  less_iff := by
    intro left right leftFuture rightFuture
    obtain ⟨leftPos, leftNear⟩ := (before_reference_iff ack left).mp leftFuture
    obtain ⟨rightPos, rightNear⟩ := (before_reference_iff ack right).mp rightFuture
    exact before_iff_ahead_lt (by omega) (by omega)

namespace Ordered

variable {side after : RecvSide}

section

variable (ordered : Ordered origin Wire side)
include ordered

theorem congr (ack : after.rxAck = side.rxAck)
    (dispatched : after.dispatched = side.dispatched) (queue : after.rxQueue = side.rxQueue) :
    Ordered origin Wire after where
  lined := by
    rw [ack, dispatched, queue]
    exact ordered.lined
  gap := by
    rw [ack, queue]
    exact ordered.gap

theorem mono {More : Nat → Frame → Prop}
    (more : ∀ index frame, Wire index frame → More index frame) : Ordered origin More side where
  lined :=
    { ordered.lined with
      placed := fun index frame found => more index frame (ordered.lined.placed index frame found)
      wired := fun entry member => more _ _ (ordered.lined.wired entry member) }
  gap := ordered.gap

theorem future (member : entry ∈ side.rxQueue) : before side.rxAck entry.1 :=
  (before_reference_iff side.rxAck entry.1).mpr
    ⟨ordered.gap entry member, ordered.lined.near entry member⟩

theorem finalize : Ordered origin Wire side.finalize where
  lined :=
    { ack_eq := ordered.lined.ack_eq
      numbers := ordered.lined.numbers
      placed := ordered.lined.placed
      stamped := fun _ member => absurd member not_mem_nil
      near := fun _ member => absurd member not_mem_nil
      wired := fun _ member => absurd member not_mem_nil
      sorted := List.Pairwise.nil }
  gap _ member := absurd member not_mem_nil

theorem moves (made : RecvMoves side after) : Ordered origin Wire after :=
  made.keeps (fun _ _ _ kept => kept.congr rfl rfl rfl)
    (fun _ _ kept => kept.congr rfl rfl rfl) (fun _ kept => kept.finalize) ordered

end

variable {frame : Frame}

theorem dispatch (ordered : Ordered origin Wire side) (due : side.rxAck = frame.seq)
    (own : Wire side.dispatched.length frame) : Ordered origin Wire (side.dispatch frame) := by
  obtain ⟨lined, gap⟩ := (ordered.lined.dispatch_next ordered.gap due.symm own).replay
  have shift : side.rxAck +
      BitVec.ofNat 32 ((Session.replay (side.rxAck + 1) side.rxQueue).1.length + 1) =
      side.rxAck + 1 + BitVec.ofNat 32 (Session.replay (side.rxAck + 1) side.rxQueue).1.length := by
    rw [Nat.add_comm, BitVec.ofNat_add, ← BitVec.add_assoc]
    rfl
  constructor
  · simp only [RecvSide.dispatch, shift]
    simpa only [append_assoc, singleton_append] using lined
  · simp only [RecvSide.dispatch, shift]
    exact gap

theorem foldl_enter (entered : List ConnectionId) (ordered : Ordered origin Wire side) :
    Ordered origin Wire (entered.foldl RecvSide.enter side) := by
  induction entered generalizing side with
  | nil => exact ordered
  | cons cid rest ih => exact ih (ordered.congr rfl rfl rfl)

theorem buffer (ordered : Ordered origin Wire side)
    {queue : List (SeqNumber × Frame)} (future : before side.rxAck frame.seq)
    (placed : emplace before frame.seq frame side.rxQueue = (queue, true))
    (own : Wire (side.dispatched.length + ahead side.rxAck frame.seq) frame) (bytes : Nat) :
    Ordered origin Wire { side with rxQueue := queue, sessionReorderBytes := bytes } := by
  obtain ⟨pos, close⟩ := (before_reference_iff side.rxAck frame.seq).mp future
  have members : ∀ entry ∈ queue, entry ∈ side.rxQueue ∨ entry = (frame.seq, frame) := by
    intro entry member
    have known := (mem_emplace before frame.seq frame side.rxQueue entry).mp (placed ▸ member)
    exact known.imp_right And.right
  have lined := ordered.lined
  refine ⟨⟨lined.ack_eq, lined.numbers, lined.placed, ?_, ?_, ?_, ?_⟩, ?_⟩
  · intro entry member
    rcases members entry member with old | rfl
    · exact lined.stamped entry old
    · rfl
  · intro entry member
    rcases members entry member with old | rfl
    · exact lined.near entry old
    · exact close
  · intro entry member
    rcases members entry member with old | rfl
    · exact lined.wired entry old
    · exact own
  · have sorted := sorted_emplace (rankedBy_ahead side.rxAck) future frame
      (fun entry member => ordered.future member) lined.sorted
    rwa [placed] at sorted
  · intro entry member
    rcases members entry member with old | rfl
    · exact ordered.gap entry old
    · exact pos

end Ordered

/-- A frame ahead by at most half the circle is the one its distance says. -/
def InPlace (Wire : Nat → Frame → Prop) (side : RecvSide) (frame : Frame) : Prop :=
  2 * ahead side.rxAck frame.seq ≤ 2 ^ 32 →
    Wire (side.dispatched.length + ahead side.rxAck frame.seq) frame

theorem CompatArrival.ordered {side after : RecvSide} {frame : Frame}
    (effect : CompatArrival side frame after)
    (inPlace : frame.cmd.isReliabilityControl = false → InPlace Wire side frame)
    (ordered : Ordered origin Wire side) : Ordered origin Wire after := by
  cases effect with
  | settled => exact ordered
  | closed after moves => exact ordered.moves moves
  | dispatched sequenced inOrder entered =>
    have own := inPlace sequenced
    rw [InPlace, ← inOrder, ahead_self] at own
    exact .foldl_enter entered (ordered.dispatch inOrder (own (by decide)))
  | buffered sequenced future queue placed =>
    have near := ((before_reference_iff side.rxAck frame.seq).mp future).2
    exact ordered.buffer future placed (inPlace sequenced near) _

theorem RecvStep.ordered {op : Op} {after : RecvSide} (step : RecvStep s op after)
    (compat : s.isFlowV2 = false) (inPlace : ∀ frame link now, op = .arrive frame link now →
      frame.cmd.isReliabilityControl = false → InPlace Wire s.recvSide frame)
    (ordered : Ordered origin Wire s.recvSide) : Ordered origin Wire after := by
  have settled : ∀ frame, Ordered origin Wire (s.recvSide.settle frame) := fun frame =>
    ordered.congr rfl rfl rfl
  cases step with
  | moves op made => exact ordered.moves made
  | settled frame link now quiet made => exact (settled frame).moves made
  | register | syn | note | leave => exact ordered.congr rfl rfl rfl
  | data frame link now v2 => simp [compat] at v2
  | compat frame link now _ alive effect =>
    exact effect.ordered (inPlace frame link now rfl) (settled frame)

end Order

/-- An arriving sequenced frame has a number within half the circle of the one
expected, counted without wrapping. -/
def ArrivesNear (Wire : Nat → Frame → Prop) (s : Session) : Op → Prop
  | .arrive frame _ _ =>
    frame.cmd.isReliabilityControl = false → ∃ index, Wire index frame ∧
      s.log.dispatched.length < index + 2 ^ 31 ∧ index ≤ s.log.dispatched.length + 2 ^ 31
  | _ => True

variable {Wire : Nat → Frame → Prop}

variable {origin : SeqNumber}

theorem ArrivesNear.inPlace {frame : Frame} {link : Option CarrierKey} {now : Nat}
    (numbered : ∀ index frame, Wire index frame → frame.seq = origin + BitVec.ofNat 32 index)
    (ack : s.rxAck = origin + BitVec.ofNat 32 s.log.dispatched.length)
    (near : ArrivesNear Wire s (.arrive frame link now))
    (sequenced : frame.cmd.isReliabilityControl = false) : InPlace Wire s.recvSide frame := by
  obtain ⟨index, wire, lower, upper⟩ := near sequenced
  intro close
  have seq := numbered index frame wire
  change Wire (s.log.dispatched.length + ahead s.rxAck frame.seq) frame
  have same : s.log.dispatched.length + ahead s.rxAck frame.seq = index := by
    change 2 * ahead s.rxAck frame.seq ≤ 2 ^ 32 at close
    rw [ack, seq] at close ⊢
    have congruent := add_ahead_mod origin s.log.dispatched.length index
    omega
  rw [same]
  exact wire

namespace Session

theorem ordered_initial (config : Config) (mode : MuxMode) (txSeq rxAck : SeqNumber)
    (Wire : Nat → Frame → Prop) :
    Ordered rxAck Wire (initial config mode txSeq rxAck).recvSide where
  lined :=
    { ack_eq := (BitVec.add_zero rxAck).symm
      numbers := rfl
      placed := fun _ _ found => by simp [recvSide, initial, Log.empty] at found
      stamped := fun _ member => absurd member not_mem_nil
      near := fun _ member => absurd member not_mem_nil
      wired := fun _ member => absurd member not_mem_nil
      sorted := List.Pairwise.nil }
  gap _ member := absurd member not_mem_nil

end Session

end OpenPpp2.Mux
