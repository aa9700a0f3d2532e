import Mathlib.Data.BitVec
import Mathlib.Tactic.Common
import OpenPpp2.Lib.Run
import OpenPpp2.Mux.Frame

/-!
# Received-sequence ranges

`MuxAckTracker` keeps the received sequence numbers of one space as ascending inclusive ranges under
plain unsigned comparison, with a reset heuristic for a wrapped counter and a hard cap that drops
the lowest ranges.
-/

namespace OpenPpp2.Mux

open Lib.BigEndian List

/-- `MuxAckRange`, the inclusive range `[start, last]`. -/
structure AckRange where
  start : SeqNumber
  last : SeqNumber
  deriving DecidableEq, Repr

namespace AckRange

def Contains (range : AckRange) (seq : SeqNumber) : Prop := range.start ≤ seq ∧ seq ≤ range.last

instance (range : AckRange) (seq : SeqNumber) : Decidable (range.Contains seq) :=
  inferInstanceAs (Decidable (_ ∧ _))

def disjointBelow (seq : SeqNumber) (range : AckRange) : Bool :=
  range.last < seq && 1 < (seq - range.last).toNat

def disjointAbove (seq : SeqNumber) (range : AckRange) : Bool :=
  seq < range.start && 1 < (range.start - seq).toNat

def widen (seq : SeqNumber) (range : AckRange) : AckRange where
  start := if seq < range.start then seq else range.start
  last := if range.last < seq then seq else range.last

end AckRange

structure AckTracker where
  ranges : List AckRange
  deriving DecidableEq, Repr

variable {tracker : AckTracker} {maxRanges : Nat}

namespace AckTracker

def empty : AckTracker := { ranges := [] }

/-- The absorbing loop: swallow the following ranges that overlap or touch. -/
def absorb (range : AckRange) : List AckRange → List AckRange
  | [] => [range]
  | next :: rest =>
    if range.last < next.start && 1 < (next.start - range.last).toNat then
      range :: next :: rest
    else
      absorb { range with last := if range.last < next.last then next.last else range.last } rest

/-- Find the first range not strictly below `seq`; merge into it or insert. -/
def place (seq : SeqNumber) : List AckRange → List AckRange
  | [] => [{ start := seq, last := seq }]
  | range :: rest =>
    if range.disjointBelow seq then range :: place seq rest
    else if range.disjointAbove seq then { start := seq, last := seq } :: range :: rest
    else absorb (range.widen seq) rest

/-- The wrap heuristic: a number more than half the space below the lowest
tracked one restarts the tracker. -/
def afterWrap (seq : SeqNumber) : List AckRange → List AckRange
  | [] => []
  | first :: rest =>
    if 0x80000000 < (first.start - seq).toNat && seq < first.start then []
    else first :: rest

def add (tracker : AckTracker) (seq : SeqNumber) (maxRanges : Nat) : AckTracker :=
  let placed := place seq (afterWrap seq tracker.ranges)
  { ranges := if maxRanges > 0 then placed.drop (placed.length - maxRanges) else placed }

def largest (tracker : AckTracker) : SeqNumber := (tracker.ranges.getLast?.map AckRange.last).getD 0

def Covers (tracker : AckTracker) (seq : SeqNumber) : Prop :=
  ∃ range ∈ tracker.ranges, range.Contains seq

instance (tracker : AckTracker) (seq : SeqNumber) : Decidable (tracker.Covers seq) :=
  inferInstanceAs (Decidable (∃ range ∈ tracker.ranges, range.Contains seq))

variable (seq : SeqNumber) {value : SeqNumber}

@[simp] theorem not_covers_empty : ¬ empty.Covers seq := by
  simp [Covers, empty]

theorem contains_widen {seq : SeqNumber} {range : AckRange}
    (notBelow : range.disjointBelow seq = false) (notAbove : range.disjointAbove seq = false)
    (inside : (range.widen seq).Contains value) : range.Contains value ∨ value = seq := by
  simp only [AckRange.disjointBelow, AckRange.disjointAbove, Bool.and_eq_false_iff,
    decide_eq_false_iff_not, BitVec.lt_def, BitVec.toNat_sub] at notBelow notAbove
  simp only [AckRange.Contains, AckRange.widen, BitVec.le_def, BitVec.lt_def,
    BitVec.toNat_eq] at inside ⊢
  split_ifs at inside <;> omega

theorem exists_contains_of_absorb (range : AckRange) (rest : List AckRange)
    (inside : ∃ merged ∈ absorb range rest, merged.Contains value) :
    range.Contains value ∨ ∃ other ∈ rest, other.Contains value := by
  induction rest generalizing range with
  | nil => simpa [absorb] using inside
  | cons next rest ih =>
    rw [exists_mem_cons_iff]
    rw [absorb] at inside
    split at inside
    · simpa using inside
    · rename_i apart
      rcases ih _ inside with within | later
      · -- the widened part beyond `range.last` lies inside `next`, which touches it
        simp only [Bool.and_eq_true, decide_eq_true_eq, not_and, BitVec.lt_def,
          BitVec.toNat_sub] at apart
        have covered : range.Contains value ∨ next.Contains value := by
          simp only [AckRange.Contains, BitVec.le_def, BitVec.lt_def] at within ⊢
          split_ifs at within <;> omega
        exact covered.imp_right .inl
      · exact .inr (.inr later)

theorem exists_contains_of_place (ranges : List AckRange)
    (inside : ∃ placed ∈ place seq ranges, placed.Contains value) :
    (∃ range ∈ ranges, range.Contains value) ∨ value = seq := by
  have single : ({ start := seq, last := seq } : AckRange).Contains value → value = seq := by
    intro within
    exact BitVec.le_antisymm within.2 within.1
  induction ranges with
  | nil => exact .inr (single (by simpa [place] using inside))
  | cons range rest ih =>
    rw [place] at inside
    split_ifs at inside with below above
    · rw [exists_mem_cons_iff] at inside ⊢
      rcases inside with here | later
      · exact .inl (.inl here)
      · exact (ih later).imp_left .inr
    · rw [exists_mem_cons_iff] at inside
      exact inside.symm.imp_right single
    · rw [exists_mem_cons_iff]
      rcases exists_contains_of_absorb _ rest inside with own | later
      · exact (contains_widen (by simpa using below) (by simpa using above) own).imp_left .inl
      · exact .inl (.inr later)

theorem covers_add {seq : SeqNumber}
    (covered : (tracker.add seq maxRanges).Covers value) : tracker.Covers value ∨ value = seq := by
  obtain ⟨range, member, within⟩ := covered
  have placed : range ∈ place seq (afterWrap seq tracker.ranges) := by
    simp only [add] at member
    split_ifs at member
    · exact mem_of_mem_drop member
    · exact member
  rcases exists_contains_of_place seq _ ⟨range, placed, within⟩ with
    ⟨old, oldMember, oldWithin⟩ | new
  · left
    refine ⟨old, ?_, oldWithin⟩
    unfold afterWrap at oldMember
    split at oldMember
    · simp at oldMember
    · rename_i first rest ranges_eq
      split_ifs at oldMember
      · simp at oldMember
      · exact ranges_eq ▸ oldMember
  · exact .inr new

end AckTracker

structure AckBlock where
  connectionId : ConnectionId
  largest : SeqNumber
  ranges : List AckRange
  deriving DecidableEq, Repr

def rangeBytes (range : AckRange) : List UInt8 :=
  bigEndian 4 range.start.toNat ++ bigEndian 4 range.last.toNat

/-- One block on the wire: the newest ranges when there are more than the cap. -/
def blockBytes (maxRanges : Nat) (ackBlock : AckBlock) : List UInt8 :=
  let rangeCount := min ackBlock.ranges.length maxRanges
  bigEndian 4 ackBlock.connectionId.toNat ++ (bigEndian 4 ackBlock.largest.toNat ++
    (UInt8.ofNat rangeCount ::
      (ackBlock.ranges.drop (ackBlock.ranges.length - rangeCount)).flatMap rangeBytes))

def ackFrameNeed (blocks : List AckBlock) (maxRanges : Nat) : Nat :=
  1 + (blocks.map fun ackBlock => 9 + min ackBlock.ranges.length maxRanges * 8).sum

def ackFrameMaxSize (maxBlocks maxRanges : Nat) : Nat := 1 + maxBlocks * (9 + maxRanges * 8)

/-- `EncodeMuxAckFrame`; a zero return is `none`. -/
def encodeMuxAckFrame (blocks : List AckBlock) (capacity maxRanges : Nat) : Option (List UInt8) :=
  if blocks.length > 255 then none
  else if capacity < ackFrameNeed blocks maxRanges then none
  else some (UInt8.ofNat blocks.length :: blocks.flatMap (blockBytes maxRanges))

def decodeRanges (largest : SeqNumber) : Nat → List UInt8 → Option (List AckRange × List UInt8)
  | 0, bytes => some ([], bytes)
  | count + 1, bytes => do
      let range : AckRange :=
        { start := BitVec.ofNat 32 (ofBigEndian (bytes.take 4))
          last := BitVec.ofNat 32 (ofBigEndian ((bytes.drop 4).take 4)) }
      if range.last < range.start || largest < range.last then none
      else
        let later ← decodeRanges largest count (bytes.drop 8)
        some (range :: later.1, later.2)

def decodeBlocks (maxRanges : Nat) : Nat → List UInt8 → Option (List AckBlock × List UInt8)
  | 0, bytes => some ([], bytes)
  | count + 1, bytes => do
      if bytes.length < 9 then none
      else
        let largest : SeqNumber := BitVec.ofNat 32 (ofBigEndian ((bytes.drop 4).take 4))
        let rangeCount := ofBigEndian ((bytes.drop 8).take 1)
        let body := bytes.drop 9
        if rangeCount = 0 ∨ rangeCount > maxRanges ∨ body.length < rangeCount * 8 then none
        else
          let parsed ← decodeRanges largest rangeCount body
          let later ← decodeBlocks maxRanges count parsed.2
          some ({ connectionId := BitVec.ofNat 32 (ofBigEndian (bytes.take 4))
                  largest := largest
                  ranges := parsed.1 } :: later.1, later.2)

def decodeMuxAckFrame (payload : List UInt8) (maxBlocks maxRanges : Nat) : Option (List AckBlock) :=
  match payload with
  | [] => none
  | blockCount :: body =>
    if blockCount.toNat = 0 ∨ blockCount.toNat > maxBlocks then none
    else do
      let parsed ← decodeBlocks maxRanges blockCount.toNat body
      if parsed.2.isEmpty then some parsed.1 else none

open Lib.Run BitVec

namespace AckTracker

def restarts (tracker : AckTracker) (seq : SeqNumber) : Bool :=
  match tracker.ranges with
  | [] => false
  | first :: _ => 0x80000000 < (first.start - seq).toNat && seq < first.start

theorem covers_add_of_restarts {seq value : SeqNumber} (restarted : tracker.restarts seq)
    (covered : (tracker.add seq maxRanges).Covers value) : value = seq := by
  have cleared : afterWrap seq tracker.ranges = [] := by
    rcases ranges_eq : tracker.ranges with _ | ⟨first, rest⟩
    · rfl
    · rw [restarts, ranges_eq] at restarted
      rw [afterWrap, if_pos restarted]
  have anew : tracker.add seq maxRanges = empty.add seq maxRanges := by
    rw [add, add, cleared]
    rfl
  rw [anew] at covered
  simpa using covers_add covered

theorem add_next {last seq : SeqNumber} (maxRanges : Nat) (next : seq.toNat = last.toNat + 1) :
    (AckTracker.mk [⟨0, last⟩]).add seq maxRanges = ⟨[⟨0, seq⟩]⟩ := by
  have below : (AckRange.mk 0 last).disjointBelow seq = false := by
    have apart : (seq - last).toNat = 1 := by
      rw [toNat_sub]
      omega
    simp [AckRange.disjointBelow, apart]
  have above : (AckRange.mk 0 last).disjointAbove seq = false := by
    simp [AckRange.disjointAbove]
  have widened : (AckRange.mk 0 last).widen seq = ⟨0, seq⟩ := by
    have less : last < seq := by
      rw [lt_def]
      omega
    simp [AckRange.widen, less]
  have kept : afterWrap seq [⟨0, last⟩] = [⟨0, last⟩] := by
    simp [afterWrap]
  have placed : place seq (afterWrap seq [⟨0, last⟩]) = [⟨0, seq⟩] := by
    simp only [kept, place, below, above, widened, absorb, Bool.false_eq_true, if_false]
  simp only [add, placed]
  split
  · rename_i positive
    rw [length_singleton, Nat.sub_eq_zero_of_le positive, drop_zero]
  · rfl

end AckTracker

structure AckFeed where
  /-- The counter: the number of the next frame, of which 32 bits are sent. -/
  sent : Nat
  arrived : List Nat := []
  recorded : List Nat := []
  tracker : AckTracker := .empty

inductive FeedStep
  | send
  | arrive (frame : Nat)

namespace AckFeed

def number (frame : Nat) : SeqNumber := BitVec.ofNat 32 frame

def step (maxRanges : Nat) (feed : AckFeed) : FeedStep → AckFeed
  | .send => { feed with sent := feed.sent + 1 }
  | .arrive frame =>
    { feed with
      arrived := frame :: feed.arrived
      recorded :=
        if feed.tracker.restarts (number frame) then [frame] else frame :: feed.recorded
      tracker := feed.tracker.add (number frame) maxRanges }

/-- A frame that arrives was sent, with fewer than `2 ^ 30` frames after it. -/
def Displaced (feed : AckFeed) : FeedStep → Prop
  | .send => True
  | .arrive frame => frame < feed.sent ∧ feed.sent ≤ frame + 2 ^ 30

/-- A frame is sent less than a full circle after every frame that the tracker has
recorded since its last restart. -/
def WithinCircle (feed : AckFeed) : FeedStep → Prop
  | .send => ∀ frame ∈ feed.recorded, feed.sent < frame + 2 ^ 32
  | .arrive _ => True

instance (feed : AckFeed) (taken : FeedStep) : Decidable (feed.Displaced taken) := by
  cases taken <;> (unfold Displaced; infer_instance)

instance (feed : AckFeed) (taken : FeedStep) : Decidable (feed.WithinCircle taken) := by
  cases taken <;> (unfold WithinCircle; infer_instance)

/-- What is covered was recorded, and what was recorded is not yet a circle old. -/
structure Recent (feed : AckFeed) : Prop where
  covered : ∀ value, feed.tracker.Covers value → ∃ frame ∈ feed.recorded, value = number frame
  arrived : ∀ frame ∈ feed.recorded, frame ∈ feed.arrived
  window : ∀ frame ∈ feed.recorded, frame < feed.sent ∧ feed.sent ≤ frame + 2 ^ 32

variable {feed : AckFeed}

theorem Recent.step {taken : FeedStep} (maxRanges : Nat) (recent : feed.Recent)
    (displaced : feed.Displaced taken) (within : feed.WithinCircle taken) :
    (feed.step maxRanges taken).Recent := by
  cases taken with
  | send =>
    refine ⟨recent.covered, recent.arrived, ?_⟩
    intro frame member
    have below := (recent.window frame member).1
    have near := within frame member
    simp only [AckFeed.step]
    omega
  | arrive frame =>
    have kept : ∀ other ∈ (feed.step maxRanges (.arrive frame)).recorded,
        other = frame ∨ other ∈ feed.recorded := by
      intro other member
      simp only [AckFeed.step] at member
      split at member
      · exact .inl (mem_singleton.1 member)
      · exact mem_cons.1 member
    constructor
    · intro value covers
      simp only [AckFeed.step] at covers ⊢
      split
      · rename_i restarted
        exact ⟨frame, mem_singleton.2 rfl, AckTracker.covers_add_of_restarts restarted covers⟩
      · rcases AckTracker.covers_add covers with old | rfl
        · obtain ⟨other, member, equal⟩ := recent.covered value old
          exact ⟨other, mem_cons_of_mem _ member, equal⟩
        · exact ⟨frame, mem_cons_self .., rfl⟩
    · intro other member
      rcases kept other member with rfl | old
      · exact mem_cons_self ..
      · exact mem_cons_of_mem _ (recent.arrived other old)
    · intro other member
      rcases kept other member with rfl | old
      · obtain ⟨below, near⟩ := displaced
        simp only [AckFeed.step]
        omega
      · exact recent.window other old

theorem Recent.missing (recent : feed.Recent) {frame : Nat}
    (sent : frame < feed.sent) (latest : feed.sent ≤ frame + 2 ^ 32)
    (missing : frame ∉ feed.arrived) : ¬ feed.tracker.Covers (number frame) := by
  intro covers
  obtain ⟨other, member, same⟩ := recent.covered _ covers
  obtain ⟨below, near⟩ := recent.window other member
  have residues : frame % 2 ^ 32 = other % 2 ^ 32 := by
    simpa [number] using congrArg BitVec.toNat same
  have equal : frame = other := by omega
  exact missing (equal ▸ recent.arrived other member)

/-- The first `count` frames, each arriving as it is sent. -/
def inOrder (count : Nat) : List FeedStep :=
  (List.range count).flatMap fun frame => [.send, .arrive frame]

theorem inOrder_succ (count : Nat) :
    inOrder (count + 1) = inOrder count ++ [.send, .arrive count] := by
  simp [inOrder, range_succ]

theorem run_inOrder (maxRanges count : Nat) (fits : count < 2 ^ 32) :
    let steps := inOrder (count + 1)
    let feed := run (step maxRanges) { sent := 0 } steps
    Guarded (step maxRanges) Displaced { sent := 0 } steps ∧ feed.sent = count + 1 ∧
      (∀ frame ∈ feed.arrived, frame ≤ count) ∧ feed.tracker = ⟨[⟨0, number count⟩]⟩ := by
  induction count with
  | zero =>
    have first : AckTracker.empty.add (number 0) maxRanges = ⟨[⟨0, number 0⟩]⟩ := by
      simp only [AckTracker.add, AckTracker.empty, AckTracker.afterWrap, AckTracker.place,
        length_singleton]
      split
      · rename_i positive
        rw [Nat.sub_eq_zero_of_le positive]
        rfl
      · rfl
    simpa [inOrder, Guarded, step, Displaced] using first
  | succ count ih =>
    obtain ⟨guarded, sent, arrived, tracker⟩ := ih (by omega)
    have next : (number (count + 1)).toNat = (number count).toNat + 1 := by
      simp only [number, toNat_ofNat]
      omega
    simp only [inOrder_succ (count + 1), run_append, guarded_append]
    refine ⟨⟨guarded, trivial, ⟨?_, ?_⟩, trivial⟩, ?_, ?_, ?_⟩
    · simp only [step, sent]
      omega
    · simp only [step, sent]
      omega
    · simp only [run_cons, run_nil, step, sent]
    · intro frame member
      rcases mem_cons.1 member with rfl | earlier
      · exact Nat.le_refl _
      · exact Nat.le_succ_of_le (arrived frame earlier)
    · simp only [run_cons, run_nil, step, tracker]
      exact AckTracker.add_next maxRanges next

theorem covers_after_circle (maxRanges : Nat) {circle : Nat} (full : circle = 2 ^ 32) :
    let steps := inOrder circle ++ [.send]
    let feed := run (step maxRanges) { sent := 0 } steps
    Guarded (step maxRanges) Displaced { sent := 0 } steps ∧ feed.sent = circle + 1 ∧
      circle ∉ feed.arrived ∧ feed.tracker.Covers (number circle) := by
  obtain ⟨count, rfl⟩ : ∃ count, circle = count + 1 := ⟨2 ^ 32 - 1, by omega⟩
  obtain ⟨guarded, sent, arrived, tracker⟩ := run_inOrder maxRanges count (by omega)
  simp only [run_append, guarded_append]
  refine ⟨⟨guarded, trivial, trivial⟩, ?_, ?_, ?_⟩
  · simp only [run_cons, run_nil, step, sent]
  · intro member
    have bound := arrived _ member
    omega
  · refine ⟨⟨0, number count⟩, ?_, le_def.2 (Nat.zero_le _), ?_⟩
    · simp only [run_cons, run_nil, step, tracker]
      exact mem_singleton.2 rfl
    · rw [full, le_def, number, toNat_ofNat, Nat.mod_self]
      exact Nat.zero_le _

end AckFeed

/-- A full circle of frames arrives in order. The next frame is sent and already
covered. -/
theorem full_circle_covers_missing :
    let steps := AckFeed.inOrder (2 ^ 32) ++ [.send]
    let feed := run (AckFeed.step ackMaxRanges) { sent := 0 } steps
    Guarded (AckFeed.step ackMaxRanges) AckFeed.Displaced { sent := 0 } steps ∧
      feed.sent = 2 ^ 32 + 1 ∧ 2 ^ 32 ∉ feed.arrived ∧
      feed.tracker.Covers (AckFeed.number (2 ^ 32)) := by
  apply AckFeed.covers_after_circle
  rfl

/-- As long as every frame is sent within a circle of what the tracker has recorded
since it last restarted, no missing frame among the latest is covered. -/
theorem missing_frame_not_covered (maxRanges start : Nat) (steps : List FeedStep)
    (guarded : Guarded (AckFeed.step maxRanges)
      (fun feed taken => feed.Displaced taken ∧ feed.WithinCircle taken) { sent := start } steps) :
    let feed := run (AckFeed.step maxRanges) { sent := start } steps
    ∀ frame, frame < feed.sent → feed.sent ≤ frame + 2 ^ 31 → frame ∉ feed.arrived →
      ¬ feed.tracker.Covers (AckFeed.number frame) := by
  have recent : (run (AckFeed.step maxRanges) { sent := start } steps).Recent := by
    apply guarded_invariant _ guarded
    · exact ⟨by simp, by simp, by simp⟩
    · exact fun feed taken both recent => recent.step maxRanges both.1 both.2
  intro feed frame sent latest missing
  have circle : feed.sent ≤ frame + 2 ^ 32 := by omega
  exact recent.missing sent circle missing

/-- The counter wraps just after the stream began, and the tracker restarts. -/
theorem missing_frame_not_covered_across_wrap :
    let steps : List FeedStep :=
      [.send, .send, .arrive (2 ^ 32 - 1), .send, .arrive (2 ^ 32), .send]
    let feed := run (AckFeed.step ackMaxRanges) { sent := 2 ^ 32 - 2 } steps
    feed.recorded = [2 ^ 32] ∧ feed.tracker.Covers (AckFeed.number (2 ^ 32)) ∧
      ¬ feed.tracker.Covers (AckFeed.number (2 ^ 32 - 2)) ∧
      ¬ feed.tracker.Covers (AckFeed.number (2 ^ 32 + 1)) := by
  intro steps feed
  have covers := missing_frame_not_covered ackMaxRanges (2 ^ 32 - 2) steps (by decide)
  exact ⟨by decide, by decide, covers (2 ^ 32 - 2) (by decide) (by decide) (by decide),
    covers (2 ^ 32 + 1) (by decide) (by decide) (by decide)⟩

end OpenPpp2.Mux
