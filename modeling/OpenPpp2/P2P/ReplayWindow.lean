import Mathlib.Algebra.Order.Ring.Nat
import Mathlib.Data.Set.Insert
import OpenPpp2.Lib.Run

/-!
# The replay window

`P2PReplayWindow` remembers the last 1024 sequence numbers in a bitmap of 128 bytes: bit 0 stands
for `base`, the newest accepted number, and bit `n` for `base - n`.
-/

namespace OpenPpp2.P2P

open Lib.Run BitVec List

abbrev Sequence := BitVec 32

/-- `std::numeric_limits<std::uint32_t>::max()`: never used as a sequence. -/
def maxSequence : Sequence := BitVec.allOnes 32

def sequenceHalfRange : Sequence := 0x80000000#32

def replayBitmapSize : Nat := 128

def replayWindowSize : Nat := replayBitmapSize * 8

abbrev Bitmap := List (BitVec 8)

namespace Bitmap

def zeros : Bitmap := List.replicate replayBitmapSize 0

def bitAt (bitmap : Bitmap) (delta : Nat) : Bool := (bitmap.getD (delta / 8) 0).getLsbD (delta % 8)

def setBit (bitmap : Bitmap) (delta : Nat) : Bitmap :=
  bitmap.modify (delta / 8) (· ||| (1#8 <<< (delta % 8)))

/-- The loops of `ShiftBitmapLeft` over whole bytes. -/
def moveBytes (count : Nat) (bitmap : Bitmap) : Bitmap :=
  List.replicate count 0 ++ bitmap.take (bitmap.length - count)

/-- The loop of `ShiftBitmapLeft` over the remaining bits, with its carry. -/
def shiftBits (extra : Nat) (carry : BitVec 8) : Bitmap → Bitmap
  | [] => []
  | byte :: rest =>
    ((byte <<< extra) ||| carry) :: shiftBits extra (byte >>> (8 - extra)) rest

def shiftLeft (bitmap : Bitmap) (count : Nat) : Bitmap :=
  if count = 0 then bitmap
  else if replayWindowSize ≤ count then zeros
  else
    let moved := if 0 < count / 8 then moveBytes (count / 8) bitmap else bitmap
    if 0 < count % 8 then shiftBits (count % 8) 0 moved else moved

@[simp] theorem length_zeros : zeros.length = replayBitmapSize := length_replicate

@[simp] theorem length_setBit (bitmap : Bitmap) (delta : Nat) :
    (bitmap.setBit delta).length = bitmap.length := length_modify ..

variable {bitmap : Bitmap} {count : Nat}

theorem length_moveBytes (fits : count ≤ bitmap.length) :
    (moveBytes count bitmap).length = bitmap.length := by
  simp only [moveBytes, length_append, length_replicate, length_take]
  omega

@[simp] theorem length_shiftBits (extra : Nat) (carry : BitVec 8) (bitmap : Bitmap) :
    (shiftBits extra carry bitmap).length = bitmap.length := by
  induction bitmap generalizing carry with
  | nil => rfl
  | cons byte rest ih => simp [shiftBits, ih]

theorem shiftBits_zero (bitmap : Bitmap) : shiftBits 0 0#8 bitmap = bitmap := by
  induction bitmap with
  | nil => rfl
  | cons byte rest ih =>
    have gone : byte >>> 8 = 0#8 := ushiftRight_eq_zero (by decide)
    simp [shiftBits, gone, ih]

theorem shiftLeft_eq (bitmap : Bitmap) (count : Nat) :
    bitmap.shiftLeft count = if replayWindowSize ≤ count then zeros
      else shiftBits (count % 8) 0 (moveBytes (count / 8) bitmap) := by
  have bytes : (if 0 < count / 8 then moveBytes (count / 8) bitmap else bitmap) =
      moveBytes (count / 8) bitmap := by
    split_ifs with some
    · rfl
    · simp [Nat.eq_zero_of_not_pos some, moveBytes]
  have bits (moved : Bitmap) : (if 0 < count % 8 then shiftBits (count % 8) 0 moved else moved) =
      shiftBits (count % 8) 0 moved := by
    split_ifs with some
    · rfl
    · simp [Nat.eq_zero_of_not_pos some, shiftBits_zero]
  simp only [shiftLeft, bytes, bits]
  split
  · rename_i none
    simp [none, moveBytes, shiftBits_zero, replayWindowSize, replayBitmapSize]
  · rfl

theorem length_shiftLeft (sized : bitmap.length = replayBitmapSize)
    (count : Nat) : (bitmap.shiftLeft count).length = replayBitmapSize := by
  rw [shiftLeft_eq]
  split_ifs with all
  · exact length_zeros
  · rw [length_shiftBits, length_moveBytes, sized]
    simp only [replayWindowSize] at all
    omega

theorem bitAt_zeros (delta : Nat) : zeros.bitAt delta = false := by
  simp [bitAt, zeros, getD_eq_getElem?_getD, getElem?_replicate]
  split_ifs <;> simp

theorem bitAt_cons (byte : BitVec 8) (rest : Bitmap) (delta : Nat) : bitAt (byte :: rest) delta =
      if delta < 8 then byte.getLsbD delta else bitAt rest (delta - 8) := by
  by_cases low : delta < 8
  · simp [bitAt, low, Nat.div_eq_of_lt low, Nat.mod_eq_of_lt low]
  · have above : delta / 8 = (delta - 8) / 8 + 1 := by omega
    have same : delta % 8 = (delta - 8) % 8 := by omega
    simp [bitAt, low, above, same]

variable {delta : Nat}

theorem bitAt_moveBytes (inside : delta < 8 * bitmap.length) :
    (moveBytes count bitmap).bitAt delta = if delta < 8 * count then false else bitmap.bitAt
      (delta - 8 * count) := by
  have same : (delta - 8 * count) % 8 = delta % 8 ∨ delta < 8 * count := by omega
  simp only [bitAt, moveBytes, getD_eq_getElem?_getD, getElem?_append,
    length_replicate, getElem?_replicate, getElem?_take]
  by_cases low : delta < 8 * count
  · have below : delta / 8 < count := by omega
    simp [low, below]
  · have above : ¬ delta / 8 < count := by omega
    have index : delta / 8 - count = (delta - 8 * count) / 8 := by omega
    have kept : (delta - 8 * count) / 8 < bitmap.length - count := by omega
    simp [low, above, index, kept, same.resolve_right low]

theorem bitAt_shiftBits {extra : Nat} (small : extra < 8) {carry : BitVec 8}
    (fits : ∀ bit, extra ≤ bit → carry.getLsbD bit = false) (inside : delta < 8 * bitmap.length) :
    (shiftBits extra carry bitmap).bitAt delta =
      if delta < extra then carry.getLsbD delta else bitmap.bitAt (delta - extra) := by
  induction bitmap generalizing carry delta with
  | nil => simp at inside
  | cons byte rest ih =>
    have carried : ∀ bit, extra ≤ bit → (byte >>> (8 - extra)).getLsbD bit = false := by
      intro bit above
      rw [getLsbD_ushiftRight]
      exact getLsbD_of_ge _ _ (by omega)
    rw [shiftBits, bitAt_cons]
    by_cases low : delta < 8
    · rw [if_pos low, getLsbD_or, getLsbD_shiftLeft]
      by_cases first : delta < extra
      · simp [low, first]
      · rw [if_neg first, bitAt_cons, if_pos (by omega), fits delta (by omega)]
        simp [low, first]
    · rw [if_neg low, ih carried (by simp only [length_cons] at inside; omega),
        if_neg (show ¬ delta < extra by omega), bitAt_cons]
      by_cases next : delta - 8 < extra
      · rw [if_pos next, if_pos (by omega), getLsbD_ushiftRight]
        congr 1
        omega
      · rw [if_neg next, if_neg (by omega)]
        congr 1
        omega

theorem bitAt_shiftLeft (sized : bitmap.length = replayBitmapSize)
    (inside : delta < replayWindowSize) : (bitmap.shiftLeft count).bitAt delta =
      if delta < count then false else bitmap.bitAt (delta - count) := by
  have space : replayWindowSize = 8 * bitmap.length := by
    rw [sized, replayWindowSize, Nat.mul_comm]
  rw [shiftLeft_eq]
  split_ifs with all low low
  · exact bitAt_zeros delta
  · omega
  all_goals rw [bitAt_shiftBits (by omega) (by simp) (by rw [length_moveBytes] <;> omega)]
  · split_ifs
    · simp
    · rw [bitAt_moveBytes (by omega), if_pos (by omega)]
  · rw [if_neg (by omega), bitAt_moveBytes (by omega), if_neg (by omega)]
    congr 1
    omega

theorem bitAt_setBit {place : Nat} (inside : place < 8 * bitmap.length) (delta : Nat) :
    (bitmap.setBit place).bitAt delta = (decide (delta = place) || bitmap.bitAt delta) := by
  simp only [bitAt, setBit, getD_eq_getElem?_getD, getElem?_modify]
  by_cases same : place / 8 = delta / 8
  · have bound : delta / 8 < bitmap.length := by omega
    simp only [if_pos same, List.getElem?_eq_getElem bound, Option.map_eq_map,
      Option.map_some, Option.getD_some]
    by_cases equal : delta = place
    · subst equal
      simp [Nat.mod_lt]
    · have apart : delta % 8 ≠ place % 8 := by omega
      by_cases less : delta % 8 < place % 8
      · simp [equal, less]
      · have above : delta % 8 - place % 8 ≠ 0 := by omega
        simp [equal, above]
  · have apart : delta ≠ place := by
      rintro rfl
      exact same rfl
    simp [if_neg same, apart]

end Bitmap

/-- `P2PReplayWindow`; the bitmap always has its 128 bytes. -/
structure ReplayWindow where
  base : BitVec 64 := 0
  bitmap : Bitmap := Bitmap.zeros
  initialized : Bool := false
  bitmap_length : bitmap.length = replayBitmapSize := by exact Bitmap.length_zeros
deriving DecidableEq

variable {sequence : Sequence}

namespace ReplayWindow

instance : Inhabited ReplayWindow := ⟨{}⟩

def baseSeq (window : ReplayWindow) : Sequence := window.base.setWidth 32

/-- `Accept`: a number is taken once, and only inside or ahead of the window. -/
def accept (window : ReplayWindow) (sequence : Sequence) : Option ReplayWindow :=
  if !window.initialized then
    some { base := sequence.setWidth 64, bitmap := window.bitmap.set 0 1, initialized := true,
           bitmap_length := by rw [List.length_set, window.bitmap_length] }
  else
    let forward := sequence - window.baseSeq
    if forward ≠ 0#32 ∧ forward < sequenceHalfRange then
      some { window with
        base := window.base + forward.setWidth 64
        bitmap := (window.bitmap.shiftLeft forward.toNat).setBit 0
        bitmap_length := by
          rw [Bitmap.length_setBit, Bitmap.length_shiftLeft window.bitmap_length] }
    else
      let delta := (window.baseSeq - sequence).toNat
      if replayWindowSize ≤ delta then none
      else if window.bitmap.bitAt delta then none
      else some { window with
        bitmap := window.bitmap.setBit delta
        bitmap_length := by rw [Bitmap.length_setBit, window.bitmap_length] }

/-- `Replay` of the channel: numeric order only, and a jump past the whole window
starts it afresh. -/
def replay (window : ReplayWindow) (sequence : Sequence) : Option ReplayWindow :=
  if sequence = maxSequence then none
  else if window.initialized ∧ sequence < window.baseSeq ∧
      replayWindowSize ≤ (window.baseSeq - sequence).toNat then none
  else if window.initialized ∧ window.baseSeq < sequence ∧
      replayWindowSize ≤ (sequence - window.baseSeq).toNat then
    accept {} sequence
  else
    window.accept sequence

/-- The window stands for the set of numbers accepted so far: `base` is the
largest of them and the bitmap marks those among the last 1024. -/
inductive Tracks (window : ReplayWindow) (accepted : Set Sequence) : Prop
  | fresh (empty : window = {}) (none : accepted = ∅)
  | started (base : Nat) (running : window.initialized)
      (base_eq : window.base.toNat = base) (bounded : base < 2 ^ 32 - 1)
      (newest : BitVec.ofNat 32 base ∈ accepted)
      (below : ∀ sequence ∈ accepted, sequence.toNat ≤ base)
      (marked : ∀ delta, delta < replayWindowSize → delta ≤ base →
        (window.bitmap.bitAt delta ↔ BitVec.ofNat 32 (base - delta) ∈ accepted))

theorem toNat_lt_maxSequence (usable : sequence ≠ maxSequence) : sequence.toNat < 2 ^ 32 - 1 := by
  have apart : sequence.toNat ≠ 2 ^ 32 - 1 := fun equal =>
    usable (eq_of_toNat_eq (by simpa [maxSequence] using equal))
  omega

theorem ofNat_sub_eq_iff {base delta : Nat} (bounded : base < 2 ^ 32) (within : delta ≤ base)
    (behind : sequence.toNat ≤ base) :
    BitVec.ofNat 32 (base - delta) = sequence ↔ delta = base - sequence.toNat := by
  rw [← toNat_inj, toNat_ofNat]
  omega

theorem tracks_started (accepted : Set Sequence) (usable : sequence ≠ maxSequence)
    (old : ∀ other ∈ accepted, other.toNat + replayWindowSize ≤ sequence.toNat) :
    ∃ next, accept {} sequence = some next ∧ Tracks next (insert sequence accepted) := by
  have bound := sequence.isLt
  refine ⟨_, rfl, .started sequence.toNat rfl ?_ (toNat_lt_maxSequence usable) ?_ ?_ ?_⟩
  · simp only [toNat_setWidth]
    exact Nat.mod_eq_of_lt (by omega)
  · simp
  · rintro other (rfl | known)
    · exact le_rfl
    · have := old other known
      omega
  · intro delta inside within
    have unknown : BitVec.ofNat 32 (sequence.toNat - delta) ∉ accepted := by
      intro known
      have far := old _ known
      simp only [toNat_ofNat, replayWindowSize, replayBitmapSize] at far inside
      omega
    change (Bitmap.zeros.setBit 0).bitAt delta ↔ _
    rw [Bitmap.bitAt_setBit (by rw [Bitmap.length_zeros]; decide), Bitmap.bitAt_zeros,
      Set.mem_insert_iff, or_iff_left unknown, ofNat_sub_eq_iff bound within le_rfl]
    simp

section Started

variable {window : ReplayWindow} {accepted : Set Sequence} {base : Nat} {sequence : Sequence}

theorem sequenceHalfRange_toNat : sequenceHalfRange.toNat = 2 ^ 31 := rfl

variable (base_eq : window.base.toNat = base) (bounded : base < 2 ^ 32 - 1)

include base_eq bounded

theorem baseSeq_toNat : window.baseSeq.toNat = base := by
  rw [baseSeq, toNat_setWidth, base_eq, Nat.mod_eq_of_lt (by omega)]

theorem toNat_ahead (ahead : base ≤ sequence.toNat) :
    (sequence - window.baseSeq).toNat = sequence.toNat - base := by
  rw [toNat_sub, baseSeq_toNat base_eq bounded]
  omega

theorem toNat_behind (behind : sequence.toNat ≤ base) :
    (window.baseSeq - sequence).toNat = base - sequence.toNat := by
  rw [toNat_sub, baseSeq_toNat base_eq bounded]
  omega

variable (running : window.initialized = true)
  (below : ∀ sequence ∈ accepted, sequence.toNat ≤ base)
  (marked : ∀ delta, delta < replayWindowSize → delta ≤ base →
    (window.bitmap.bitAt delta = true ↔ BitVec.ofNat 32 (base - delta) ∈ accepted))

include running below marked

theorem tracks_forward (usable : sequence ≠ maxSequence) (ahead : base < sequence.toNat)
    (near : sequence.toNat - base < replayWindowSize) :
    ∃ next, window.accept sequence = some next ∧ Tracks next (insert sequence accepted) := by
  have bound := sequence.isLt
  have forward := toNat_ahead base_eq bounded ahead.le
  have window_size : replayWindowSize = 1024 := rfl
  have taken : sequence - window.baseSeq ≠ 0#32 ∧
      sequence - window.baseSeq < sequenceHalfRange := by
    constructor
    · intro zero
      have := congrArg BitVec.toNat zero
      rw [forward, toNat_zero] at this
      omega
    · rw [lt_def, forward, sequenceHalfRange_toNat]
      omega
  have accepts : window.accept sequence = some { window with
      base := window.base + (sequence - window.baseSeq).setWidth 64
      bitmap := (window.bitmap.shiftLeft (sequence - window.baseSeq).toNat).setBit 0
      bitmap_length := by
        rw [Bitmap.length_setBit, Bitmap.length_shiftLeft window.bitmap_length] } := by
    rw [accept, if_neg (by simp [running])]
    exact if_pos taken
  refine ⟨_, accepts,
    .started sequence.toNat running ?_ (toNat_lt_maxSequence usable) ?_ ?_ ?_⟩
  · simp only [toNat_add, toNat_setWidth, base_eq, forward]
    omega
  · simp
  · rintro other (rfl | known)
    · exact le_rfl
    · have := below other known
      omega
  · intro delta inside within
    have room : 0 < 8 * (window.bitmap.shiftLeft (sequence - window.baseSeq).toNat).length := by
      rw [Bitmap.length_shiftLeft window.bitmap_length]
      decide
    rw [Bitmap.bitAt_setBit room, Bitmap.bitAt_shiftLeft window.bitmap_length inside, forward,
      Bool.or_eq_true, decide_eq_true_iff, Set.mem_insert_iff,
      ofNat_sub_eq_iff bound within le_rfl, Nat.sub_self]
    apply or_congr_right
    by_cases low : delta < sequence.toNat - base
    · rw [if_pos low]
      constructor
      · intro absurd
        cases absurd
      · intro known
        have := below _ known
        simp only [toNat_ofNat] at this
        omega
    · rw [if_neg low, marked _ (by omega) (by omega)]
      have same : base - (delta - (sequence.toNat - base)) = sequence.toNat - delta := by omega
      rw [same]

theorem tracks_behind (newest : BitVec.ofNat 32 base ∈ accepted)
    (behind : sequence.toNat ≤ base) (near : base - sequence.toNat < replayWindowSize) :
    (sequence ∈ accepted → window.accept sequence = none) ∧ (sequence ∉ accepted →
        ∃ next, window.accept sequence = some next ∧ Tracks next (insert sequence accepted)) := by
  have baseSeq := baseSeq_toNat base_eq bounded
  have window_size : replayWindowSize = 1024 := rfl
  have delta := toNat_behind base_eq bounded behind
  have place : ∀ place, place ≤ base →
      (BitVec.ofNat 32 (base - place) = sequence ↔ place = base - sequence.toNat) :=
    fun place within => ofNat_sub_eq_iff (by omega) within behind
  have mark := marked (base - sequence.toNat) near (Nat.sub_le _ _)
  rw [(place _ (Nat.sub_le _ _)).2 rfl] at mark
  have stays : ¬ (sequence - window.baseSeq ≠ 0#32 ∧
      sequence - window.baseSeq < sequenceHalfRange) := by
    rintro ⟨nonzero, half⟩
    rw [lt_def, toNat_sub, baseSeq, sequenceHalfRange_toNat] at half
    rcases Nat.eq_or_lt_of_le behind with equal | less
    · apply nonzero
      apply eq_of_toNat_eq
      rw [toNat_sub, baseSeq, toNat_zero]
      omega
    · omega
  have body : window.accept sequence =
      if window.bitmap.bitAt (base - sequence.toNat) then none
      else some { window with
        bitmap := window.bitmap.setBit (base - sequence.toNat)
        bitmap_length := by rw [Bitmap.length_setBit, window.bitmap_length] } := by
    simp only [accept, running, delta]
    rw [if_neg (by simp), if_neg stays, if_neg (by omega)]
  constructor
  · intro known
    rw [body, if_pos (mark.2 known)]
  · intro known
    rw [if_neg (fun set => known (mark.1 set))] at body
    refine ⟨_, body, .started base running base_eq bounded (.inr newest) ?_ ?_⟩
    · rintro other (rfl | old)
      · exact behind
      · exact below other old
    · intro delta inside within
      have room : base - sequence.toNat < 8 * window.bitmap.length := by
        rw [window.bitmap_length]
        exact Nat.lt_of_lt_of_eq near (by rfl)
      rw [Bitmap.bitAt_setBit room, Bool.or_eq_true, decide_eq_true_iff,
        marked delta inside within, Set.mem_insert_iff, place delta within]

end Started

/-- The numeric sliding set: a number is fresh when it was not accepted before and none of the
accepted ones lies a window or more ahead of it. -/
def Fresh (accepted : Set Sequence) (sequence : Sequence) : Prop :=
  sequence ≠ maxSequence ∧ sequence ∉ accepted ∧
    ∀ newest ∈ accepted, newest.toNat < sequence.toNat + replayWindowSize

section Replay

variable {window : ReplayWindow} {accepted : Set Sequence}

theorem Tracks.verdict (tracks : Tracks window accepted) (sequence : Sequence) :
    (Fresh accepted sequence ∧
      ∃ next, window.replay sequence = some next ∧ Tracks next (insert sequence accepted)) ∨
    (¬ Fresh accepted sequence ∧ window.replay sequence = none) := by
  rw [replay]
  by_cases last : sequence = maxSequence
  · exact .inr ⟨fun fresh => fresh.1 last, if_pos last⟩
  rw [if_neg last]
  cases tracks with
  | fresh empty none =>
    subst empty none
    exact .inl ⟨⟨last, by simp, by simp⟩, tracks_started ∅ last (by simp)⟩
  | started base running base_eq bounded newest below marked =>
    have baseSeq := baseSeq_toNat base_eq bounded
    have size : replayWindowSize = 1024 := rfl
    rcases Nat.lt_or_ge base sequence.toNat with ahead | behind
    · have gap := toNat_ahead base_eq bounded ahead.le
      have fresh : Fresh accepted sequence := by
        refine ⟨last, fun known => ?_, fun other known => ?_⟩ <;> have := below _ known <;> omega
      rw [if_neg (by rintro ⟨_, less, _⟩; rw [lt_def, baseSeq] at less; omega)]
      refine .inl ⟨fresh, ?_⟩
      by_cases far : replayWindowSize ≤ sequence.toNat - base
      · rw [if_pos ⟨running, by rw [lt_def, baseSeq]; exact ahead, gap ▸ far⟩]
        exact tracks_started accepted last fun other known => by have := below other known; omega
      · rw [if_neg (by rintro ⟨_, _, long⟩; exact far (gap ▸ long))]
        exact tracks_forward base_eq bounded running below marked last ahead (by omega)
    · have gap := toNat_behind base_eq bounded behind
      by_cases near : base - sequence.toNat < replayWindowSize
      · rw [if_neg (by rintro ⟨_, _, old⟩; omega),
          if_neg (by rintro ⟨_, less, _⟩; rw [lt_def, baseSeq] at less; omega)]
        have verdict := tracks_behind base_eq bounded running below marked newest behind near
        by_cases known : sequence ∈ accepted
        · exact .inr ⟨fun fresh => fresh.2.1 known, verdict.1 known⟩
        · refine .inl ⟨⟨last, known, fun other held => ?_⟩, verdict.2 known⟩
          have := below other held
          omega
      · rw [if_pos ⟨running, by rw [lt_def, baseSeq]; omega, by omega⟩]
        refine .inr ⟨fun fresh => ?_, rfl⟩
        have := fresh.2.2 _ newest
        rw [toNat_ofNat] at this
        omega

theorem Tracks.replay {next : ReplayWindow} (tracks : Tracks window accepted)
    (taken : window.replay sequence = some next) :
    sequence ≠ maxSequence ∧ sequence ∉ accepted ∧ Tracks next (insert sequence accepted) := by
  rcases tracks.verdict sequence with ⟨fresh, _, accepts, tracks⟩ | ⟨_, refused⟩
  · rw [taken] at accepts
    cases accepts
    exact ⟨fresh.1, fresh.2.1, tracks⟩
  · rw [taken] at refused
    cases refused

end Replay

def feed (state : ReplayWindow × List Sequence) (sequence : Sequence) :
    ReplayWindow × List Sequence :=
  match state.1.replay sequence with
  | none => state
  | some next => (next, sequence :: state.2)

def Faithful (state : ReplayWindow × List Sequence) : Prop :=
  Tracks state.1 {number | number ∈ state.2}

theorem Faithful.feed {state : ReplayWindow × List Sequence} (faithful : Faithful state)
    (sequence : Sequence) : Faithful (feed state sequence) := by
  rw [ReplayWindow.feed]
  split
  · exact faithful
  · rename_i next taken
    have inserted : {number | number ∈ sequence :: state.2} =
        insert sequence {number | number ∈ state.2} := Set.ext fun number => mem_cons
    rw [Faithful, inserted]
    exact (Tracks.replay faithful taken).2.2

/-- The shifted bitmap implements the numeric sliding set. -/
theorem replay_isSome_iff (inputs : List Sequence) (sequence : Sequence) :
    ((run feed ({}, []) inputs).1.replay sequence).isSome ↔
      sequence ≠ maxSequence ∧ sequence ∉ (run feed ({}, []) inputs).2 ∧
        ∀ newest ∈ ((run feed ({}, []) inputs).2.map BitVec.toNat).max?,
          newest < sequence.toNat + replayWindowSize := by
  have faithful : Faithful (run feed ({}, []) inputs) :=
    run_invariant (fun _ sequence faithful => faithful.feed sequence) (.fresh rfl (by simp)) inputs
  generalize run feed ({}, []) inputs = state at faithful
  have newest : (∀ newest ∈ (state.2.map BitVec.toNat).max?,
      newest < sequence.toNat + replayWindowSize) ↔
      ∀ number ∈ state.2, number.toNat < sequence.toNat + replayWindowSize := by
    constructor
    · intro below number known
      have member : number.toNat ∈ state.2.map BitVec.toNat := mem_map_of_mem known
      obtain ⟨newest, greatest⟩ := Option.isSome_iff_exists.1 (isSome_max?_of_mem member)
      have := (max?_eq_some_iff.1 greatest).2 _ member
      have := below newest greatest
      omega
    · intro below newest greatest
      obtain ⟨number, known, rfl⟩ := mem_map.1 (max?_eq_some_iff.1 greatest).1
      exact below number known
  rw [newest]
  change _ ↔ Fresh {number | number ∈ state.2} sequence
  rcases Tracks.verdict faithful sequence with ⟨fresh, _, accepts, _⟩ | ⟨stale, refused⟩
  · simpa [accepts] using fresh
  · simpa [refused] using stale

end ReplayWindow

theorem toNat_add_one (usable : sequence ≠ maxSequence) :
    (sequence + 1).toNat = sequence.toNat + 1 := by
  have bound := ReplayWindow.toNat_lt_maxSequence usable
  exact Nat.mod_eq_of_lt (show sequence.toNat + 1 < 2 ^ 32 by omega)

end OpenPpp2.P2P
