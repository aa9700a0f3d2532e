import Mathlib.Data.UInt
import Mathlib.Data.List.Induction
import OpenPpp2.Lib.XorBlock
import OpenPpp2.Mux.Frame

/-!
# The XOR parity codec

`MuxFecEncoder` folds sent frames into one parity block; each frame enters as its 2-byte big-endian
length followed by its bytes, zero-padded to the longest block so far.
-/

namespace OpenPpp2.Mux.FecCodec

open Lib.BigEndian Lib.XorBlock List

structure FrameId where
  connectionId : ConnectionId
  sequence : SeqNumber
  deriving DecidableEq, Repr

def block (frame : List UInt8) : List UInt8 := bigEndian 2 frame.length ++ frame

structure Encoder where
  entries : List FrameId
  parity : List UInt8
  firstAddTick : Nat
  deriving DecidableEq, Repr

namespace Encoder

def reset (now : Nat) : Encoder :=
  { entries := []
    parity := []
    firstAddTick := now }

def add (encoder : Encoder) (id : FrameId) (frame : List UInt8) : Encoder :=
  let size := frame.length + 2
  let sized :=
    if encoder.entries.isEmpty then List.replicate size 0
    else if encoder.parity.length < size then grow size encoder.parity
    else encoder.parity
  { encoder with
    parity := xorInto sized (block frame)
    entries := encoder.entries ++ [id] }

def count (encoder : Encoder) : Nat := encoder.entries.length

def maxPayloadSize (encoder : Encoder) : Nat :=
  1 + encoder.entries.length * 8 + 2 + encoder.parity.length

def entryBytes (id : FrameId) : List UInt8 :=
  bigEndian 4 id.connectionId.toNat ++ bigEndian 4 id.sequence.toNat

def build (encoder : Encoder) (capacity : Int) : Option (List UInt8) :=
  if encoder.entries.isEmpty || encoder.entries.length > 255 ||
      encoder.parity.length > 0xFFFF then none
  else if capacity < 0 || capacity.toNat < encoder.maxPayloadSize then none
  else
    some (UInt8.ofNat encoder.entries.length ::
      (encoder.entries.flatMap entryBytes ++ (bigEndian 2 encoder.parity.length ++ encoder.parity)))

end Encoder

structure FrameView where
  entries : List FrameId
  parity : List UInt8
  deriving DecidableEq, Repr

def parseEntries : Nat → List UInt8 → List FrameId × List UInt8
  | 0, bytes => ([], bytes)
  | count + 1, bytes =>
    let id : FrameId :=
      { connectionId := BitVec.ofNat 32 (ofBigEndian (bytes.take 4))
        sequence := BitVec.ofNat 32 (ofBigEndian ((bytes.drop 4).take 4)) }
    let later := parseEntries count (bytes.drop 8)
    (id :: later.1, later.2)

def parseMuxFecFrame (payload : List UInt8) (maxCount : Int) : Option FrameView :=
  match payload with
  | [] => none
  | count :: body =>
    if count.toNat = 0 ∨ (count.toNat : Int) > maxCount ∨
        body.length < count.toNat * 8 + 2 then none
    else
      let parsed := parseEntries count.toNat body
      let parityLength := ofBigEndian (parsed.2.take 2)
      let parity := parsed.2.drop 2
      if parityLength < 3 ∨ parityLength ≠ parity.length then none
      else some { entries := parsed.1, parity := parity }

/-- The XOR loop of the recovery: every slot but the missing one must hold a
frame that fits the parity block. -/
def recoverLoop (present : Nat → Option (List UInt8)) (missing parityLength : Nat) :
    List Nat → List UInt8 → Option (List UInt8)
  | [], recovered => some recovered
  | slot :: rest, recovered =>
    if slot = missing then recoverLoop present missing parityLength rest recovered
    else
      match present slot with
      | none => none
      | some frame =>
        if frame.length + 2 > parityLength then none
        else
          recoverLoop present missing parityLength rest (xorInto recovered (block frame))

def muxFecRecover (view : FrameView) (present : Nat → Option (List UInt8))
    (missing : Int) (capacity : Int) : Option (List UInt8) :=
  let count := view.entries.length
  let parityLength := view.parity.length
  if missing < 0 ∨ missing ≥ count ∨ parityLength < 3 then none
  else
    match recoverLoop present missing.toNat parityLength (List.range count) view.parity with
    | none => none
    | some recovered =>
      let length := ofBigEndian (recovered.take 2)
      if length = 0 ∨ length + 2 > parityLength ∨ (length : Int) > capacity then none
      else some ((recovered.drop 2).take length)

def encodeGroup (now : Nat) (frames : List (FrameId × List UInt8)) : Encoder :=
  frames.foldl (fun encoder frame => encoder.add frame.1 frame.2) (Encoder.reset now)

/-- What the accumulator holds after a list of frames: their ids in order, and
in every position the XOR of their blocks. -/
structure Encodes (encoder : Encoder) (frames : List (FrameId × List UInt8)) : Prop where
  entries_eq : encoder.entries = frames.map Prod.fst
  parity_getD : ∀ index,
    encoder.parity.getD index 0 = column index (frames.map fun frame => block frame.2)
  fits : ∀ frame ∈ frames, frame.2.length + 2 ≤ encoder.parity.length
  bounded : ∀ bound, (∀ frame ∈ frames, frame.2.length + 2 ≤ bound) → encoder.parity.length ≤ bound

@[simp] theorem block_length (frame : List UInt8) : (block frame).length = frame.length + 2 := by
  simp only [block, length_append, bigEndian_length]
  omega

variable (now : Nat) {missing : Nat}

theorem encodes_reset : Encodes (Encoder.reset now) [] where
  entries_eq := rfl
  parity_getD := by simp [Encoder.reset, column]
  fits := by simp
  bounded := by simp [Encoder.reset]

variable {encoder : Encoder}

theorem add_parity {frames : List (FrameId × List UInt8)}
    (encodes : Encodes encoder frames) (id : FrameId) (frame : List UInt8) :
    (encoder.add id frame).parity.length = max encoder.parity.length (frame.length + 2) ∧
      ∀ index, (encoder.add id frame).parity.getD index 0 =
        encoder.parity.getD index 0 ^^^ (block frame).getD index 0 := by
  have emptyParity : encoder.entries.isEmpty → encoder.parity = [] := by
    intro empty
    have noFrames : frames = [] := by
      have := encodes.entries_eq
      simpa [isEmpty_iff.mp empty] using this.symm
    have short := encodes.bounded 0 (by simp [noFrames])
    exact length_eq_zero_iff.mp (Nat.le_zero.mp short)
  simp only [Encoder.add]
  split_ifs with empty short
  · have zeros : replicate (frame.length + 2) (0 : UInt8) = grow (frame.length + 2) [] := by
      simp [grow]
    rw [emptyParity empty, zeros]
    refine ⟨by simp, fun index => ?_⟩
    rw [getD_xorInto (by simp), getD_grow]
  · refine ⟨by simp, fun index => ?_⟩
    rw [getD_xorInto (by simp), getD_grow]
  · refine ⟨by simp only [length_xorInto]; omega, fun index => ?_⟩
    rw [getD_xorInto (by simp only [block_length]; omega)]

theorem encodes_add {frames : List (FrameId × List UInt8)}
    (encodes : Encodes encoder frames) (id : FrameId) (frame : List UInt8) :
    Encodes (encoder.add id frame) (frames ++ [(id, frame)]) := by
  obtain ⟨length_eq, getD_eq⟩ := add_parity encodes id frame
  refine ⟨?_, ?_, ?_, ?_⟩
  · simp [Encoder.add, encodes.entries_eq]
  · intro index
    rw [getD_eq, encodes.parity_getD, map_append, column_append]
    simp [column]
  · intro member inside
    rw [length_eq]
    rcases mem_append.mp inside with earlier | last
    · exact (encodes.fits member earlier).trans (Nat.le_max_left _ _)
    · rw [mem_singleton.mp last]
      exact Nat.le_max_right _ _
  · intro bound within
    rw [length_eq]
    have earlier := encodes.bounded bound fun member inside =>
      within member (mem_append_left _ inside)
    have last := within (id, frame) (by simp)
    exact Nat.max_le.mpr ⟨earlier, last⟩

theorem encodes_group (frames : List (FrameId × List UInt8)) :
    Encodes (encodeGroup now frames) frames := by
  induction frames using reverseRecOn with
  | nil => exact encodes_reset now
  | append_singleton earlier frame ih =>
    have step := encodes_add ih frame.1 frame.2
    simpa [encodeGroup, foldl_append] using step

@[simp] theorem entryBytes_length (id : FrameId) : (Encoder.entryBytes id).length = 8 := by
  simp [Encoder.entryBytes]

theorem parseEntries_entryBytes (ids : List FrameId) (tail : List UInt8) :
    parseEntries ids.length (ids.flatMap Encoder.entryBytes ++ tail) = (ids, tail) := by
  induction ids with
  | nil => rfl
  | cons id rest ih =>
    have first := bigEndian_length 4 id.connectionId.toNat
    have second := bigEndian_length 4 id.sequence.toNat
    simp only [flatMap_cons, length_cons, append_assoc, parseEntries]
    rw [drop_left' (entryBytes_length id), ih]
    simp only [Encoder.entryBytes, append_assoc]
    rw [take_left' first, drop_left' first, take_left' second, ofNat_ofBigEndian_bigEndian,
      ofNat_ofBigEndian_bigEndian]

theorem parse_build {capacity maxCount : Int} {payload : List UInt8}
    (built : encoder.build capacity = some payload)
    (admitted : (encoder.count : Int) ≤ maxCount) (parityFits : 3 ≤ encoder.parity.length) :
    parseMuxFecFrame payload maxCount =
      some { entries := encoder.entries, parity := encoder.parity } := by
  unfold Encoder.build at built
  split_ifs at built with refused short
  simp only [Bool.or_eq_true, decide_eq_true_eq, List.isEmpty_iff, not_or, Nat.not_lt] at refused
  obtain ⟨⟨nonempty, countBound⟩, parityBound⟩ := refused
  have countByte : (UInt8.ofNat encoder.entries.length).toNat = encoder.entries.length := by
    rw [UInt8.toNat_ofNat', Nat.mod_eq_of_lt (by omega)]
  have countPos : encoder.entries.length ≠ 0 := by
    simpa [length_eq_zero_iff] using nonempty
  have parityWord : ofBigEndian (bigEndian 2 encoder.parity.length) = encoder.parity.length := by
    rw [ofBigEndian_bigEndian, Nat.mod_eq_of_lt (by omega)]
  obtain rfl := Option.some.inj built
  have bodyLength : (encoder.entries.flatMap Encoder.entryBytes).length =
      encoder.entries.length * 8 := by
    simp [length_flatMap, map_const']
  simp only [parseMuxFecFrame, countByte]
  rw [if_neg, parseEntries_entryBytes]
  · simp only [take_left' (bigEndian_length 2 encoder.parity.length), parityWord,
      drop_left' (bigEndian_length 2 encoder.parity.length)]
    rw [if_neg (by omega)]
  · simp only [Encoder.count] at admitted
    simp only [length_append, bodyLength, bigEndian_length]
    omega

theorem recoverLoop_eq {present : Nat → Option (List UInt8)} {frame : Nat → List UInt8}
    {parityLength : Nat} (slots : List Nat) (recovered : List UInt8)
    (own : ∀ slot ∈ slots, slot ≠ missing → present slot = none ∨ present slot = some (frame slot))
    (fits : ∀ slot ∈ slots, (frame slot).length + 2 ≤ parityLength) :
    recoverLoop present missing parityLength slots recovered =
      if ∀ slot ∈ slots, slot ≠ missing → (present slot).isSome then
        some (((slots.filter (· != missing)).map fun slot => block (frame slot)).foldl xorInto
          recovered) else none := by
  induction slots generalizing recovered with
  | nil => simp [recoverLoop]
  | cons slot rest ih =>
    simp only [forall_mem_cons] at own fits
    by_cases skipped : slot = missing
    · simp [recoverLoop, skipped, ih recovered own.2 fits.2]
    · rcases own.1 skipped with absent | found
      · simp [recoverLoop, skipped, absent]
      · have room : ¬ (frame slot).length + 2 > parityLength := by omega
        simp [recoverLoop, skipped, found, room, ih _ own.2 fits.2]

theorem read_block {buffer frame : List UInt8} (fits : frame.length + 2 ≤ buffer.length)
    (reads : ∀ index, buffer.getD index 0 = (block frame).getD index 0) :
    buffer.take 2 = bigEndian 2 frame.length ∧ (buffer.drop 2).take frame.length = frame := by
  have grown : buffer = grow buffer.length (block frame) := by
    apply ext_getElem
    · simp only [length_grow, block_length]
      omega
    · intro index inside insideGrown
      have same := (reads index).trans (getD_grow buffer.length index (block frame)).symm
      simpa only [getD_eq_getElem?_getD, getElem?_eq_getElem inside,
        getElem?_eq_getElem insideGrown, Option.getD_some] using same
  rw [grown]
  simp only [grow, block, append_assoc]
  rw [take_left' (by simp), drop_left' (by simp), take_left' rfl]
  exact ⟨rfl, rfl⟩

section Recovery

variable {frames : List (FrameId × List UInt8)} {encoder : Encoder}

def slotFrame (frames : List (FrameId × List UInt8)) (slot : Nat) : List UInt8 :=
  (frames.getD slot (⟨0, 0⟩, [])).2

theorem slotFrame_eq {slot : Nat} (inside : slot < frames.length) :
    slotFrame frames slot = frames[slot].2 := by
  simp [slotFrame, getD_eq_getElem?_getD, inside]

theorem map_slotFrame : (List.range frames.length).map (fun slot => block (slotFrame frames slot)) =
    frames.map fun frame => block frame.2 := by
  apply ext_getElem
  · simp
  · intro index inside insideFrames
    have bound : index < frames.length := by simpa using insideFrames
    simp [slotFrame_eq bound]

theorem recover_missing (encodes : Encodes encoder frames)
    (sized : ∀ frame ∈ frames, 1 ≤ frame.2.length ∧ frame.2.length ≤ 60000)
    {missing : Nat} (inside : missing < frames.length) (present : Nat → Option (List UInt8))
    {capacity : Int} (own : ∀ slot, slot < frames.length → slot ≠ missing →
      present slot = none ∨ present slot = some (slotFrame frames slot)) :
    muxFecRecover { entries := encoder.entries, parity := encoder.parity } present missing
        capacity =
      if (∀ slot ∈ range frames.length, slot ≠ missing → (present slot).isSome) ∧
        (slotFrame frames missing).length ≤ capacity then some (slotFrame frames missing)
      else none := by
  have fits : ∀ slot ∈ range frames.length,
      (slotFrame frames slot).length + 2 ≤ encoder.parity.length := by
    intro slot member
    rw [slotFrame_eq (mem_range.mp member)]
    exact encodes.fits _ (getElem_mem _)
  have missingFits := fits missing (mem_range.mpr inside)
  have missingSized := sized _ (getElem_mem inside)
  rw [← slotFrame_eq inside] at missingSized
  have count_eq : encoder.entries.length = frames.length := by simp [encodes.entries_eq]
  have valid : ¬ ((missing : Int) < 0 ∨ (missing : Int) ≥ (frames.length : Int) ∨
      encoder.parity.length < 3) := by omega
  simp only [muxFecRecover, count_eq, if_neg valid, Int.toNat_natCast]
  rw [recoverLoop_eq _ _ (fun slot member => own slot (mem_range.mp member)) fits]
  by_cases complete : ∀ slot ∈ range frames.length, slot ≠ missing → (present slot).isSome
  · simp only [if_pos complete]
    generalize made : foldl xorInto encoder.parity _ = result
    have reads : ∀ index,
        result.getD index 0 = (block (slotFrame frames missing)).getD index 0 := by
      intro index
      rw [← made, getD_foldl_xorInto, encodes.parity_getD, ← map_slotFrame]
      · exact column_filter_ne index (fun slot => block (slotFrame frames slot))
          nodup_range (mem_range.mpr inside)
      · intro _ member
        rcases mem_map.mp member with ⟨slot, kept, rfl⟩
        rw [block_length]
        exact fits slot (mem_of_mem_filter kept)
    have length_eq : result.length = encoder.parity.length := by
      rw [← made, length_foldl_xorInto]
    obtain ⟨lead_eq, body_eq⟩ := read_block (by omega) reads
    have lengthWord : ofBigEndian (result.take 2) = (slotFrame frames missing).length := by
      rw [lead_eq, ofBigEndian_bigEndian, Nat.mod_eq_of_lt (by omega)]
    simp only [lengthWord, body_eq]
    by_cases short : ((slotFrame frames missing).length : Int) ≤ capacity
    · rw [if_neg (by omega), if_pos ⟨complete, short⟩]
    · rw [if_pos (by omega), if_neg (fun given => short given.2)]
  · rw [if_neg complete, if_neg (fun given => complete given.1)]

end Recovery

/-- Single-loss recovery. The payload of any group of at most 255 frames of 1 to
60000 bytes parses back to the ids in order, and every frame of the group is
recovered exactly from the others; fed with the group's own frames only, the
recovery never yields anything but the true frame. -/
theorem fec_single_loss_recovery (now : Nat) (frames : List (FrameId × List UInt8))
    (nonempty : frames ≠ []) (atMost : frames.length ≤ 255)
    (sized : ∀ frame ∈ frames, 1 ≤ frame.2.length ∧ frame.2.length ≤ 60000)
    (capacity maxCount : Int) (admitted : (frames.length : Int) ≤ maxCount) :
    (((encodeGroup now frames).maxPayloadSize : Int) ≤ capacity →
      ((encodeGroup now frames).build capacity).isSome = true) ∧
    ∀ payload, (encodeGroup now frames).build capacity = some payload →
      ∃ view, parseMuxFecFrame payload maxCount = some view ∧ view.entries = frames.map Prod.fst ∧
        (∀ (missing : Nat) (inside : missing < frames.length)
            (present : Nat → Option (List UInt8)) (room : Int),
          (∀ (slot : Nat) (bound : slot < frames.length), slot ≠ missing →
            present slot = some frames[slot].2) → (frames[missing].2.length : Int) ≤ room →
          muxFecRecover view present missing room = some frames[missing].2) ∧
        ∀ (missing : Nat) (inside : missing < frames.length)
            (present : Nat → Option (List UInt8)) (room : Int),
          (∀ (slot : Nat) (bound : slot < frames.length),
            present slot = none ∨ present slot = some frames[slot].2) →
          muxFecRecover view present missing room = none ∨
            muxFecRecover view present missing room = some frames[missing].2 := by
  have encodes := encodes_group now frames
  have count_eq : (encodeGroup now frames).entries.length = frames.length := by
    simp [encodes.entries_eq]
  have entriesNonempty : (encodeGroup now frames).entries ≠ [] := by
    simpa [encodes.entries_eq] using nonempty
  have parityBound := encodes.bounded 60002 fun frame member => by
      have := (sized frame member).2
      omega
  obtain ⟨first, firstMember⟩ := exists_mem_of_ne_nil frames nonempty
  have parityFits : 3 ≤ (encodeGroup now frames).parity.length := by
    have fits := encodes.fits first firstMember
    have := (sized first firstMember).1
    omega
  constructor
  · intro room
    unfold Encoder.build
    rw [if_neg (by simp [entriesNonempty]; omega), if_neg (by simp; omega)]
    rfl
  · intro payload built
    refine ⟨_, parse_build built (by simpa [Encoder.count, count_eq] using admitted) parityFits,
      encodes.entries_eq, ?_, ?_⟩
    · intro missing inside present room others fitsRoom
      rw [recover_missing encodes sized inside, slotFrame_eq inside, if_pos]
      · refine ⟨fun slot member other => ?_, fitsRoom⟩
        rw [others slot (mem_range.mp member) other]
        rfl
      · intro slot bound other
        rw [slotFrame_eq bound]
        exact .inr (others slot bound other)
    · intro missing inside present room own
      rw [recover_missing encodes sized inside, slotFrame_eq inside]
      · split_ifs
        · exact .inr rfl
        · exact .inl rfl
      · intro slot bound _
        rw [slotFrame_eq bound]
        exact own slot bound

/-- Two frames of different lengths; the longer one resizes the parity. -/
theorem fec_single_loss_recovery_pair :
    let frames : List (FrameId × List UInt8) := [(⟨1, 1⟩, [170]), (⟨1, 2⟩, [1, 2, 3])]
    ∃ payload view, (encodeGroup 0 frames).build 64 = some payload ∧
      parseMuxFecFrame payload 8 = some view ∧
      muxFecRecover view (fun slot => if slot = 0 then some [170] else none) 1 64 =
        some [1, 2, 3] := by
  intro frames
  obtain ⟨builds, parses⟩ := fec_single_loss_recovery 0 frames (by decide) (by decide)
    (by decide) 64 8 (by decide)
  obtain ⟨payload, built⟩ := Option.isSome_iff_exists.mp (builds (by decide))
  obtain ⟨view, parsed, _, recovers, _⟩ := parses payload built
  refine ⟨payload, view, built, parsed, ?_⟩
  refine recovers 1 (by decide) _ 64 ?_ (by decide)
  intro slot bound other
  have first : slot = 0 := by
    simp only [frames, length_cons, length_nil] at bound
    omega
  subst first
  rfl

end OpenPpp2.Mux.FecCodec
