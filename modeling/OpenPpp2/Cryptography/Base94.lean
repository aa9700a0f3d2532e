import OpenPpp2.Cryptography.Ssea
import OpenPpp2.Lib.ByteLayout
import OpenPpp2.Lib.Lanes

/-!
# Decoders of base-94 texts

`base94_decode_scalar`, which reads a text from left to right, and the vector decoders of the SSE,
SSE2, SSE4.1 and AVX2 levels, which classify a block of characters at once.
-/

namespace OpenPpp2.Base94

open Lib.ByteLayout Lib.Lanes Ssea UInt8

/-- The buffer of a decoder, which starts as zeros, and the place of the next byte. -/
structure Output where
  memory : Nat → UInt8
  op : Nat

def Output.new : Output := { memory := fun _ => 0, op := 0 }

def Output.put (out : Output) (byte : UInt8) : Output :=
  { memory := Function.update out.memory out.op byte, op := out.op + 1 }

def Output.returned (out : Output) (length : Nat) : Bytes := (List.range length).map out.memory

/-- The first pass: every character is checked, and the length of the result is counted. -/
def scalarLength : Bytes → Option Nat
  | [] => some 0
  | char :: rest =>
    if char < 0x20 then none
    else if char - 0x20 > 94 then none
    else if 93 ≤ char - 0x20 then
      match rest with
      | [] => none
      | next :: rest =>
        if next < 0x20 then none
        else if next - 0x20 > 93 then none
        else (scalarLength rest).map (· + 1)
    else (scalarLength rest).map (· + 1)

def scalarValues (kf : BitVec 32) : Bytes → Option Bytes
  | [] => some []
  | char :: rest =>
    if 93 ≤ char - 0x20 then
      match rest with
      | [] => none
      | next :: rest =>
        let value := ((char - 0x20).toNat - 93 + 1) * 93 + (next - 0x20).toNat
        if value > 0xff then none
        else (scalarValues kf rest).map ((ofNat value + lowByte kf) :: ·)
    else (scalarValues kf rest).map ((char - 0x20 + lowByte kf) :: ·)

def base94DecodeScalar (kf : BitVec 32) (bytes : Bytes) : Option Bytes :=
  if bytes.length < 1 then none
  else
    match scalarLength bytes, scalarValues kf bytes with
    | some length, some values => some ((values.foldl Output.put Output.new).returned length)
    | _, _ => none

structure Classified where
  vbad : BitVec 16
  esc : BitVec 16
  v : Register

/-- `_mm_or_si128(_mm_and_si128(esc, v_esc), _mm_andnot_si128(esc, v_norm))`. -/
def selectMasked (norm escaped esc : Register) : Register :=
  or8 (and8 esc escaped) (andnot8 esc norm)

/-- The kernel before the values are gathered. Comparisons are signed, so that both sides
have their top bit flipped. -/
def classify (select : Register → Register → Register → Register) (c16 : Register) : Classified :=
  let cb := xor8 c16 (set1 0x80)
  let esc := cmpgt cb (set1 (0x7C ^^^ 0x80))
  let tilde := cmpgt cb (set1 (0x7D ^^^ 0x80))
  let nxt := srli 1 c16
  let nb := xor8 nxt (set1 0x80)
  let nxtOff := sub8 nxt (set1 0x20)
  let bad := or8 (cmpgt (set1 (0x20 ^^^ 0x80)) cb) (cmpgt cb (set1 (0x7E ^^^ 0x80)))
  let badNext := or8 (cmpgt (set1 (0x20 ^^^ 0x80)) nb) (cmpgt nb (set1 (0x7E ^^^ 0x80)))
  let nextEsc := cmpgt nb (set1 (0x7D ^^^ 0x80))
  let nextHi := cmpgt nb (set1 (0x65 ^^^ 0x80))
  let ovf := or8 (and8 esc nextEsc) (and8 tilde nextHi)
  let vEsc := add8 (add8 (and8 tilde (set1 93)) (set1 93)) nxtOff
  let vNorm := sub8 c16 (set1 0x20)
  { vbad := movemask (or8 (or8 bad badNext) ovf) &&& 0xFF
    esc := movemask esc &&& 0xFF
    v := select vNorm vEsc esc }

/-- `_mm_loadl_epi64`. -/
def loadl (rest : Bytes) : Register := fun lane => if lane.val < 8 then byteAt lane.val rest else 0

/-- `_mm_cvtsi32_si128` of a byte. -/
def cvtsi32 (byte : UInt8) : Register := fun lane => if lane.val = 0 then byte else 0

/-- `[c0..c7, c8, 0..0]`. -/
def window (rest : Bytes) : Register := or8 (loadl rest) (slli 8 (cvtsi32 (byteAt 8 rest)))

def deleted (esc carry : BitVec 16) : BitVec 16 := ((esc <<< 1) &&& 0xFF) ||| carry

/-- The escape character at the end of a block, which takes the next block's first. -/
def carried (esc : BitVec 16) : BitVec 16 := (esc >>> 7) &&& 1

def kept (del : BitVec 16) : List Nat := (List.range 8).filter fun place => !del.getLsbD place

def popcount8 (mask : BitVec 16) : Nat := (List.range 8).countP fun place => mask.getLsbD place

def decodeTable (del : BitVec 16) : Register :=
  fun lane => ((kept del)[lane.val]?).elim 0 fun place => ofNat (2 * place)

def gatherEach (kf : BitVec 32) (v : Register) (del : BitVec 16) (out : Output) : Output :=
  (kept del).foldl (fun out place => out.put (v (Fin.ofNat 16 place) + lowByte kf)) out

/-- The gather of the other levels: one shuffle, and a store of all sixteen lanes. -/
def gatherShuffle (kf : BitVec 32) (v : Register) (del : BitVec 16) (out : Output) : Output :=
  { memory := store out.memory out.op
      (add8 (shuffle (unpacklo v v) (decodeTable del)) (set1 (lowByte kf)))
    op := out.op + (8 - popcount8 del) }

/-- What a round of a vector loop goes on with, unless it falls back to the scalar decoder. -/
abbrev Round := Bytes → BitVec 16 → Output → Option (BitVec 16 × Output)

def narrowRound (select : Register → Register → Register → Register)
    (gather : Register → BitVec 16 → Output → Output) : Round := fun rest carry out =>
  let found := classify select (window rest)
  if found.vbad ≠ 0#16 then none
  else some (carried found.esc, gather found.v (deleted found.esc carry) out)

/-- A round of AVX2: the instructions work on two lanes of 128 bits apart, one for each
block. -/
def wideRound (kf : BitVec 32) : Round := fun rest carry out =>
  let first := classify blendv (window rest)
  let second := classify blendv (window (rest.drop 8))
  if first.vbad ≠ 0#16 ∨ second.vbad ≠ 0#16 then none
  else
    let out := gatherShuffle kf first.v (deleted first.esc carry) out
    some (carried second.esc,
      gatherShuffle kf second.v (deleted second.esc (carried first.esc)) out)

def vectorLoop (block : Nat) (round : Round) (rest : Bytes) (carry : BitVec 16) (out : Output) :
    Option (Bytes × BitVec 16 × Output) :=
  if 0 < block ∧ block + 1 ≤ rest.length then
    match round rest carry out with
    | none => none
    | some (carry, out) => vectorLoop block round (rest.drop block) carry out
  else some (rest, carry, out)
termination_by rest.length
decreasing_by
  rw [List.length_drop]
  omega

def tailValid : Bytes → Bool
  | [] => true
  | char :: rest =>
    if char < 0x20 ∨ char > 0x7E then false
    else if 0x7D ≤ char then
      match rest with
      | [] => false
      | next :: rest =>
        if next < 0x20 ∨ next > 0x7E then false
        else if next - 0x20 > 93 ∨ (char = 0x7E ∧ next - 0x20 > 69) then false
        else tailValid rest
    else tailValid rest

def escapes : Bytes → Nat
  | [] => 0
  | char :: rest =>
    if 0x7D ≤ char then
      match rest with
      | [] => 1
      | _ :: rest => escapes rest + 1
    else escapes rest

def outLength (bytes : Bytes) : Nat := bytes.length - escapes bytes

/-- A vector decoder: short texts and texts with a violation go to the scalar one. -/
def decodeVector (block : Nat) (round : Round) (kf : BitVec 32) (bytes : Bytes) : Option Bytes :=
  if bytes.length < 1 then none
  else if bytes.length < 16 then base94DecodeScalar kf bytes
  else
    match vectorLoop block round bytes 0 Output.new with
    | none => base94DecodeScalar kf bytes
    | some (rest, carry, out) =>
      let tail := rest.drop carry.toNat
      if tailValid tail then
        (scalarValues kf tail).map fun values =>
          (values.foldl Output.put out).returned (outLength bytes)
      else base94DecodeScalar kf bytes

def base94DecodeSse (kf : BitVec 32) : Bytes → Option Bytes :=
  decodeVector 8 (narrowRound selectMasked (gatherShuffle kf)) kf

def base94DecodeSse2 (kf : BitVec 32) : Bytes → Option Bytes :=
  decodeVector 8 (narrowRound selectMasked (gatherEach kf)) kf

def base94DecodeSse41 (kf : BitVec 32) : Bytes → Option Bytes :=
  decodeVector 8 (narrowRound blendv (gatherShuffle kf)) kf

def base94DecodeAvx2 (kf : BitVec 32) : Bytes → Option Bytes := decodeVector 16 (wideRound kf) kf

open List Option UInt8

structure Output.Holds (out : Output) (written : Bytes) : Prop where
  size : out.op = written.length
  bytes : ∀ place byte, written[place]? = some byte → out.memory place = byte

def Output.Clean (out : Output) : Prop := ∀ place, out.op ≤ place → out.memory place = 0

theorem Output.holds_new : Output.new.Holds [] where
  size := rfl
  bytes place byte found := by simp at found

variable {out : Output} {written : Bytes}

theorem Output.Holds.put (holds : out.Holds written) (byte : UInt8) :
    (out.put byte).Holds (written ++ [byte]) where
  size := by
    rw [length_append, Output.put, holds.size]
    rfl
  bytes place found here := by
    simp only [Output.put, holds.size]
    by_cases last : place = written.length
    · subst last
      rw [getElem?_concat_length, some.injEq] at here
      rw [Function.update_self, here]
    · rw [Function.update_of_ne last]
      have before : place < written.length := by
        have inside := (List.getElem?_eq_some_iff.mp here).1
        rw [length_append, length_singleton] at inside
        omega
      rw [getElem?_append_left before] at here
      exact holds.bytes place found here

theorem Output.Holds.foldl (holds : out.Holds written) (values : Bytes) :
    (values.foldl Output.put out).Holds (written ++ values) := by
  induction values generalizing out written with
  | nil =>
    rw [append_nil]
    exact holds
  | cons byte rest induction =>
    have step := induction (holds.put byte)
    rw [append_assoc, singleton_append] at step
    exact step

theorem Output.Clean.put (clean : out.Clean) (byte : UInt8) : (out.put byte).Clean := by
  intro place after
  simp only [Output.put] at after ⊢
  rw [Function.update_of_ne (by omega)]
  exact clean place (by omega)

theorem Output.Clean.foldl (clean : out.Clean) (values : Bytes) :
    (values.foldl Output.put out).Clean := by
  induction values generalizing out with
  | nil => exact clean
  | cons byte rest induction => exact induction (clean.put byte)

theorem Output.length_returned (length : Nat) : (out.returned length).length = length := by
  rw [returned, length_map, length_range]

theorem Output.Holds.returned (holds : out.Holds written) :
    out.returned written.length = written := by
  apply ext_getElem?
  intro place
  by_cases inside : place < written.length
  · have here := getElem?_eq_getElem inside
    rw [here, Output.returned, getElem?_map, getElem?_range inside, map_some,
      holds.bytes place _ here]
  · rw [getElem?_eq_none (by rw [length_returned]; omega),
      List.getElem?_eq_none (by omega)]

def value (char next : UInt8) : UInt8 :=
  if 0x7D ≤ char then (if 0x7E ≤ char then 93 else 0) + 93 + (next - 0x20) else char - 0x20

def values (key : UInt8) : Bytes → Bytes
  | [] => []
  | [char] => [value char 0 + key]
  | char :: next :: rest =>
    (value char next + key) ::
      if 0x7D ≤ char then values key rest else values key (next :: rest)

def flagged (char next : UInt8) : Bool :=
  decide (char < 0x20) || decide (char > 0x7E) || decide (next < 0x20) || decide (next > 0x7E) ||
    decide (0x7D ≤ char) && decide (0x7E ≤ next) || decide (0x7E ≤ char) && decide (0x65 < next)

variable {char : UInt8} (kf : BitVec 32) (key : UInt8) (text : Bytes)

theorem shifted_tests (low : ¬ char < 0x20) :
    (char - 0x20 > 94 ↔ char > 0x7E) ∧ (93 ≤ char - 0x20 ↔ 0x7D ≤ char) ∧
      (char - 0x20 > 93 ↔ char > 0x7D) ∧ (char - 0x20 > 69 ↔ char > 0x65) := by
  revert char
  apply forall_byte
  decide +kernel

theorem not_low (esc : 0x7D ≤ char) : ¬ char < 0x20 := by
  simp only [le_iff_toNat_le, lt_iff_toNat_lt, reduceToNat] at *
  omega

theorem escape_cases (esc : 0x7D ≤ char) (high : char ≤ 0x7E) : char = 0x7D ∨ char = 0x7E := by
  simp only [le_iff_toNat_le, ← UInt8.toNat_inj, reduceToNat] at *
  omega

theorem tailValid_plain (plain : ¬ 0x7D ≤ char) (rest : Bytes) :
    tailValid (char :: rest) = (decide (0x20 ≤ char) && tailValid rest) := by
  have high : ¬ char > 0x7E := by
    simp only [le_iff_toNat_le, gt_iff_lt, lt_iff_toNat_lt, reduceToNat] at *
    omega
  rw [tailValid.eq_def]
  by_cases low : char < 0x20
  · have refused : ¬ 0x20 ≤ char := UInt8.not_le.mpr low
    simp [low, refused]
  · have accepted : 0x20 ≤ char := UInt8.not_lt.mp low
    simp [low, high, plain, accepted]

theorem tailValid_escape (esc : 0x7D ≤ char) (next : UInt8) (rest : Bytes) :
    tailValid (char :: next :: rest) = (!flagged char next && tailValid rest) := by
  have low := not_low esc
  by_cases lowNext : next < 0x20
  · simp [tailValid, flagged, esc, lowNext]
  rcases shifted_tests lowNext with ⟨_, _, above, high⟩
  simp only [tailValid, flagged, low, lowNext, esc, above, high, false_or, if_true, decide_false,
    Bool.false_or, decide_true, Bool.true_and]
  simp only [le_iff_toNat_le, gt_iff_lt, lt_iff_toNat_lt, ← UInt8.toNat_inj, reduceToNat] at *
  split_ifs <;> simp <;> omega

theorem scalarLength_plain (plain : ¬ 0x7D ≤ char) (rest : Bytes) : scalarLength (char :: rest) =
      if 0x20 ≤ char then (scalarLength rest).map (· + 1) else none := by
  rw [scalarLength.eq_def]
  by_cases low : char < 0x20
  · have refused : ¬ 0x20 ≤ char := UInt8.not_le.mpr low
    simp only [low, refused, if_true, if_false]
  · rcases shifted_tests low with ⟨high, esc, _, _⟩
    have small : ¬ char > 0x7E := by
      simp only [le_iff_toNat_le, gt_iff_lt, lt_iff_toNat_lt, reduceToNat] at *
      omega
    simp only [low, high, esc, small, plain, UInt8.not_lt.mp low, if_true, if_false]

theorem scalarLength_escape (esc : 0x7D ≤ char) (next : UInt8) (rest : Bytes) :
    scalarLength (char :: next :: rest) = if char ≤ 0x7E ∧ 0x20 ≤ next ∧ next ≤ 0x7D then
      (scalarLength rest).map (· + 1) else none := by
  have low := not_low esc
  rcases shifted_tests low with ⟨high, second, _, _⟩
  rw [scalarLength.eq_def]
  simp only [low, high, second, esc, if_true, if_false]
  by_cases lowNext : next < 0x20
  · have refused : ¬ 0x20 ≤ next := UInt8.not_le.mpr lowNext
    simp [lowNext, refused]
  · rcases shifted_tests lowNext with ⟨_, _, above, _⟩
    simp only [lowNext, above, if_false, gt_iff_lt, ← UInt8.not_le, UInt8.not_lt.mp lowNext,
      true_and]
    by_cases first : char ≤ 0x7E <;> by_cases second : next ≤ 0x7D <;> simp [first, second]

theorem scalarValues_plain (plain : ¬ 0x7D ≤ char) (low : 0x20 ≤ char) (rest : Bytes) :
    scalarValues kf (char :: rest) =
      (scalarValues kf rest).map ((char - 0x20 + lowByte kf) :: ·) := by
  have second := (shifted_tests (UInt8.not_lt.mpr low)).2.1
  rw [scalarValues.eq_def]
  simp only [second, plain, if_false]

def pairNumber (char next : UInt8) : Nat :=
  ((char - 0x20).toNat - 93 + 1) * 93 + (next - 0x20).toNat

theorem scalarValues_escape (esc : 0x7D ≤ char) (next : UInt8) (rest : Bytes) :
    scalarValues kf (char :: next :: rest) = if pairNumber char next > 0xff then none else
      (scalarValues kf rest).map ((ofNat (pairNumber char next) + lowByte kf) :: ·) := by
  have second := (shifted_tests (not_low esc)).2.1
  rw [scalarValues.eq_def]
  simp only [second, esc, if_true]
  rfl

theorem ofNat_pairNumber (esc : 0x7D ≤ char) (high : char ≤ 0x7E) (next : UInt8) :
    ofNat (pairNumber char next) = value char next := by
  revert next
  rcases escape_cases esc high with rfl | rfl <;> apply forall_byte <;> decide +kernel

variable {next : UInt8}

theorem pairNumber_fits (esc : 0x7D ≤ char) (high : char ≤ 0x7E) (low : 0x20 ≤ next)
    (small : next ≤ 0x7D) : ¬ pairNumber char next > 0xff ↔ ¬ (0x7E ≤ char ∧ 0x65 < next) := by
  revert next
  rcases escape_cases esc high with rfl | rfl <;> apply forall_byte <;> decide +kernel

theorem flagged_escape (esc : 0x7D ≤ char) :
    flagged char next = false ↔ (char ≤ 0x7E ∧ 0x20 ≤ next ∧ next ≤ 0x7D) ∧
      ¬ (0x7E ≤ char ∧ 0x65 < next) := by
  simp only [flagged, le_iff_toNat_le, gt_iff_lt, lt_iff_toNat_lt,
    reduceToNat, Bool.or_eq_false_iff, Bool.and_eq_false_iff, decide_eq_false_iff_not] at *
  omega

theorem scalarLength_last (esc : 0x7D ≤ char) : scalarLength [char] = none := by
  have second := (shifted_tests (not_low esc)).2.1
  rw [scalarLength.eq_def]
  simp only [second, esc, if_true, ite_self]

theorem scalar_spec : if tailValid text then
    scalarLength text = some (values (lowByte kf) text).length ∧
      scalarValues kf text = some (values (lowByte kf) text)
    else scalarLength text = none ∨ scalarValues kf text = none := by
  induction text using values.induct with
  | case1 => exact ⟨rfl, rfl⟩
  | case2 char =>
    by_cases esc : 0x7D ≤ char
    · simp [tailValid, esc, scalarLength_last]
    · rw [tailValid_plain esc, scalarLength_plain esc]
      by_cases low : 0x20 ≤ char
      · rw [scalarValues_plain kf esc low]
        simp [low, tailValid, scalarLength, scalarValues, values, value, esc]
      · simp [low]
  | case3 char next rest short long =>
    by_cases esc : 0x7D ≤ char
    · rw [tailValid_escape esc, scalarLength_escape esc, scalarValues_escape kf esc]
      simp only [values, esc, if_true]
      have flags := @flagged_escape char next esc
      by_cases range : char ≤ 0x7E ∧ 0x20 ≤ next ∧ next ≤ 0x7D
      · have fits := pairNumber_fits esc range.1 range.2.1 range.2.2
        rw [ofNat_pairNumber esc range.1]
        grind
      · grind
    · rw [tailValid_plain esc, scalarLength_plain esc]
      by_cases low : 0x20 ≤ char
      · rw [scalarValues_plain kf esc low]
        simp only [values, value, esc, if_false, low, if_true]
        grind
      · simp [low]

theorem base94DecodeScalar_valid {text : Bytes} (filled : text ≠ []) (valid : tailValid text) :
    base94DecodeScalar kf text = some (values (lowByte kf) text) := by
  obtain ⟨length, bytes⟩ := if_pos valid ▸ scalar_spec kf text
  have long : ¬ text.length < 1 := by
    rw [Nat.not_lt]
    exact length_pos_iff.mpr filled
  have holds := Output.holds_new.foldl (values (lowByte kf) text)
  rw [nil_append] at holds
  rw [base94DecodeScalar, if_neg long, length, bytes]
  dsimp only
  rw [holds.returned]

theorem base94DecodeScalar_invalid {text : Bytes}
    (invalid : tailValid text = false) : base94DecodeScalar kf text = none := by
  rw [base94DecodeScalar]
  split
  · rfl
  · have refused := scalar_spec kf text
    rw [if_neg (by simp [invalid])] at refused
    rcases refused with length | bytes
    · rw [length]
    · rw [bytes]
      split
      · rename_i impossible
        cases impossible
      · rfl

theorem length_values_escapes (valid : tailValid text) :
    (values key text).length + escapes text = text.length := by
  induction text using values.induct with
  | case1 => rfl
  | case2 char =>
    by_cases esc : 0x7D ≤ char
    · simp [tailValid, esc] at valid
    · simp [values, escapes, esc]
  | case3 char next rest short long =>
    by_cases esc : 0x7D ≤ char
    · rw [tailValid_escape esc, Bool.and_eq_true] at valid
      have rest := short valid.2
      simp only [values, escapes, esc, if_true, length_cons]
      omega
    · rw [tailValid_plain esc, Bool.and_eq_true] at valid
      have rest := long valid.2
      rw [escapes.eq_def]
      simp only [values, esc, if_false, length_cons] at rest ⊢
      omega

theorem outLength_values {text : Bytes} (valid : tailValid text) :
    outLength text = (values key text).length := by
  have total := length_values_escapes key text valid
  rw [outLength]
  omega

theorem length_values_cons (char : UInt8) (text : Bytes) :
    (values key text).length ≤ (values key (char :: text)).length ∧
      (values key (char :: text)).length ≤ (values key text).length + 1 := by
  induction text generalizing char with
  | nil => simp [values]
  | cons next rest induction =>
    have after := induction next
    simp only [values, length_cons]
    split_ifs <;> omega

def weight (char : UInt8) : Nat := if 0x7E ≤ char then 186 else (char - 0x20).toNat

theorem weight_escape (esc : 0x7D ≤ char) : 0 < weight char := by
  revert char
  apply forall_byte
  decide +kernel

theorem value_pair (esc : 0x7D ≤ char) (valid : flagged char next = false) :
    (value char next).toNat = weight char + weight next := by
  rw [flagged_escape esc] at valid
  have either := escape_cases esc valid.1.1
  revert next
  rcases either with rfl | rfl <;> apply forall_byte <;> decide +kernel

theorem value_plain (plain : ¬ 0x7D ≤ char) (next : UInt8) :
    (value char next).toNat = weight char := by
  have small : ¬ 0x7E ≤ char := by
    simp only [le_iff_toNat_le, reduceToNat] at *
    omega
  rw [value, if_neg plain, weight, if_neg small]

theorem sum_values (valid : tailValid text) :
    ((values 0 text).map toNat).sum = (text.map weight).sum := by
  induction text using values.induct with
  | case1 => rfl
  | case2 char =>
    by_cases esc : 0x7D ≤ char
    · simp [tailValid, esc] at valid
    · simp [values, value_plain esc]
  | case3 char next rest short long =>
    by_cases esc : 0x7D ≤ char
    · rw [tailValid_escape esc, Bool.and_eq_true, Bool.not_eq_true'] at valid
      simp only [values, esc, if_true, map_cons, sum_cons, add_zero,
        value_pair esc valid.1, short valid.2, Nat.add_assoc]
    · rw [tailValid_plain esc, Bool.and_eq_true] at valid
      simp only [values, esc, if_false, map_cons, sum_cons, add_zero, value_plain esc]
      rw [long valid.2, map_cons, sum_cons]

theorem values_tail_ne {rest : Bytes} (valid : tailValid (char :: rest))
    (tail : tailValid rest) : values 0 (char :: rest) ≠ values 0 rest := by
  intro same
  have sums := sum_values (char :: rest) valid
  rw [same, sum_values rest tail, map_cons, sum_cons] at sums
  -- A first character that adds nothing is a space, which is a value of its own.
  have nothing : weight char = 0 := by omega
  have plain : ¬ 0x7D ≤ char := fun esc => Nat.ne_of_gt (weight_escape esc) nothing
  cases rest with
  | nil => simp [values] at same
  | cons next rest =>
    simp only [values, plain, if_false] at same
    exact absurd (congrArg length same) (by simp)

end OpenPpp2.Base94
