import OpenPpp2.Cryptography.Ssea
import OpenPpp2.Lib.ByteLayout
import OpenPpp2.Net.Checksum

/-!
# The header of a base94 frame

`base94_encode_length` and its readers.
-/

namespace OpenPpp2.Transmission

open Ssea Net List

def base94MaxFrame : Nat := 65536 * 2 + 64

def headerMod (kf : BitVec 32) : Nat := lcgmod kf (64 * 64 * 64) (94 * 94 * 94)

def kfMod (kf : BitVec 32) : Nat := (kf.toInt.tmod (headerMod kf)).natAbs

def hide (kf : BitVec 32) (number : Nat) : Nat := (number + kfMod kf) % headerMod kf

/-- `base94_decode_length` on three bytes. -/
def base94DecodeLength (kf : BitVec 32) (digits : Bytes) : Nat :=
  (base94Number digits + headerMod kf - kfMod kf) % headerMod kf

/-- The values that `RandomNext` gives for the key byte and for the filler. -/
structure Draws where
  key : UInt8
  filler : UInt8

def Draws.Printable (draws : Draws) : Prop :=
  32 ≤ draws.key ∧ draws.key < 126 ∧ 32 ≤ draws.filler ∧ draws.filler < 126

/-- The first byte of a header: even before a filler, odd before a digit. -/
def keyByte (isFiller : Bool) (key : UInt8) : UInt8 :=
  if isFiller then if key &&& 1 ≠ 0 then key + 1 else key
  else if key &&& 1 = 0 then if key + 1 > 126 then 33 else key + 1
  else key

def obfuscate (draws : Draws) : Bytes → Bytes
  | [_, f, third, fourth] =>
    [keyByte (f == 32) draws.key, if f == 32 then draws.filler else f, fourth, third]
  | other => other

def simpleHeader (kf : BitVec 32) (length : Nat) (draws : Draws) : Option Bytes :=
  let digits := base94Text (hide kf length)
  if digits.length < 1 ∨ digits.length ≥ 4 then none
  else some (obfuscate draws (List.replicate (4 - digits.length) 32 ++ digits))

/-- The number after the first four bytes: their checksum mixed with the length. -/
def checksumNumber (kf : BitVec 32) (length : Nat) (header : Bytes) : Nat :=
  hide kf ((inetChksum header).toNat ^^^ length)

/-- `base94_encode_length`: the header, and whether later ones are simple (`frame_tn_`). -/
def base94EncodeLength (kf : BitVec 32) (frameTn : Bool) (length : Nat) (draws : Draws) :
    Option Bytes × Bool :=
  match simpleHeader kf length draws with
  | none => (none, frameTn)
  | some header =>
    if frameTn then (some header, frameTn)
    else
      let digits := base94Text (checksumNumber kf length header)
      if digits.length ≠ 3 then (none, frameTn)
      else (some (header ++ shuffleData kf digits), true)

def base94DecodeKf : Bytes → Bytes
  | [key, filler, fourth, third] => [32, if key &&& 1 = 0 then 32 else filler, third, fourth]
  | other => other

/-- `base94_decode_length_rn`: the length, and what is left of the stream. -/
def base94DecodeLengthRn (kf : BitVec 32) (stream : Bytes) : Option (Nat × Bytes) :=
  if stream.length < 4 then none
  else
    let length := base94DecodeLength kf (base94DecodeKf (stream.take 4)).tail
    if length > 0 then some (length, stream.drop 4) else none

def base94DecodeLengthR1 (kf : BitVec 32) (stream : Bytes) : Option (Nat × Bytes) :=
  if stream.length < 7 then none
  else
    let header := stream.take 4
    let length := base94DecodeLength kf (base94DecodeKf header).tail
    if length < 1 then none
    else
      let number := base94DecodeLength kf (unshuffleData kf ((stream.drop 4).take 3))
      if number ≠ (inetChksum header).toNat ^^^ length then none
      else some (length, stream.drop 7)

/-- `base94_decode_length`: the reader that `frame_rn_` selects, and the flag after it. -/
def base94ReadLength (kf : BitVec 32) (frameRn : Bool) (stream : Bytes) :
    Option (Nat × Bytes) × Bool :=
  if frameRn then (base94DecodeLengthRn kf stream, frameRn)
  else
    match base94DecodeLengthR1 kf stream with
    | none => (none, frameRn)
    | some answer => (some answer, true)

variable (kf : BitVec 32) {length : Nat} {header : Bytes}

theorem headerMod_bounds : 262144 ≤ headerMod kf ∧ headerMod kf ≤ 94 ^ 3 :=
  lcgmod_bounds kf (by decide)

theorem kfMod_lt : kfMod kf < headerMod kf :=
  natAbs_tmod_lt kf (lt_of_lt_of_le (by decide) (headerMod_bounds kf).1)

theorem hide_lt (number : Nat) : hide kf number < 94 ^ 3 := by
  have bounds := headerMod_bounds kf
  have small : hide kf number < headerMod kf := Nat.mod_lt _ (by omega)
  omega

theorem base94DecodeLength_hide {number : Nat} (small : number < 262144) :
    base94DecodeLength kf [digit (hide kf number / 8836), digit (hide kf number / 94 % 94),
      digit (hide kf number % 94)] = number := by
  have bounds := headerMod_bounds kf
  have key := kfMod_lt kf
  have fits := hide_lt kf number
  have value : (hide kf number / 8836 * 94 + hide kf number / 94 % 94) * 94 +
      hide kf number % 94 = hide kf number := by omega
  unfold base94DecodeLength
  rw [base94Number_digits (by omega) (by omega) (by omega), value]
  exact hidden_mod (by omega) key

theorem keyByte_parity (isFiller : Bool) (key : UInt8) :
    keyByte isFiller key &&& 1 = 0 ↔ isFiller := by
  revert key
  apply Lib.ByteLayout.forall_byte
  cases isFiller <;> decide +kernel

theorem base94DecodeKf_obfuscate (draws : Draws) (first second third : UInt8) :
    (base94DecodeKf (obfuscate draws [32, first, second, third])).tail =
      [first, second, third] := by
  by_cases filler : first = 32
  · simp [obfuscate, base94DecodeKf, filler, keyByte_parity]
  · simp [obfuscate, base94DecodeKf, filler, keyByte_parity]

def plainHeader (kf : BitVec 32) (length : Nat) (draws : Draws) : Bytes :=
  obfuscate draws [32, digit (hide kf length / 8836), digit (hide kf length / 94 % 94),
    digit (hide kf length % 94)]

theorem simpleHeader_spec (small : length < 262144) (draws : Draws) :
    simpleHeader kf length draws = some (plainHeader kf length draws) ∧
      (plainHeader kf length draws).length = 4 ∧
      base94DecodeLength kf (base94DecodeKf (plainHeader kf length draws)).tail = length := by
  have fits := hide_lt kf length
  have sizes := length_base94Text fits
  have places : replicate (4 - (base94Text (hide kf length)).length) (32 : UInt8) ++
      base94Text (hide kf length) = [32, digit (hide kf length / 8836),
        digit (hide kf length / 94 % 94), digit (hide kf length % 94)] := by
    have one : 4 - (base94Text (hide kf length)).length =
        3 - (base94Text (hide kf length)).length + 1 := by omega
    rw [one, replicate_succ, cons_append, base94Text_padded fits]
  unfold simpleHeader
  rw [if_neg (by omega), places]
  refine ⟨rfl, rfl, ?_⟩
  rw [plainHeader, base94DecodeKf_obfuscate, base94DecodeLength_hide kf small]

/-- The reader that takes the header gives the length and leaves the rest of the stream. -/
def ReadsLength (kf : BitVec 32) (frameRn : Bool) (length : Nat) (header : Bytes) : Prop :=
  ∀ rest, base94ReadLength kf frameRn (header ++ rest) = (some (length, rest), true)

theorem simple_reads (positive : 1 ≤ length) (four : header.length = 4)
    (gives : base94DecodeLength kf (base94DecodeKf header).tail = length) :
    ReadsLength kf true length header := by
  intro rest
  have front : (header ++ rest).take 4 = header := take_left' four
  have back : (header ++ rest).drop 4 = rest := drop_left' four
  have long : ¬ (header ++ rest).length < 4 := by
    rw [length_append]
    omega
  simp only [base94ReadLength, if_true, base94DecodeLengthRn, if_neg long, front, back, gives,
    gt_iff_lt, if_pos (Nat.lt_of_succ_le positive)]

theorem xor_lt_two_pow_18 (word : BitVec 16) (small : length ≤ base94MaxFrame) :
    word.toNat ^^^ length < 262144 := by
  have bound : length < 2 ^ 18 := by
    unfold base94MaxFrame at small
    omega
  exact Nat.xor_lt_two_pow (lt_trans word.isLt (by decide)) bound

theorem extended_reads (positive : 1 ≤ length) (small : length ≤ base94MaxFrame)
    (four : header.length = 4) (gives : base94DecodeLength kf (base94DecodeKf header).tail = length)
    (three : (base94Text (checksumNumber kf length header)).length = 3) :
    ReadsLength kf false length
      (header ++ shuffleData kf (base94Text (checksumNumber kf length header))) := by
  intro rest
  have fits : checksumNumber kf length header < 94 ^ 3 := hide_lt kf _
  have text := base94Text_padded fits
  rw [three, replicate_zero, nil_append] at text
  obtain ⟨digits, shuffled⟩ :
      ∃ digits, shuffleData kf (base94Text (checksumNumber kf length header)) = digits :=
    ⟨_, rfl⟩
  have size : digits.length = 3 := by
    rw [← shuffled, length_shuffleData, three]
  have front : (header ++ (digits ++ rest)).take 4 = header := take_left' four
  have back : (header ++ (digits ++ rest)).drop 4 = digits ++ rest := drop_left' four
  have number : (digits ++ rest).take 3 = digits := take_left' size
  have all : (header ++ (digits ++ rest)).drop 7 = rest := by
    rw [← append_assoc]
    exact drop_left' (by rw [length_append, four, size])
  have long : ¬ (header ++ (digits ++ rest)).length < 7 := by
    rw [length_append, length_append, four, size]
    omega
  have hidden : base94DecodeLength kf (unshuffleData kf digits) =
      (inetChksum header).toNat ^^^ length := by
    rw [← shuffled, unshuffleData_shuffleData, text]
    exact base94DecodeLength_hide kf (xor_lt_two_pow_18 _ small)
  simp only [base94ReadLength, Bool.false_eq_true, if_false, append_assoc, shuffled,
    base94DecodeLengthR1, if_neg long, front, back, number, all, gives, hidden, ne_eq,
    not_true_eq_false, if_neg (Nat.not_lt.mpr positive)]

/-- The second number of the first header, by the key, the length and the draws: the length moved by
the key gives the digits, the two words of the first four bytes a checksum, and that with the
length, moved again, the number. -/
def firstNumber (kf : BitVec 32) (length : Nat) (draws : Draws) : Nat :=
  let modulus := (randomNext kf).toNat % (94 ^ 3 - 64 ^ 3 + 1) + 64 ^ 3
  let shift := kf.toInt.natAbs % modulus
  let place := (length + shift) % modulus
  let key := draws.key.toNat
  let first :=
    if place < 94 ^ 2 then (key + key % 2) % 256
    else if key % 2 = 1 then key
    else if 126 ≤ key then 33
    else key + 1
  let second := if place < 94 ^ 2 then draws.filler.toNat else place / 94 ^ 2 + 32
  let sum := (first + (place % 94 + 32)) * 256 + (second + (place / 94 % 94 + 32))
  let folded := sum % 65536 + sum / 65536
  ((65535 - (folded % 256 * 256 + folded / 256) ^^^ length) + shift) % modulus

theorem toNat_keyByte (key : UInt8) : (keyByte true key).toNat = (key.toNat + key.toNat % 2) % 256 ∧
      (keyByte false key).toNat = if key.toNat % 2 = 1 then key.toNat
        else if 126 ≤ key.toNat then 33 else key.toNat + 1 := by
  revert key
  apply Lib.ByteLayout.forall_byte
  decide +kernel

theorem toNat_digit {value : Nat} (small : value < 94) : (digit value).toNat = value + 32 := by
  rw [digit, UInt8.toNat_ofNat']
  omega

theorem checksumNumber_eq (length : Nat) (draws : Draws) :
    checksumNumber kf length (plainHeader kf length draws) = firstNumber kf length draws := by
  have fits := hide_lt kf length
  have shift : kfMod kf = kf.toInt.natAbs % headerMod kf := Int.natAbs_tmod ..
  have modulus : headerMod kf = (randomNext kf).toNat % (94 ^ 3 - 64 ^ 3 + 1) + 64 ^ 3 := rfl
  have moved : (length + kf.toInt.natAbs % headerMod kf) % headerMod kf = hide kf length := by
    rw [← shift]
    rfl
  unfold firstNumber checksumNumber plainHeader
  dsimp only
  rw [← modulus, moved, hide, shift]
  generalize hide kf length = place at fits
  have last : (digit (place % 94)).toNat = place % 94 + 32 := toNat_digit (by omega)
  have middle : (digit (place / 94 % 94)).toNat = place / 94 % 94 + 32 := toNat_digit (by omega)
  have top : (digit (place / 8836)).toNat = place / 94 ^ 2 + 32 := toNat_digit (by omega)
  obtain ⟨even, odd⟩ := toNat_keyByte draws.key
  by_cases short : place < 94 ^ 2
  · have filler : (digit (place / 8836) == 32) = true := by
      rw [show place / 8836 = 0 by omega]
      rfl
    rw [obfuscate, filler, if_pos rfl, toNat_inetChksum, even, last, middle]
    simp only [if_pos short]
  · have filler : (digit (place / 8836) == 32) = false := by
      rw [beq_eq_false_iff_ne]
      intro same
      have zero : 32 = place / 94 ^ 2 + 32 := (congrArg UInt8.toNat same).symm.trans top
      omega
    rw [obfuscate, filler, if_neg (by decide), toNat_inetChksum, odd, last, middle, top]
    simp only [if_neg short]

/-- The header is made, later ones are simple, and the reader gives the length. -/
def HeaderReads (kf : BitVec 32) (later : Bool) (length : Nat) (draws : Draws) : Prop :=
  ∃ header, base94EncodeLength kf later length draws = (some header, true) ∧
    ReadsLength kf later length header

/-- Later headers always give the length; the first does if and only if its second number has three
digits. -/
theorem base94_header_reads_iff (kf : BitVec 32) {length : Nat} (positive : 1 ≤ length)
    (small : length ≤ base94MaxFrame) (draws : Draws) : HeaderReads kf true length draws ∧
      (HeaderReads kf false length draws ↔ 94 * 94 ≤ firstNumber kf length draws) := by
  have below : length < 262144 := by
    unfold base94MaxFrame at small
    omega
  obtain ⟨made, four, gives⟩ := simpleHeader_spec kf below draws
  have number := checksumNumber_eq kf length draws
  generalize plainHeader kf length draws = header at made four gives number
  have digits := length_base94Text (hide_lt kf ((inetChksum header).toNat ^^^ length))
  constructor
  · refine ⟨header, ?_, simple_reads kf positive four gives⟩
    simp only [base94EncodeLength, made, if_true]
  · rw [← number]
    constructor
    · rintro ⟨first, encoded, _⟩
      simp only [base94EncodeLength, made, Bool.false_eq_true, if_false] at encoded
      split at encoded
      · cases encoded
      case isFalse three => exact digits.2.2.mp (not_not.mp three)
    · intro large
      have three : (base94Text (checksumNumber kf length header)).length = 3 := digits.2.2.mpr large
      refine ⟨_, ?_, extended_reads kf positive small four gives three⟩
      simp only [base94EncodeLength, made, Bool.false_eq_true, if_false, three, ne_eq,
        not_true_eq_false]

theorem small_frame_header_reads :
    HeaderReads 7 true 100 ⟨40, 50⟩ ∧ HeaderReads 7 false 100 ⟨40, 50⟩ :=
  (base94_header_reads_iff 7 (by decide) (by decide) ⟨40, 50⟩).imp_right fun first =>
    first.2 (by decide +kernel)

/-- A frame of 8129 bytes whose header is refused: its checksum number is 169. -/
theorem first_header_refused : Draws.Printable ⟨73, 106⟩ ∧ 1 ≤ 8129 ∧ 8129 ≤ base94MaxFrame ∧
      (base94EncodeLength 0 false 8129 ⟨73, 106⟩).1 = none := by
  unfold Draws.Printable
  decide +kernel

end OpenPpp2.Transmission
