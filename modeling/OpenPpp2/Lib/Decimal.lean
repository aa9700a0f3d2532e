import Mathlib.Data.Nat.Digits.Lemmas
import OpenPpp2.Lib.PrefixMask

/-!
# Decimal numbers as byte strings

The character classes of the C locale, the decimal digits of a natural number, most significant
first, as ASCII bytes, and the number a string of digits denotes.
-/

namespace OpenPpp2.Lib.Decimal

open List

/-- `std::to_string` of an unsigned number. -/
def decimal (value : Nat) : List UInt8 :=
  if value = 0 then [48]
  else (Nat.digits 10 value).reverse.map fun digit => UInt8.ofNat (48 + digit)

def isDigit (byte : UInt8) : Bool := decide (48 ≤ byte.toNat) && decide (byte.toNat ≤ 57)

def isspace (char : UInt8) : Bool := char == 32 || decide (9 ≤ char ∧ char ≤ 13)

def toLower (char : UInt8) : UInt8 := if 65 ≤ char ∧ char ≤ 90 then char + 32 else char

def digitsValue (digits : List UInt8) : Nat :=
  digits.foldl (fun value byte => value * 10 + (byte.toNat - 48)) 0

theorem toNat_digit {digit : Nat} (small : digit < 10) :
    (UInt8.ofNat (48 + digit)).toNat = 48 + digit := by
  rw [UInt8.toNat_ofNat']
  omega

variable (value : Nat)

theorem isDigit_decimal : (decimal value).all isDigit := by
  rw [all_eq_true]
  intro byte member
  unfold decimal at member
  split_ifs at member with zero
  · rw [mem_singleton.mp member]
    rfl
  · obtain ⟨digit, inside, rfl⟩ := mem_map.mp member
    have small := Nat.digits_lt_base (by decide) (mem_reverse.mp inside)
    simp only [isDigit, toNat_digit small, Bool.and_eq_true, decide_eq_true_eq]
    omega

theorem decimal_ne_nil : decimal value ≠ [] := by
  unfold decimal
  split_ifs with zero
  · simp
  · simpa [Nat.digits_ne_nil_iff_ne_zero] using zero

theorem length_decimal {value size : Nat} (fits : value < 10 ^ size) (wide : 0 < size) :
    (decimal value).length ≤ size := by
  unfold decimal
  split_ifs
  · exact wide
  · rw [length_map, length_reverse]
    exact (Nat.digits_length_le_iff (by decide) value).mpr fits

theorem digitsValue_eq (digits : List UInt8) :
    digitsValue digits = Nat.ofDigits 10 (digits.reverse.map fun byte => byte.toNat - 48) := by
  rw [Nat.ofDigits_eq_foldr, foldr_map, foldr_reverse, digitsValue]
  congr 1
  funext total byte
  simp only [Nat.cast_id]
  omega

theorem digitsValue_decimal : digitsValue (decimal value) = value := by
  unfold decimal
  split_ifs with zero
  · simp [digitsValue, zero]
  · have each : ∀ digit ∈ Nat.digits 10 value,
        (UInt8.ofNat (48 + digit)).toNat - 48 = digit := by
      intro digit member
      rw [toNat_digit (Nat.digits_lt_base (by decide) member), Nat.add_sub_cancel_left]
    rw [digitsValue_eq, ← map_reverse, reverse_reverse, map_map]
    refine (congrArg (Nat.ofDigits 10) ?_).trans (Nat.ofDigits_digits 10 value)
    exact (map_congr_left each).trans (map_id' _)

end OpenPpp2.Lib.Decimal

namespace OpenPpp2.Lib.LengthPrefixed

open Lib.Decimal List

variable {separator terminator : UInt8}

def block (separator terminator : UInt8) (value : List UInt8) : List UInt8 :=
  decimal value.length ++ separator :: (value ++ [terminator])

section Shapes

variable {Item Shape Word View : Type*} (encode : Item → List Word) (shape : Item → Shape)
  (view : Item → View)

theorem flatMap_append_inj (sized : ∀ first second, shape first = shape second →
      (encode first).length = (encode second).length)
    (determined : ∀ first second, shape first = shape second →
      encode first = encode second → view first = view second)
    {items others : List Item} {rest remains : List Word}
    (shapes : items.map shape = others.map shape)
    (same : items.flatMap encode ++ rest = others.flatMap encode ++ remains) :
    items.map view = others.map view ∧ rest = remains := by
  induction items generalizing others with
  | nil =>
    cases others with
    | nil => exact ⟨rfl, same⟩
    | cons other others => simp at shapes
  | cons item items ih =>
    cases others with
    | nil => simp at shapes
    | cons other others =>
      simp only [map_cons, cons.injEq] at shapes ⊢
      simp only [flatMap_cons, append_assoc] at same
      obtain ⟨head, tail⟩ := append_inj same (sized item other shapes.1)
      obtain ⟨views, after⟩ := ih shapes.2 tail
      exact ⟨⟨determined item other shapes.1 head, views⟩, after⟩

end Shapes

end OpenPpp2.Lib.LengthPrefixed

namespace OpenPpp2.Lib.DottedQuad

open Lib.Decimal Lib.PrefixMask List

def octets (address : BitVec 32) : List Nat :=
  [address.toNat / 16777216, address.toNat / 65536 % 256, address.toNat / 256 % 256,
    address.toNat % 256]

def dotted (address : BitVec 32) : List UInt8 := [46].intercalate ((octets address).map decimal)

def network (address : BitVec 32) (length : Nat) : List UInt8 :=
  dotted address ++ 47 :: decimal length

def combine (first second third fourth : Nat) : BitVec 32 :=
  BitVec.ofNat 32 (((first * 256 + second) * 256 + third) * 256 + fourth)

def readAddress (octet : List UInt8 → Option Nat) (text : List UInt8) : Option (BitVec 32) :=
  match text.splitOn 46 with
  | [first, second, third, fourth] => do
      some (combine (← octet first) (← octet second) (← octet third) (← octet fourth))
  | _ => none

def readNetwork (octet length : List UInt8 → Option Nat) (text : List UInt8) :
    Option (BitVec 32 × Nat) := do
  let address ← readAddress octet (text.takeWhile (· != 47))
  let prefixLength ←
    match text.dropWhile (· != 47) with
    | [] => some 32
    | _ :: rest => length rest
  some (address &&& mask 32 prefixLength, prefixLength)

section Digits

theorem digit_ne {value : Nat} {byte other : UInt8} (member : byte ∈ decimal value)
    (outside : isDigit other = false) : byte ≠ other := by
  rintro rfl
  have digits := isDigit_decimal value
  rw [all_eq_true] at digits
  rw [digits byte member] at outside
  cases outside

theorem combine_octets (address : BitVec 32) :
    combine (address.toNat / 16777216) (address.toNat / 65536 % 256)
      (address.toNat / 256 % 256) (address.toNat % 256) = address := by
  apply BitVec.eq_of_toNat_eq
  simp only [combine, BitVec.toNat_ofNat]
  omega

theorem octet_lt {address : BitVec 32} {octet : Nat} (member : octet ∈ octets address) :
    octet < 256 := by
  simp only [octets, mem_cons, not_mem_nil, or_false] at member
  omega

end Digits

variable {octet length : List UInt8 → Option Nat}

variable (address : BitVec 32)

theorem splitOn_dotted : (dotted address).splitOn 46 = (octets address).map decimal := by
  apply splitOn_intercalate
  · intro part member dot
    rcases mem_map.mp member with ⟨value, _, rfl⟩
    exact digit_ne dot (by decide) rfl
  · simp [octets]

theorem readAddress_dotted (accepts : ∀ value < 256, octet (decimal value) = some value)
    (address : BitVec 32) : readAddress octet (dotted address) = some address := by
  have parts := fun value member => accepts value (@octet_lt address value member)
  simp only [octets, forall_mem_cons] at parts
  rcases parts with ⟨first, second, third, fourth, _⟩
  unfold readAddress
  rw [splitOn_dotted]
  simp only [octets, map_cons, map_nil, first, second, third, fourth]
  exact congrArg some (combine_octets address)

theorem not_mem_dotted {byte : UInt8} (outside : isDigit byte = false) (other : byte ≠ 46) :
    byte ∉ dotted address := by
  have digit : ∀ value, byte ∉ decimal value := fun value member => digit_ne member outside rfl
  simp [dotted, octets, intercalate, digit, other]

theorem length_dotted : (dotted address).length ≤ 15 := by
  have each : ∀ value ∈ octets address, (decimal value).length ≤ 3 := fun value member =>
    length_decimal ((octet_lt member).trans (by decide)) (by decide)
  simp only [octets, forall_mem_cons] at each
  simp [dotted, octets, intercalate]
  omega

theorem readNetwork_network (accepts : ∀ value < 256, octet (decimal value) = some value)
    {size : Nat} (sized : length (decimal size) = some size) (address : BitVec 32) :
    readNetwork octet length (network address size) = some (address &&& mask 32 size, size) := by
  have plain : ∀ byte ∈ dotted address, (byte != 47) := by
    intro byte member
    rw [bne_iff_ne]
    rintro rfl
    exact not_mem_dotted address (by decide) (by decide) member
  unfold readNetwork network
  rw [takeWhile_append_of_pos plain, dropWhile_append_of_pos plain]
  simp [readAddress_dotted accepts, sized]

end OpenPpp2.Lib.DottedQuad
