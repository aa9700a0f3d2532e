import Mathlib.Data.BitVec
import OpenPpp2.Lib.ByteLayout
import OpenPpp2.P2P.ReplayWindow

/-!
# Identifiers, roles and candidate endpoints

Fixed byte arrays of the source are words of that many bytes, written most significant byte first;
comparing two arrays lexicographically is then comparing the words.
-/

namespace OpenPpp2.P2P

open Lib.ByteLayout

abbrev Bytes := List UInt8

/-- `P2PId`: session, peer and offer identifiers and the connection epoch. -/
abbrev Id := BitVec 128

/-- `P2POfferHash`, also used for transcript hashes. -/
abbrev OfferHash := BitVec 256

abbrev Key := BitVec 256

abbrev Nonce := BitVec 96

abbrev NoncePrefix := BitVec 64

/-- A clock reading in milliseconds; arithmetic wraps as `std::uint64_t` does. -/
abbrev Millis := BitVec 64

inductive PeerRole where
  | initiator
  | responder
deriving DecidableEq, Repr

namespace PeerRole

def code : PeerRole → UInt8
  | initiator => 0
  | responder => 1

def ofCode (byte : UInt8) : Option PeerRole :=
  if byte = 0 then some initiator else if byte = 1 then some responder else none

def other : PeerRole → PeerRole
  | initiator => responder
  | responder => initiator

variable (role : PeerRole)

theorem other_ne : role.other ≠ role := by
  cases role <;> decide

theorem code_injective {left right : PeerRole} (same : left.code = right.code) : left = right := by
  cases left <;> cases right <;> first | rfl | exact absurd same (by decide)

theorem one_sub_code : 1 - role.code = role.other.code := by
  cases role <;> rfl

end PeerRole

structure Endpoint where
  addressFamily : UInt8 := 0
  address : BitVec 128 := 0
  port : BitVec 16 := 0
deriving DecidableEq, Repr, Inhabited

namespace Endpoint

def addressByte (endpoint : Endpoint) (index : Nat) : UInt8 :=
  byteAt index (wordBytes endpoint.address)

/-- An IPv4 address mapped into IPv6: ten zero bytes, then `ff ff`. -/
def Mapped (endpoint : Endpoint) : Prop :=
  (∀ byte ∈ (wordBytes endpoint.address).take 10, byte = 0) ∧
    endpoint.addressByte 10 = 0xff ∧ endpoint.addressByte 11 = 0xff

-- The bytes of the list are inspected, not all the bytes there are.
instance (endpoint : Endpoint) : Decidable endpoint.Mapped :=
  letI : Decidable (∀ byte ∈ (wordBytes endpoint.address).take 10, byte = 0) :=
    List.decidableBAll _ _
  inferInstanceAs (Decidable (_ ∧ _))

/-- `IsCanonicalP2PCandidate` -/
def Canonical (endpoint : Endpoint) : Prop :=
  endpoint.port ≠ 0 ∧
    ((endpoint.addressFamily = 4 ∧ endpoint.Mapped ∧
        ∃ byte ∈ (wordBytes endpoint.address).drop 12, byte ≠ 0) ∨
      (endpoint.addressFamily = 6 ∧ endpoint.address ≠ 0 ∧ ¬ endpoint.Mapped ∧
        -- loopback, multicast, link local, site local, unique local
        endpoint.address ≠ 1 ∧ endpoint.addressByte 0 ≠ 0xff ∧
        ¬ (endpoint.addressByte 0 = 0xfe ∧ endpoint.addressByte 1 &&& 0xc0 = 0x80) ∧
        ¬ (endpoint.addressByte 0 = 0xfe ∧ endpoint.addressByte 1 &&& 0xc0 = 0xc0) ∧
        endpoint.addressByte 0 &&& 0xfe ≠ 0xfc))

instance (endpoint : Endpoint) : Decidable endpoint.Canonical :=
  letI : Decidable (∃ byte ∈ (wordBytes endpoint.address).drop 12, byte ≠ 0) :=
    List.decidableBEx _ _
  inferInstanceAs (Decidable (_ ∧ _))

def encode (endpoint : Endpoint) : Bytes :=
  [endpoint.addressFamily] ++ (wordBytes endpoint.address ++ wordBytes endpoint.port)

def parseCandidate (bytes : Bytes) (offset : Nat) : Option Endpoint :=
  let candidate : Endpoint :=
    { addressFamily := byteAt offset bytes
      address := word (offset + 1) 128 bytes
      port := word (offset + 17) 16 bytes }
  if candidate.Canonical then some candidate else none

@[simp] theorem length_encode (endpoint : Endpoint) : endpoint.encode.length = 19 := by
  simp [encode]

variable {endpoint : Endpoint} {bytes : Bytes} {offset : Nat}

theorem parseCandidate_slice (canonical : endpoint.Canonical)
    (placed : slice offset 19 bytes = endpoint.encode) :
    parseCandidate bytes offset = some endpoint := by
  have family : byteAt offset bytes = endpoint.addressFamily := by
    rw [← Nat.add_zero offset, ← byteAt_slice (show 0 < 19 by omega), placed]
    rfl
  have address : word (offset + 1) 128 bytes = endpoint.address := by
    rw [word, ← slice_slice (show 1 + 128 / 8 ≤ 19 by omega), placed, encode,
      slice_append_right (by simp), slice_append_left (by simp),
      slice_whole (by simp) (by simp), word_wordBytes rfl]
  have port : word (offset + 17) 16 bytes = endpoint.port := by
    rw [word, ← slice_slice (show 17 + 16 / 8 ≤ 19 by omega), placed, encode,
      slice_append_right (by simp), slice_append_right (by simp),
      slice_whole (by simp) (by simp), word_wordBytes rfl]
  rw [parseCandidate, family, address, port]
  exact if_pos canonical

theorem encode_of_parseCandidate
    (parsed : parseCandidate bytes offset = some endpoint) (inside : offset + 19 ≤ bytes.length) :
    endpoint.encode = slice offset 19 bytes := by
  obtain ⟨_, ⟨⟩⟩ := Option.ite_none_right_eq_some.1 parsed
  rw [encode, wordBytes_word rfl (by omega), wordBytes_word rfl (by omega), ← slice_add]
  exact (slice_succ (by omega)).symm

end Endpoint

end OpenPpp2.P2P
