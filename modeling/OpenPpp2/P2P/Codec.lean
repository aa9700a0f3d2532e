import OpenPpp2.P2P.Endpoint

/-!
# Cryptographic primitives, key material and packets

The primitives of the crypto library are parameters of the model.
-/

namespace OpenPpp2.P2P

open Lib.ByteLayout

structure Crypto where
  digest : Bytes → OfferHash
  hmac : Key → Bytes → BitVec 256
  /-- HKDF of a key with a salt, for an information string, to a width in bits -/
  kdf : Key → OfferHash → Bytes → (width : Nat) → BitVec width
  /-- ChaCha20-Poly1305 over a header and a payload: the ciphertext and its tag -/
  encrypt : Key → Nonce → Bytes → Bytes → Bytes × BitVec 128
  decrypt : Key → Nonce → Bytes → Bytes → BitVec 128 → Option Bytes
  length_encrypt : ∀ key nonce header payload,
    (encrypt key nonce header payload).1.length = payload.length

def labelBytes (label : String) : Bytes :=
  label.toList.map fun character => UInt8.ofNat character.toNat

structure KeyMaterial where
  initiatorToResponderKey : Key
  responderToInitiatorKey : Key
  initiatorToResponderNonce : NoncePrefix
  responderToInitiatorNonce : NoncePrefix
  offerTokenKey : Key
deriving DecidableEq

structure DirectionalKeys where
  txKey : Key
  rxKey : Key
  txNoncePrefix : NoncePrefix
  rxNoncePrefix : NoncePrefix

def KeyMaterial.selectDirection (material : KeyMaterial) : PeerRole → DirectionalKeys
  | .initiator =>
    { txKey := material.initiatorToResponderKey
      rxKey := material.responderToInitiatorKey
      txNoncePrefix := material.initiatorToResponderNonce
      rxNoncePrefix := material.responderToInitiatorNonce }
  | .responder =>
    { txKey := material.responderToInitiatorKey
      rxKey := material.initiatorToResponderKey
      txNoncePrefix := material.responderToInitiatorNonce
      rxNoncePrefix := material.initiatorToResponderNonce }

/-- `BuildP2PV1Nonce`: eight bytes of the direction, then the sequence number. -/
def buildNonce (direction : NoncePrefix) (sequence : Sequence) : Nonce := direction ++ sequence

def deriveKeyMaterial (crypto : Crypto) (seed : Key) (hash : OfferHash) : Option KeyMaterial :=
  if seed = 0 ∨ hash = 0 then none
  else
    some
      { initiatorToResponderKey := crypto.kdf seed hash
          (labelBytes "openppp2 p2p v2 initiator to responder key") 256
        responderToInitiatorKey := crypto.kdf seed hash
          (labelBytes "openppp2 p2p v2 responder to initiator key") 256
        initiatorToResponderNonce := crypto.kdf seed hash
          (labelBytes "openppp2 p2p v2 initiator to responder nonce") 64
        responderToInitiatorNonce := crypto.kdf seed hash
          (labelBytes "openppp2 p2p v2 responder to initiator nonce") 64
        offerTokenKey := crypto.kdf seed hash (labelBytes "openppp2 p2p v2 offer token") 256 }

theorem buildNonce_injective {direction : NoncePrefix} {left right : Sequence}
    (same : buildNonce direction left = buildNonce direction right) : left = right := by
  have low := congrArg (BitVec.setWidth 32) same
  simpa only [buildNonce, BitVec.setWidth_append_eq_right] using low

open List Endpoint

inductive ControlType where
  | probe
  | probeAck
  | migrateChallenge
  | migrateAck
  | keyCommit
  | keyCommitAck
deriving DecidableEq, Repr

namespace ControlType

def code : ControlType → UInt8
  | probe => 1
  | probeAck => 2
  | migrateChallenge => 3
  | migrateAck => 4
  | keyCommit => 6
  | keyCommitAck => 7

def ofCode (byte : UInt8) : Option ControlType :=
  if byte = 1 then some probe
  else if byte = 2 then some probeAck
  else if byte = 3 then some migrateChallenge
  else if byte = 4 then some migrateAck
  else if byte = 6 then some keyCommit
  else if byte = 7 then some keyCommitAck
  else none

def wireSize : ControlType → Nat
  | probe | probeAck => 158
  | keyCommit | keyCommitAck => 190
  | migrateChallenge | migrateAck => 126

@[simp] theorem ofCode_code (type : ControlType) : ofCode type.code = some type := by
  cases type <;> rfl

theorem code_of_ofCode {byte : UInt8} {type : ControlType} (known : ofCode byte = some type) :
    type.code = byte := by
  unfold ofCode at known
  split_ifs at known <;> cases known <;> exact .symm ‹_›

end ControlType

structure ControlPacket where
  type : ControlType := .probe
  offerHash : OfferHash := 0
  previousOfferHash : OfferHash := 0
  probeTranscriptHash : OfferHash := 0
  commitTranscriptHash : OfferHash := 0
  senderRole : UInt8 := 0
  receiverRole : UInt8 := 1
  direction : UInt8 := 0
  connectionEpoch : Id := 0
  source : Endpoint := {}
  destination : Endpoint := {}
  sequence : Sequence := 0
  nonce : Nonce := 0
  setupTtlSeconds : UInt8 := 10
  token : BitVec 128 := 0
deriving DecidableEq, Repr

namespace ControlPacket

instance : Inhabited ControlPacket := ⟨{}⟩

/-- `Valid`; the type is one of the six by construction. -/
def Valid (packet : ControlPacket) : Prop :=
  packet.senderRole ≤ 1 ∧ packet.receiverRole ≤ 1 ∧
    packet.senderRole ≠ packet.receiverRole ∧ packet.direction = packet.senderRole ∧
    packet.setupTtlSeconds = 10 ∧ packet.sequence ≠ maxSequence ∧
    packet.offerHash ≠ 0 ∧ packet.connectionEpoch ≠ 0 ∧
    packet.source.Canonical ∧ packet.destination.Canonical

instance (packet : ControlPacket) : Decidable packet.Valid := inferInstanceAs (Decidable (_ ∧ _))

def header (packet : ControlPacket) : Bytes :=
  [2, packet.type.code, 0, 0] ++ (wordBytes packet.offerHash ++
    ([packet.senderRole, packet.receiverRole, packet.direction] ++
    (wordBytes packet.connectionEpoch ++ (packet.source.encode ++
    (packet.destination.encode ++ (wordBytes packet.sequence ++
    (wordBytes packet.nonce ++ ([packet.setupTtlSeconds] ++ wordBytes packet.token))))))))

def trailer (packet : ControlPacket) : Bytes :=
  match packet.type with
  | .probe => List.replicate 32 0
  | .probeAck => wordBytes packet.probeTranscriptHash
  | .keyCommit => wordBytes packet.previousOfferHash ++ wordBytes packet.probeTranscriptHash
  | .keyCommitAck => wordBytes packet.commitTranscriptHash ++ wordBytes packet.probeTranscriptHash
  | .migrateChallenge | .migrateAck => []

def serialize (packet : ControlPacket) : Option Bytes :=
  if packet.Valid then some (packet.header ++ packet.trailer) else none

def carried (packet : ControlPacket) : ControlPacket :=
  { packet with
    previousOfferHash := if packet.type = .keyCommit then packet.previousOfferHash else 0
    commitTranscriptHash := if packet.type = .keyCommitAck then packet.commitTranscriptHash else 0
    probeTranscriptHash :=
      if packet.type = .probeAck then packet.probeTranscriptHash
      else if packet.type = .keyCommit ∨ packet.type = .keyCommitAck then
        packet.probeTranscriptHash
      else 0 }

def read (bytes : Bytes) (type : ControlType) (source destination : Endpoint) : ControlPacket :=
  { type := type
    offerHash := word 4 256 bytes
    senderRole := byteAt 36 bytes
    receiverRole := byteAt 37 bytes
    direction := byteAt 38 bytes
    connectionEpoch := word 39 128 bytes
    source := source
    destination := destination
    sequence := word 93 32 bytes
    nonce := word 97 96 bytes
    setupTtlSeconds := byteAt 109 bytes
    token := word 110 128 bytes
    previousOfferHash := if type = .keyCommit then word 126 256 bytes else 0
    commitTranscriptHash := if type = .keyCommitAck then word 126 256 bytes else 0
    probeTranscriptHash :=
      if type = .probeAck then word 126 256 bytes
      else if type = .keyCommit ∨ type = .keyCommitAck then word 158 256 bytes
      else 0 }

def parse (bytes : Bytes) : Option ControlPacket :=
  if bytes.length < 126 ∨ byteAt 0 bytes ≠ 2 ∨ byteAt 2 bytes ≠ 0 ∨ byteAt 3 bytes ≠ 0 then none
  else
    match ControlType.ofCode (byteAt 1 bytes) with
    | none => none
    | some type =>
      if bytes.length ≠ type.wireSize then none
      else
        match Endpoint.parseCandidate bytes 55, Endpoint.parseCandidate bytes 74 with
        | some source, some destination =>
          if type = .probe ∧ ∃ byte ∈ bytes.drop 126, byte ≠ 0 then none
          else if (read bytes type source destination).Valid then
            some (read bytes type source destination)
          else none
        | _, _ => none

/-- `Tag`: the packet with an empty token, followed by the challenge it answers. -/
def tag (crypto : Crypto) (packet : ControlPacket) (key : Key) (binding : Option OfferHash) :
    Option (BitVec 128) :=
  (serialize { packet with token := 0 }).map fun bytes =>
    (crypto.hmac key (bytes ++ binding.elim [] wordBytes)).extractLsb' 128 128

def sign (crypto : Crypto) (packet : ControlPacket) (key : Key) (binding : Option OfferHash) :
    Option ControlPacket :=
  (packet.tag crypto key binding).map fun token => { packet with token := token }

def Verified (crypto : Crypto) (packet : ControlPacket) (key : Key)
    (binding : Option OfferHash) : Prop :=
  packet.tag crypto key binding = some packet.token

instance (crypto : Crypto) (packet : ControlPacket) (key : Key) (binding : Option OfferHash) :
    Decidable (packet.Verified crypto key binding) :=
  inferInstanceAs (Decidable (_ = _))

def hash (crypto : Crypto) (packet : ControlPacket) : Option OfferHash :=
  packet.serialize.map crypto.digest

variable (packet : ControlPacket)

@[simp] theorem length_header : packet.header.length = 126 := by
  simp [header]

theorem length_trailer : 126 + packet.trailer.length = packet.type.wireSize := by
  unfold trailer
  cases packet.type <;> simp [ControlType.wireSize]

variable {bytes : Bytes}

variable {packet : ControlPacket}

theorem serialize_eq_some :
    packet.serialize = some bytes ↔ packet.Valid ∧ bytes = packet.header ++ packet.trailer := by
  rw [serialize]
  split_ifs with valid
  · simp [valid, eq_comm]
  · simp [valid]

theorem serialize_isSome (valid : packet.Valid) :
    ∃ bytes, packet.serialize = some bytes := ⟨_, if_pos valid⟩

theorem length_serialize
    (written : packet.serialize = some bytes) : bytes.length = packet.type.wireSize := by
  obtain ⟨_, rfl⟩ := serialize_eq_some.1 written
  rw [length_append, length_header, length_trailer]

section Fields

variable (packet : ControlPacket) (rest : Bytes)

theorem byteAt_type : byteAt 1 (packet.header ++ rest) = packet.type.code := rfl

def fields : List Bytes :=
  [[2, packet.type.code, 0, 0], wordBytes packet.offerHash,
    [packet.senderRole, packet.receiverRole, packet.direction], wordBytes packet.connectionEpoch,
    packet.source.encode, packet.destination.encode, wordBytes packet.sequence,
    wordBytes packet.nonce, [packet.setupTtlSeconds], wordBytes packet.token, rest]

theorem header_append : packet.header ++ rest = (packet.fields rest).flatten := by
  simp [header, fields]

theorem byteAt_roles : byteAt 36 (packet.header ++ rest) = packet.senderRole ∧
      byteAt 37 (packet.header ++ rest) = packet.receiverRole ∧
      byteAt 38 (packet.header ++ rest) = packet.direction := by
  rw [header_append]
  exact ⟨byteAt_flatten 2 0 rfl rfl rfl, byteAt_flatten 2 1 rfl rfl rfl,
    byteAt_flatten 2 2 rfl rfl rfl⟩

theorem word_fields : word 4 256 (packet.header ++ rest) = packet.offerHash ∧
      word 39 128 (packet.header ++ rest) = packet.connectionEpoch ∧
      word 93 32 (packet.header ++ rest) = packet.sequence ∧
      word 97 96 (packet.header ++ rest) = packet.nonce ∧
      byteAt 109 (packet.header ++ rest) = packet.setupTtlSeconds ∧
      word 110 128 (packet.header ++ rest) = packet.token := by
  rw [header_append]
  exact ⟨word_flatten 1 rfl rfl rfl, word_flatten 3 rfl (by simp [fields]) rfl,
    word_flatten 6 rfl (by simp [fields]) rfl, word_flatten 7 rfl (by simp [fields]) rfl,
    byteAt_flatten 8 0 rfl (by simp [fields]) rfl, word_flatten 9 rfl (by simp [fields]) rfl⟩

theorem parseCandidate_source (canonical : packet.source.Canonical) :
    parseCandidate (packet.header ++ rest) 55 = some packet.source := by
  apply parseCandidate_slice canonical
  rw [header_append]
  exact slice_flatten 4 rfl (by simp [fields]) (by simp)

theorem parseCandidate_destination (canonical : packet.destination.Canonical) :
    parseCandidate (packet.header ++ rest) 74 = some packet.destination := by
  apply parseCandidate_slice canonical
  rw [header_append]
  exact slice_flatten 5 rfl (by simp [fields]) (by simp)

theorem drop_header : (packet.header ++ rest).drop 126 = rest := by
  rw [drop_append, drop_eq_nil_of_le (by simp), length_header, Nat.sub_self, nil_append, drop_zero]

end Fields

section Trailer

variable {packet : ControlPacket} {first second : OfferHash} {rest : Bytes}

theorem word_trailer_first (starts : packet.trailer = wordBytes first ++ rest) :
    word 126 256 (packet.header ++ packet.trailer) = first := by
  rw [word, slice_append_right (by simp), starts, slice_append_left (by simp),
    slice_whole (by simp) (by simp), word_wordBytes rfl]

theorem word_trailer_second (starts : packet.trailer = wordBytes first ++ wordBytes second) :
    word 158 256 (packet.header ++ packet.trailer) = second := by
  rw [word, slice_append_right (by simp), starts, slice_append_right (by simp),
    slice_whole (by simp) (by simp), word_wordBytes rfl]

theorem read_serialized :
    read (packet.header ++ packet.trailer) packet.type packet.source packet.destination =
      packet.carried := by
  have fields : read (packet.header ++ packet.trailer) packet.type packet.source
      packet.destination = { packet with
        previousOfferHash :=
          if packet.type = .keyCommit then word 126 256 (packet.header ++ packet.trailer) else 0
        commitTranscriptHash :=
          if packet.type = .keyCommitAck then word 126 256 (packet.header ++ packet.trailer) else 0
        probeTranscriptHash :=
          if packet.type = .probeAck then word 126 256 (packet.header ++ packet.trailer)
          else if packet.type = .keyCommit ∨ packet.type = .keyCommitAck then
            word 158 256 (packet.header ++ packet.trailer)
          else 0 } := by
    simp only [read, word_fields, byteAt_roles]
  rw [fields, carried]
  cases type : packet.type with
  | probe | migrateChallenge | migrateAck => rfl
  | probeAck =>
    have starts : packet.trailer = wordBytes packet.probeTranscriptHash ++ [] := by
      simp only [trailer, type, append_nil]
    rw [word_trailer_first starts]
    rfl
  | keyCommit =>
    have starts : packet.trailer =
        wordBytes packet.previousOfferHash ++ wordBytes packet.probeTranscriptHash := by
      simp only [trailer, type]
    rw [word_trailer_first starts, word_trailer_second starts]
    rfl
  | keyCommitAck =>
    have starts : packet.trailer =
        wordBytes packet.commitTranscriptHash ++ wordBytes packet.probeTranscriptHash := by
      simp only [trailer, type]
    rw [word_trailer_first starts, word_trailer_second starts]
    rfl

end Trailer

theorem parse_serialize {bytes : Bytes}
    (written : packet.serialize = some bytes) : parse bytes = some packet.carried := by
  have length := length_serialize written
  obtain ⟨valid, rfl⟩ := serialize_eq_some.1 written
  have ⟨_, _, _, _, _, _, _, _, source, destination⟩ := valid
  have version : ¬ ((packet.header ++ packet.trailer).length < 126 ∨
      byteAt 0 (packet.header ++ packet.trailer) ≠ 2 ∨
      byteAt 2 (packet.header ++ packet.trailer) ≠ 0 ∨
      byteAt 3 (packet.header ++ packet.trailer) ≠ 0) := by
    rintro (short | version | low | high)
    · simp at short
    · exact version rfl
    · exact low rfl
    · exact high rfl
  have padding : ¬ (packet.type = .probe ∧ ∃ byte ∈ packet.trailer, byte ≠ 0) := by
    rintro ⟨probe, byte, inside, nonzero⟩
    simp only [trailer, probe] at inside
    exact nonzero (eq_of_mem_replicate inside)
  rw [parse, if_neg version, byteAt_type, ControlType.ofCode_code]
  simp only [length, parseCandidate_source _ _ source, parseCandidate_destination _ _ destination,
    drop_header, read_serialized, ne_eq, not_true_eq_false, if_false]
  rw [if_neg padding]
  exact if_pos valid

section Canonical

variable {packet : ControlPacket} {bytes : Bytes}

theorem parse_eq_some (parsed : parse bytes = some packet) :
    byteAt 0 bytes = 2 ∧ byteAt 1 bytes = packet.type.code ∧ byteAt 2 bytes = 0 ∧
      byteAt 3 bytes = 0 ∧ bytes.length = packet.type.wireSize ∧
      (packet.type = .probe → bytes.drop 126 = replicate 32 0) ∧
      parseCandidate bytes 55 = some packet.source ∧
      parseCandidate bytes 74 = some packet.destination ∧
      packet = read bytes packet.type packet.source packet.destination ∧ packet.Valid := by
  rw [parse] at parsed
  split_ifs at parsed with start
  rcases known : ControlType.ofCode (byteAt 1 bytes) with _ | type
  · simp only [known, reduceCtorEq] at parsed
  rcases sender : parseCandidate bytes 55 with _ | source
  · simp [known, sender] at parsed
  rcases receiver : parseCandidate bytes 74 with _ | destination
  · simp [known, sender, receiver] at parsed
  simp only [known, sender, receiver] at parsed
  split_ifs at parsed with size padding valid
  cases parsed
  have size := not_not.1 size
  refine ⟨by tauto, (ControlType.code_of_ofCode known).symm, by tauto, by tauto, size, fun probe => ?_,
    rfl, rfl, rfl, valid⟩
  obtain rfl : type = .probe := probe
  have long : (bytes.drop 126).length = 32 := by simp [size, ControlType.wireSize]
  exact eq_replicate_iff.2 ⟨long, fun byte member => by_contra fun odd =>
    padding ⟨rfl, byte, member, odd⟩⟩

theorem parse_valid (parsed : parse bytes = some packet) :
    packet.Valid ∧ bytes.length = packet.type.wireSize := by
  obtain ⟨_, _, _, _, size, _, _, _, _, valid⟩ := parse_eq_some parsed
  exact ⟨valid, size⟩

theorem header_of_parse (parsed : parse bytes = some packet) (long : 126 ≤ bytes.length) :
    packet.header = bytes.take 126 := by
  obtain ⟨version, code, low, high, -, -, source, destination, fields, -⟩ := parse_eq_some parsed
  have starts : slice 0 4 bytes = [2, packet.type.code, 0, 0] := by
    rw [slice_succ (by omega), slice_succ (by omega), slice_succ (by omega), slice_succ (by omega),
      version, code, low, high]
    rfl
  have roles : slice 36 3 bytes = [byteAt 36 bytes, byteAt 37 bytes, byteAt 38 bytes] := by
    rw [slice_succ (by omega), slice_succ (by omega), slice_succ (by omega)]
    rfl
  have ttl : slice 109 1 bytes = [byteAt 109 bytes] := by
    rw [slice_succ (by omega)]
    rfl
  rw [header, encode_of_parseCandidate source (by omega),
    encode_of_parseCandidate destination (by omega), ← starts, fields]
  simp only [read]
  rw [← roles, ← ttl, wordBytes_word rfl (by omega), wordBytes_word rfl (by omega),
    wordBytes_word rfl (by omega), wordBytes_word rfl (by omega), wordBytes_word rfl (by omega),
    ← slice_add 1, ← slice_add 12, ← slice_add 4, ← slice_add 19, ← slice_add 19, ← slice_add 16,
    ← slice_add 3, ← slice_add 32, ← slice_add 4]
  rfl

theorem trailer_of_parse (parsed : parse bytes = some packet) : packet.trailer = bytes.drop 126 := by
  obtain ⟨-, -, -, -, size, padding, -, -, fields, -⟩ := parse_eq_some parsed
  have whole : bytes.drop 126 = slice 126 (packet.type.wireSize - 126) bytes :=
    (take_of_length_le (by rw [length_drop, size])).symm
  rw [whole]
  cases type : packet.type with
  | probe =>
    rw [← type, ← whole, padding type, trailer, type]
  | migrateChallenge | migrateAck =>
    rw [trailer, type]
    rfl
  | probeAck =>
    rw [type] at fields size
    rw [fields]
    exact wordBytes_word rfl size.ge
  | keyCommit | keyCommitAck =>
    rw [type] at fields size
    have long : bytes.length = 190 := size
    have first : wordBytes (word 126 256 bytes) = slice 126 32 bytes := wordBytes_word rfl (by omega)
    have second : wordBytes (word 158 256 bytes) = slice 158 32 bytes := wordBytes_word rfl (by omega)
    rw [fields]
    exact (congrArg₂ (· ++ ·) first second).trans (slice_add 32 32).symm

theorem serialize_parse (parsed : parse bytes = some packet) : packet.serialize = some bytes := by
  obtain ⟨valid, size⟩ := parse_valid parsed
  have long : 126 ≤ bytes.length := by
    rw [size]
    cases packet.type <;> decide
  rw [serialize_eq_some, header_of_parse parsed long, trailer_of_parse parsed, take_append_drop]
  exact ⟨valid, rfl⟩

/-- The bytes that `Tag` authenticates: the packet's own with the token blanked. -/
theorem header_token :
    header { packet with token := 0 } = packet.header.take 110 ++ replicate 16 0 := by
  have front (packet : ControlPacket) : packet.header =
      ((packet.fields []).take 9).flatten ++ wordBytes packet.token := by
    simp [header, fields]
  have blank : wordBytes (0 : BitVec 128) = replicate 16 0 := by decide
  rw [front, front packet, take_left' (by simp [fields]), blank]
  rfl

theorem control_codec_canonical (crypto : Crypto) :
    (∀ bytes packet, parse bytes = some packet → packet.serialize = some bytes ∧
      packet.hash crypto = some (crypto.digest bytes) ∧
      ∀ key binding, packet.tag crypto key binding =
        some ((crypto.hmac key (bytes.take 110 ++ replicate 16 0 ++ bytes.drop 126 ++
          binding.elim [] wordBytes)).extractLsb' 128 128)) ∧ ∀ (packet : ControlPacket) bytes,
      packet.serialize = some bytes → parse bytes = some packet.carried := by
  refine ⟨fun bytes packet parsed => ?_, fun packet bytes => parse_serialize⟩
  have written := serialize_parse parsed
  obtain ⟨valid, rfl⟩ := serialize_eq_some.1 written
  refine ⟨written, by rw [hash, written, Option.map_some], fun key binding => ?_⟩
  have blanked : serialize { packet with token := 0 } =
      some (packet.header.take 110 ++ replicate 16 0 ++ packet.trailer) := by
    rw [← header_token]
    exact if_pos valid
  rw [tag, blanked, drop_header, take_append_of_le_length (by simp), Option.map_some]

end Canonical

end ControlPacket

structure DataHeader where
  offerHash : OfferHash := 0
  senderRole : UInt8 := 0
  receiverRole : UInt8 := 1
  direction : UInt8 := 0
  connectionEpoch : Id := 0
  sequence : Sequence := 0
  payloadLength : BitVec 16 := 0
deriving DecidableEq, Repr

variable {header : DataHeader} {datagram : Bytes}

namespace DataHeader

def headerSize : Nat := 62

def tagSize : Nat := 16

def maxPayloadSize : Nat := 1514

def Valid (header : DataHeader) : Prop :=
  header.sequence ≠ maxSequence ∧ header.senderRole ≤ 1 ∧ header.receiverRole ≤ 1 ∧
    header.senderRole ≠ header.receiverRole ∧ header.direction = header.senderRole ∧
    1 ≤ header.payloadLength.toNat ∧ header.payloadLength.toNat ≤ maxPayloadSize ∧
    header.offerHash ≠ 0 ∧ header.connectionEpoch ≠ 0

instance (header : DataHeader) : Decidable header.Valid := inferInstanceAs (Decidable (_ ∧ _))

def serialize (header : DataHeader) : Bytes :=
  [2, 5, 0, 0] ++ (wordBytes header.offerHash ++
    ([header.senderRole, header.receiverRole, header.direction, 0] ++
    (wordBytes header.connectionEpoch ++ (wordBytes header.sequence ++
    wordBytes header.payloadLength))))

def read (datagram : Bytes) : DataHeader :=
  { offerHash := word 4 256 datagram
    senderRole := byteAt 36 datagram
    receiverRole := byteAt 37 datagram
    direction := byteAt 38 datagram
    connectionEpoch := word 40 128 datagram
    sequence := word 56 32 datagram
    payloadLength := word 60 16 datagram }

def parse (datagram : Bytes) : Option DataHeader :=
  if datagram.length < headerSize + tagSize ∨ byteAt 0 datagram ≠ 2 ∨ byteAt 1 datagram ≠ 5 ∨
      byteAt 2 datagram ≠ 0 ∨ byteAt 3 datagram ≠ 0 ∨ byteAt 39 datagram ≠ 0 then none
  else if ¬ (read datagram).Valid ∨
      datagram.length ≠ headerSize + (read datagram).payloadLength.toNat + tagSize then none
  else some (read datagram)

def sealDatagram (crypto : Crypto) (header : DataHeader) (key : Key) (nonce : Nonce)
    (payload : Bytes) : Option Bytes :=
  if payload.length = 0 ∨ maxPayloadSize < payload.length ∨ 65535 < payload.length then none
  else
    let wire := { header with payloadLength := BitVec.ofNat 16 payload.length }
    if wire.Valid then
      let encrypted := crypto.encrypt key nonce wire.serialize payload
      some (wire.serialize ++ (encrypted.1 ++ wordBytes encrypted.2))
    else none

/-- `MatchesExpected`: everything but the payload length. -/
def Matches (actual expected : DataHeader) : Prop :=
  actual.offerHash = expected.offerHash ∧ actual.senderRole = expected.senderRole ∧
    actual.receiverRole = expected.receiverRole ∧ actual.direction = expected.direction ∧
    actual.connectionEpoch = expected.connectionEpoch ∧ actual.sequence = expected.sequence

instance (actual expected : DataHeader) : Decidable (actual.Matches expected) :=
  inferInstanceAs (Decidable (_ ∧ _))

def openDatagram (crypto : Crypto) (datagram : Bytes) (expected : DataHeader) (key : Key)
    (nonce : Nonce) : Option Bytes :=
  match parse datagram with
  | none => none
  | some parsed =>
    if ¬ parsed.Matches expected then none
    else
      let size := parsed.payloadLength.toNat
      match crypto.decrypt key nonce (slice 0 headerSize datagram)
        (slice headerSize size datagram) (word (headerSize + size) 128 datagram) with
      | none => none
      | some plaintext => if plaintext.length ≠ size then none else some plaintext

@[simp] theorem length_serialize (header : DataHeader) : header.serialize.length = headerSize := by
  simp [serialize, headerSize]

section Fields

variable (header : DataHeader) (rest : Bytes)

theorem byteAt_fixed :
    byteAt 0 (header.serialize ++ rest) = 2 ∧ byteAt 1 (header.serialize ++ rest) = 5 ∧
      byteAt 2 (header.serialize ++ rest) = 0 ∧ byteAt 3 (header.serialize ++ rest) = 0 :=
  ⟨rfl, rfl, rfl, rfl⟩

def fields : List Bytes :=
  [[2, 5, 0, 0], wordBytes header.offerHash,
    [header.senderRole, header.receiverRole, header.direction, 0],
    wordBytes header.connectionEpoch, wordBytes header.sequence, wordBytes header.payloadLength,
    rest]

theorem serialize_append : header.serialize ++ rest = (header.fields rest).flatten := by
  simp [serialize, fields]

theorem byteAt_roles : byteAt 36 (header.serialize ++ rest) = header.senderRole ∧
      byteAt 37 (header.serialize ++ rest) = header.receiverRole ∧
      byteAt 38 (header.serialize ++ rest) = header.direction ∧
      byteAt 39 (header.serialize ++ rest) = 0 := by
  rw [serialize_append]
  exact ⟨byteAt_flatten 2 0 rfl rfl rfl, byteAt_flatten 2 1 rfl rfl rfl,
    byteAt_flatten 2 2 rfl rfl rfl, byteAt_flatten 2 3 rfl rfl rfl⟩

theorem read_serialized : read (header.serialize ++ rest) = header := by
  have roles := header.byteAt_roles rest
  rw [serialize_append] at roles ⊢
  have offerHash : word 4 256 (header.fields rest).flatten = header.offerHash :=
    word_flatten 1 rfl rfl rfl
  have connectionEpoch : word 40 128 (header.fields rest).flatten = header.connectionEpoch :=
    word_flatten 3 rfl (by simp [fields]) rfl
  have sequence : word 56 32 (header.fields rest).flatten = header.sequence :=
    word_flatten 4 rfl (by simp [fields]) rfl
  have payloadLength : word 60 16 (header.fields rest).flatten = header.payloadLength :=
    word_flatten 5 rfl (by simp [fields]) rfl
  simp only [read, offerHash, roles, connectionEpoch, sequence, payloadLength]

end Fields

variable {crypto : Crypto} {key : Key} {nonce : Nonce} {payload : Bytes}

theorem parse_sealDatagram (sealed : sealDatagram crypto header key nonce payload = some datagram) :
    parse datagram = some { header with payloadLength := BitVec.ofNat 16 payload.length } := by
  simp only [sealDatagram] at sealed
  split_ifs at sealed with sized valid
  obtain rfl := Option.some.inj sealed
  have fits : (BitVec.ofNat 16 payload.length).toNat = payload.length := by
    exact Nat.mod_eq_of_lt (by omega)
  rw [parse, if_neg, if_neg]
  · rw [read_serialized]
  · rw [read_serialized]
    simp only [not_or, not_not]
    refine ⟨valid, ?_⟩
    simp only [List.length_append, length_serialize, crypto.length_encrypt, length_wordBytes, fits,
      tagSize]
    omega
  · simp only [byteAt_fixed, byteAt_roles, List.length_append, length_serialize,
      crypto.length_encrypt, length_wordBytes, tagSize]
    simp

theorem sealDatagram_isSome (nonempty : 1 ≤ payload.length) (fits : payload.length ≤ maxPayloadSize)
    (valid : ({ header with payloadLength := BitVec.ofNat 16 payload.length } : DataHeader).Valid) :
    (sealDatagram crypto header key nonce payload).isSome := by
  rw [sealDatagram, if_neg (by simp only [maxPayloadSize] at fits ⊢; omega)]
  simp only [if_pos valid, Option.isSome_some]

end DataHeader

theorem ControlPacket.parse_of_data
    (data : DataHeader.parse datagram = some header) : ControlPacket.parse datagram = none := by
  have type : byteAt 1 datagram = 5 := by
    rw [DataHeader.parse] at data
    split_ifs at data with fixed
    simp only [not_or, not_not] at fixed
    exact fixed.2.2.1
  rw [parse]
  split_ifs
  · rfl
  · rw [type]
    rfl

open Lib.BigEndian

def maxCoalescedFrames : Nat := 16

def maxEthernetFrameSize : Nat := 1514

namespace Coalescing

/-- The loop of `DemuxCoalescedFrames` from `offset` on, with room for `left` more frames; the
offset and the length of each frame are returned. -/
def demuxFrom (payload : Bytes) : Nat → Nat → Option (List (Nat × Nat))
  | left, offset =>
    if offset + 2 ≤ payload.length then
      match left with
      | 0 => none
      | left + 1 =>
        let frameLen := ofBigEndian (slice offset 2 payload)
        if frameLen = 0 ∨ payload.length < offset + 2 + frameLen then none
        else (demuxFrom payload left (offset + 2 + frameLen)).map ((offset + 2, frameLen) :: ·)
    else if offset ≠ payload.length then none
    else some []

def demuxCoalescedFrames (payload : Bytes) (maxFrames : Nat) : Option (List (Nat × Nat)) :=
  if payload.length = 0 ∨ maxFrames = 0 then none else demuxFrom payload maxFrames 0

/-- The loop of `CoalesceFrames` from `offset` on. -/
def coalesceFrom (outsz : Nat) : Nat → List Bytes → Option Bytes
  | _, [] => some []
  | offset, frame :: rest =>
    if frame.length = 0 ∨ maxEthernetFrameSize < frame.length then none
    else if outsz < offset + 2 + frame.length then none
    else (coalesceFrom outsz (offset + 2 + frame.length) rest).map
      (bigEndian 2 frame.length ++ frame ++ ·)

def coalesceFrames (outsz : Nat) (frames : List Bytes) : Option Bytes :=
  if outsz = 0 ∨ frames.length = 0 ∨ maxCoalescedFrames < frames.length then none
  else coalesceFrom outsz 0 frames

/-- The frames a caller reads at the places that were found. -/
def framesAt (payload : Bytes) (places : List (Nat × Nat)) : List Bytes :=
  places.map fun place => slice place.1 place.2 payload

def prefixed (frame : Bytes) : Bytes := bigEndian 2 frame.length ++ frame

variable {frames : List Bytes}

theorem demuxFrom_eq_some {payload : Bytes} {left offset : Nat} {places : List (Nat × Nat)}
    (found : demuxFrom payload left offset = some places) : places.length ≤ left ∧
      (∀ frame ∈ framesAt payload places, 1 ≤ frame.length ∧ frame.length ≤ 65535) ∧
      payload.drop offset = (framesAt payload places).flatMap prefixed := by
  fun_induction demuxFrom payload left offset generalizing places with
  | case1 | case2 | case4 => cases found
  | case3 offset inside left frameLen good =>
    rename_i ih
    have two := length_slice inside
    have bound := ofBigEndian_lt (slice offset 2 payload)
    rw [two] at bound
    obtain ⟨later, others, rfl⟩ := Option.map_eq_some_iff.1 found
    obtain ⟨few, all, rest⟩ := ih others
    have digits : bigEndian 2 frameLen = slice offset 2 payload := by
      apply ofBigEndian_injective
      · rw [bigEndian_length, two]
      · rw [ofBigEndian_bigEndian, Nat.mod_eq_of_lt bound]
    have size := @length_slice (offset + 2) frameLen payload (by omega)
    refine ⟨Nat.succ_le_succ few, forall_mem_cons.2 ⟨by dsimp only; omega, all⟩, ?_⟩
    change _ = prefixed (slice (offset + 2) frameLen payload) ++
      (framesAt payload later).flatMap prefixed
    rw [prefixed, size, digits, ← rest, ← slice_add, slice, Nat.add_assoc, ← drop_drop,
      take_append_drop]
  | case5 left offset stop ends =>
    cases found
    simp [framesAt, not_not.1 ends]

theorem demuxFrom_prefixed {left : Nat} (front : Bytes) (few : frames.length ≤ left)
    (sized : ∀ frame ∈ frames, 1 ≤ frame.length ∧ frame.length ≤ 65535) :
    (demuxFrom (front ++ frames.flatMap prefixed) left front.length).map
      (framesAt (front ++ frames.flatMap prefixed)) = some frames := by
  induction frames generalizing left front with
  | nil =>
    rw [demuxFrom.eq_def]
    simp [framesAt]
  | cons frame others ih =>
    obtain ⟨own, all⟩ := forall_mem_cons.1 sized
    cases left with
    | zero => cases few
    | succ left =>
      have rest := ih (front ++ prefixed frame) (Nat.le_of_succ_le_succ few) all
      have next : (front ++ prefixed frame).length = front.length + 2 + frame.length := by
        simp [prefixed, Nat.add_assoc]
      rw [append_assoc, next] at rest
      rw [flatMap_cons]
      generalize others.flatMap prefixed = tail at rest ⊢
      have total : (front ++ (prefixed frame ++ tail)).length =
          front.length + 2 + frame.length + tail.length := by
        rw [← append_assoc, length_append, next]
      have digits : slice front.length 2 (front ++ (prefixed frame ++ tail)) =
          bigEndian 2 frame.length := by
        rw [slice_append_right le_rfl, Nat.sub_self, prefixed, append_assoc]
        exact take_left' (bigEndian_length ..)
      have here : slice (front.length + 2) frame.length (front ++ (prefixed frame ++ tail)) =
          frame := by
        rw [slice_append_right (by omega), Nat.add_sub_cancel_left, prefixed, append_assoc, slice,
          drop_left' (bigEndian_length ..), take_left' rfl]
      rw [demuxFrom, if_pos (by omega), digits, ofBigEndian_bigEndian, Nat.mod_eq_of_lt (by omega)]
      dsimp only
      rw [if_neg (by omega), Option.map_map]
      obtain ⟨places, found, frames_eq⟩ := Option.map_eq_some_iff.1 rest
      rw [found, ← frames_eq]
      simp [framesAt, here]

theorem coalesceFrom_eq_some {outsz offset : Nat} {bytes : Bytes}
    (coalesced : coalesceFrom outsz offset frames = some bytes) :
    (∀ frame ∈ frames, 1 ≤ frame.length ∧ frame.length ≤ maxEthernetFrameSize) ∧
      bytes = frames.flatMap prefixed := by
  induction frames generalizing offset bytes with
  | nil =>
    cases coalesced
    simp
  | cons frame rest ih =>
    rw [coalesceFrom] at coalesced
    split_ifs at coalesced with sized room
    obtain ⟨later, others, rfl⟩ := Option.map_eq_some_iff.1 coalesced
    obtain ⟨all, rfl⟩ := ih others
    exact ⟨forall_mem_cons.2 ⟨by omega, all⟩, rfl⟩

theorem demuxCoalescedFrames_iff (payload : Bytes) (maxFrames : Nat) :
    (demuxCoalescedFrames payload maxFrames).map (framesAt payload) = some frames ↔
      1 ≤ frames.length ∧ frames.length ≤ maxFrames ∧
        (∀ frame ∈ frames, 1 ≤ frame.length ∧ frame.length ≤ 65535) ∧
        payload = frames.flatMap prefixed := by
  rw [demuxCoalescedFrames]
  constructor
  · intro found
    split_ifs at found with bad
    · cases found
    obtain ⟨places, read, rfl⟩ := Option.map_eq_some_iff.1 found
    obtain ⟨few, all, whole⟩ := demuxFrom_eq_some read
    refine ⟨?_, by simpa [framesAt] using few, all, whole⟩
    cases places with
    | nil => exact (bad (.inl (congrArg length whole))).elim
    | cons place others => exact Nat.succ_pos _
  · rintro ⟨some, few, all, rfl⟩
    rw [if_neg]
    · exact demuxFrom_prefixed [] few all
    · cases frames with
      | nil => cases some
      | cons frame others =>
        simp [prefixed]
        omega

theorem coalesced_frames_roundTrip (frames : List Bytes) :
    (∀ outsz bytes, coalesceFrames outsz frames = some bytes →
      (demuxCoalescedFrames bytes maxCoalescedFrames).map (framesAt bytes) = some frames) ∧
    ∀ payload maxFrames,
      (demuxCoalescedFrames payload maxFrames).map (framesAt payload) = some frames ↔
        1 ≤ frames.length ∧ frames.length ≤ maxFrames ∧
          (∀ frame ∈ frames, 1 ≤ frame.length ∧ frame.length ≤ 65535) ∧
          payload = frames.flatMap prefixed := by
  refine ⟨fun outsz bytes coalesced => ?_, demuxCoalescedFrames_iff⟩
  rw [coalesceFrames] at coalesced
  split_ifs at coalesced with bad
  obtain ⟨all, rfl⟩ := coalesceFrom_eq_some coalesced
  refine (demuxCoalescedFrames_iff _ _).2 ⟨by omega, by omega, fun frame member => ?_, rfl⟩
  have := all frame member
  simp only [maxEthernetFrameSize] at this
  omega

/-- A frame longer than `CoalesceFrames` takes is accepted. -/
theorem demux_accepts_long_frame :
    demuxCoalescedFrames (prefixed (replicate 1515 0)) maxCoalescedFrames = some [(2, 1515)] ∧
      ∀ outsz, coalesceFrames outsz [replicate 1515 0] = none := by
  refine ⟨by decide +kernel, fun outsz => ?_⟩
  have long : coalesceFrom outsz 0 [replicate 1515 0] = none :=
    if_pos (.inr (by rw [length_replicate]; decide))
  rw [coalesceFrames, long, ite_self]

end Coalescing

end OpenPpp2.P2P
