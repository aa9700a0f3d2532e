import OpenPpp2.Lib.ByteLayout
import OpenPpp2.Net.Checksum
import OpenPpp2.Transmission.PacketFrame

/-!
# Static datagrams

`VirtualEthernetPacket::PackBy` and `UnpackBy`: a header of 23 bytes before the payload, a checksum
over both, the header through the protocol cipher, the bytes from the session on through a shuffle
and a mask, and all of it through delta coding.
-/

namespace OpenPpp2.Protocol

open Lib.BigEndian Lib.ByteLayout Ssea Net Transmission

/-- The bytes of a number in the order of the host, which is little endian. -/
def nativeBytes {width : Nat} (value : BitVec width) : Bytes := (wordBytes value).reverse

def nativeWord (offset width : Nat) (bytes : Bytes) : BitVec width :=
  BitVec.ofNat width (ofBigEndian (slice offset (width / 8) bytes).reverse)

structure Header where
  maskId : BitVec 32
  headerLength : UInt8
  sessionId : BitVec 32
  checksum : BitVec 16
  sourceIp : BitVec 32
  sourcePort : BitVec 16
  destinationIp : BitVec 32
  destinationPort : BitVec 16

/-- The fields before `checksum`. -/
def Header.front (header : Header) : Bytes :=
  nativeBytes header.maskId ++ header.headerLength :: wordBytes header.sessionId

/-- The fields from `checksum` on, which the protocol cipher covers. -/
def Header.body (header : Header) : Bytes :=
  nativeBytes header.checksum ++ nativeBytes header.sourceIp ++ wordBytes header.sourcePort ++
    nativeBytes header.destinationIp ++ wordBytes header.destinationPort

/-- The header as it lies in memory; ports and the session are in network order. -/
def Header.read (bytes : Bytes) : Header where
  maskId := nativeWord 0 32 bytes
  headerLength := byteAt 4 bytes
  sessionId := word 5 32 bytes
  checksum := nativeWord 9 16 bytes
  sourceIp := nativeWord 11 32 bytes
  sourcePort := word 15 16 bytes
  destinationIp := nativeWord 17 32 bytes
  destinationPort := word 21 16 bytes

def headerSize : Nat := 23

inductive Kind where
  | udp
  | ip
  deriving DecidableEq, Repr

structure Packet where
  id : BitVec 32
  kind : Kind
  sourceIp : BitVec 32
  sourcePort : Nat
  destinationIp : BitVec 32
  destinationPort : Nat
  payload : Bytes
  deriving DecidableEq, Repr

def staticMod (kf : BitVec 32) : Nat := lcgmod kf (2 ^ 7) (2 ^ 8)

def staticKfMod (key : Key) (kf : BitVec 32) : Nat := (kf.toInt.tmod (staticMod key.kf)).natAbs

def hideLength (key : Key) (kf : BitVec 32) (length : Nat) : UInt8 :=
  UInt8.ofNat ((length + staticKfMod key kf) % staticMod key.kf)

/-- `STATIC_header_length`, as a byte. -/
def staticHeaderLength (key : Key) (kf : BitVec 32) (stored : Nat) : Nat :=
  (if staticMod key.kf = 0 then headerSize
  else (stored + staticMod key.kf - staticKfMod key kf) % staticMod key.kf) % 256

def packetKf (key : Key) (maskId : BitVec 32) : BitVec 32 := randomNext (key.kf * maskId)

/-- The last layers of `STATIC_Pack`: shuffle and mask from the session on, then delta coding. -/
def conceal (key : Key) (kf : BitVec 32) (message : Bytes) : Option Bytes :=
  Ssea.deltaEncode key.kf
    (message.take 5 ++ maskedXorRandomNext kf (shuffleData kf (message.drop 5)))

def staticPack (key : Key) (protocol : Option Cipher) (header : Header) (payload : Bytes) :
    Option Bytes :=
  let kf := packetKf key header.maskId
  if staticMod key.kf = 0 then none
  else
    let header := { header with
      headerLength := hideLength key kf headerSize, sessionId := header.sessionId ^^^ kf }
    let header := { header with
      checksum := inetChksum (header.front ++ header.body ++ payload) }
    match protocol with
    | none => conceal key kf (header.front ++ header.body ++ payload)
    | some cipher =>
      match cipher.encrypt header.body with
      | none => none
      | some body =>
        -- A cipher that changes the length moves the payload; the header length then tells.
        let header :=
          if body.length = header.body.length then header
          else { header with headerLength := hideLength key kf (body.length + 9) }
        conceal key kf (header.front ++ body ++ payload)

def sessionCiphers (protocol transport : BitVec 32 → Option Cipher) (id : BitVec 32) :
    Option (Cipher × Cipher) :=
  match protocol id, transport id with
  | some inner, some outer => some (inner, outer)
  | _, _ => none

/-- `PackBy`, with the mask it draws. -/
def packBy (key : Key) (protocol transport : BitVec 32 → Option Cipher)
    (originId sessionId sourceIp : BitVec 32) (sourcePort : Nat) (destinationIp : BitVec 32)
    (destinationPort : Nat) (maskId : BitVec 32) (payload : Bytes) : Option Bytes :=
  if originId = 0 then none
  else if payload.length < 1 then none
  else
    let header : Header :=
      { maskId := maskId, headerLength := 0, sessionId := sessionId, checksum := 0
        sourceIp := sourceIp, sourcePort := BitVec.ofNat 16 sourcePort
        destinationIp := destinationIp, destinationPort := BitVec.ofNat 16 destinationPort }
    match sessionCiphers protocol transport originId with
    | none => staticPack key none header payload
    | some (inner, outer) =>
      match outer.encrypt payload with
      | none => none
      | some payload => staticPack key (some inner) header payload

/-- The tests of `STATIC_Unpack` on the endpoints of a UDP datagram. -/
def Packet.endpointsValid (packet : Packet) : Bool :=
  packet.destinationIp != BitVec.allOnes 32 && packet.destinationIp != 0 &&
    decide (0 < packet.destinationPort) && decide (packet.destinationPort ≤ 65535) &&
    packet.sourceIp != BitVec.allOnes 32 && packet.sourceIp != 0 &&
    decide (0 < packet.sourcePort) && decide (packet.sourcePort ≤ 65535)

def staticUnpack (transport : Option Cipher) (kind : Kind) (sessionId : BitVec 32)
    (message : Bytes) : Option Packet :=
  if sessionId = 0 then none
  else if message.length < headerSize then none
  else
    let header := Header.read message
    let cleared := message.take 9 ++ [0, 0] ++ message.drop 11
    if header.checksum ≠ inetChksum cleared then none
    else
      match transport.elim (some (message.drop headerSize))
        (fun cipher => cipher.decrypt (message.drop headerSize)) with
      | none => none
      | some payload =>
        let packet : Packet :=
          { id := sessionId, kind := kind, sourceIp := header.sourceIp
            sourcePort := header.sourcePort.toNat, destinationIp := header.destinationIp
            destinationPort := header.destinationPort.toNat, payload := payload }
        if kind = .udp ∧ packet.endpointsValid = false then none else some packet

def unpackBy (key : Key) (protocol transport : BitVec 32 → Option Cipher) (packet : Bytes) :
    Option Packet :=
  if packet.length ≤ headerSize then none
  else
    match Ssea.deltaDecode key.kf packet with
    | none => none
    | some output =>
      let masked := Header.read output
      if output.length ≤ headerSize then none
      else if masked.maskId = 0 then none
      else
        let kf := packetKf key masked.maskId
        let headerLength := staticHeaderLength key kf masked.headerLength.toNat
        if headerLength < headerSize then none
        else
          let message := output.take 5 ++ unshuffleData kf (maskedXorRandomNext kf (output.drop 5))
          let session := (Header.read message).sessionId ^^^ kf
          let (sessionId, kind) :=
            if session.msb then (~~~ session, Kind.ip) else (session, Kind.udp)
          match sessionCiphers protocol transport sessionId with
          | none => staticUnpack none kind sessionId message
          | some (inner, outer) =>
            match inner.decrypt (slice 9 14 message) with
            | none => none
            | some body =>
              if body.length = 14 then
                staticUnpack (some outer) kind sessionId (message.take 9 ++ body ++ message.drop 23)
              else
                -- The header that came longer or shorter is laid out again.
                staticUnpack (some outer) kind sessionId
                  (message.take 4 ++
                    UInt8.ofNat (staticHeaderLength key kf headerSize) ::
                      slice 5 4 message ++ body ++ message.drop headerLength)

open List

variable {width : Nat} (rest : Bytes) {offset : Nat}

@[simp] theorem length_nativeBytes (value : BitVec width) :
    (nativeBytes value).length = width / 8 := by
  rw [nativeBytes, length_reverse, length_wordBytes]

theorem nativeWord_flatten {value : BitVec width} {parts : List Bytes} (place : Nat)
    (here : parts[place]? = some (nativeBytes value))
    (start : (parts.take place).flatten.length = offset) (whole : 8 * (width / 8) = width) :
    nativeWord offset width parts.flatten = value := by
  rw [nativeWord, slice_flatten place here start (length_nativeBytes value), nativeBytes,
    reverse_reverse, word_wordBytes whole]

variable (header : Header)

@[simp] theorem Header.length_front : header.front.length = 9 := by
  simp [front]

@[simp] theorem Header.length_body : header.body.length = 14 := by
  simp [body]

theorem Header.read_front : nativeWord 0 32 (header.front ++ rest) = header.maskId ∧
    byteAt 4 (header.front ++ rest) = header.headerLength ∧
    word 5 32 (header.front ++ rest) = header.sessionId := by
  have shape : header.front ++ rest = [nativeBytes header.maskId, [header.headerLength],
      wordBytes header.sessionId, rest].flatten := by
    simp [front]
  rw [shape]
  exact ⟨nativeWord_flatten 0 rfl rfl rfl, byteAt_flatten 1 0 rfl (by simp) rfl,
    word_flatten 2 rfl (by simp) rfl⟩

theorem Header.read_bytes : Header.read (header.front ++ (header.body ++ rest)) = header := by
  obtain ⟨maskId, headerLength, sessionId⟩ := header.read_front (header.body ++ rest)
  have shape : header.front ++ (header.body ++ rest) = [header.front, nativeBytes header.checksum,
      nativeBytes header.sourceIp, wordBytes header.sourcePort, nativeBytes header.destinationIp,
      wordBytes header.destinationPort, rest].flatten := by
    simp [body]
  rw [read, maskId, headerLength, sessionId, shape, nativeWord_flatten 1 rfl (by simp) rfl,
    nativeWord_flatten 2 rfl (by simp) rfl, word_flatten 3 rfl (by simp) rfl,
    nativeWord_flatten 4 rfl (by simp) rfl, word_flatten 5 rfl (by simp) rfl]

theorem conceal_spec {key : Key} {kf : BitVec 32} {message packet : Bytes}
    (long : 5 ≤ message.length) (made : conceal key kf message = some packet) :
    packet.length = message.length ∧ ∃ output, Ssea.deltaDecode key.kf packet = some output ∧
      output.length = message.length ∧ output.take 5 = message.take 5 ∧
      output.take 5 ++ unshuffleData kf (maskedXorRandomNext kf (output.drop 5)) = message := by
  rcases deltaEncode_spec made with ⟨kept, decoded⟩
  have five : (message.take 5).length = 5 := by
    rw [length_take]
    omega
  have size : (message.take 5 ++ maskedXorRandomNext kf
      (shuffleData kf (message.drop 5))).length = message.length := by
    rw [length_append, five, length_maskedXorRandomNext, length_shuffleData, length_drop]
    omega
  refine ⟨kept.trans size, _, decoded, size, take_left' five, ?_⟩
  rw [take_left' five, drop_left' five, maskedXorRandomNext_twice,
    unshuffleData_shuffleData, take_append_drop]

theorem staticMod_bounds (kf : BitVec 32) : 128 ≤ staticMod kf ∧ staticMod kf ≤ 256 :=
  lcgmod_bounds kf (by decide)

theorem staticHeaderLength_hideLength {key : Key} (kf : BitVec 32) {length : Nat}
    (fits : length < staticMod key.kf) :
    staticHeaderLength key kf (hideLength key kf length).toNat = length := by
  have bounds := staticMod_bounds key.kf
  have small : staticKfMod key kf < staticMod key.kf := natAbs_tmod_lt kf (by omega)
  have byte : (hideLength key kf length).toNat =
      (length + staticKfMod key kf) % staticMod key.kf := by
    have below : (length + staticKfMod key kf) % staticMod key.kf < staticMod key.kf :=
      Nat.mod_lt _ (by omega)
    rw [hideLength, UInt8.toNat_ofNat', Nat.mod_eq_of_lt (by omega)]
  rw [staticHeaderLength, if_neg (by omega), byte, hidden_mod fits small,
    Nat.mod_eq_of_lt (by omega)]

theorem first_fields {output message : Bytes} (same : output.take 5 = message.take 5) :
    nativeWord 0 32 output = nativeWord 0 32 message ∧ byteAt 4 output = byteAt 4 message := by
  have short : ∀ bytes : Bytes, slice 0 4 bytes = (bytes.take 5).take 4 := by
    intro bytes
    rw [slice, drop_zero, take_take]
    rfl
  have last : ∀ bytes : Bytes, byteAt 4 bytes = byteAt 4 (bytes.take 5) := by
    intro bytes
    simp [byteAt]
  constructor
  · simp only [nativeWord, Nat.reduceDiv, short, same]
  · rw [last output, last message, same]

/-- The session as it stands in the header: complemented for a whole IP packet. -/
def Kind.encode : Kind → BitVec 32 → BitVec 32
  | .udp, id => id
  | .ip, id => ~~~ id

theorem Kind.decode_encode (kind : Kind) {id : BitVec 32} (positive : 1 ≤ id.toInt) :
    (if (kind.encode id).msb then (~~~ kind.encode id, Kind.ip)
    else (kind.encode id, Kind.udp)) = (id, kind) := by
  have plus : id.msb = false := by
    rw [BitVec.msb_eq_toInt]
    exact decide_eq_false (by omega)
  cases kind with
  | udp | ip => simp [encode, plus]

theorem cleared_bytes (payload : Bytes) :
    (header.front ++ (header.body ++ payload)).take 9 ++ [0, 0] ++
        (header.front ++ (header.body ++ payload)).drop 11 =
      header.front ++ ({ header with checksum := 0 }.body ++ payload) := by
  have zero : nativeBytes 0#16 = [0, 0] := rfl
  have split : header.front ++ (header.body ++ payload) =
      (header.front ++ nativeBytes header.checksum) ++ (nativeBytes header.sourceIp ++
        (wordBytes header.sourcePort ++ (nativeBytes header.destinationIp ++
          (wordBytes header.destinationPort ++ payload)))) := by
    simp [Header.body]
  rw [take_left' header.length_front, split, drop_left' (by simp)]
  simp [Header.body, zero]

theorem staticUnpack_bytes {transport : Option Cipher} {kind : Kind} {id : BitVec 32}
    {stored payload : Bytes} (nonzero : id ≠ 0) (sum : header.checksum =
      inetChksum (header.front ++ ({ header with checksum := 0 }.body ++ stored)))
    (opens : transport.elim (some stored) (fun cipher => cipher.decrypt stored) = some payload)
    (valid : kind = .udp → Packet.endpointsValid ⟨id, kind, header.sourceIp,
      header.sourcePort.toNat, header.destinationIp, header.destinationPort.toNat, payload⟩ =
        true) :
    staticUnpack transport kind id (header.front ++ (header.body ++ stored)) =
      some ⟨id, kind, header.sourceIp, header.sourcePort.toNat, header.destinationIp,
        header.destinationPort.toNat, payload⟩ := by
  have long : ¬ (header.front ++ (header.body ++ stored)).length < headerSize := by
    simp [headerSize]
    omega
  have rest : (header.front ++ (header.body ++ stored)).drop headerSize = stored := by
    rw [← append_assoc]
    exact drop_left' (by simp [headerSize])
  simp only [staticUnpack, if_neg nonzero, if_neg long, header.read_bytes, cleared_bytes, ← sum,
    ne_eq, not_true_eq_false, if_false, rest, opens]
  rw [if_neg]
  rintro ⟨udp, invalid⟩
  rw [valid udp] at invalid
  cases invalid

section Datagram

variable {key : Key} {protocol transport : BitVec 32 → Option Cipher} {kind : Kind}
  {id : BitVec 32} {stored payload packet : Bytes}

/-- What `UnpackBy` hands to `STATIC_Unpack` once the first 14 bytes of the encrypted header are
decrypted. -/
def relaid (key : Key) (kf : BitVec 32) (header : Header) (body stored plain : Bytes) : Bytes :=
  if plain.length = 14 then header.front ++ (plain ++ (body ++ stored).drop 14)
  else
    { header with headerLength := UInt8.ofNat (staticHeaderLength key kf headerSize) }.front ++
      (plain ++ stored)

variable (protocol transport) in
theorem unpackBy_conceal {kf : BitVec 32} {body : Bytes} (mask : header.maskId ≠ 0)
    (key_of : kf = packetKf key header.maskId)
    (hidden : header.headerLength = hideLength key kf (body.length + 9))
    (session : header.sessionId = kind.encode id ^^^ kf) (positive : 1 ≤ id.toInt)
    (enough : 14 ≤ body.length) (fits : body.length + 9 < staticMod key.kf)
    (filled : 0 < stored.length)
    (made : conceal key kf (header.front ++ (body ++ stored)) = some packet) :
    (sessionCiphers protocol transport id = none → unpackBy key protocol transport packet =
        staticUnpack none kind id (header.front ++ (body ++ stored))) ∧
    ∀ inner outer, sessionCiphers protocol transport id = some (inner, outer) →
      unpackBy key protocol transport packet = (inner.decrypt (body.take 14)).bind fun plain =>
        staticUnpack (some outer) kind id (relaid key kf header body stored plain) := by
  have size : (header.front ++ (body ++ stored)).length = 9 + (body.length + stored.length) := by
    simp only [length_append, header.length_front]
  rcases conceal_spec (by omega) made with ⟨kept, output, decoded, whole, same, message⟩
  rcases first_fields same with ⟨maskId, headerLength⟩
  obtain ⟨frontMask, frontLength, frontSession⟩ := header.read_front (body ++ stored)
  rw [frontMask] at maskId
  rw [frontLength, hidden] at headerLength
  have back : header.sessionId ^^^ kf = kind.encode id := by
    rw [session, BitVec.xor_assoc, BitVec.xor_self, BitVec.xor_zero]
  have middle : slice 9 14 (header.front ++ (body ++ stored)) = body.take 14 := by
    rw [slice_append_right (by simp), header.length_front, slice_append_left (by omega)]
    rfl
  have longPacket : ¬ packet.length ≤ headerSize := by
    simp only [headerSize]
    omega
  have longOutput : ¬ output.length ≤ headerSize := by
    omega
  have long : ¬ body.length + 9 < headerSize := by
    simp only [headerSize]
    omega
  have payload : (header.front ++ (body ++ stored)).drop 23 = (body ++ stored).drop 14 := by
    rw [drop_append, drop_eq_nil_of_le (by simp), header.length_front, nil_append]
  have shifted : (header.front ++ (body ++ stored)).drop (body.length + 9) = stored := by
    rw [← append_assoc]
    exact drop_left' (by simp [Nat.add_comm])
  have fields : header.front ++ (body ++ stored) = [nativeBytes header.maskId,
      [header.headerLength], wordBytes header.sessionId, body ++ stored].flatten := by
    simp [Header.front]
  have four : (header.front ++ (body ++ stored)).take 4 = nativeBytes header.maskId := by
    rw [fields]
    exact take_left' rfl
  have sessionBytes : slice 5 4 (header.front ++ (body ++ stored)) =
      wordBytes header.sessionId := by
    rw [fields]
    exact slice_flatten 2 rfl (by simp) (by simp)
  unfold unpackBy
  rw [if_neg longPacket, decoded]
  dsimp only
  rw [if_neg longOutput]
  simp only [Header.read, maskId, if_neg mask, ← key_of, headerLength,
    staticHeaderLength_hideLength kf fits, if_neg long, message, frontSession, back,
    kind.decode_encode positive, middle, take_left' header.length_front, payload, shifted, four,
    sessionBytes, append_assoc]
  constructor
  · intro none
    rw [none]
  · intro inner outer ciphers
    rw [ciphers]
    dsimp only
    cases inner.decrypt (body.take 14) with
    | none => rfl
    | some plain =>
      simp only [Option.bind_some, relaid, Header.front, cons_append, append_assoc]
      split <;> rfl

/-- The header that `STATIC_Pack` fills in before the protocol cipher. -/
def packedHeader (key : Key) (header : Header) (stored : Bytes) : Header :=
  let filled := { header with
    headerLength := hideLength key (packetKf key header.maskId) headerSize
    sessionId := header.sessionId ^^^ packetKf key header.maskId }
  { filled with checksum := inetChksum (filled.front ++ filled.body ++ stored) }

theorem staticPack_spec {cipher : Option Cipher}
    (made : staticPack key cipher header stored = some packet) :
    ∃ body, cipher.elim (some (packedHeader key header stored).body)
        (fun inner => inner.encrypt (packedHeader key header stored).body) = some body ∧
      conceal key (packetKf key header.maskId) ({ packedHeader key header stored with
        headerLength := hideLength key (packetKf key header.maskId) (body.length + 9) }.front ++
          (body ++ stored)) = some packet := by
  have bounds := staticMod_bounds key.kf
  unfold staticPack at made
  rw [if_neg (by omega)] at made
  cases cipher with
  | none =>
    refine ⟨_, rfl, ?_⟩
    rw [Header.length_body, ← append_assoc]
    exact made
  | some inner =>
    dsimp only at made
    split at made
    · cases made
    · rename_i body encrypted
      refine ⟨body, encrypted, ?_⟩
      split_ifs at made with fourteen
      · rw [fourteen]
        exact made
      · exact made

section Fields

variable (key) (stored)

-- The header is taken apart first: by eta, two projections are compared field by field.
theorem packedHeader_fields : (packedHeader key header stored).maskId = header.maskId ∧
      (packedHeader key header stored).headerLength =
        hideLength key (packetKf key header.maskId) headerSize ∧
      (packedHeader key header stored).sessionId = header.sessionId ^^^ packetKf key header.maskId ∧
      (packedHeader key header stored).sourceIp = header.sourceIp ∧
      (packedHeader key header stored).sourcePort = header.sourcePort ∧
      (packedHeader key header stored).destinationIp = header.destinationIp ∧
      (packedHeader key header stored).destinationPort = header.destinationPort := by
  cases header
  simp only [packedHeader, and_self]

theorem packedHeader_checksum (zero : header.checksum = 0) :
    (packedHeader key header stored).checksum =
      inetChksum ((packedHeader key header stored).front ++
        ({ packedHeader key header stored with checksum := 0 }.body ++ stored)) := by
  simp only [packedHeader, Header.front, Header.body, zero, append_assoc]

end Fields

theorem sessionCiphers_spec {inner outer : Cipher}
    (found : sessionCiphers protocol transport id = some (inner, outer)) :
    protocol id = some inner ∧ transport id = some outer := by
  unfold sessionCiphers at found
  split at found
  · rename_i isInner isOuter
    cases found
    exact ⟨isInner, isOuter⟩
  · cases found

/-- The header as it is sent, over an encrypted part of any length. -/
def sentHeader (key : Key) (header : Header) (stored body : Bytes) : Header :=
  { packedHeader key header stored with
    headerLength := hideLength key (packetKf key header.maskId) (body.length + 9) }

theorem sentHeader_of_length (key : Key) (stored : Bytes) {body : Bytes}
    (fourteen : body.length = 14) :
    sentHeader key header stored body = packedHeader key header stored := by
  rw [sentHeader, fourteen]
  rfl

theorem unpackBy_encrypted {inner outer : Cipher} {body : Bytes}
    (found : sessionCiphers protocol transport id = some (inner, outer))
    (positive : 1 ≤ id.toInt) (mask : header.maskId ≠ 0)
    (session : header.sessionId = kind.encode id) (filled : 0 < stored.length)
    (enough : 14 ≤ body.length) (fits : body.length + 9 < staticMod key.kf)
    (encrypted : inner.encrypt (packedHeader key header stored).body = some body)
    (made : staticPack key (some inner) header stored = some packet) :
    unpackBy key protocol transport packet = (inner.decrypt (body.take 14)).bind fun plain =>
      staticUnpack (some outer) kind id (relaid key (packetKf key header.maskId)
        (sentHeader key header stored body) body stored plain) := by
  rcases staticPack_spec header made with ⟨sent, closed, concealed⟩
  cases encrypted.symm.trans closed
  rcases packedHeader_fields header key stored with ⟨maskId, -, masked, -⟩
  rw [session, ← maskId] at masked
  rw [← maskId] at mask concealed
  rw [sentHeader, ← maskId]
  generalize packedHeader key header stored = packed at *
  exact (unpackBy_conceal { packed with
    headerLength := hideLength key (packetKf key packed.maskId) (body.length + 9) }
    protocol transport mask rfl rfl masked positive enough fits filled concealed).2 inner outer
    found

theorem unpackBy_staticPack {ciphers : Option (Cipher × Cipher)}
    (found : sessionCiphers protocol transport id = ciphers)
    (inverts : ∀ inner ∈ ciphers.map Prod.fst, ∀ body,
      inner.encrypt (packedHeader key header stored).body = some body →
        body.length = 14 ∧ inner.decrypt body = some (packedHeader key header stored).body)
    (positive : 1 ≤ id.toInt)
    (mask : header.maskId ≠ 0) (session : header.sessionId = kind.encode id)
    (zero : header.checksum = 0) (filled : 0 < stored.length)
    (opens : (ciphers.map Prod.snd).elim (some stored) (fun cipher => cipher.decrypt stored) =
      some payload) (valid : kind = .udp → Packet.endpointsValid ⟨id, kind, header.sourceIp,
      header.sourcePort.toNat, header.destinationIp, header.destinationPort.toNat, payload⟩)
    (made : staticPack key (ciphers.map Prod.fst) header stored = some packet) :
    unpackBy key protocol transport packet =
      some ⟨id, kind, header.sourceIp, header.sourcePort.toNat, header.destinationIp,
        header.destinationPort.toNat, payload⟩ := by
  have nonzero : id ≠ 0 := by
    rintro rfl
    simp at positive
  rcases staticPack_spec header made with ⟨body, closed, concealed⟩
  have sum := packedHeader_checksum header key stored zero
  have front := @sentHeader_of_length header key stored body
  rcases packedHeader_fields header key stored with
    ⟨maskId, hidden, masked, source, sourcePort, destination, destinationPort⟩
  have bounds := staticMod_bounds key.kf
  cases ciphers with
  | none =>
    cases closed
    rw [← source, ← sourcePort, ← destination, ← destinationPort] at valid ⊢
    rw [session, ← maskId] at masked
    rw [← maskId] at mask concealed hidden
    have same := front (Header.length_body _)
    rw [sentHeader, ← maskId] at same
    rw [same] at concealed
    generalize packedHeader key header stored = packed at *
    rw [(unpackBy_conceal packed protocol transport mask rfl hidden masked positive
      (Header.length_body _).ge (by rw [Header.length_body]; omega) filled concealed).1 found]
    exact staticUnpack_bytes packed nonzero sum opens valid
  | some pair =>
    rcases inverts pair.1 rfl _ closed with ⟨fourteen, opensBody⟩
    rw [unpackBy_encrypted header found positive mask session filled fourteen.ge (by omega) closed
      made, take_of_length_le fourteen.le, opensBody, front fourteen, Option.bind_some,
      relaid, if_pos (Header.length_body _), drop_left' fourteen]
    rw [← source, ← sourcePort, ← destination, ← destinationPort] at valid ⊢
    exact staticUnpack_bytes _ nonzero sum opens valid

theorem conceal_front (key : Key) (kf : BitVec 32) (rest : Bytes) :
    ∃ packet, conceal key kf (header.front ++ rest) = some packet := by
  obtain ⟨first, later, shape⟩ := exists_cons_of_ne_nil (ne_nil_of_length_pos
    (show 0 < header.front.length by simp))
  rw [conceal, shape]
  exact ⟨_, rfl⟩

variable (protocol transport) in
theorem packBy_produces (key : Key) (originId sessionId sourceIp : BitVec 32) (sourcePort : Nat)
    (destinationIp : BitVec 32) (destinationPort : Nat) (maskId : BitVec 32)
    (encrypts : ∀ cipher, protocol originId = some cipher ∨ transport originId = some cipher →
      ∀ data, ∃ output, cipher.encrypt data = some output)
    (nonzero : originId ≠ 0) (filled : payload ≠ []) :
    ∃ packet, packBy key protocol transport originId sessionId sourceIp sourcePort destinationIp
      destinationPort maskId payload = some packet := by
  have bounds := staticMod_bounds key.kf
  have packs : ∀ (cipher : Option Cipher) (header : Header) (stored : Bytes),
      (∀ inner ∈ cipher, ∀ data, ∃ output, inner.encrypt data = some output) →
      ∃ packet, staticPack key cipher header stored = some packet := by
    intro cipher header stored total
    unfold staticPack
    rw [if_neg (by omega)]
    cases cipher with
    | none =>
      simp only [append_assoc]
      exact conceal_front _ _ _ _
    | some inner =>
      rcases total inner rfl _ with ⟨body, encrypted⟩
      dsimp only
      rw [encrypted]
      exact conceal_front _ _ _ _
  have long : ¬ payload.length < 1 := by
    rw [Nat.not_lt]
    exact length_pos_iff.mpr filled
  unfold packBy
  rw [if_neg nonzero, if_neg long]
  split
  · exact packs none _ _ nofun
  · rename_i inner outer found
    rcases sessionCiphers_spec found with ⟨isInner, isOuter⟩
    rcases encrypts outer (.inr isOuter) payload with ⟨stored, encrypted⟩
    rw [encrypted]
    apply packs
    intro cipher same
    cases same
    exact encrypts inner (.inl isInner)

theorem toNat_port {port : Nat} (fits : port ≤ 65535) : (BitVec.ofNat 16 port).toNat = port := by
  rw [BitVec.toNat_ofNat, Nat.mod_eq_of_lt (by omega)]

/-- A datagram that `PackBy` made is unpacked to what went in, for every mask it may draw. -/
theorem unpackBy_packBy (invertsProtocol : ∀ id, Inverts (protocol id))
    (invertsTransport : ∀ id, Inverts (transport id)) (positive : 1 ≤ id.toInt)
    {sourceIp destinationIp maskId : BitVec 32} {sourcePort destinationPort : Nat}
    (ports : sourcePort ≤ 65535 ∧ destinationPort ≤ 65535) (mask : maskId ≠ 0)
    (valid : kind = .udp → Packet.endpointsValid ⟨id, kind, sourceIp, sourcePort, destinationIp,
      destinationPort, payload⟩ = true)
    (made : packBy key protocol transport id (kind.encode id) sourceIp sourcePort destinationIp
      destinationPort maskId payload = some packet) : unpackBy key protocol transport packet =
      some ⟨id, kind, sourceIp, sourcePort, destinationIp, destinationPort, payload⟩ := by
  rw [← toNat_port ports.1, ← toNat_port ports.2] at valid ⊢
  unfold packBy at made
  split at made
  · cases made
  split at made
  · cases made
  rename_i filled
  have undone := @unpackBy_staticPack ⟨maskId, 0, kind.encode id, 0, sourceIp,
    BitVec.ofNat 16 sourcePort, destinationIp, BitVec.ofNat 16 destinationPort⟩
    key protocol transport kind id
  dsimp only at made undone
  split at made
  · rename_i found
    exact undone found nofun positive mask rfl rfl (by omega) rfl valid made
  · rename_i inner outer found
    split at made
    · cases made
    · rename_i stored encrypted
      rcases sessionCiphers_spec found with ⟨isInner, isOuter⟩
      have outerInverts := invertsTransport id outer isOuter
      have kept := outerInverts.length _ _ encrypted
      apply undone found _ positive mask rfl rfl (by omega)
        (outerInverts.inverse _ _ encrypted) valid made
      intro cipher same body closed
      cases same
      have innerInverts := invertsProtocol id inner isInner
      exact ⟨(innerInverts.length _ _ closed).trans (Header.length_body _),
        innerInverts.inverse _ _ closed⟩

theorem unpackBy_shortened {cipher : Option Cipher} {body : Bytes} (short : body.length < 14)
    (encrypted : cipher.elim (some (packedHeader key header stored).body)
      (fun inner => inner.encrypt (packedHeader key header stored).body) = some body)
    (made : staticPack key cipher header stored = some packet) :
    unpackBy key protocol transport packet = none := by
  have bounds := staticMod_bounds key.kf
  rcases staticPack_spec header made with ⟨sent, closed, concealed⟩
  cases encrypted.symm.trans closed
  have maskId := (packedHeader_fields header key stored).1
  rw [← maskId] at concealed
  generalize packedHeader key header stored = packed at concealed
  rcases conceal_spec (by simp; omega) concealed with ⟨-, output, decoded, -, same, -⟩
  have fields := first_fields same
  rw [(Header.read_front _ _).1, (Header.read_front _ _).2.1] at fields
  have low : body.length + 9 < headerSize := by
    simp only [headerSize]
    omega
  unfold unpackBy
  rw [decoded]
  simp only [Header.read, fields, staticHeaderLength_hideLength _
    (show body.length + 9 < staticMod key.kf by omega), if_pos low, ite_self]

theorem staticUnpack_payload {outer : Cipher} {message : Bytes} {read : Packet}
    (unpacked : staticUnpack (some outer) kind id message = some read) :
    headerSize ≤ message.length ∧ outer.decrypt (message.drop headerSize) = some read.payload := by
  unfold staticUnpack at unpacked
  dsimp only [Option.elim_some] at unpacked
  split_ifs at unpacked with _ short
  split at unpacked
  · cases unpacked
  · rename_i opened
    split_ifs at unpacked
    cases unpacked
    exact ⟨by omega, opened⟩

/-- A protocol cipher that changes the length of the header is never undone: `UnpackBy` decrypts 14
bytes of what was encrypted, whatever length the header announces. -/
theorem unpackBy_lengthened {inner outer : Cipher}
    (found : sessionCiphers protocol transport id = some (inner, outer))
    (inverse : ∀ data output, inner.encrypt data = some output → inner.decrypt output = some data)
    (invertsOuter : Inverts (some outer))
    (keeps : ∀ data, outer.decrypt data = some payload → data.length = payload.length)
    (positive : 1 ≤ id.toInt)
    {sourceIp destinationIp maskId : BitVec 32} {sourcePort destinationPort : Nat}
    (ports : sourcePort ≤ 65535 ∧ destinationPort ≤ 65535) (mask : maskId ≠ 0)
    (valid : kind = .udp → Packet.endpointsValid ⟨id, kind, sourceIp, sourcePort, destinationIp,
      destinationPort, payload⟩ = true)
    (fields : header = ⟨maskId, 0, kind.encode id, 0, sourceIp, BitVec.ofNat 16 sourcePort,
      destinationIp, BitVec.ofNat 16 destinationPort⟩)
    (made : packBy key protocol transport id (kind.encode id) sourceIp sourcePort destinationIp
      destinationPort maskId payload = some packet) :
    ∃ stored body, outer.encrypt payload = some stored ∧
      inner.encrypt (packedHeader key header stored).body = some body ∧
      (body.length + 9 < staticMod key.kf → (unpackBy key protocol transport packet =
        some ⟨id, kind, sourceIp, sourcePort, destinationIp, destinationPort, payload⟩ ↔
          body.length = 14)) := by
  rw [← toNat_port ports.1, ← toNat_port ports.2] at valid ⊢
  unfold packBy at made
  split at made
  · cases made
  split at made
  · cases made
  rename_i filled
  dsimp only at made
  rw [found, ← fields] at made
  dsimp only at made
  split at made
  · cases made
  rename_i stored encrypted
  have kept := (invertsOuter outer rfl).length _ _ encrypted
  rcases staticPack_spec header made with ⟨body, closed, -⟩
  refine ⟨stored, body, encrypted, closed, fun fits => ⟨fun returned => ?_, fun fourteen => ?_⟩⟩
  · by_contra other
    rcases Nat.lt_or_gt_of_ne other with short | long
    · rw [unpackBy_shortened header short closed made] at returned
      cases returned
    · rw [unpackBy_encrypted header found positive (by rw [fields]; exact mask)
        (by rw [fields]) (by omega) long.le fits closed made] at returned
      obtain ⟨plain, -, unpacked⟩ := Option.bind_eq_some_iff.1 returned
      obtain ⟨enough, opened⟩ := staticUnpack_payload unpacked
      have size := keeps _ opened
      unfold relaid at enough size
      split_ifs at enough size <;>
        simp only [length_drop, length_append, Header.length_front, headerSize] at enough size <;>
        omega
  · have undone := @unpackBy_staticPack header key protocol transport kind id stored payload packet
      (some (inner, outer)) found
    rw [fields] at undone closed made
    refine undone ?_ positive mask rfl rfl (by omega)
      ((invertsOuter outer rfl).inverse _ _ encrypted) valid made
    intro cipher same sent again
    cases same
    cases closed.symm.trans again
    exact ⟨fourteen, inverse _ _ closed⟩

end Datagram

theorem masked_datagram_unpacked :
    ∃ packet, packBy (openKey 7) (fun _ => some (xorCipher 90)) (fun _ => some (xorCipher 33))
        5 (Kind.udp.encode 5) 16777343 53 33554559 1024 9 [1, 2, 3] = some packet ∧
      unpackBy (openKey 7) (fun _ => some (xorCipher 90)) (fun _ => some (xorCipher 33)) packet =
        some ⟨5, .udp, 16777343, 53, 33554559, 1024, [1, 2, 3]⟩ := by
  refine (packBy_produces _ _ _ _ _ _ _ _ _ _ ?_ (by decide) (by decide)).imp
    fun packet made => ⟨made, ?_⟩
  · rintro cipher (⟨⟨⟩⟩ | ⟨⟨⟩⟩) data <;> exact ⟨_, rfl⟩
  · exact unpackBy_packBy (fun _ => xorCipher_inverts 90) (fun _ => xorCipher_inverts 33)
      (by decide) (by decide) (by decide) (fun _ => by decide) made

theorem masked_header_kept :
    ∃ packet, packBy (openKey 7) (fun _ => some (xorCipher 90)) (fun _ => some (xorCipher 33))
        5 (Kind.ip.encode 5) 16777343 0 33554559 0 9 [69, 0, 0] = some packet ∧
      unpackBy (openKey 7) (fun _ => some (xorCipher 90)) (fun _ => some (xorCipher 33)) packet =
        some ⟨5, .ip, 16777343, 0, 33554559, 0, [69, 0, 0]⟩ := by
  have inner := xorCipher_inverts 90 _ rfl
  have keeps : ∀ data output, (xorCipher 33).decrypt data = some output →
      data.length = output.length := by
    rintro data _ ⟨⟩
    exact (length_map _).symm
  refine (Option.isSome_iff_exists.mp ?_).imp fun packet made => ⟨made, ?_⟩
  · decide +kernel
  · have unpacks := @unpackBy_lengthened _ _ _ _ .ip 5 _ _ _ _ rfl inner.inverse
      (xorCipher_inverts 33) (fun data => keeps data _) (by decide) 16777343 33554559 9 0 0 (by decide) (by decide) nofun rfl
      made
    rcases unpacks with ⟨stored, body, -, closed, unpacked⟩
    have fourteen := (inner.length _ _ closed).trans (Header.length_body _)
    have bounds := staticMod_bounds (openKey 7).kf
    exact (unpacked (by omega)).mpr fourteen

def paddingCipher : Cipher where
  encrypt data := some (0 :: 0 :: data)
  encryptTo data := some (0 :: 0 :: data)
  decrypt data := some (data.drop 2)
  canDecryptInPlace := false
  decryptInPlace _ := none

theorem padded_header_refused : (∀ data output, paddingCipher.encrypt data = some output →
      paddingCipher.decrypt output = some data) ∧
    ∃ packet, packBy (openKey 7) (fun _ => some paddingCipher) (fun _ => some (xorCipher 33))
        5 (Kind.udp.encode 5) 16777343 53 33554559 1024 9 [1, 2, 3] = some packet ∧
      unpackBy (openKey 7) (fun _ => some paddingCipher) (fun _ => some (xorCipher 33)) packet =
        none := by
  constructor
  · intro data output encrypted
    cases encrypted
    rfl
  · rw [← Option.map_eq_some_iff]
    decide +kernel

end OpenPpp2.Protocol
