import OpenPpp2.Cryptography.Ssea

/-!
# The frame of a transmission

`Transmission_Packet_Encrypt`, `Transmission_Packet_Decrypt` and `Transmission_Packet_Read`: a
header of three bytes with the length of the payload, then the payload through the transport cipher
and the optional transforms.
-/

namespace OpenPpp2.Transmission

open Ssea

/-- A `Ciphertext`; each method fails or gives bytes. -/
structure Cipher where
  encrypt : Bytes → Option Bytes
  encryptTo : Bytes → Option Bytes
  decrypt : Bytes → Option Bytes
  canDecryptInPlace : Bool
  decryptInPlace : Bytes → Option Bytes

structure Cipher.Inverts (cipher : Cipher) : Prop where
  length : ∀ data output, cipher.encrypt data = some output → output.length = data.length
  inverse : ∀ data output, cipher.encrypt data = some output → cipher.decrypt output = some data
  same : cipher.encryptTo = cipher.encrypt
  inPlace : cipher.decryptInPlace = cipher.decrypt

/-- The fields of `key` that the frame depends on. -/
structure Key where
  kf : BitVec 32
  masked : Bool
  plaintext : Bool
  deltaEncode : Bool
  shuffleData : Bool

def bufferSize : Nat := 65536

/-- The layer of the protocol cipher on the length field, which it must keep at two bytes. -/
def sealLength (protocol : Option Cipher) (field : Bytes) : Option Bytes :=
  match protocol with
  | none => some field
  | some cipher => (cipher.encrypt field).filter fun output => output.length = 2

def openLength (protocol : Option Cipher) (field : Bytes) : Option Bytes :=
  match protocol with
  | none => some field
  | some cipher => (cipher.decrypt field).filter fun output => output.length = 2

/-- `Transmission_Header_Encrypt`: the header and the key that it derives from the seed. -/
def headerEncrypt (key : Key) (protocol : Option Cipher) (seed : UInt8) (payloadLength : Nat) :
    Option (Bytes × BitVec 32) := do
  guard (1 ≤ payloadLength)
  let length := payloadLength - 1
  let headerKf := key.kf ^^^ seed.toBitVec.setWidth 32
  let field ← sealLength protocol [UInt8.ofNat (length / 256), UInt8.ofNat (length % 256)]
  let field := shuffleData headerKf (field.map (· ^^^ lowByte headerKf))
  let header ← Ssea.deltaEncode key.kf (seed :: field)
  some (header, headerKf)

/-- `Transmission_Header_Decrypt`: the length of the payload and the key. -/
def headerDecrypt (key : Key) (protocol : Option Cipher) (header : Bytes) :
    Option (Nat × BitVec 32) := do
  let array ← Ssea.deltaDecode key.kf header
  match array with
  | seed :: field =>
    let headerKf := key.kf ^^^ seed.toBitVec.setWidth 32
    let field := (unshuffleData headerKf field).map (· ^^^ lowByte headerKf)
    match openLength protocol field with
    | some [high, low] => some (high.toNat * 256 + low.toNat + 1, headerKf)
    | _ => none
  | [] => none

def payloadEncryptPartial (key : Key) (kf : BitVec 32) (safest : Bool) (data : Bytes) : Bytes :=
  let data := if safest || key.masked then maskedXorRandomNext kf data else data
  if safest || key.shuffleData then Ssea.shuffleData kf data else data

def payloadEncrypt (key : Key) (kf : BitVec 32) (safest : Bool) (data : Bytes) : Option Bytes :=
  let data := payloadEncryptPartial key kf safest data
  if safest || key.deltaEncode then Ssea.deltaEncode key.kf data else some data

def payloadDecryptPartial (key : Key) (kf : BitVec 32) (safest : Bool) (data : Bytes) : Bytes :=
  let data := if safest || key.shuffleData then unshuffleData kf data else data
  if safest || key.masked then maskedXorRandomNext kf data else data

def payloadDecrypt (key : Key) (kf : BitVec 32) (safest : Bool) (data : Bytes) : Option Bytes :=
  if safest || key.deltaEncode then
    (Ssea.deltaDecode key.kf data).map (payloadDecryptPartial key kf safest)
  else some (payloadDecryptPartial key kf safest data)

def transportDecrypt (transport : Cipher) (payload : Bytes) : Option Bytes :=
  if transport.canDecryptInPlace then transport.decryptInPlace payload
  else transport.decrypt payload

def packetEncrypt (key : Key) (protocol transport : Option Cipher) (safest : Bool) (seed : UInt8)
    (data : Bytes) : Option Bytes :=
  match protocol, transport with
  | some _, some cipher =>
    if !(safest || key.deltaEncode) then do
      let payload ← (cipher.encryptTo data).filter fun output => output.length = data.length
      let (header, headerKf) ← headerEncrypt key protocol seed payload.length
      some (header ++ payloadEncryptPartial key headerKf safest payload)
    else do
      let payload ← (cipher.encrypt data).filter fun output => output.length = data.length
      let (header, headerKf) ← headerEncrypt key protocol seed payload.length
      let payload ← payloadEncrypt key headerKf safest payload
      some (header ++ payload)
  | _, _ => do
      let (header, headerKf) ← headerEncrypt key protocol seed data.length
      let payload ← payloadEncrypt key headerKf safest data
      some (header ++ payload)

/-- The last layers of a frame that was received, after its length is known. -/
def payloadOpen (key : Key) (protocol transport : Option Cipher) (safest : Bool)
    (headerKf : BitVec 32) (payload : Bytes) : Option Bytes := do
  let plain ← payloadDecrypt key headerKf safest payload
  match protocol, transport with
  | some _, some cipher =>
    (transportDecrypt cipher plain).filter fun output => output.length = payload.length
  | _, _ => some plain

def packetDecrypt (key : Key) (protocol transport : Option Cipher) (safest : Bool)
    (data : Bytes) : Option Bytes := do
  guard (3 < data.length)
  let (length, headerKf) ← headerDecrypt key protocol (data.take 3)
  guard (length ≤ bufferSize)
  guard (length + 3 = data.length)
  payloadOpen key protocol transport safest headerKf (data.drop 3)

/-- `ReadBytes` on the bytes that the transport delivers. -/
def readBytes (size : Nat) (stream : Bytes) : Option (Bytes × Bytes) :=
  if size ≤ stream.length then some (stream.take size, stream.drop size) else none

/-- `Transmission_Packet_Read`: the payload and what is left of the stream. -/
def packetRead (key : Key) (protocol transport : Option Cipher) (safest : Bool)
    (stream : Bytes) : Option (Bytes × Bytes) := do
  let (header, stream) ← readBytes 3 stream
  let (length, headerKf) ← headerDecrypt key protocol header
  guard (length ≤ bufferSize)
  let (payload, stream) ← readBytes length stream
  let payload ← payloadOpen key protocol transport safest headerKf payload
  some (payload, stream)

open List

variable {key : Key} {protocol transport : Option Cipher} {safest : Bool} {seed : UInt8}

def Inverts (cipher : Option Cipher) : Prop := ∀ inner ∈ cipher, inner.Inverts

theorem openLength_sealLength (inverts : Inverts protocol) {field sealed : Bytes}
    (two : field.length = 2) (made : sealLength protocol field = some sealed) :
    sealed.length = 2 ∧ openLength protocol sealed = some field := by
  cases protocol with
  | none =>
    cases made
    exact ⟨two, rfl⟩
  | some cipher =>
    have inner : cipher.Inverts := inverts cipher rfl
    rw [sealLength, Option.filter_eq_some_iff] at made
    rcases made with ⟨encrypted, short⟩
    apply And.intro (of_decide_eq_true short)
    rw [openLength, inner.inverse _ _ encrypted, Option.filter_some, two]
    rfl

theorem map_xor_map_xor (field : Bytes) (mask : UInt8) :
    (field.map (· ^^^ mask)).map (· ^^^ mask) = field := by
  rw [map_map]
  conv_rhs => rw [← map_id field]
  apply map_congr_left
  intro byte _
  exact xor_xor_self byte mask

variable {header : Bytes} {headerKf : BitVec 32} (kf : BitVec 32) {data : Bytes} {cipher : Cipher}
    {frame : Bytes}

theorem headerDecrypt_headerEncrypt (inverts : Inverts protocol) {length : Nat}
    (made : headerEncrypt key protocol seed length = some (header, headerKf)) : header.length = 3 ∧
      headerDecrypt key protocol header = some ((length - 1) % 65536 + 1, headerKf) := by
  simp only [headerEncrypt, Option.bind_eq_bind, Option.bind_eq_some_iff, Option.some.injEq,
    Prod.mk.injEq] at made
  rcases made with ⟨_, _, sealed, closed, coded, encoded, rfl, rfl⟩
  rcases openLength_sealLength inverts rfl closed with ⟨two, opened⟩
  rcases deltaEncode_spec encoded with ⟨kept, decoded⟩
  constructor
  · rw [kept, length_cons, length_shuffleData, length_map, two]
  · simp only [headerDecrypt, decoded, Option.bind_eq_bind, Option.bind_some,
      unshuffleData_shuffleData, map_xor_map_xor, opened, UInt8.toNat_ofNat']
    have value : (length - 1) / 256 % 2 ^ 8 * 256 + (length - 1) % 256 % 2 ^ 8 =
        (length - 1) % 65536 := by omega
    rw [value]

theorem payloadDecryptPartial_encryptPartial (data : Bytes) :
    payloadDecryptPartial key kf safest (payloadEncryptPartial key kf safest data) = data := by
  unfold payloadDecryptPartial payloadEncryptPartial
  cases safest || key.masked <;> cases safest || key.shuffleData <;>
    simp [unshuffleData_shuffleData, maskedXorRandomNext_twice]

theorem length_payloadEncryptPartial (data : Bytes) :
    (payloadEncryptPartial key kf safest data).length = data.length := by
  unfold payloadEncryptPartial
  cases safest || key.masked <;> cases safest || key.shuffleData <;> simp

theorem payloadDecrypt_payloadEncrypt {kf : BitVec 32} {output : Bytes}
    (made : payloadEncrypt key kf safest data = some output) :
    output.length = data.length ∧ payloadDecrypt key kf safest output = some data := by
  unfold payloadEncrypt at made
  unfold payloadDecrypt
  split at made
  case isTrue delta =>
    rcases deltaEncode_spec made with ⟨kept, decoded⟩
    rw [if_pos delta, decoded, Option.map_some, payloadDecryptPartial_encryptPartial, kept,
      length_payloadEncryptPartial]
    exact ⟨rfl, rfl⟩
  case isFalse plain =>
    cases made
    rw [if_neg plain, payloadDecryptPartial_encryptPartial, length_payloadEncryptPartial]
    exact ⟨rfl, rfl⟩

theorem transportDecrypt_encrypt (inverts : cipher.Inverts)
    {output : Bytes} (encrypted : cipher.encrypt data = some output) :
    transportDecrypt cipher output = some data := by
  unfold transportDecrypt
  rw [inverts.inPlace, ite_self, inverts.inverse data output encrypted]

/-- The parts of a frame: a header that gives the length, and a payload that opens. -/
structure Framed (key : Key) (protocol transport : Option Cipher) (safest : Bool)
    (data frame : Bytes) : Prop where
  parts : ∃ header payload headerKf, frame = header ++ payload ∧ header.length = 3 ∧
    headerDecrypt key protocol header = some ((data.length - 1) % 65536 + 1, headerKf) ∧
    payload.length = data.length ∧
    payloadOpen key protocol transport safest headerKf payload = some data

theorem framed_of_payload (inverts : Inverts protocol) {closed payload : Bytes}
    (headed : headerEncrypt key protocol seed closed.length = some (header, headerKf))
    (kept : closed.length = data.length)
    (made : payloadEncrypt key headerKf safest closed = some payload)
    (opens : payloadDecrypt key headerKf safest payload = some closed →
      payload.length = data.length →
        payloadOpen key protocol transport safest headerKf payload = some data) :
    Framed key protocol transport safest data (header ++ payload) := by
  rw [kept] at headed
  rcases headerDecrypt_headerEncrypt inverts headed with ⟨three, opened⟩
  rcases payloadDecrypt_payloadEncrypt made with ⟨long, decrypted⟩
  have size := long.trans kept
  exact ⟨header, payload, headerKf, rfl, three, opened, size, opens decrypted size⟩

theorem payloadOpen_transport {inner : Cipher} (inverts : cipher.Inverts) {kf : BitVec 32}
    {encrypted payload : Bytes} (closed : cipher.encrypt data = some encrypted)
    (opens : payloadDecrypt key kf safest payload = some encrypted)
    (same : payload.length = data.length) :
    payloadOpen key (some inner) (some cipher) safest kf payload = some data := by
  simp only [payloadOpen, opens, Option.bind_eq_bind, Option.bind_some,
    transportDecrypt_encrypt inverts closed, Option.filter_some, same]
  rfl

theorem packetEncrypt_framed (inverts : Inverts protocol) (invertsTransport : Inverts transport)
    (made : packetEncrypt key protocol transport safest seed data = some frame) :
    Framed key protocol transport safest data frame := by
  unfold packetEncrypt at made
  split at made
  case h_1 inner cipher =>
    have outer : cipher.Inverts := invertsTransport cipher rfl
    split at made
    case isTrue direct =>
      simp only [outer.same, Option.bind_eq_bind, Option.bind_eq_some_iff,
        Option.filter_eq_some_iff, decide_eq_true_eq, Option.some.injEq] at made
      rcases made with ⟨encrypted, ⟨closed, kept⟩, ⟨header, headerKf⟩, headed, rfl⟩
      have plain : payloadEncrypt key headerKf safest encrypted =
          some (payloadEncryptPartial key headerKf safest encrypted) := by
        unfold payloadEncrypt
        rw [if_neg (by simpa using direct)]
      exact framed_of_payload inverts headed kept plain (payloadOpen_transport outer closed)
    case isFalse _ =>
      simp only [Option.bind_eq_bind, Option.bind_eq_some_iff, Option.filter_eq_some_iff,
        decide_eq_true_eq, Option.some.injEq] at made
      rcases made with ⟨encrypted, ⟨closed, kept⟩, ⟨header, headerKf⟩, headed, payload, masked, rfl⟩
      exact framed_of_payload inverts headed kept masked (payloadOpen_transport outer closed)
  case h_2 =>
    simp only [Option.bind_eq_bind, Option.bind_eq_some_iff, Option.some.injEq] at made
    rcases made with ⟨⟨header, headerKf⟩, headed, payload, masked, rfl⟩
    apply framed_of_payload inverts headed rfl masked
    intro opens _
    simp only [payloadOpen, opens, Option.bind_eq_bind, Option.bind_some]

/-- A frame is decrypted to the payload, and read from a stream it takes exactly its bytes. -/
def ReadsBack (key : Key) (protocol transport : Option Cipher) (safest : Bool)
    (data frame : Bytes) : Prop :=
  packetDecrypt key protocol transport safest frame = some data ∧
    ∀ rest, packetRead key protocol transport safest (frame ++ rest) = some (data, rest)

theorem readBytes_append {first : Bytes} {size : Nat} (exact : first.length = size)
    (rest : Bytes) : readBytes size (first ++ rest) = some (first, rest) := by
  subst exact
  simp [readBytes]

theorem length_of_packetDecrypt
    (opened : packetDecrypt key protocol transport safest frame = some data) :
    frame.length ≤ bufferSize + 3 := by
  simp only [packetDecrypt, Option.bind_eq_bind, Option.bind_eq_some_iff,
    Option.guard_eq_some'] at opened
  rcases opened with ⟨_, _, ⟨length, headerKf⟩, _, _, small, _, exact, _⟩
  omega

theorem Framed.length (framed : Framed key protocol transport safest data frame) :
    frame.length = data.length + 3 := by
  rcases framed.parts with ⟨header, payload, _, rfl, three, _, kept, _⟩
  rw [length_append, three, kept]
  omega

theorem Framed.readsBack
    (framed : Framed key protocol transport safest data frame) (nonempty : data ≠ [])
    (small : data.length ≤ bufferSize) : ReadsBack key protocol transport safest data frame := by
  rcases framed.parts with ⟨header, payload, headerKf, rfl, three, opened, kept, opens⟩
  have positive : 0 < data.length := length_pos_iff.mpr nonempty
  have length : (data.length - 1) % 65536 + 1 = data.length := by
    unfold bufferSize at small
    omega
  rw [length] at opened
  constructor
  · have front : (header ++ payload).take 3 = header := by
      rw [← three, take_left]
    have back : (header ++ payload).drop 3 = payload := by
      rw [← three, drop_left]
    have total : (header ++ payload).length = data.length + 3 := by
      rw [length_append, three, kept, Nat.add_comm]
    simp only [packetDecrypt, total, front, back, opened, Option.bind_eq_bind]
    simp [guard, positive, small, opens]
  · intro rest
    simp only [packetRead, append_assoc, readBytes_append three, opened,
      readBytes_append kept, opens, Option.bind_eq_bind, Option.bind_some]
    simp [guard, small]

/-- A payload that the writer accepts is read back exactly when it is not above the limit. -/
theorem packet_reads_back_iff (inverts : Inverts protocol) (invertsTransport : Inverts transport)
    {data frame : Bytes} (nonempty : data ≠ [])
    (made : packetEncrypt key protocol transport safest seed data = some frame) :
    ReadsBack key protocol transport safest data frame ↔ data.length ≤ bufferSize := by
  have framed := packetEncrypt_framed inverts invertsTransport made
  constructor
  · intro back
    have short := length_of_packetDecrypt back.1
    rw [framed.length] at short
    omega
  · exact framed.readsBack nonempty

def openKey (kf : BitVec 32) : Key :=
  { kf := kf, masked := false, plaintext := false, deltaEncode := false, shuffleData := false }

theorem packetEncrypt_open (seed : UInt8) (nonempty : data ≠ []) :
    ∃ frame, packetEncrypt (openKey kf) none none false seed data = some frame := by
  have positive : 1 ≤ data.length := length_pos_iff.mpr nonempty
  simp [packetEncrypt, headerEncrypt, sealLength, deltaEncode, payloadEncrypt, openKey,
    positive, guard]

theorem inverts_none : Inverts none := nofun

def xorCipher (mask : UInt8) : Cipher where
  encrypt data := some (data.map (· ^^^ mask))
  encryptTo data := some (data.map (· ^^^ mask))
  decrypt data := some (data.map (· ^^^ mask))
  canDecryptInPlace := true
  decryptInPlace data := some (data.map (· ^^^ mask))

theorem xorCipher_inverts (mask : UInt8) : Inverts (some (xorCipher mask)) := by
  intro cipher same
  cases same
  constructor
  · intro data output made
    cases made
    exact length_map _
  · intro data output made
    cases made
    exact congrArg some (map_xor_map_xor data mask)
  · rfl
  · rfl

theorem short_packet_reads_back :
    ∃ frame, packetEncrypt ⟨7, true, true, true, true⟩ (some (xorCipher 90)) (some (xorCipher 33))
        false 1 [1, 2, 3] = some frame ∧
      ReadsBack ⟨7, true, true, true, true⟩ (some (xorCipher 90)) (some (xorCipher 33)) false
        [1, 2, 3] frame := by
  refine (Option.isSome_iff_exists.mp ?_).imp fun frame made => ⟨made, ?_⟩
  · decide +kernel
  · exact (packet_reads_back_iff (xorCipher_inverts 90) (xorCipher_inverts 33) (by decide) made).2
      (by decide)

/-- One byte above the limit, the frame is made and is not accepted. -/
theorem long_packet_is_lost :
    ∃ frame, packetEncrypt (openKey 7) none none false 1 (List.replicate 65537 0) = some frame ∧
      ¬ ReadsBack (openKey 7) none none false (List.replicate 65537 0) frame := by
  have nonempty : (replicate 65537 0 : Bytes) ≠ [] := by
    decide
  rcases packetEncrypt_open 7 1 nonempty with ⟨frame, made⟩
  refine ⟨frame, made, ?_⟩
  intro back
  have short := length_of_packetDecrypt back.1
  have framed := packetEncrypt_framed inverts_none inverts_none made
  rw [framed.length, length_replicate] at short
  exact absurd short (by decide)

end OpenPpp2.Transmission
