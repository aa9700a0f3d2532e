import OpenPpp2.P2P.Endpoint

/-!
# STUN binding responses

`P2PStunClient::ParseResponse` reads the reflexive endpoint out of a binding success response.
-/

namespace OpenPpp2.P2P.Stun

open Lib.ByteLayout

/-- `boost::asio::ip::address`: an IPv4 address as the number it is compared by, an IPv6 address
as its sixteen bytes. -/
inductive Address where
  | v4 (value : BitVec 32)
  | v6 (bytes : Vector UInt8 16)
  deriving DecidableEq, Repr

structure UdpEndpoint where
  address : Address
  port : BitVec 16
  deriving DecidableEq, Repr

/-- The addresses `ParseResponse` takes for a mapped endpoint: not the unspecified address, a
multicast address or the broadcast address; for IPv6 not a loopback, link-local or unique-local
address either. -/
def Address.usable : Address → Bool
  | .v4 value =>
    !(value == 0) && !(value &&& 0xf0000000#32 == 0xe0000000#32) && !(value == 0xffffffff#32)
  | .v6 bytes =>
    !(bytes.toList == List.replicate 16 0) && !(bytes.toList == List.replicate 15 0 ++ [1]) &&
      !(bytes[0] == 0xff) && !(bytes[0] == 0xfe && bytes[1] &&& 0xc0 == 0x80) &&
      !(bytes[0] &&& 0xfe == 0xfc)

def magicCookie : BitVec 32 := 0x2112a442#32

def bindingSuccessType : BitVec 16 := 0x0101#16

def xorMappedType : BitVec 16 := 0x0020#16

def portMask : BitVec 16 := (magicCookie >>> 16).setWidth 16

def maxResponseSize : Nat := 512

abbrev TransactionId := Vector UInt8 12

/-- The address length rounded up to a multiple of four, `(attr_len + 3) & ~3`. -/
def paddedLength (length : Nat) : Nat := (length + 3) / 4 * 4

/-- The sixteen bytes of the IPv6 branch. The first four are read at the address, which starts
four bytes into the attribute; the others are read at the attribute's own start. -/
def readV6 (response : Bytes) (attrOffset : Nat) (txn : TransactionId) : Vector UInt8 16 :=
  Vector.ofFn fun n =>
    if n.val < 4 then
      byteAt (attrOffset + 4 + n.val) response ^^^ byteAt n.val (wordBytes magicCookie)
    else byteAt (attrOffset + n.val) response ^^^ byteAt (n.val - 4) txn.toList

/-- The body of the XOR-MAPPED-ADDRESS branch; `none` is a rejected response. -/
def readMapped (response : Bytes) (attrOffset attrLength : Nat) (txn : TransactionId) :
    Option UdpEndpoint :=
  if (attrLength ≠ 8 ∧ attrLength ≠ 20) ∨ byteAt attrOffset response ≠ 0 then none
  else
    let family := byteAt (attrOffset + 1) response
    let port := word (attrOffset + 2) 16 response ^^^ portMask
    if family = 0x01 ∧ attrLength = 8 then
      let address := Address.v4 (word (attrOffset + 4) 32 response ^^^ magicCookie)
      if port = 0 ∨ address.usable = false then none else some ⟨address, port⟩
    else if family = 0x02 ∧ attrLength = 20 then
      let address := Address.v6 (readV6 response attrOffset txn)
      if port = 0 ∨ address.usable = false then none else some ⟨address, port⟩
    else none

/-- The loop over the attributes: the offset it stops at and what was found, `none` where the
response is rejected. Every turn advances the offset by at least four, which bounds the turns. -/
def walk (response : Bytes) (txn : TransactionId) (messageEnd : Nat) :
    Nat → Nat → Option UdpEndpoint → Option (Nat × Option UdpEndpoint)
  | 0, offset, found => some (offset, found)
  | turns + 1, offset, found =>
    if offset + 4 ≤ messageEnd then
      let attrLength := (word (offset + 2) 16 response).toNat
      let attrOffset := offset + 4
      if attrOffset + paddedLength attrLength > messageEnd then none
      else if word offset 16 response = xorMappedType then
        if found.isSome then none
        else
          match readMapped response attrOffset attrLength txn with
          | none => none
          | some mapped =>
            walk response txn messageEnd turns (attrOffset + paddedLength attrLength) (some mapped)
      else walk response txn messageEnd turns (attrOffset + paddedLength attrLength) found
    else some (offset, found)

def parseResponse (response : Bytes) (txn : TransactionId) : Option UdpEndpoint :=
  if response.length < 20 ∨ response.length > maxResponseSize then none
  else if word 4 32 response ≠ magicCookie then none
  else if slice 8 12 response ≠ txn.toList then none
  else if word 0 16 response ≠ bindingSuccessType then none
  else
    let messageLength := (word 2 16 response).toNat
    if messageLength % 4 ≠ 0 ∨ messageLength + 20 ≠ response.length then none
    else
      match walk response txn (20 + messageLength) messageLength 20 none with
      | none => none
      | some (offset, found) => if offset = response.length then found else none

/-- A well-formed attribute: its length fits the length field and is padded, with any bytes, to
a multiple of four. -/
structure Attribute where
  kind : BitVec 16
  value : Bytes
  padding : Bytes
  fits : value.length < 2 ^ 16
  aligned : value.length + padding.length = paddedLength value.length

def Attribute.encode (attr : Attribute) : Bytes :=
  wordBytes attr.kind ++ (wordBytes (BitVec.ofNat 16 attr.value.length) ++
    (attr.value ++ attr.padding))

/-- The bytes an IPv6 address is masked with: the cookie, then the transaction id. -/
def addressMask (txn : TransactionId) : Bytes := wordBytes magicCookie ++ txn.toList

def maskedByte (bytes : Vector UInt8 16) (txn : TransactionId) (n : Nat) : UInt8 :=
  byteAt n bytes.toList ^^^ byteAt n (addressMask txn)

def Address.family : Address → UInt8
  | .v4 _ => 0x01
  | .v6 _ => 0x02

def Address.masked (txn : TransactionId) : Address → Bytes
  | .v4 value => wordBytes (value ^^^ magicCookie)
  | .v6 bytes => (List.range 16).map (maskedByte bytes txn)

def xorMappedValue (txn : TransactionId) (endpoint : UdpEndpoint) : Bytes :=
  [0, endpoint.address.family] ++ (wordBytes (endpoint.port ^^^ portMask) ++
    endpoint.address.masked txn)

def Address.attributeLength : Address → Nat
  | .v4 _ => 8
  | .v6 _ => 20

variable (txn : TransactionId) (endpoint : UdpEndpoint) (attrs : List Attribute)
    {last : Option UdpEndpoint} (bytes : Vector UInt8 16) (port : BitVec 16) (n : Nat)

theorem length_xorMappedValue :
    (xorMappedValue txn endpoint).length = endpoint.address.attributeLength := by
  unfold xorMappedValue Address.masked Address.attributeLength
  cases endpoint.address <;> simp

/-- The XOR-MAPPED-ADDRESS attribute of an endpoint; it needs no padding. -/
def xorMapped (txn : TransactionId) (endpoint : UdpEndpoint) : Attribute where
  kind := xorMappedType
  value := xorMappedValue txn endpoint
  padding := []
  fits := by
    rw [length_xorMappedValue]
    cases endpoint.address <;> simp [Address.attributeLength]
  aligned := by
    rw [length_xorMappedValue]
    cases endpoint.address <;> simp [Address.attributeLength, paddedLength]

def bindingSuccess (txn : TransactionId) (attributes : List Attribute) : Bytes :=
  let body := attributes.flatMap Attribute.encode
  wordBytes bindingSuccessType ++ (wordBytes (BitVec.ofNat 16 body.length) ++
    (wordBytes magicCookie ++ (txn.toList ++ body)))

theorem length_encode (attr : Attribute) :
    attr.encode.length = 4 + paddedLength attr.value.length := by
  have aligned := attr.aligned
  simp [Attribute.encode]
  omega

theorem readMapped_slice (response : Bytes) (offset size : Nat) :
    readMapped (slice offset size response) 0 size txn = readMapped response offset size txn := by
  by_cases sized : size ≠ 8 ∧ size ≠ 20
  · simp only [readMapped, sized, true_or, if_true, ne_eq, not_false_eq_true, and_self]
  · have byte (index : Nat) (inside : index < 8) :
        byteAt index (slice offset size response) = byteAt (offset + index) response :=
      byteAt_slice (by omega)
    have number (index width : Nat) (inside : index + width / 8 ≤ 8) :
        word index width (slice offset size response) = word (offset + index) width response := by
      rw [word, word, slice_slice (by omega)]
    have address (big : size = 20) :
        readV6 (slice offset size response) 0 txn = readV6 response offset txn := by
      unfold readV6
      congr 1
      funext n
      rw [byteAt_slice (by omega), byteAt_slice (by omega)]
      simp only [Nat.zero_add, Nat.add_assoc]
    simp only [readMapped, Nat.zero_add, byte 0 (by omega), byte 1 (by omega),
      number 2 16 (by omega), number 4 32 (by omega), Nat.add_zero]
    by_cases big : size = 20
    · rw [address big]
    · simp only [big, and_false, if_false]

def readAll (txn : TransactionId) :
    List Attribute → Option UdpEndpoint → Option (Option UdpEndpoint)
  | [], found => some found
  | attr :: rest, found =>
    if attr.kind = xorMappedType then
      if found.isSome then none
      else
        match readMapped attr.value 0 attr.value.length txn with
        | none => none
        | some mapped => readAll txn rest (some mapped)
    else readAll txn rest found

theorem walk_encoded (txn : TransactionId) (attrs : List Attribute) (front : Bytes) (turns : Nat)
    (found : Option UdpEndpoint) (enough : attrs.length ≤ turns) :
    let response := front ++ attrs.flatMap Attribute.encode
    walk response txn response.length turns front.length found =
      (readAll txn attrs found).map fun last => (response.length, last) := by
  induction attrs generalizing front turns found with
  | nil =>
    intro response
    have whole : response.length = front.length := by simp [response]
    cases turns with
    | zero | succ turns => simp [walk, readAll, whole]
  | cons attr rest ih =>
    intro response
    obtain ⟨turns, rfl⟩ : ∃ left, turns = left + 1 := ⟨turns - 1, by simp at enough; omega⟩
    have more : rest.length ≤ turns := by simpa using enough
    have size := length_encode attr
    have joined : front ++ attr.encode ++ rest.flatMap Attribute.encode = response := by
      simp [response]
    have start : (front ++ attr.encode).length =
        front.length + 4 + paddedLength attr.value.length := by
      rw [List.length_append, size, Nat.add_assoc]
    have total : response.length = front.length + 4 + paddedLength attr.value.length +
        (rest.flatMap Attribute.encode).length := by
      rw [← joined, List.length_append, start]
    have later := ih (front ++ attr.encode) turns
    simp only [joined, start] at later
    have shape : response = [front, wordBytes attr.kind,
        wordBytes (BitVec.ofNat 16 attr.value.length), attr.value,
        attr.padding ++ rest.flatMap Attribute.encode].flatten := by
      simp [response, Attribute.encode]
    have kind : word front.length 16 response = attr.kind := by
      rw [shape]
      exact word_flatten 1 rfl (by simp) rfl
    have length : (word (front.length + 2) 16 response).toNat = attr.value.length := by
      have read : word (front.length + 2) 16 response = BitVec.ofNat 16 attr.value.length := by
        rw [shape]
        exact word_flatten 2 rfl (by simp) rfl
      rw [read, BitVec.toNat_ofNat, Nat.mod_eq_of_lt attr.fits]
    have value : slice (front.length + 4) attr.value.length response = attr.value := by
      rw [shape]
      exact slice_flatten 3 rfl (by simp) rfl
    have mapped : readMapped response (front.length + 4) attr.value.length txn =
        readMapped attr.value 0 attr.value.length txn := by
      rw [← readMapped_slice, value]
    simp only [walk, kind, length, mapped]
    rw [if_pos (by omega), if_neg (by omega)]
    by_cases isMapped : attr.kind = xorMappedType
    · simp only [isMapped, if_true, readAll]
      by_cases twice : found.isSome
      · simp [twice]
      · simp only [twice, if_false, Bool.false_eq_true]
        cases readMapped attr.value 0 attr.value.length txn with
        | none => rfl
        | some endpoint => exact later (some endpoint) more
    · simp only [isMapped, if_false, readAll]
      exact later found more

theorem readAll_filter (found : Option UdpEndpoint) :
    readAll txn (attrs.filter (·.kind = xorMappedType)) found = readAll txn attrs found := by
  induction attrs generalizing found with
  | nil => rfl
  | cons attr rest ih =>
    by_cases isMapped : attr.kind = xorMappedType <;> simp [readAll, isMapped, ih]

theorem readAll_eq_some_iff (before after : List Attribute) :
    readAll txn (before ++ xorMapped txn endpoint :: after) none = some (some endpoint) ↔
      (∀ attr ∈ before ++ after, attr.kind ≠ xorMappedType) ∧ readMapped
      (xorMappedValue txn endpoint) 0 (xorMappedValue txn endpoint).length txn = some endpoint := by
  have own : (xorMapped txn endpoint).kind = xorMappedType := rfl
  have others : (∀ attr ∈ before ++ after, attr.kind ≠ xorMappedType) ↔
      before.filter (·.kind = xorMappedType) = [] ∧ after.filter (·.kind = xorMappedType) = [] := by
    rw [← List.append_eq_nil_iff, ← List.filter_append, List.filter_eq_nil_iff]
    simp
  have isMapped : ∀ attrs : List Attribute,
      ∀ attr ∈ attrs.filter (·.kind = xorMappedType), attr.kind = xorMappedType := by
    intro attrs attr member
    simpa using (List.mem_filter.mp member).2
  rw [others, ← readAll_filter, List.filter_append, List.filter_cons_of_pos (by simp [own])]
  have early := isMapped before
  have late := isMapped after
  generalize before.filter (·.kind = xorMappedType) = before at early
  generalize after.filter (·.kind = xorMappedType) = after at late
  -- A second mapped address, before or after, ends the loop.
  cases before with
  | nil =>
    have value : (xorMapped txn endpoint).value = xorMappedValue txn endpoint := rfl
    cases found : readMapped (xorMappedValue txn endpoint) 0 (xorMappedValue txn endpoint).length
      txn <;> cases after <;> simp [readAll, own, value, found, late]
  | cons first rest =>
    cases found : readMapped first.value 0 first.value.length txn <;> cases rest <;>
      simp [readAll, own, found, early]

def Repeats (bytes : Vector UInt8 16) (txn : TransactionId) : Prop :=
  ∀ n < 12, maskedByte bytes txn (n + 4) = maskedByte bytes txn n

instance (bytes : Vector UInt8 16) (txn : TransactionId) : Decidable (Repeats bytes txn) :=
  Nat.decidableBallLT 12 _

theorem byteAt_masked (inside : n < 16) :
    byteAt (4 + n) (xorMappedValue txn ⟨.v6 bytes, port⟩) = maskedByte bytes txn n := by
  have value : (xorMappedValue txn ⟨.v6 bytes, port⟩).drop 4 =
      (List.range 16).map (maskedByte bytes txn) := rfl
  rw [byteAt, List.getD_eq_getElem?_getD, ← List.getElem?_drop, value, List.getElem?_map,
    List.getElem?_range inside]
  rfl

theorem byteAt_toList (inside : n < 16) : byteAt n bytes.toList = bytes[n] := by
  simp [byteAt, inside]

theorem readV6_encoded :
    readV6 (xorMappedValue txn ⟨.v6 bytes, port⟩) 0 txn = bytes ↔ Repeats bytes txn := by
  have mask_high (n : Nat) (high : 4 ≤ n) :
      byteAt (n - 4) txn.toList = byteAt n (addressMask txn) := by
    rw [addressMask, byteAt_append_right (by simpa using high), length_wordBytes]
  have mask_low (n : Nat) (low : n < 4) :
      byteAt n (wordBytes magicCookie) = byteAt n (addressMask txn) := by
    rw [addressMask, byteAt_append_left (by simpa using low)]
  have entry (n : Nat) (inside : n < 16) :
      (readV6 (xorMappedValue txn ⟨.v6 bytes, port⟩) 0 txn)[n] = bytes[n] ↔
        (4 ≤ n → maskedByte bytes txn n = maskedByte bytes txn (n - 4)) := by
    have unmasked : maskedByte bytes txn n ^^^ byteAt n (addressMask txn) = bytes[n] := by
      rw [maskedByte, byteAt_toList bytes n inside, UInt8.xor_assoc, UInt8.xor_self, UInt8.xor_zero]
    rw [readV6, Vector.getElem_ofFn, ← unmasked]
    by_cases low : n < 4
    · simp only [low, if_true, Nat.zero_add]
      rw [byteAt_masked txn bytes port n inside, mask_low n low]
      simp only [true_iff]
      omega
    · have high : 4 ≤ n := by omega
      have slipped := byteAt_masked txn bytes port (n - 4) (by omega)
      rw [show 4 + (n - 4) = n by omega] at slipped
      simp only [low, if_false, Nat.zero_add, high, true_implies]
      rw [slipped, mask_high n high, UInt8.xor_left_inj]
      exact eq_comm
  constructor
  · intro same n inside
    have here := (entry (n + 4) (by omega)).mp (by rw [same]) (by omega)
    rwa [Nat.add_sub_cancel] at here
  · intro repeats
    apply Vector.ext
    intro n inside
    rw [entry n inside]
    intro high
    have here := repeats (n - 4) (by omega)
    rwa [Nat.sub_add_cancel high] at here

def ReadBack (txn : TransactionId) (endpoint : UdpEndpoint) : Prop :=
  endpoint.address.usable ∧
    match endpoint.address with
    | .v4 _ => True
    | .v6 bytes => Repeats bytes txn

theorem readMapped_eq_some_iff (real : endpoint.port ≠ 0) :
    readMapped (xorMappedValue txn endpoint) 0 (xorMappedValue txn endpoint).length txn = some
      endpoint ↔ ReadBack txn endpoint := by
  obtain ⟨address, port⟩ := endpoint
  replace real : ¬ port = 0#16 := real
  have zero : byteAt 0 (xorMappedValue txn ⟨address, port⟩) = 0 := rfl
  have family : byteAt 1 (xorMappedValue txn ⟨address, port⟩) = address.family := rfl
  have read_port : word 2 16 (xorMappedValue txn ⟨address, port⟩) ^^^ portMask = port := by
    have read : word 2 16 (xorMappedValue txn ⟨address, port⟩) = port ^^^ portMask :=
      word_wordBytes_append rfl ..
    rw [read, BitVec.xor_assoc, BitVec.xor_self, BitVec.xor_zero]
  rw [length_xorMappedValue]
  cases address with
  | v4 value =>
    have read_address : word 4 32 (xorMappedValue txn ⟨.v4 value, port⟩) ^^^ magicCookie =
        value := by
      have read : word 4 32 (xorMappedValue txn ⟨.v4 value, port⟩) = value ^^^ magicCookie :=
        word_wordBytes rfl _
      rw [read, BitVec.xor_assoc, BitVec.xor_self, BitVec.xor_zero]
    simp only [readMapped, zero, family, read_port, read_address, Address.attributeLength,
      Address.family, Nat.zero_add, ReadBack]
    simp [real]
  | v6 bytes =>
    have read_address := readV6_encoded txn bytes port
    simp only [readMapped, zero, family, read_port, Address.attributeLength,
      Address.family, Nat.zero_add, ReadBack]
    by_cases repeats : Repeats bytes txn
    · rw [read_address.mpr repeats]
      simp [real, repeats]
    · have wrong : readV6 (xorMappedValue txn ⟨.v6 bytes, port⟩) 0 txn ≠ bytes :=
        fun same => repeats (read_address.mp same)
      simp [repeats, wrong]

theorem bindingSuccess_eq : ∃ header : Bytes, header.length = 20 ∧
      bindingSuccess txn attrs = header ++ attrs.flatMap Attribute.encode := by
  refine ⟨wordBytes bindingSuccessType ++ (wordBytes (BitVec.ofNat 16
    (attrs.flatMap Attribute.encode).length) ++ (wordBytes magicCookie ++ txn.toList)), ?_, ?_⟩
  · simp
  · simp [bindingSuccess]

theorem bindingSuccess_fields (txn : TransactionId) (attrs : List Attribute) :
    let response := bindingSuccess txn attrs
    word 0 16 response = bindingSuccessType ∧
      word 2 16 response = BitVec.ofNat 16 (attrs.flatMap Attribute.encode).length ∧
      word 4 32 response = magicCookie ∧ slice 8 12 response = txn.toList := by
  have id : slice 8 12 (bindingSuccess txn attrs) =
      (txn.toList ++ attrs.flatMap Attribute.encode).take 12 := rfl
  exact ⟨word_wordBytes_append rfl .., word_wordBytes_append rfl .., word_wordBytes_append rfl ..,
    id.trans (List.take_left' (by simp))⟩

theorem length_body : (attrs.flatMap Attribute.encode).length % 4 = 0 ∧
      attrs.length ≤ (attrs.flatMap Attribute.encode).length := by
  induction attrs with
  | nil => simp
  | cons attr rest ih =>
    have size := length_encode attr
    rw [List.flatMap_cons, List.length_append, size, paddedLength]
    simp only [List.length_cons]
    omega

theorem parseResponse_bindingSuccess :
    parseResponse (bindingSuccess txn attrs) txn = if (bindingSuccess txn attrs).length ≤
      maxResponseSize then (readAll txn attrs none).join else none := by
  obtain ⟨header, header_length, shape⟩ := bindingSuccess_eq txn attrs
  obtain ⟨type_eq, length_eq, cookie_eq, txn_eq⟩ := bindingSuccess_fields txn attrs
  obtain ⟨aligned, enough⟩ := length_body attrs
  have total : (bindingSuccess txn attrs).length =
      20 + (attrs.flatMap Attribute.encode).length := by
    rw [shape, List.length_append, header_length]
  unfold parseResponse
  by_cases small : (bindingSuccess txn attrs).length ≤ maxResponseSize
  · have bound : (attrs.flatMap Attribute.encode).length < 2 ^ 16 := by
      rw [total, maxResponseSize] at small
      omega
    have loop := walk_encoded txn attrs header (attrs.flatMap Attribute.encode).length none enough
    simp only [← shape, header_length] at loop
    simp only [type_eq, length_eq, cookie_eq, txn_eq, BitVec.toNat_ofNat, Nat.mod_eq_of_lt bound]
    rw [if_neg (by omega), if_neg (by simp), if_neg (by simp), if_neg (by simp),
      if_neg (by omega), if_pos small, ← total, loop]
    cases readAll txn attrs none with
    | none => rfl
    | some last => simp
  · rw [if_pos (by omega), if_neg small]

/-- `ParseResponse` returns exactly the endpoint that a binding success response carries when
and only when the response is within the size limit, no second mapped address is among the other
attributes, the address is one that the parser takes, and, for an IPv6 address, its masked bytes
repeat with period four. -/
theorem parseResponse_eq_some_iff (txn : TransactionId) (endpoint : UdpEndpoint)
    (before after : List Attribute) (real : endpoint.port ≠ 0) :
    let response := bindingSuccess txn (before ++ xorMapped txn endpoint :: after)
    parseResponse response txn = some endpoint ↔
      response.length ≤ maxResponseSize ∧
      (∀ attr ∈ before ++ after, attr.kind ≠ xorMappedType) ∧
      endpoint.address.usable = true ∧
      (match endpoint.address with
        | .v4 _ => True
        | .v6 bytes => Repeats bytes txn) := by
  intro response
  have mapped := readMapped_eq_some_iff txn endpoint real
  have loop := readAll_eq_some_iff txn endpoint before after
  rw [mapped, ReadBack] at loop
  rw [← loop, parseResponse_bindingSuccess]
  by_cases small : response.length ≤ maxResponseSize
  · rw [if_pos small]
    simp only [small, true_and, Option.join_eq_some_iff]
  · rw [if_neg small]
    simp [small]

def documentationEndpoint : UdpEndpoint where
  address := .v6 #v[0x20, 0x01, 0x0d, 0xb8, 0, 0, 0, 0, 0, 0, 0, 0, 0, 0, 0, 1]
  port := 3478

def documentationEndpointV4 : UdpEndpoint where
  address := .v4 0xc0000201#32
  port := 3478

def countedTransaction : TransactionId := #v[1, 2, 3, 4, 5, 6, 7, 8, 9, 10, 11, 12]

def softwareAttribute : Attribute where
  kind := 0x8022#16
  value := [0x70, 0x70, 0x70]
  padding := [0]
  fits := by decide
  aligned := by decide

/-- A well-formed response with an ordinary IPv6 endpoint is read as another endpoint: the
decoder repeats the first four masked bytes instead of reading on. -/
theorem parseResponse_shifts_v6 :
    let read : UdpEndpoint := ⟨.v6 #v[0x20, 0x01, 0x0d, 0xb8, 0x00, 0x11, 0xaa, 0xfe,
      0x04, 0x04, 0x04, 0x0c, 0x0c, 0x0c, 0x0c, 0x04], 3478⟩
    parseResponse (bindingSuccess countedTransaction
      [softwareAttribute, xorMapped countedTransaction documentationEndpoint])
        countedTransaction = some read ∧ read ≠ documentationEndpoint := by
  decide +kernel

/-- Between two other attributes an IPv4 endpoint is read back. -/
theorem parseResponse_reads_v4 :
    let response := bindingSuccess countedTransaction ([softwareAttribute] ++
      xorMapped countedTransaction documentationEndpointV4 :: [softwareAttribute])
    response.length ≤ maxResponseSize ∧
      parseResponse response countedTransaction = some documentationEndpointV4 := by
  have evaluated : (bindingSuccess countedTransaction ([softwareAttribute] ++
      xorMapped countedTransaction documentationEndpointV4 :: [softwareAttribute])).length ≤
        maxResponseSize ∧ softwareAttribute.kind ≠ xorMappedType ∧
      documentationEndpointV4.address.usable = true := by
    decide +kernel
  obtain ⟨small, other, usable⟩ := evaluated
  refine ⟨small, ?_⟩
  apply (parseResponse_eq_some_iff countedTransaction documentationEndpointV4 [softwareAttribute]
    [softwareAttribute] (by decide)).mpr
  refine ⟨small, ?_, usable, trivial⟩
  intro attr member
  simp only [List.cons_append, List.nil_append, List.mem_cons, List.not_mem_nil, or_false,
    or_self] at member
  rw [member]
  exact other

end OpenPpp2.P2P.Stun
