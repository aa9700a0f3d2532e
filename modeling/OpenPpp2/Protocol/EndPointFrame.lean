import Mathlib.Data.List.TakeWhile
import OpenPpp2.Lib.ByteLayout
import OpenPpp2.Lib.Decimal

/-!
# Frames with endpoints

`VirtualEthernetLinklayer.cpp`: an endpoint travels as two texts, the host and the decimal port, each
after a byte with its length.
-/

namespace OpenPpp2.Protocol.EndPointFrame

open Lib.BigEndian Lib.Decimal Lib.DottedQuad List Option

abbrev Bytes := List UInt8

/-- `PACKET_IPEndPoint` on a stream that is written; the length of the host is cut to a byte. -/
def writeEndPoint (host : Bytes) (port : Nat) : Option Bytes :=
  if port = 0 ∨ 65535 < port then none
  else if host = [] then none
  else some (UInt8.ofNat host.length :: host ++ UInt8.ofNat (decimal port).length :: decimal port)

/-- `PACKET_DoConnect` with a host text. -/
def doConnect (id : Nat) (host : Bytes) (port : Nat) : Option Bytes :=
  if id = 0 then none
  else (writeEndPoint host port).map fun text => 0x2A :: bigEndian 3 id ++ text

section Endpoints

variable {Address : Type}

/-- The text of an address, and the tests of the address library. -/
structure Library (Address : Type) where
  toAddressString : Address → Bytes
  isUnspecified : Address → Bool
  isMulticast : Address → Bool

structure EndPoint (Address : Type) where
  address : Address
  port : Nat
  deriving DecidableEq

def Library.valid (library : Library Address) (endPoint : EndPoint Address) : Bool :=
  endPoint.port != 0 && decide (endPoint.port ≤ 65535) && !library.isUnspecified endPoint.address &&
    !library.isMulticast endPoint.address

variable (library : Library Address)

def write (endPoint : EndPoint Address) : Option Bytes :=
  if library.valid endPoint then
    writeEndPoint (library.toAddressString endPoint.address) endPoint.port
  else none

/-- `DoSendTo`, `none` where no frame is written; a long frame is dropped in plaintext mode. -/
def doSendTo (plaintext : Bool) (source destination : EndPoint Address) (payload : Bytes) :
    Option Bytes :=
  if library.isMulticast destination.address then none
  else match write library destination, write library source with
    | some first, some second =>
      let frame := 0x2E :: first ++ second ++ payload
      if 32765 < frame.length ∧ plaintext then none else some frame
    | _, _ => none

def doFrpSendTo (incoming : Bool) (remotePort : Nat) (source : EndPoint Address)
    (payload : Bytes) : Option Bytes :=
  if payload = [] then none
  else (write library source).map fun first =>
    0x25 :: first ++ (if incoming then 1 else 0) :: bigEndian 2 remotePort ++ payload

end Endpoints

/-- The port that `strtol` reads, zero for a text that is no port. -/
def parsePort (text : Bytes) : Nat :=
  let text := (text.takeWhile (· ≠ 0)).dropWhile isspace
  let digits := if text.head? = some 43 then text.tail else text
  if digits ≠ [] ∧ digits.all isDigit ∧ digitsValue digits ≤ 65535 then digitsValue digits
  else 0

/-- The texts of `PACKET_IPEndPoint` on a stream that is read, and the bytes after them. -/
def readEndPoint : Bytes → Option (Bytes × Nat × Bytes)
  | [] => none
  | size :: rest =>
    if rest.length < size.toNat ∨ size.toNat = 0 then none
    else match rest.drop size.toNat with
      | [] => none
      | portSize :: after =>
        if after.length < portSize.toNat then none
        else some (rest.take size.toNat, parsePort (after.take portSize.toNat),
          after.drop portSize.toNat)

/-- The connection id, the host, the port and what follows them in a SYN frame. -/
def readConnect (bytes : Bytes) : Option (Nat × Bytes × Nat × Bytes) :=
  if bytes.length < 3 ∨ ofBigEndian (bytes.take 3) = 0 then none
  else (readEndPoint (bytes.drop 3)).map fun found => (ofBigEndian (bytes.take 3), found)

section Input

variable {Address : Type}

/-- The firewall and the resolver of the side that reads. -/
structure Gate (Address : Type) where
  dropPort : Bool → Nat → Bool
  stringToAddress : Bytes → Option Address
  dropDomain : Bytes → Bool
  resolve : Bytes → Nat → Option (EndPoint Address)
  dropSegment : Address → Bool

variable (gate : Gate Address)

/-- What `PACKET_IPEndPoint` returns for the texts it has read; `none` is port zero. -/
def Gate.accept (tcp : Bool) (host : Bytes) (port : Nat) : Option (EndPoint Address) :=
  if gate.dropPort tcp port then none
  else
    let found : Option (EndPoint Address) := match gate.stringToAddress (host.takeWhile (· ≠ 0)) with
      | some address => some ⟨address, port⟩
      | none => if gate.dropDomain host then none else gate.resolve host port
    found.filter fun endPoint => !gate.dropSegment endPoint.address && endPoint.port != 0

inductive Input (Address : Type) where
  | connect (id : Nat) (host : Bytes) (destination : EndPoint Address)
  | sendTo (source destination : EndPoint Address) (payload : Bytes)
  | frpSendTo (incoming : Bool) (remotePort : Nat) (source : EndPoint Address) (payload : Bytes)

/-- The branches of `PacketInput` for the three frames. -/
def packetInput : Bytes → Option (Input Address)
  | 0x2A :: bytes => do
    let (id, host, port, _) ← readConnect bytes
    some (.connect id host (← gate.accept true host port))
  | 0x2E :: bytes => do
    let (host, port, bytes) ← readEndPoint bytes
    let destination ← gate.accept false host port
    let (host, port, payload) ← readEndPoint bytes
    some (.sendTo (← gate.accept false host port) destination payload)
  | 0x25 :: bytes => do
    let (host, port, bytes) ← readEndPoint bytes
    let source ← gate.accept false host port
    match bytes with
    | incoming :: high :: low :: payload =>
      if ofBigEndian [high, low] = 0 ∨ payload = [] then none
      else some (.frpSendTo (incoming ≠ 0) (ofBigEndian [high, low]) source payload)
    | _ => none
  | _ => none

end Input

variable {bytes host : Bytes} {port : Nat}

theorem toNat_ofNat_length (short : bytes.length < 256) :
    (UInt8.ofNat bytes.length).toNat = bytes.length := by
  exact Nat.mod_eq_of_lt short

theorem digit_plain (char : UInt8) (digit : isDigit char) :
    char ≠ 0 ∧ char ≠ 43 ∧ isspace char = false := by
  have all : ∀ value : Fin 256, isDigit (UInt8.ofFin value) →
      UInt8.ofFin value ≠ 0 ∧ UInt8.ofFin value ≠ 43 ∧ isspace (UInt8.ofFin value) = false := by
    decide +kernel
  exact all char.toFin digit

theorem parsePort_decimal (small : port ≤ 65535) : parsePort (decimal port) = port := by
  have digits := isDigit_decimal port
  have filled := decimal_ne_nil port
  have value := digitsValue_decimal port
  generalize decimal port = text at digits filled value
  have whole : text.takeWhile (· ≠ 0) = text := by
    rw [takeWhile_eq_self_iff]
    intro char member
    simpa using (digit_plain char (all_eq_true.1 digits char member)).1
  obtain ⟨first, rest, rfl⟩ := exists_cons_of_ne_nil filled
  have plain := digit_plain first (all_eq_true.1 digits first (by simp))
  have skip : (first :: rest).dropWhile isspace = first :: rest :=
    dropWhile_cons_of_neg (by simp [plain.2.2])
  have plus : (first :: rest).head? ≠ some 43 := by simp [plain.2.1]
  simp only [parsePort, whole, skip, if_neg plus, value]
  exact if_pos ⟨filled, digits, small⟩

theorem readEndPoint_write
    (written : writeEndPoint host port = some bytes) (short : host.length < 256) (rest : Bytes) :
    readEndPoint (bytes ++ rest) = some (host, port, rest) := by
  unfold writeEndPoint at written
  split_ifs at written with outside blank
  cases written
  have small : port ≤ 65535 := by omega
  have filled : host.length ≠ 0 := by simpa using blank
  have digits : (decimal port).length ≤ 5 := length_decimal (by omega) (by decide)
  have portShort := toNat_ofNat_length (show (decimal port).length < 256 by omega)
  simp [readEndPoint, toNat_ofNat_length short, portShort, parsePort_decimal small, filled]

theorem length_of_readEndPoint {found : Nat × Bytes}
    (reads : readEndPoint bytes = some (host, found)) : host.length ≤ 255 := by
  cases bytes with
  | nil => cases reads
  | cons size rest =>
    have fits := size.toNat_lt
    simp only [readEndPoint] at reads
    split_ifs at reads
    split at reads
    · cases reads
    · split_ifs at reads
      cases reads
      have := length_take_le size.toNat rest
      omega

section Lawful

variable {Address : Type}

/-- The reading side understands the texts that the writing side makes of addresses. -/
structure Understands (library : Library Address) (gate : Gate Address) : Prop where
  short : ∀ address, (library.toAddressString address).length < 256
  shown : ∀ address, (0 : UInt8) ∉ library.toAddressString address
  reads : ∀ address, gate.stringToAddress (library.toAddressString address) = some address

def Gate.passes (gate : Gate Address) (endPoint : EndPoint Address) : Prop :=
  gate.dropPort false endPoint.port = false ∧ gate.dropSegment endPoint.address = false

variable {library : Library Address} {gate : Gate Address}

variable {endPoint source : EndPoint Address} {bytes payload frame : Bytes}

theorem readEndPoint_endPoint (lawful : Understands library gate)
    (written : write library endPoint = some bytes) (rest : Bytes) : readEndPoint (bytes ++ rest) =
      some (library.toAddressString endPoint.address, endPoint.port, rest) := by
  unfold write at written
  split_ifs at written
  exact readEndPoint_write written (lawful.short endPoint.address) rest

theorem doSendTo_eq_some {plaintext : Bool} {destination : EndPoint Address}
    (made : doSendTo library plaintext source destination payload = some frame) :
    ∃ first second, write library destination = some first ∧ write library source = some second ∧
      frame = 0x2E :: first ++ second ++ payload := by
  unfold doSendTo at made
  split_ifs at made
  split at made
  · dsimp only at made
    split_ifs at made
    exact ⟨_, _, ‹_›, ‹_›, (some.inj made).symm⟩
  · cases made

theorem doFrpSendTo_eq_some {incoming : Bool} {remotePort : Nat}
    (made : doFrpSendTo library incoming remotePort source payload = some frame) :
    ∃ first, payload ≠ [] ∧ write library source = some first ∧
      frame = 0x25 :: first ++ (if incoming then 1 else 0) :: bigEndian 2 remotePort ++ payload := by
  unfold doFrpSendTo at made
  by_cases blank : payload = []
  · simp [blank] at made
  · rw [if_neg blank] at made
    obtain ⟨first, written, rfl⟩ := map_eq_some_iff.1 made
    exact ⟨first, blank, written, rfl⟩

theorem accept_endPoint (lawful : Understands library gate)
    (written : write library endPoint = some bytes) (passes : gate.passes endPoint) :
    gate.accept false (library.toAddressString endPoint.address) endPoint.port = some endPoint := by
  have port : endPoint.port ≠ 0 := by
    unfold write Library.valid at written
    grind
  have whole : (library.toAddressString endPoint.address).takeWhile (· ≠ 0) =
      library.toAddressString endPoint.address := by
    rw [takeWhile_eq_self_iff]
    intro char member
    have shown : char ≠ 0 := ne_of_mem_of_not_mem member (lawful.shown endPoint.address)
    simpa using shown
  simp only [Gate.accept, whole, lawful.reads, passes.1]
  simp [passes.2, port]

end Lawful

/-- A connect frame is read back exactly when the length of its host fits a byte; the frames of
datagrams are read back as the endpoints, direction, port and payload they were written for. -/
theorem frames_read_back {Address : Type} (library : Library Address) (gate : Gate Address)
    (lawful : Understands library gate) :
    (∀ (id port : Nat) (host frame : Bytes), id < 2 ^ 24 → doConnect id host port = some frame →
      (frame.head? = some 0x2A ∧ readConnect frame.tail = some (id, host, port, []) ↔
        host.length ≤ 255)) ∧
    (∀ plaintext source destination payload frame, gate.passes source → gate.passes destination →
      doSendTo library plaintext source destination payload = some frame →
      packetInput gate frame = some (.sendTo source destination payload)) ∧
    ∀ incoming remotePort source payload frame, gate.passes source →
      0 < remotePort → remotePort < 65536 →
      doFrpSendTo library incoming remotePort source payload = some frame →
      packetInput gate frame = some (.frpSendTo incoming remotePort source payload) := by
  refine ⟨?_, ?_, ?_⟩
  · intro id port host frame fits made
    unfold doConnect at made
    split_ifs at made with zero
    obtain ⟨text, written, rfl⟩ := map_eq_some_iff.1 made
    have named : ofBigEndian (bigEndian 3 id) = id := by
      rw [ofBigEndian_bigEndian]
      omega
    have read : readConnect (bigEndian 3 id ++ text) = (readEndPoint text).map (id, ·) := by
      simp [readConnect, named, zero]
    constructor
    · rintro ⟨_, found⟩
      rw [cons_append, tail_cons, read] at found
      obtain ⟨_, found, same⟩ := map_eq_some_iff.1 found
      cases same
      exact length_of_readEndPoint found
    · intro short
      have found := readEndPoint_write written (by omega) []
      rw [append_nil] at found
      rw [cons_append, tail_cons, read, found]
      exact ⟨rfl, rfl⟩
  · intro plaintext source destination payload frame passes passes' made
    obtain ⟨first, second, first', second', rfl⟩ := doSendTo_eq_some made
    rw [cons_append, cons_append, append_assoc, packetInput]
    simp [readEndPoint_endPoint lawful first', readEndPoint_endPoint lawful second',
      accept_endPoint lawful first' passes', accept_endPoint lawful second' passes]
  · intro incoming remotePort source payload frame passes positive fits made
    obtain ⟨first, filled, first', rfl⟩ := doFrpSendTo_eq_some made
    have port : ofBigEndian (bigEndian 2 remotePort) = remotePort := by
      rw [ofBigEndian_bigEndian]
      omega
    have nonzero : remotePort ≠ 0 := by omega
    simp only [bigEndian, cons_append, append_assoc, nil_append] at port ⊢
    simp only [packetInput, readEndPoint_endPoint lawful first', bind_eq_bind,
      bind_some, accept_endPoint lawful first' passes, port, nonzero, filled]
    cases incoming <;> simp

/-- A host of 257 bytes is read as its first byte, before a port that the host itself holds. -/
theorem long_host_reads_as_another :
    ((doConnect 1 ([97, 2, 56, 48] ++ List.replicate 253 97) 443).bind fun frame =>
      (readConnect frame.tail).map fun found => (found.1, found.2.1, found.2.2.1)) =
      some (1, [97], 80) := by
  decide +kernel

theorem frames_read_back_datagram :
    let library : Library (BitVec 32) := ⟨dotted, (· == 0), fun address => address >>> 28 == 14⟩
    let octet (text : Bytes) : Option Nat :=
      if text.all isDigit ∧ digitsValue text < 256 then some (digitsValue text) else none
    let gate : Gate (BitVec 32) := ⟨fun _ port => port == 25, readAddress octet, fun _ => true,
      fun _ _ => none, fun address => address >>> 24 == 127⟩
    ∃ frame, doSendTo library false ⟨0x0a000001, 53⟩ ⟨0xc0000202, 4096⟩ [7] = some frame ∧
      packetInput gate frame = some (.sendTo ⟨0x0a000001, 53⟩ ⟨0xc0000202, 4096⟩ [7]) := by
  intro library octet gate
  have lawful : Understands library gate := by
    constructor
    · intro address
      have := length_dotted address
      simp only [library]
      omega
    · exact fun address => not_mem_dotted address rfl (by decide)
    · refine readAddress_dotted fun value small => ?_
      simp only [octet, isDigit_decimal, digitsValue_decimal, small, and_self, if_true]
  refine (Option.isSome_iff_exists.mp ?_).imp fun frame made => ⟨made, ?_⟩
  · decide +kernel
  · exact (frames_read_back library gate lawful).2.1 _ _ _ _ _ ⟨rfl, by decide⟩ ⟨rfl, by decide⟩ made

end OpenPpp2.Protocol.EndPointFrame
