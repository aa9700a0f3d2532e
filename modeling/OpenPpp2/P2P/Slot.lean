import Mathlib.Tactic.Common
import OpenPpp2.P2P.RelayOffer

/-!
# Key slots

A slot holds everything that belongs to one offer: its keys, its sequence counter, its replay window
and the transactions of the handshake.
-/

namespace OpenPpp2.P2P

open Lib.ByteLayout Option ControlPacket

def refreshSequence : Sequence := maxSequence - 4096

def retryMs : Millis := 2000

/-- `Transaction`: a probe and its answer, as sent or as received. -/
structure Transaction where
  request : ControlPacket
  hash : OfferHash
  requestBytes : Bytes
  ackBytes : Bytes := []
  firstMs : Millis := 0
  sends : Nat := 0
  acked : Bool := false
deriving DecidableEq

structure Migration where
  active : Bool := false
  peer : Endpoint := {}
  challenge : ControlPacket := {}
  hash : OfferHash := 0
  bytes : Bytes := []
  startedMs : Millis := 0
  deadlineMs : Millis := 0
  sends : Nat := 0
deriving DecidableEq

/-- `Slot`. The arrays of four transactions are lists of at most four. -/
structure Slot where
  offer : RelayOffer
  hash : OfferHash
  keys : KeyMaterial
  role : PeerRole
  context : RecipientContext
  receivedMs : Millis
  setupMs : Millis
  keyMs : Millis
  refreshMs : Millis
  previousMs : Millis := 0
  lastRxMs : Millis := 0
  lastHeartbeatMs : Millis := 0
  lastRenewMs : Millis := 0
  renewAttempts : BitVec 32 := 0
  nextSequence : Sequence := 0
  replay : ReplayWindow := {}
  tx : List Transaction := []
  rx : List Transaction := []
  nominated : Bool := false
  commitSent : Bool := false
  commitReceived : Bool := false
  renewRequested : Bool := false
  localCandidate : Endpoint := {}
  peerCandidate : Endpoint := {}
  commit : ControlPacket := {}
  commitHash : OfferHash := 0
  commitBytes : Bytes := []
  commitAckBytes : Bytes := []
  commitStartedMs : Millis := 0
  commitSends : Nat := 0
  migrationAttempts : Nat := 0
  receivedMigrations : Nat := 0
  migration : Migration := {}
  receivedMigrationHash : OfferHash := 0
  migrationAckBytes : Bytes := []
deriving DecidableEq

def maxTransactions : Nat := 4

def Transaction.connects (transaction : Transaction) (source destination : Endpoint) : Bool :=
  transaction.request.source = source ∧ transaction.request.destination = destination

namespace Slot

/-- `Tx` -/
def findTx (slot : Slot) (here peer : Endpoint) : Option Transaction :=
  slot.tx.find? fun transaction => transaction.connects here peer

/-- `Rx` -/
def findRx (slot : Slot) (peer here : Endpoint) : Option Transaction :=
  slot.rx.find? fun transaction => transaction.connects peer here

def changeTx (slot : Slot) (here peer : Endpoint) (change : Transaction → Transaction) :
    List Transaction :=
  slot.tx.replaceF fun transaction =>
    if transaction.connects here peer then some (change transaction) else none

/-- `Ready`: the nominated pair has been probed in both directions. -/
def Ready (slot : Slot) : Prop :=
  slot.nominated ∧
    (∃ sent ∈ slot.findTx slot.localCandidate slot.peerCandidate, sent.acked) ∧
    ∃ received ∈ slot.findRx slot.peerCandidate slot.localCandidate, received.ackBytes ≠ []

instance (slot : Slot) : Decidable slot.Ready := inferInstanceAs (Decidable (_ ∧ _ ∧ _))

def Alive (slot : Slot) (now : Millis) : Prop := slot.receivedMs ≤ now ∧ now < slot.keyMs

instance (slot : Slot) (now : Millis) : Decidable (slot.Alive now) :=
  inferInstanceAs (Decidable (_ ∧ _))

def Setup (slot : Slot) (now : Millis) : Prop := slot.Alive now ∧ now < slot.setupMs

instance (slot : Slot) (now : Millis) : Decidable (slot.Setup now) :=
  inferInstanceAs (Decidable (_ ∧ _))

def makeControl (slot : Slot) (type : ControlType) (here peer : Endpoint) : Option ControlPacket :=
  if slot.nextSequence = maxSequence then none
  else
    some
      { type := type
        offerHash := slot.hash
        connectionEpoch := slot.offer.connectionEpoch
        senderRole := slot.role.code
        receiverRole := 1 - slot.role.code
        direction := slot.role.code
        source := here
        destination := peer
        sequence := slot.nextSequence
        nonce := buildNonce (slot.keys.selectDirection slot.role).txNoncePrefix slot.nextSequence }

/-- `FinishControl`: the signed packet and its bytes; the counter moves on. -/
def finishControl (crypto : Crypto) (slot : Slot) (packet : ControlPacket)
    (binding : Option OfferHash) : Option (Slot × ControlPacket × Bytes) :=
  match packet.sign crypto slot.keys.offerTokenKey binding with
  | none => none
  | some signed =>
    match signed.serialize with
    | none => none
    | some bytes => some ({ slot with nextSequence := slot.nextSequence + 1 }, signed, bytes)

def Authenticates (crypto : Crypto) (slot : Slot) (packet : ControlPacket) (sender : Endpoint)
    (binding : Option OfferHash) : Prop :=
  packet.offerHash = slot.hash ∧ packet.connectionEpoch = slot.offer.connectionEpoch ∧
    packet.receiverRole = slot.role.code ∧ packet.senderRole = 1 - packet.receiverRole ∧
    packet.source = sender ∧
    packet.nonce = buildNonce (slot.keys.selectDirection slot.role).rxNoncePrefix packet.sequence ∧
    packet.Verified crypto slot.keys.offerTokenKey binding

instance (crypto : Crypto) (slot : Slot) (packet : ControlPacket) (sender : Endpoint)
    (binding : Option OfferHash) : Decidable (slot.Authenticates crypto packet sender binding) :=
  inferInstanceAs (Decidable (_ ∧ _))

/-- `Open`: the plaintext and the replay window that would then hold. -/
def openData (crypto : Crypto) (slot : Slot) (bytes : Bytes) : Option (Bytes × ReplayWindow) :=
  match DataHeader.parse bytes with
  | none => none
  | some header =>
    if header.offerHash ≠ slot.hash ∨ header.connectionEpoch ≠ slot.offer.connectionEpoch ∨
        header.receiverRole ≠ slot.role.code ∨ header.senderRole ≠ 1 - header.receiverRole then
      none
    else
      match slot.replay.replay header.sequence with
      | none => none
      | some replay =>
        let direction := slot.keys.selectDirection slot.role
        (DataHeader.openDatagram crypto bytes header direction.rxKey
          (buildNonce direction.rxNoncePrefix header.sequence)).map fun plaintext =>
            (plaintext, replay)

def dataHeader (slot : Slot) : DataHeader :=
  { offerHash := slot.hash
    connectionEpoch := slot.offer.connectionEpoch
    sequence := slot.nextSequence
    senderRole := slot.role.code
    receiverRole := 1 - slot.role.code
    direction := slot.role.code }

/-- `Seal`: the datagram; the counter moves on. -/
def sealData (crypto : Crypto) (slot : Slot) (payload : Bytes) : Option (Slot × Bytes) :=
  if slot.nextSequence = maxSequence then none
  else
    let direction := slot.keys.selectDirection slot.role
    (DataHeader.sealDatagram crypto slot.dataHeader direction.txKey
      (buildNonce direction.txNoncePrefix slot.nextSequence) payload).map fun datagram =>
        ({ slot with nextSequence := slot.nextSequence + 1 }, datagram)

/-- The slot `AcceptOffer` builds from an encoded offer, before it looks at the
channel. -/
def ofOffer (crypto : Crypto) (encoded : Bytes) (context : RecipientContext) (exporter : Exporter)
    (now : Millis) : Option Slot :=
  if BitVec.allOnes 64 - 60000 < now then none
  else do
    let (offer, role, seed) ←
      openRecipient crypto encoded context.localSessionId context.localPeerId exporter
    let hash ← offer.hash crypto
    let keys ← deriveKeyMaterial crypto seed hash
    if context.localCandidateRevision ≠ offer.candidateRevision role ∨
        context.peerCandidateRevision ≠ offer.candidateRevision role.other ∨
        context.candidateSetHash crypto offer role ≠ some offer.candidateSetHash then none
    return {
      offer := offer
      hash := hash
      keys := keys
      role := role
      context := context
      receivedMs := now
      setupMs := now + 10000
      keyMs := now + 60000
      refreshMs := now + 40000 }

theorem changeTx_cases (slot : Slot) (here peer : Endpoint) (change : Transaction → Transaction) :
    slot.changeTx here peer change = slot.tx ∨
      ∃ front sent back, slot.tx = front ++ sent :: back ∧ sent.connects here peer ∧
        slot.changeTx here peer change = front ++ change sent :: back := by
  rcases List.exists_or_eq_self_of_replaceF (fun transaction =>
      if transaction.connects here peer then some (change transaction) else none) slot.tx with
    same | ⟨sent, changed, front, back, _, found, split, replaced⟩
  · exact .inl same
  · split_ifs at found with connects
    cases found
    exact .inr ⟨front, sent, back, split, connects, replaced⟩

/-- A control packet the slot has signed with its next number, and its bytes. -/
structure Signs (slot : Slot) (type : ControlType) (here peer : Endpoint)
    (packet : ControlPacket) (bytes : Bytes) : Prop where
  usable : slot.nextSequence ≠ maxSequence
  sequence : packet.sequence = slot.nextSequence
  type_eq : packet.type = type
  offerHash : packet.offerHash = slot.hash
  senderRole : packet.senderRole = slot.role.code
  source : packet.source = here
  destination : packet.destination = peer
  written : packet.serialize = some bytes

variable {packet : ControlPacket} {binding : Option OfferHash} {crypto : Crypto} {bytes : Bytes}
    {here : Endpoint} {made : ControlPacket} {peer : Endpoint} {type : ControlType} {slot : Slot}

theorem sign_eq_some {signed : ControlPacket} {key : Key}
    (done : packet.sign crypto key binding = some signed) :
    ∃ token, signed = { packet with token := token } := by
  obtain ⟨token, _, rfl⟩ := map_eq_some_iff.1 done
  exact ⟨token, rfl⟩

theorem finishControl_signs {counted : Slot} {signed : ControlPacket}
    (made_eq : slot.makeControl type here peer = some made) (filled : packet = { made with
      previousOfferHash := packet.previousOfferHash
      probeTranscriptHash := packet.probeTranscriptHash
      commitTranscriptHash := packet.commitTranscriptHash })
    (finished : slot.finishControl crypto packet binding = some (counted, signed, bytes)) :
    counted = { slot with nextSequence := slot.nextSequence + 1 } ∧
      slot.Signs type here peer signed bytes := by
  rw [makeControl] at made_eq
  split_ifs at made_eq with usable
  obtain rfl := some.inj made_eq
  rcases sign : packet.sign crypto slot.keys.offerTokenKey binding with _ | token
  · simp [finishControl, sign] at finished
  rcases written : token.serialize with _ | wire
  · simp [finishControl, sign, written] at finished
  simp only [finishControl, sign, written, some.injEq, Prod.mk.injEq] at finished
  obtain ⟨rfl, rfl, rfl⟩ := finished
  obtain ⟨tag, rfl⟩ := sign_eq_some sign
  rw [filled]
  exact ⟨rfl, usable, rfl, rfl, rfl, rfl, rfl, rfl, by rw [← filled]; exact written⟩

theorem Signs.length (signs : slot.Signs type here peer packet bytes) :
    bytes.length = type.wireSize := by
  rw [length_serialize signs.written, signs.type_eq]

theorem Signs.hash_isSome (signs : slot.Signs type here peer packet bytes)
    (crypto : Crypto) : ∃ hash, packet.hash crypto = some hash := by
  rw [ControlPacket.hash, signs.written]
  exact ⟨_, rfl⟩

theorem finishControl_isSome (crypto : Crypto) (slot : Slot)
    (valid : packet.Valid) (binding : Option OfferHash) : ∃ counted signed bytes,
      slot.finishControl crypto packet binding = some (counted, signed, bytes) := by
  obtain ⟨untagged, unsigned⟩ :=
    serialize_isSome (show ({ packet with token := 0 } : ControlPacket).Valid from valid)
  obtain ⟨token, sign⟩ : ∃ token, packet.sign crypto slot.keys.offerTokenKey binding =
      some { packet with token := token } := by
    rw [sign, tag, unsigned]
    exact ⟨_, rfl⟩
  obtain ⟨bytes, written⟩ :=
    serialize_isSome (show ({ packet with token := token } : ControlPacket).Valid from valid)
  simp only [finishControl, sign, written]
  exact ⟨_, _, _, rfl⟩

theorem makeControl_eq_none
    (failed : slot.makeControl type here peer = none) : slot.nextSequence = maxSequence := by
  rw [makeControl] at failed
  split_ifs at failed with last
  exact last

theorem makeControl_valid (made_eq : slot.makeControl type here peer = some made)
    (hash : slot.hash ≠ 0) (epoch : slot.offer.connectionEpoch ≠ 0)
    (source : here.Canonical) (destination : peer.Canonical) : made.Valid := by
  rw [makeControl] at made_eq
  split_ifs at made_eq with usable
  obtain rfl := some.inj made_eq
  have roles : slot.role.code ≤ 1 ∧ 1 - slot.role.code ≤ 1 ∧
      slot.role.code ≠ 1 - slot.role.code := by
    cases slot.role <;> decide
  exact ⟨roles.1, roles.2.1, roles.2.2, rfl, rfl, usable, hash, epoch, source, destination⟩

theorem sealData_eq_some {counted : Slot} {payload datagram : Bytes}
    (sealed : slot.sealData crypto payload = some (counted, datagram)) :
    slot.nextSequence ≠ maxSequence ∧
      counted = { slot with nextSequence := slot.nextSequence + 1 } ∧
      ∃ size, DataHeader.parse datagram = some { slot.dataHeader with payloadLength := size } := by
  simp only [sealData] at sealed
  split_ifs at sealed with last
  obtain ⟨wire, done, equal⟩ := map_eq_some_iff.1 sealed
  cases equal
  exact ⟨last, rfl, _, DataHeader.parse_sealDatagram done⟩

theorem openData_eq_some {plaintext : Bytes}
    {window : ReplayWindow} (opened : slot.openData crypto bytes = some (plaintext, window)) :
    ∃ header, DataHeader.parse bytes = some header ∧ header.offerHash = slot.hash ∧
      header.receiverRole = slot.role.code ∧ header.senderRole = 1 - header.receiverRole ∧
      slot.replay.replay header.sequence = some window := by
  rcases parsed : DataHeader.parse bytes with _ | header
  · simp [openData, parsed] at opened
  simp only [openData, parsed] at opened
  split_ifs at opened with differs
  rcases fresh : slot.replay.replay header.sequence with _ | next
  · simp [fresh] at opened
  simp only [fresh, map_eq_some_iff, Prod.mk.injEq] at opened
  obtain ⟨_, _, _, rfl⟩ := opened
  simp only [not_or, not_not] at differs
  exact ⟨header, rfl, differs.1, differs.2.2.1, differs.2.2.2, fresh⟩

structure Unused (crypto : Crypto) (slot : Slot) : Prop where
  valid : slot.offer.Valid
  hashed : slot.offer.hash crypto = some slot.hash
  hash_ne : slot.hash ≠ 0
  nextSequence : slot.nextSequence = 0
  replay : slot.replay = {}
  tx : slot.tx = []
  rx : slot.rx = []
  nominated : slot.nominated = false
  commitSent : slot.commitSent = false
  commitReceived : slot.commitReceived = false
  commitAckBytes : slot.commitAckBytes = []
  migration : slot.migration = {}
  migrationAckBytes : slot.migrationAckBytes = []

theorem ofOffer_unused {encoded : Bytes} {context : RecipientContext} {exporter : Exporter}
    {now : Millis} (built : ofOffer crypto encoded context exporter now = some slot) :
    slot.Unused crypto ∧ ∃ envelope, parseRecipient encoded = some (slot.offer, envelope) ∧
      envelope.recipientRole = slot.role := by
  rw [ofOffer] at built
  split_ifs at built
  rcases opened : openRecipient crypto encoded context.localSessionId context.localPeerId
      exporter with _ | ⟨offer, role, seed⟩
  · simp [opened] at built
  rcases hashed : offer.hash crypto with _ | hash
  · simp [opened, hashed] at built
  rcases derived : deriveKeyMaterial crypto seed hash with _ | keys
  · simp [opened, hashed, derived] at built
  simp only [opened, hashed, derived, bind_eq_bind, bind_some] at built
  split_ifs at built
  · simp at built
  · cases built
    obtain ⟨envelope, parsed, roles⟩ := openRecipient_eq_some opened
    have nonzero : hash ≠ 0 := by
      rintro rfl
      simp [deriveKeyMaterial] at derived
    exact ⟨⟨parseRecipient_valid parsed, hashed, nonzero, rfl, rfl, rfl, rfl, rfl, rfl, rfl, rfl,
      rfl, rfl⟩, envelope, parsed, roles⟩

end Slot

end OpenPpp2.P2P
