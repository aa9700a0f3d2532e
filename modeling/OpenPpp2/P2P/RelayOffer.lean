import Mathlib.Data.List.Sort
import OpenPpp2.P2P.Codec
import OpenPpp2.Lib.Decimal

/-!
# Relay offers

The relay hands each side an offer: the parameters of one key epoch and the pair seed, wrapped for
the recipient.
-/

namespace OpenPpp2.P2P

open Lib.BigEndian Lib.ByteLayout Option

structure RelayOffer where
  version : UInt8 := 2
  offerId : Id
  initiatorSessionId : Id
  responderSessionId : Id
  initiatorPeerId : Id
  responderPeerId : Id
  connectionEpoch : Id
  keyGeneration : BitVec 64
  previousOfferHash : OfferHash
  setupTtlSeconds : UInt8 := 10
  keyLifetimeSeconds : BitVec 16 := 60
  refreshAfterSeconds : BitVec 16 := 40
  previousReceiveGraceMs : BitVec 16 := 5000
  cipher : UInt8 := 1
  initiatorCandidateRevision : BitVec 64
  responderCandidateRevision : BitVec 64
  candidateSetHash : OfferHash
deriving DecidableEq, Repr

structure WrappedPairSeed where
  recipientPeerId : Id
  recipientRole : PeerRole
  wrapNonce : Nonce
  ciphertext : Key
  authTag : BitVec 128
deriving DecidableEq, Repr

namespace RelayOffer

def Valid (offer : RelayOffer) : Prop :=
  offer.version = 2 ∧ offer.setupTtlSeconds = 10 ∧ offer.keyLifetimeSeconds = 60 ∧
    offer.refreshAfterSeconds = 40 ∧ offer.previousReceiveGraceMs = 5000 ∧ offer.cipher = 1 ∧
    offer.keyGeneration ≠ 0 ∧ offer.initiatorCandidateRevision ≠ 0 ∧
    offer.responderCandidateRevision ≠ 0 ∧ offer.offerId ≠ 0 ∧ offer.connectionEpoch ≠ 0 ∧
    offer.initiatorSessionId ≠ 0 ∧ offer.responderSessionId ≠ 0 ∧
    offer.initiatorPeerId ≠ 0 ∧ offer.responderPeerId ≠ 0 ∧ offer.candidateSetHash ≠ 0 ∧
    offer.initiatorSessionId ≠ offer.responderSessionId ∧
    offer.initiatorPeerId < offer.responderPeerId

instance (offer : RelayOffer) : Decidable offer.Valid := inferInstanceAs (Decidable (_ ∧ _))

def sessionId (offer : RelayOffer) : PeerRole → Id
  | .initiator => offer.initiatorSessionId
  | .responder => offer.responderSessionId

def peerId (offer : RelayOffer) : PeerRole → Id
  | .initiator => offer.initiatorPeerId
  | .responder => offer.responderPeerId

def candidateRevision (offer : RelayOffer) : PeerRole → BitVec 64
  | .initiator => offer.initiatorCandidateRevision
  | .responder => offer.responderCandidateRevision

def bytes (offer : RelayOffer) : Bytes :=
  [2] ++ wordBytes offer.offerId ++ wordBytes offer.initiatorSessionId ++
    wordBytes offer.responderSessionId ++ wordBytes offer.initiatorPeerId ++
    wordBytes offer.responderPeerId ++ wordBytes offer.connectionEpoch ++
    wordBytes offer.keyGeneration ++ wordBytes offer.previousOfferHash ++
    [offer.setupTtlSeconds] ++ wordBytes offer.keyLifetimeSeconds ++
    wordBytes offer.refreshAfterSeconds ++ wordBytes offer.previousReceiveGraceMs ++
    [offer.cipher] ++ wordBytes offer.initiatorCandidateRevision ++
    wordBytes offer.responderCandidateRevision ++ wordBytes offer.candidateSetHash

def serialize (offer : RelayOffer) : Option Bytes :=
  if offer.Valid then some offer.bytes else none

def hash (crypto : Crypto) (offer : RelayOffer) : Option OfferHash :=
  offer.serialize.map crypto.digest

def exporterContext (crypto : Crypto) (offer : RelayOffer) (role : PeerRole) : Option Bytes :=
  (offer.hash crypto).map fun hash =>
    wordBytes (offer.sessionId role) ++ wordBytes offer.initiatorPeerId ++
      wordBytes offer.responderPeerId ++ wordBytes offer.initiatorSessionId ++
      wordBytes offer.responderSessionId ++ wordBytes offer.connectionEpoch ++
      wordBytes offer.offerId ++ [2] ++ wordBytes hash

def read (bytes : Bytes) : RelayOffer :=
  { version := byteAt 0 bytes
    offerId := word 1 128 bytes
    initiatorSessionId := word 17 128 bytes
    responderSessionId := word 33 128 bytes
    initiatorPeerId := word 49 128 bytes
    responderPeerId := word 65 128 bytes
    connectionEpoch := word 81 128 bytes
    keyGeneration := word 97 64 bytes
    previousOfferHash := word 105 256 bytes
    setupTtlSeconds := byteAt 137 bytes
    keyLifetimeSeconds := word 138 16 bytes
    refreshAfterSeconds := word 140 16 bytes
    previousReceiveGraceMs := word 142 16 bytes
    cipher := byteAt 144 bytes
    initiatorCandidateRevision := word 145 64 bytes
    responderCandidateRevision := word 153 64 bytes
    candidateSetHash := word 161 256 bytes }

end RelayOffer

/-- `Hex`: the value of a hexadecimal digit, given by its character code. -/
def hexValue (character : UInt8) : Option Nat :=
  let code := character.toNat
  if 48 ≤ code ∧ code ≤ 57 then some (code - 48)
  else if 97 ≤ code ∧ code ≤ 102 then some (code - 97 + 10)
  else if 65 ≤ code ∧ code ≤ 70 then some (code - 65 + 10)
  else none

def decodeHex : Bytes → Option Bytes
  | [] => some []
  | [_] => none
  | high :: low :: rest =>
    match hexValue high, hexValue low, decodeHex rest with
    | some a, some b, some bytes => some (UInt8.ofNat (a * 16 + b) :: bytes)
    | _, _, _ => none

def hexDigit (value : Nat) : UInt8 :=
  UInt8.ofNat (if value < 10 then 48 + value else 97 + (value - 10))

def encodeHex (bytes : Bytes) : Bytes :=
  bytes.flatMap fun byte => [hexDigit (byte.toNat / 16), hexDigit (byte.toNat % 16)]

def encodeRecipient (offer : RelayOffer) (envelope : WrappedPairSeed) : Option Bytes :=
  match offer.serialize with
  | none => none
  | some common =>
    if envelope.recipientPeerId ≠ offer.peerId envelope.recipientRole then none
    else
      some (encodeHex (common ++ wordBytes envelope.recipientPeerId ++
        [envelope.recipientRole.code] ++ wordBytes envelope.wrapNonce ++
        wordBytes envelope.ciphertext ++ wordBytes envelope.authTag))

def parseRecipient (encoded : Bytes) : Option (RelayOffer × WrappedPairSeed) :=
  if encoded.length ≠ 540 then none
  else
    match decodeHex encoded with
    | none => none
    | some bytes =>
      match PeerRole.ofCode (byteAt 209 bytes) with
      | none => none
      | some role =>
        let offer := RelayOffer.read bytes
        let envelope : WrappedPairSeed :=
          { recipientPeerId := word 193 128 bytes
            recipientRole := role
            wrapNonce := word 210 96 bytes
            ciphertext := word 222 256 bytes
            authTag := word 254 128 bytes }
        if ¬ offer.Valid ∨ envelope.recipientPeerId ≠ offer.peerId role then none
        else some (offer, envelope)

/-- `P2PSessionExporter`: derives a key from the relay session for a label and a
context, or fails. -/
abbrev Exporter := String → Bytes → Option Key

def wrapKey (crypto : Crypto) (exported : Key) (hash : OfferHash) (role : PeerRole) : Option Key :=
  if exported = 0 then none
  else some (crypto.kdf exported hash (labelBytes "openppp2 p2p v2 wrap key" ++ [role.code]) 256)

def unwrapPairSeed (crypto : Crypto) (key : Key) (hash : OfferHash) (peer : Id) (role : PeerRole)
    (envelope : WrappedPairSeed) : Option Key :=
  if key = 0 ∨ hash = 0 ∨ peer = 0 ∨ envelope.recipientPeerId ≠ peer ∨
      envelope.recipientRole ≠ role ∨ envelope.wrapNonce = 0 then none
  else
    match crypto.decrypt key envelope.wrapNonce (wordBytes hash ++ wordBytes peer)
      (wordBytes envelope.ciphertext) envelope.authTag with
    | none => none
    | some seed => if seed.length ≠ 32 then none else some (word 0 256 seed)

def openRecipient (crypto : Crypto) (encoded : Bytes) (session peer : Id) (exporter : Exporter) :
    Option (RelayOffer × PeerRole × Key) := do
  let (offer, envelope) ← parseRecipient encoded
  let role := envelope.recipientRole
  if peer ≠ envelope.recipientPeerId ∨ session ≠ offer.sessionId role then none
  let context ← offer.exporterContext crypto role
  let hash ← offer.hash crypto
  let exported ← exporter "EXPORTER-OPENPPP2-P2P-WRAP-v2" context
  let key ← wrapKey crypto exported hash role
  let seed ← unwrapPairSeed crypto key hash peer role envelope
  return (offer, role, seed)

def candidateSide (role : PeerRole) (session : Id) (revision : BitVec 64)
    (candidates : List Endpoint) : Option Bytes :=
  if ∃ candidate ∈ candidates,
      (candidate.addressFamily ≠ 4 ∧ candidate.addressFamily ≠ 6) ∨ ¬ candidate.Canonical then none
  else
    let sorted := (candidates.map Endpoint.encode).insertionSort fun left right =>
      ofBigEndian left ≤ ofBigEndian right
    if candidates.length = 2 ∧ sorted[0]? = sorted[1]? then none
    else
      some ([role.code] ++ wordBytes session ++ wordBytes revision ++
        [UInt8.ofNat candidates.length] ++ sorted.flatten)

/-- The bytes `HashP2PV2CandidateSet` digests. -/
def candidateSetBytes (initiatorSession responderSession : Id)
    (initiatorRevision responderRevision : BitVec 64)
    (initiatorCandidates responderCandidates : List Endpoint) : Option Bytes :=
  if initiatorSession = 0 ∨ responderSession = 0 ∨ initiatorSession = responderSession ∨
      initiatorRevision = 0 ∨ responderRevision = 0 ∨ initiatorCandidates = [] ∨
      responderCandidates = [] ∨ 2 < initiatorCandidates.length ∨
      2 < responderCandidates.length then none
  else do
    let first ← candidateSide .initiator initiatorSession initiatorRevision initiatorCandidates
    let second ← candidateSide .responder responderSession responderRevision responderCandidates
    return first ++ second

structure RecipientContext where
  localSessionId : Id
  localPeerId : Id
  localCandidateRevision : BitVec 64
  peerCandidateRevision : BitVec 64
  localCandidates : List Endpoint
  peerCandidates : List Endpoint
deriving DecidableEq, Repr

/-- `HashP2PV2CandidateSet` as `AcceptOffer` calls it: the sets of both sides,
the recipient's own first when it is the initiator. -/
def RecipientContext.candidateSetHash (crypto : Crypto) (context : RecipientContext)
    (offer : RelayOffer) (role : PeerRole) : Option OfferHash :=
  (candidateSetBytes offer.initiatorSessionId offer.responderSessionId
    offer.initiatorCandidateRevision offer.responderCandidateRevision
    (if role = .initiator then context.localCandidates else context.peerCandidates)
    (if role = .initiator then context.peerCandidates else context.localCandidates)).map
    crypto.digest

variable {offer : RelayOffer} {encoded : Bytes}

theorem parseRecipient_valid {envelope : WrappedPairSeed}
    (parsed : parseRecipient encoded = some (offer, envelope)) : offer.Valid := by
  rw [parseRecipient] at parsed
  split_ifs at parsed
  rcases decoded : decodeHex encoded with _ | bytes
  · simp [decoded] at parsed
  rcases known : PeerRole.ofCode (byteAt 209 bytes) with _ | role
  · simp [decoded, known] at parsed
  simp only [decoded, known] at parsed
  split_ifs at parsed with bad
  cases parsed
  exact not_not.1 (not_or.1 bad).1

theorem openRecipient_eq_some {crypto : Crypto} {session peer : Id}
    {exporter : Exporter} {role : PeerRole} {seed : Key}
    (opened : openRecipient crypto encoded session peer exporter = some (offer, role, seed)) :
    ∃ envelope, parseRecipient encoded = some (offer, envelope) ∧
      envelope.recipientRole = role := by
  rcases parsed : parseRecipient encoded with _ | ⟨read, envelope⟩
  · simp [openRecipient, parsed] at opened
  · refine ⟨envelope, ?_⟩
    simp only [openRecipient, parsed, bind_eq_bind, bind_some] at opened
    split_ifs at opened
    · simp at opened
    · simp only [pure_def, bind_eq_some_iff, some.injEq, Prod.mk.injEq] at opened
      obtain ⟨_, _, _, _, _, _, _, _, _, _, rfl, rfl, _⟩ := opened
      exact ⟨rfl, rfl⟩

open Lib.LengthPrefixed List

theorem wordBytes_injective {width : Nat} (whole : 8 * (width / 8) = width) :
    Function.Injective (wordBytes : BitVec width → Bytes) := by
  intro left right same
  rw [← word_wordBytes whole left, same, word_wordBytes whole]

theorem Endpoint.encode_injective : Function.Injective Endpoint.encode := by
  rintro ⟨family, address, port⟩ ⟨_, _, _⟩ same
  simp only [encode, singleton_append, cons.injEq] at same
  obtain ⟨rfl, same⟩ := same
  obtain ⟨addresses, ports⟩ := append_inj same (by simp)
  rw [wordBytes_injective rfl addresses, wordBytes_injective rfl ports]

def sortedCandidates (candidates : List Endpoint) : List Bytes :=
  (candidates.map Endpoint.encode).insertionSort fun left right =>
    ofBigEndian left ≤ ofBigEndian right

section Side

variable {candidates others : List Endpoint}

theorem sortedCandidates_perm (candidates : List Endpoint) :
    sortedCandidates candidates ~ candidates.map Endpoint.encode :=
  perm_insertionSort ..

theorem length_of_mem_sorted {bytes : Bytes} (member : bytes ∈ sortedCandidates candidates) :
    bytes.length = 19 := by
  obtain ⟨candidate, _, rfl⟩ := mem_map.1 ((sortedCandidates_perm candidates).mem_iff.1 member)
  exact Endpoint.length_encode candidate

theorem sortedCandidates_eq_iff :
    sortedCandidates candidates = sortedCandidates others ↔ candidates ~ others := by
  constructor
  · intro same
    have encodings := (sortedCandidates_perm candidates).symm.trans
      (same ▸ sortedCandidates_perm others)
    exact (map_perm_map_iff Endpoint.encode_injective).1 encodings
  · intro perm
    have encodings : sortedCandidates candidates ~ sortedCandidates others :=
      (sortedCandidates_perm candidates).trans
        ((perm.map Endpoint.encode).trans (sortedCandidates_perm others).symm)
    apply encodings.eq_of_pairwise _ (pairwise_insertionSort _ _) (pairwise_insertionSort _ _)
    intro left right here there below above
    exact ofBigEndian_injective ((length_of_mem_sorted here).trans (length_of_mem_sorted there).symm)
      (Nat.le_antisymm below above)

variable {role : PeerRole} {session otherSession : Id} {revision otherRevision : BitVec 64}
  {bytes otherBytes rest remains : Bytes}

theorem candidateSide_perm (perm : candidates ~ others) :
    candidateSide role session revision candidates = candidateSide role session revision others := by
  have sorted := sortedCandidates_eq_iff.2 perm
  simp only [sortedCandidates] at sorted
  simp only [candidateSide, perm.mem_iff, perm.length_eq, sorted]

theorem candidateSide_eq_some (side : candidateSide role session revision candidates = some bytes) :
    bytes = role.code :: (wordBytes session ++ (wordBytes revision ++
      (UInt8.ofNat candidates.length :: (sortedCandidates candidates).flatten))) := by
  obtain ⟨_, side⟩ := Option.ite_none_left_eq_some.1 side
  obtain ⟨_, ⟨⟩⟩ := Option.ite_none_left_eq_some.1 side
  simp [sortedCandidates]

theorem candidateSide_append_inj (few : candidates.length ≤ 2) (fewOthers : others.length ≤ 2)
    (side : candidateSide role session revision candidates = some bytes)
    (other : candidateSide role otherSession otherRevision others = some otherBytes)
    (same : bytes ++ rest = otherBytes ++ remains) :
    (session = otherSession ∧ revision = otherRevision ∧ candidates ~ others) ∧ rest = remains := by
  rw [candidateSide_eq_some side, candidateSide_eq_some other] at same
  simp only [cons_append, append_assoc, cons.injEq, true_and] at same
  obtain ⟨sessions, same⟩ := append_inj same (by simp)
  obtain ⟨revisions, same⟩ := append_inj same (by simp)
  obtain ⟨counts, same⟩ := cons.inj same
  have count : candidates.length = others.length := by
    have := congrArg UInt8.toNat counts
    simp only [UInt8.toNat_ofNat'] at this
    omega
  have lengths (candidates : List Endpoint) :
      (sortedCandidates candidates).map length = replicate candidates.length 19 := by
    rw [eq_replicate_iff]
    refine ⟨by rw [length_map, (sortedCandidates_perm candidates).length_eq, length_map], ?_⟩
    rintro _ member
    obtain ⟨bytes, stored, rfl⟩ := mem_map.1 member
    exact length_of_mem_sorted stored
  obtain ⟨sorted, tails⟩ := flatMap_append_inj id length id (fun _ _ => id) (fun _ _ _ => id)
    ((lengths candidates).trans (count ▸ (lengths others).symm)) (by simpa using same)
  exact ⟨⟨wordBytes_injective rfl sessions, wordBytes_injective rfl revisions,
    sortedCandidates_eq_iff.1 (by simpa using sorted)⟩, tails⟩

end Side

theorem candidateSet_commitment (si sr : Id) (ri rr : BitVec 64) (ci cr : List Endpoint) :
    (∀ ci' cr', ci ~ ci' → cr ~ cr' →
      candidateSetBytes si sr ri rr ci cr = candidateSetBytes si sr ri rr ci' cr') ∧
    ∀ si' sr' ri' rr' ci' cr' bytes, candidateSetBytes si sr ri rr ci cr = some bytes →
      candidateSetBytes si' sr' ri' rr' ci' cr' = some bytes →
      si = si' ∧ sr = sr' ∧ ri = ri' ∧ rr = rr' ∧ ci ~ ci' ∧ cr ~ cr' := by
  constructor
  · intro ci' cr' perm perm'
    have empty {list other : List Endpoint} (perm : list ~ other) : list = [] ↔ other = [] := by
      rw [← length_eq_zero_iff, perm.length_eq, length_eq_zero_iff]
    simp only [candidateSetBytes, candidateSide_perm perm, candidateSide_perm perm', perm.length_eq,
      perm'.length_eq, empty perm, empty perm']
  · intro si' sr' ri' rr' ci' cr' bytes here there
    obtain ⟨good, here⟩ := Option.ite_none_left_eq_some.1 here
    obtain ⟨good', there⟩ := Option.ite_none_left_eq_some.1 there
    simp only [Option.bind_eq_bind, Option.bind_eq_some_iff, Option.pure_def,
      Option.some.injEq] at here there
    obtain ⟨_, initiator, _, responder, rfl⟩ := here
    obtain ⟨_, initiator', _, responder', same⟩ := there
    simp only [not_or, not_lt] at good good'
    obtain ⟨_, _, _, _, _, _, _, few, few'⟩ := good
    obtain ⟨_, _, _, _, _, _, _, small, small'⟩ := good'
    obtain ⟨⟨rfl, rfl, perm⟩, rest⟩ :=
      candidateSide_append_inj few small initiator initiator' same.symm
    obtain ⟨⟨rfl, rfl, perm'⟩, -⟩ :=
      candidateSide_append_inj few' small' responder responder' (congrArg (· ++ []) rest)
    exact ⟨rfl, rfl, rfl, rfl, perm, perm'⟩

end OpenPpp2.P2P
