import OpenPpp2.P2P.Channel

/-!
# Runs of a channel

A node is a channel together with the history of what it did: offers installed, datagrams built and
opened, keys promoted.
-/

namespace OpenPpp2.P2P

open Lib.Run

/-- The public calls of `P2PV2Channel` that can change it. -/
inductive Call where
  | acceptOffer (encoded : Bytes) (context : RecipientContext) (exporter : Exporter)
      (now : Millis) (generation : BitVec 64)
  | createProbe (here peer : Endpoint) (now : Millis) (generation : BitVec 64)
  | handleControl (packet : Bytes) (sender : Endpoint) (now : Millis) (generation : BitVec 64)
  | sealData (data : Bytes) (now : Millis) (generation : BitVec 64)
  | openData (packet : Bytes) (sender : Endpoint) (now : Millis) (generation : BitVec 64)
  | handleNewEndpointData (packet : Bytes) (sender : Endpoint) (now : Millis)
      (generation : BitVec 64)
  | tick (now : Millis) (generation : BitVec 64)
  | requestRenewOf (generation : BitVec 64)
  | requestRenew
  | setRelayOnly (enabled : Bool)
  | reset (generation : BitVec 64)
  | configureLiveness (interval misses suspect migration : Int)
  | advanceTxSequence (next : Sequence)

def Call.offers : Call → Bool
  | .acceptOffer _ _ _ _ _ => true
  | _ => false

inductive Event where
  | installed (encoded : Bytes) (offer : RelayOffer) (hash : OfferHash) (role : PeerRole)
  /-- `OpenData` returned true for a datagram with this hash and sequence. -/
  | opened (hash : OfferHash) (sequence : Sequence)
  | built (datagram : Bytes)
  | promoted (hash : OfferHash) (role : PeerRole) (here peer : Endpoint)
deriving DecidableEq

structure Report where
  events : List Event := []
  crashed : Bool := false

def Slot.promotion (slot : Slot) : Event :=
  .promoted slot.hash slot.role slot.localCandidate slot.peerCandidate

namespace Channel

def controlReport (channel : Channel) : Reply ControlResult → Report
  | .crashed => { crashed := true }
  | .refused => {}
  | .accepted result =>
    { events := result.outbound.map (fun outbound => .built outbound.datagram) ++
        if result.event = .activated then channel.current.toList.map Slot.promotion else [] }

def call (crypto : Crypto) (channel : Channel) : Call → Channel × Report
  | .acceptOffer encoded context exporter now generation =>
    let (next, accepted) := channel.acceptOffer crypto encoded context exporter now generation
    -- the offer is installed when it was accepted and no slot was pending before
    (next, { events :=
      if accepted ∧ (channel.startGeneration generation).pending.isNone then
        next.pending.toList.map fun slot => .installed encoded slot.offer slot.hash slot.role
      else [] })
  | .createProbe here peer now generation =>
    let (next, probe) := channel.createProbe crypto here peer now generation
    (next, { events := probe.toList.map .built })
  | .handleControl packet sender now generation =>
    let (next, reply) := channel.handleControl crypto packet sender now generation
    (next, next.controlReport reply)
  | .sealData data now generation =>
    let (next, datagram) := channel.sealData crypto data now generation
    (next, { events := datagram.toList.map .built })
  | .openData packet sender now generation =>
    let (next, reply) := channel.openData crypto packet sender now generation
    match reply, DataHeader.parse packet with
    | .accepted _, some header =>
      (next, { events := .opened header.offerHash header.sequence ::
        -- a datagram under the pending key promotes it
        match channel.readable header.offerHash with
        | some (_, _, true) => next.current.toList.map Slot.promotion
        | _ => [] })
    | _, _ => (next, {})
  | .handleNewEndpointData packet sender now generation =>
    let (next, reply) := channel.handleNewEndpointData crypto packet sender now generation
    (next, next.controlReport reply)
  | .tick now generation =>
    -- datagrams that the report of `Tick` withholds have been built all the same
    ((channel.tick crypto now generation).1,
      { events :=
          if channel.generation ≠ generation then []
          else (channel.tickWork crypto now).2.outbound.map fun outbound =>
            .built outbound.datagram })
  | .requestRenewOf generation => (channel.requestRenewOf generation, {})
  | .requestRenew => (channel.requestRenew, {})
  | .setRelayOnly enabled => (channel.setRelayOnly enabled, {})
  | .reset generation => (channel.reset generation, {})
  | .configureLiveness interval misses suspect migration =>
    (channel.configureLiveness interval misses suspect migration, {})
  | .advanceTxSequence next => ((channel.advanceTxSequence next).1, {})

/-- A call that starts the channel afresh: a reset, or an offer of a new generation. -/
def startsEpoch (crypto : Crypto) (channel : Channel) : Call → Bool
  | .reset generation => ¬ generation < channel.generation
  | .acceptOffer encoded context exporter now generation =>
    (Slot.ofOffer crypto encoded context exporter now).isSome ∧ channel.generation < generation
  | _ => false

end Channel

structure Node where
  channel : Channel := {}
  epoch : List Event := []
  past : List (List Event) := []
  crashed : Bool := false

namespace Node

def step (crypto : Crypto) (node : Node) (call : Call) : Node :=
  if node.crashed then node
  else
    let (channel, report) := node.channel.call crypto call
    if report.crashed then { node with crashed := true }
    else if node.channel.startsEpoch crypto call then
      { node with channel := channel, epoch := report.events, past := node.epoch :: node.past }
    else
      { node with channel := channel, epoch := node.epoch ++ report.events }

def epochs (node : Node) : List (List Event) := node.epoch :: node.past

def events (node : Node) : List Event := node.past.reverse.flatten ++ node.epoch

end Node

def Event.datagram : Event → Option Bytes
  | .built datagram => some datagram
  | _ => none

def Node.datagrams (node : Node) : List Bytes := node.events.filterMap Event.datagram

structure System where
  initiator : Node := {}
  responder : Node := {}

namespace System

def node (system : System) : PeerRole → Node
  | .initiator => system.initiator
  | .responder => system.responder

def step (crypto : Crypto) (system : System) (taken : PeerRole × Call) : System :=
  match taken.1 with
  | .initiator => { system with initiator := system.initiator.step crypto taken.2 }
  | .responder => { system with responder := system.responder.step crypto taken.2 }

/-- A line of a script: the call of one side, given the datagram of the other side
at an index. -/
structure Cue where
  side : PeerRole
  index : Nat := 0
  call : Bytes → Call

def play (crypto : Crypto) : System → List Cue → List (PeerRole × Call)
  | _, [] => []
  | system, cue :: rest =>
    let taken := (cue.side, cue.call ((system.node cue.side.other).datagrams.getD cue.index []))
    taken :: play crypto (system.step crypto taken) rest

def callsOf (side : PeerRole) (taken : List (PeerRole × Call)) : List Call :=
  (taken.filter fun pair => pair.1 = side).map Prod.snd

end System

namespace Sample

def digest (bytes : Bytes) : OfferHash :=
  BitVec.ofNat 256 (bytes.foldl (fun value byte => value * 257 + byte.toNat + 1) 1)

def tag (key : Key) (nonce : Nonce) : BitVec 128 := key.setWidth 128 + nonce.setWidth 128

def crypto : Crypto where
  digest := digest
  hmac key bytes := (digest bytes <<< 128) ^^^ (key <<< 64)
  kdf key salt _ width := BitVec.ofNat width (key.toNat + salt.toNat + 1)
  encrypt key nonce _ payload := (payload, tag key nonce)
  decrypt key nonce _ ciphertext sent := if sent = tag key nonce then some ciphertext else none
  length_encrypt _ _ _ _ := rfl

def endpoint (host : Nat) : Endpoint :=
  { addressFamily := 4, address := BitVec.ofNat 128 (0xffff00000000 + host), port := 7 }

def here : Endpoint := endpoint 1

def there : Endpoint := endpoint 2

def elsewhere : Endpoint := endpoint 3

def initiatorContext : RecipientContext :=
  { localSessionId := 11, localPeerId := 21, localCandidateRevision := 1,
    peerCandidateRevision := 1, localCandidates := [here], peerCandidates := [there, elsewhere] }

def responderContext : RecipientContext :=
  { localSessionId := 12, localPeerId := 22, localCandidateRevision := 1,
    peerCandidateRevision := 1, localCandidates := [there, elsewhere], peerCandidates := [here] }

def offer (keyGeneration : BitVec 64) (previousOfferHash : OfferHash) : RelayOffer :=
  { offerId := 5
    initiatorSessionId := 11
    responderSessionId := 12
    initiatorPeerId := 21
    responderPeerId := 22
    connectionEpoch := 9
    keyGeneration := keyGeneration
    previousOfferHash := previousOfferHash
    initiatorCandidateRevision := 1
    responderCandidateRevision := 1
    candidateSetHash :=
      ((candidateSetBytes 11 12 1 1 [here] [there, elsewhere]).map digest).getD 0 }

def exporter : Exporter := fun _ _ => some 3

def encode (offer : RelayOffer) (role : PeerRole) : Bytes :=
  let key := (offer.hash crypto).bind fun hash => wrapKey crypto 3 hash role
  (encodeRecipient offer
    { recipientPeerId := offer.peerId role, recipientRole := role, wrapNonce := 1,
      ciphertext := 77, authTag := tag (key.getD 0) 1 }).getD []

def accept (side : PeerRole) (offer : RelayOffer) (now : Millis) : System.Cue :=
  { side := side
    call := fun _ =>
      .acceptOffer (encode offer side)
        (match side with | .initiator => initiatorContext | .responder => responderContext)
        exporter now 1 }

def receive (side : PeerRole) (index : Nat) (sender : Endpoint) (now : Millis) : System.Cue :=
  { side := side, index := index, call := fun datagram => .handleControl datagram sender now 1 }

def receiveData (side : PeerRole) (index : Nat) (sender : Endpoint) (now : Millis) : System.Cue :=
  { side := side, index := index, call := fun datagram => .openData datagram sender now 1 }

def act (side : PeerRole) (call : Call) : System.Cue := { side := side, call := fun _ => call }

def handshake : List System.Cue :=
  [accept .initiator (offer 1 0) 1, accept .responder (offer 1 0) 1,
    act .initiator (.createProbe here there 2 1), act .responder (.createProbe there here 2 1),
    receive .responder 0 here 3, receive .initiator 0 there 3,
    receive .initiator 1 there 4, receive .responder 1 here 4,
    receive .responder 2 here 5, receive .initiator 2 there 6]

end Sample

open Lib.ByteLayout

inductive Slot.Cached (slot : Slot) : Bytes → Prop
  | probe {sent : Transaction} (member : sent ∈ slot.tx) : Cached slot sent.requestBytes
  | probeAck {received : Transaction} (member : received ∈ slot.rx) : Cached slot received.ackBytes
  | commit (sent : slot.commitSent) : Cached slot slot.commitBytes
  | commitAck (answered : slot.commitAckBytes ≠ []) : Cached slot slot.commitAckBytes
  | migration (active : slot.migration.active) : Cached slot slot.migration.bytes
  | migrationAck (answered : slot.migrationAckBytes ≠ []) : Cached slot slot.migrationAckBytes

/-- The call hands the channel a control packet, and the slot it is addressed to
admits it. -/
def Heard (crypto : Crypto) (before : Channel) (call : Call) (place : Place) (slot : Slot)
    (packet : ControlPacket) : Prop :=
  ∃ bytes sender now, call = .handleControl bytes sender now before.generation ∧
    ControlPacket.parse bytes = some packet ∧
    before.addressed packet.offerHash = some (place, slot) ∧
    Channel.AdmitsControl crypto place slot packet sender now

/-- The call hands the channel a data datagram, and the pending slot opens it. -/
def Opens (crypto : Crypto) (before : Channel) (call : Call) (slot : Slot)
    (header : DataHeader) : Prop :=
  ∃ bytes sender now, call = .openData bytes sender now before.generation ∧
    DataHeader.parse bytes = some header ∧ before.pending = some slot ∧
    (slot.openData crypto bytes).isSome

/-- The call is a late probe acknowledgement: it is for the current slot of a
responder, whose nominated pair has meanwhile moved to one that was probed but
not acknowledged. `Handle` then runs `CommitAck` on the current slot. -/
def Channel.lateProbeAck (crypto : Crypto) (before : Channel) : Call → Bool
  | .handleControl bytes sender now generation =>
    match ControlPacket.parse bytes with
    | none => false
    | some packet =>
      match before.addressed packet.offerHash with
      | some (.current, slot) =>
        generation = before.generation ∧
          AdmitsControl crypto .current slot packet sender now ∧
          packet.type = .probeAck ∧ (slot.replay.replay packet.sequence).isSome ∧
          (slot.findTx packet.destination packet.source).any (fun sent =>
            sent.acked = false ∧ sent.hash = packet.probeTranscriptHash) ∧
          packet.destination ∈ slot.context.localCandidates ∧
          packet.source ∈ slot.context.peerCandidates ∧
          slot.role = .responder ∧ slot.nominated ∧
          packet.destination = slot.localCandidate ∧ packet.source = slot.peerCandidate
      | _ => false
  | _ => false

/-- A late probe acknowledgement on which `CommitAck` goes through: it promotes the pending slot. -/
def Channel.latePromotion (crypto : Crypto) (before : Channel) (call : Call) : Bool :=
  before.lateProbeAck crypto call ∧ before.pending.isSome ∧ before.current.any fun slot =>
    slot.commitReceived ∧ (slot.findRx slot.peerCandidate slot.localCandidate).any fun received =>
      received.ackBytes ≠ []

/-- The channel hears from its peer while the relay switch is on: it opens data for a suspect
current slot, or takes the answer to a migration challenge. -/
def Channel.relayRecovery (crypto : Crypto) (before : Channel) : Call → Bool
  | .openData packet sender now generation =>
    generation = before.generation ∧ before.relayOnly ∧ before.state = .suspect ∧
      (DataHeader.parse packet).any fun header =>
        before.current.any fun slot =>
          slot.hash = header.offerHash ∧ slot.migration.active = false ∧ slot.Alive now ∧
            sender = slot.peerCandidate ∧ (slot.openData crypto packet).isSome
  | .handleControl packet sender now generation =>
    generation = before.generation ∧ before.relayOnly ∧
      (ControlPacket.parse packet).any fun packet =>
        packet.type = .migrateAck ∧
          before.current.any fun slot =>
            slot.hash = packet.offerHash ∧
              AdmitsControl crypto .current slot packet sender now ∧
              (slot.replay.replay packet.sequence).isSome
  | _ => false

section Steps

variable (crypto : Crypto) (before : Channel) (call : Call)

/-- One step of a slot that stands at a place, with the events it causes; `alone`
says that no slot is pending, `closing` that a promotion follows. -/
inductive SlotStep (alone closing : Prop) : Place → Slot → List Event → Slot → Prop
  | stamp {place : Place} {slot : Slot} (previousMs lastRxMs lastHeartbeatMs lastRenewMs : Millis)
      (renewAttempts : BitVec 32) (renewRequested : Bool) :
      SlotStep alone closing place slot []
        { slot with
          previousMs := previousMs, lastRxMs := lastRxMs, lastHeartbeatMs := lastHeartbeatMs,
          lastRenewMs := lastRenewMs, renewAttempts := renewAttempts,
          renewRequested := renewRequested }
  | hear {place : Place} {slot : Slot} {sequence : Sequence} {window : ReplayWindow}
      (fresh : slot.replay.replay sequence = some window) :
      SlotStep alone closing place slot [] { slot with replay := window }
  | opened {place : Place} {slot : Slot} {sequence : Sequence} {window : ReplayWindow}
      (fresh : slot.replay.replay sequence = some window) :
      SlotStep alone closing place slot [.opened slot.hash sequence] { slot with replay := window }
  /-- A number is lost: the acknowledgement of a commit is longer than the commit. -/
  | lose {place : Place} {slot : Slot} (usable : slot.nextSequence ≠ maxSequence)
      (received : slot.commitReceived)
      (short : slot.commitBytes.length < ControlType.keyCommitAck.wireSize) :
      SlotStep alone closing place slot [] { slot with nextSequence := slot.nextSequence + 1 }
  /-- Numbers are skipped by `AdvanceTxSequenceForTesting`. -/
  | advance {slot : Slot} {next : Sequence} (forward : slot.nextSequence ≤ next) :
      SlotStep alone closing .current slot [] { slot with nextSequence := next }
  | resend {place : Place} {slot : Slot} {bytes : Bytes} (cached : slot.Cached bytes) :
      SlotStep alone closing place slot [.built bytes] slot
  | countProbe {slot : Slot} (here peer : Endpoint) :
      SlotStep alone closing .pending slot []
        { slot with
          tx := slot.changeTx here peer fun sent => { sent with sends := sent.sends + 1 } }
  | countCommit {slot : Slot} :
      SlotStep alone closing .pending slot [] { slot with commitSends := slot.commitSends + 1 }
  | countMigration {slot : Slot} :
      SlotStep alone closing .current slot []
        { slot with migration := { slot.migration with sends := slot.migration.sends + 1 } }
  | probe {slot : Slot} {here peer : Endpoint} {packet : ControlPacket} {bytes : Bytes}
      {hash : OfferHash} (now : Millis) (signs : slot.Signs .probe here peer packet bytes)
      (hashed : packet.hash crypto = some hash) (room : slot.tx.length ≠ maxTransactions) :
      SlotStep alone closing .pending slot [.built bytes]
        { slot with
          nextSequence := slot.nextSequence + 1
          tx := slot.tx ++ [{ request := packet, hash := hash, requestBytes := bytes,
                              firstMs := now, sends := 1 }] }
  | answerProbe {place : Place} {slot : Slot} {request packet : ControlPacket}
      {received reply : Bytes} {hash : OfferHash}
      (signs : slot.Signs .probeAck request.destination request.source packet reply)
      (room : slot.rx.length ≠ maxTransactions) :
      SlotStep alone closing place slot [.built reply]
        { slot with
          nextSequence := slot.nextSequence + 1
          rx := slot.rx ++ [{ request := request, hash := hash, requestBytes := received,
                              ackBytes := reply }] }
  | ackProbe {place : Place} {slot : Slot} (here peer : Endpoint) :
      SlotStep alone closing place slot []
        { slot with tx := slot.changeTx here peer fun sent => { sent with acked := true } }
  | commit {place : Place} {slot : Slot} {here peer : Endpoint} {packet : ControlPacket}
      {bytes : Bytes} {hash : OfferHash} (now : Millis) (initiator : slot.role = .initiator)
      (open_ : slot.nominated = false)
      (signs : slot.Signs .keyCommit here peer packet bytes) :
      SlotStep alone closing place slot [.built bytes]
        { slot with
          nominated := true
          localCandidate := here
          peerCandidate := peer
          nextSequence := slot.nextSequence + 1
          commit := packet
          commitHash := hash
          commitBytes := bytes
          commitSent := true
          commitStartedMs := now
          commitSends := 1 }
  /-- The initiator nominates a pair when it has no number left for the commit. -/
  | nominate {place : Place} {slot : Slot} (here peer : Endpoint)
      (initiator : slot.role = .initiator) (open_ : slot.nominated = false)
      (exhausted : slot.nextSequence = maxSequence) :
      SlotStep alone closing place slot []
        { slot with nominated := true, localCandidate := here, peerCandidate := peer }
  | receiveCommit {slot first : Slot} {packet : ControlPacket} {hash : OfferHash}
      {received : Transaction} {bytes : Bytes} (responder : slot.role = .responder)
      (new : slot.commitReceived = false)
      (heard : Heard crypto before call .pending first packet) (same : first.hash = slot.hash)
      (type : packet.type = .keyCommit) (length : bytes.length = ControlType.keyCommit.wireSize)
      (probed : slot.findRx packet.source packet.destination = some received) :
      SlotStep alone closing .pending slot []
        { slot with
          nominated := true
          localCandidate := packet.destination
          peerCandidate := packet.source
          commitReceived := true
          commit := packet
          commitHash := hash
          commitBytes := bytes }
  | ackCommit {place : Place} {slot : Slot} {packet : ControlPacket} {bytes : Bytes}
      (closes : place = .pending → closing)
      (received : slot.commitReceived) (ready : slot.Ready)
      (signs : slot.Signs .keyCommitAck slot.localCandidate slot.peerCandidate packet bytes) :
      SlotStep alone closing place slot [.built bytes]
        { slot with nextSequence := slot.nextSequence + 1, commitAckBytes := bytes }
  | challenge {slot : Slot} {sender : Endpoint} {packet : ControlPacket} {bytes : Bytes}
      (hash : OfferHash) (now deadline : Millis) (single : alone)
      (signs : slot.Signs .migrateChallenge slot.localCandidate sender packet bytes) :
      SlotStep alone closing .current slot [.built bytes]
        { slot with
          nextSequence := slot.nextSequence + 1
          migration := { active := true, peer := sender, challenge := packet, hash := hash,
                         bytes := bytes, startedMs := now, deadlineMs := deadline, sends := 1 }
          migrationAttempts := slot.migrationAttempts + 1 }
  | answerChallenge {slot : Slot} {here peer : Endpoint} {packet : ControlPacket}
      {bytes : Bytes} {hash : OfferHash}
      (signs : slot.Signs .migrateAck here peer packet bytes) :
      SlotStep alone closing .current slot [.built bytes]
        { slot with
          nextSequence := slot.nextSequence + 1
          migrationAckBytes := bytes
          receivedMigrationHash := hash
          receivedMigrations := slot.receivedMigrations + 1
          localCandidate := here }
  | migrate {slot : Slot} :
      SlotStep alone closing .current slot []
        { slot with peerCandidate := slot.migration.peer, migration := {} }
  | sealData {slot counted : Slot} {payload datagram : Bytes}
      (sealed : slot.sealData crypto payload = some (counted, datagram)) :
      SlotStep alone closing .current slot [.built datagram] counted

/-- Why the pending slot becomes the current one, other than by an answer of its own. -/
inductive Cause (slot : Slot) : Prop
  | late (late : before.latePromotion crypto call)
  | confirmed {first : Slot} {packet : ControlPacket} (initiator : slot.role = .initiator)
      (sent : slot.commitSent) (ready : slot.Ready)
      (heard : Heard crypto before call .pending first packet) (same : first.hash = slot.hash)
      (type : packet.type = .keyCommitAck)
  | data {first : Slot} {header : DataHeader} (initiator : slot.role = .initiator)
      (sent : slot.commitSent) (ready : slot.Ready)
      (opens : Opens crypto before call first header) (same : first.hash = slot.hash)

inductive FlagStep : Channel → Channel → Prop
  | needsRenew {channel : Channel} (value : Bool) :
      FlagStep channel { channel with needsRenew := value }
  | report {channel : Channel} :
      FlagStep channel
        { channel with activationEvent := false, fallbackEvent := false, cancelled := 0 }
  | suspect {channel : Channel} (present : channel.current.isSome) :
      FlagStep channel { channel with state := .suspect }
  | recover {channel : Channel} (present : channel.current.isSome)
      (relay : channel.relayOnly → before.relayRecovery crypto call) :
      FlagStep channel { channel with state := .direct }
  | rest {channel : Channel} (absent : channel.current = none) :
      FlagStep channel { channel with state := .relay }
  | relayOnly {channel : Channel} (enabled : Bool) : FlagStep channel (channel.setRelayOnly enabled)
  | liveness {channel : Channel} (interval misses suspect migration : Int) :
      FlagStep channel (channel.configureLiveness interval misses suspect migration)

inductive Move : Channel → List Event → Channel → Prop
  | slot {channel : Channel} {place : Place} {slot next : Slot} {events : List Event}
      (stands : channel.slotAt place = some slot)
      (step : SlotStep crypto before call (channel.pending = none) False place slot events next) :
      Move channel events (channel.put place next)
  | promote {channel : Channel} {slot : Slot} (now : Millis) (waits : channel.pending = some slot)
      (cause : Cause crypto before call slot) :
      Move channel [slot.promotion] (channel.promote slot now)
  /-- The responder acknowledges the commit of the pending slot and promotes it. -/
  | acknowledge {channel : Channel} {slot : Slot} {packet : ControlPacket} {bytes : Bytes}
      (now : Millis) (waits : channel.pending = some slot) (responder : slot.role = .responder)
      (received : slot.commitReceived) (ready : slot.Ready)
      (signs : slot.Signs .keyCommitAck slot.localCandidate slot.peerCandidate packet bytes) :
      Move channel [.built bytes, slot.promotion]
        (channel.promote
          { slot with nextSequence := slot.nextSequence + 1, commitAckBytes := bytes } now)
  | fallback {channel : Channel} : Move channel [] channel.fallback
  | cancel {channel : Channel} (settled : channel.current.isSome ∨ channel.state = .relay) :
      Move channel [] channel.cancelPending
  | forget {channel : Channel} : Move channel [] { channel with previous := none }
  | install {channel : Channel} {encoded : Bytes} {context : RecipientContext}
      {exporter : Exporter} {now : Millis} {generation : BitVec 64} {slot : Slot}
      (offered : call = .acceptOffer encoded context exporter now generation)
      (built : Slot.ofOffer crypto encoded context exporter now = some slot)
      (fresh : channel.highWater < slot.offer.keyGeneration) (empty : channel.pending = none)
      (settled : ∀ current ∈ channel.current, current.migration.active = false)
      (follows : slot.offer.previousOfferHash = channel.current.elim 0 Slot.hash) :
      Move channel [.installed encoded slot.offer slot.hash slot.role]
        { channel with
          highWater := slot.offer.keyGeneration
          pending := some slot
          state :=
            if channel.current.isNone ∧ channel.relayOnly = false then .probing
            else channel.state }
  | flags {channel next : Channel} (step : FlagStep crypto before call channel next) :
      Move channel [] next

inductive Moves : Channel → List Event → Channel → Prop
  | done {channel : Channel} : Moves channel [] channel
  | next {first middle last : Channel} {earlier later : List Event}
      (moves : Moves first earlier middle) (move : Move crypto before call middle later last) :
      Moves first (earlier ++ later) last

end Steps

section Composition

variable {crypto : Crypto} {before : Channel} {call : Call} {first last : Channel}

theorem Move.moves {events : List Event} (move : Move crypto before call first events last) :
    Moves crypto before call first events last := by
  simpa using Moves.next .done move

theorem Moves.append {first middle last : Channel} {earlier later : List Event}
    (moves : Moves crypto before call first earlier middle)
    (more : Moves crypto before call middle later last) :
    Moves crypto before call first (earlier ++ later) last := by
  induction more with
  | done => simpa using moves
  | next _ move ih =>
    rw [← List.append_assoc]
    exact ih.next move

theorem Moves.invariant {invariant : Channel → List Event → Prop}
    (kept : ∀ channel events later next, invariant channel events →
      Move crypto before call channel later next → invariant next (events ++ later))
    {events later : List Event}
    (moves : Moves crypto before call first later last) (holds : invariant first events) :
    invariant last (events ++ later) := by
  induction moves with
  | done => simpa using holds
  | next _ move ih =>
    rw [← List.append_assoc]
    exact kept _ _ _ _ ih move

end Composition

section Put

variable (channel : Channel) (place : Place) (slot next : Slot)

@[simp] theorem Channel.slotAt_put : (channel.put place slot).slotAt place = some slot := by
  cases place <;> rfl

@[simp] theorem Channel.put_put :
    (channel.put place slot).put place next = channel.put place next := by
  cases place <;> rfl

variable {channel place slot next}

theorem Channel.put_self (stands : channel.slotAt place = some slot) :
    channel.put place slot = channel := by
  cases place <;> (simp only [KeyChain.slotAt] at stands; simp only [put, ← stands])

theorem Channel.slotAt_put_eq_some {other : Place} {held : Slot}
    (stands : (channel.put place slot).slotAt other = some held) :
    (other = place ∧ held = slot) ∨ (other ≠ place ∧ channel.slotAt other = some held) := by
  cases place <;> cases other <;>
    first
    | exact .inl ⟨rfl, (Option.some.inj stands).symm⟩
    | exact .inr ⟨by decide, stands⟩

theorem Channel.pending_put {held : Slot} (waits : (channel.put place slot).pending = some held) :
    (.pending = place ∧ held = slot) ∨ (.pending ≠ place ∧ channel.pending = some held) := by
  exact slotAt_put_eq_some (show (channel.put place slot).slotAt .pending = _ from waits)

section

variable {crypto : Crypto} {before : Channel} {call : Call} {events : List Event}

theorem SlotStep.moves (channel : Channel)
    (step : SlotStep crypto before call ((channel.put place slot).pending = none) False place slot
      events next) :
    Moves crypto before call (channel.put place slot) events (channel.put place next) := by
  have move := Move.slot (channel.slotAt_put place slot) step
  rw [Channel.put_put] at move
  exact move.moves

theorem SlotStep.follow (place : Place) {last : Slot} {later : List Event}
    (stands : channel.slotAt place = some slot)
    (first : SlotStep crypto before call (channel.pending = none) False place slot events next)
    (second : SlotStep crypto before call ((channel.put place next).pending = none) False place next
      later last) : Moves crypto before call channel (events ++ later) (channel.put place last) :=
  (Move.slot stands first).moves.append (second.moves channel)

end

end Put

section Identity

variable {crypto : Crypto} {before : Channel} {call : Call} {alone closing : Prop} {place : Place}
  {slot next : Slot} {events : List Event}

theorem SlotStep.same (step : SlotStep crypto before call alone closing place slot events next) :
    next.offer = slot.offer ∧ next.hash = slot.hash ∧ next.role = slot.role := by
  cases step with
  | sealData sealed =>
    obtain ⟨_, rfl, _⟩ := Slot.sealData_eq_some sealed
    exact ⟨rfl, rfl, rfl⟩
  | _ => exact ⟨rfl, rfl, rfl⟩

theorem SlotStep.acknowledges {packet : ControlPacket} {bytes : Bytes}
    (received : slot.commitReceived) (ready : slot.Ready)
    (signs : slot.Signs .keyCommitAck slot.localCandidate slot.peerCandidate packet bytes) :
    SlotStep crypto before call alone True .pending slot [.built bytes]
      { slot with nextSequence := slot.nextSequence + 1, commitAckBytes := bytes } :=
  .ackCommit (fun _ => trivial) received ready signs

theorem SlotStep.migrates (step : SlotStep crypto before call alone closing place slot events next)
    (active : next.migration.active) : slot.migration.active ∨ alone := by
  cases step with
  | challenge hash now deadline single signs => exact .inr single
  | migrate => cases active
  | sealData sealed =>
    obtain ⟨_, rfl, _⟩ := Slot.sealData_eq_some sealed
    exact .inl active
  | _ => exact .inl active

theorem FlagStep.toKeyChain {channel changed : Channel}
    (step : FlagStep crypto before call channel changed) : changed.toKeyChain = channel.toKeyChain := by
  cases step <;> rfl

end Identity

end OpenPpp2.P2P
