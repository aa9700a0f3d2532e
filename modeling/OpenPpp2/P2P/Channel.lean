import OpenPpp2.P2P.Slot

/-!
# The channel

`P2PV2Channel`: at most three key slots (the current one, one being set up and the previous one,
still readable for a moment) and a few flags.
-/

namespace OpenPpp2.P2P

open Lib.ByteLayout

/-- `P2PState` -/
inductive PathState where
  | disabled
  | unavailable
  | relay
  | eligible
  | probing
  | direct
  | suspect
  | fallingBack
  | failed
deriving DecidableEq, Repr

inductive ControlEvent where
  | none
  | probeAck
  | reverseProbeNeeded
  | activated
  | migrated
  | fallback
deriving DecidableEq, Repr

structure Outbound where
  datagram : Bytes
  destination : Endpoint
deriving DecidableEq

structure ControlResult where
  event : ControlEvent := .none
  outbound : List Outbound := []
  localCandidate : Endpoint := {}
  peerCandidate : Endpoint := {}
  offerHash : OfferHash := 0
  cancelledOfferHash : OfferHash := 0
  probeSequence : Sequence := 0
deriving DecidableEq

def ControlResult.withDetails (result : ControlResult) (slot : Slot) : ControlResult :=
  { result with
    localCandidate := slot.localCandidate
    peerCandidate := slot.peerCandidate
    offerHash := slot.hash }

/-- How a call ends: it dereferences a null slot, returns false, or returns true. -/
inductive Reply (α : Type) where
  | crashed
  | refused
  | accepted (value : α)
deriving DecidableEq

/-- The slots of a channel and the highest key generation it has installed. -/
structure KeyChain where
  current : Option Slot := none
  pending : Option Slot := none
  previous : Option Slot := none
  highWater : BitVec 64 := 0
deriving DecidableEq

/-- `P2PV2Channel::Impl` -/
structure Channel extends KeyChain where
  generation : BitVec 64 := 0
  state : PathState := .relay
  cancelled : OfferHash := 0
  needsRenew : Bool := false
  fallbackEvent : Bool := false
  activationEvent : Bool := false
  relayOnly : Bool := false
  heartbeatMs : Millis := 1000
  suspectAfterMs : Millis := 2000
  failureAfterMs : Millis := 4000
  migrationGraceMs : Millis := 5000
deriving DecidableEq

inductive Place where
  | pending
  | current
  | previous
deriving DecidableEq, Repr

def KeyChain.slotAt (chain : KeyChain) : Place → Option Slot
  | .pending => chain.pending
  | .current => chain.current
  | .previous => chain.previous

def minMs (left right : Millis) : Millis :=
  if right < left then right else left

def Slot.withoutRenewal (slot : Slot) : Slot :=
  { slot with renewRequested := false, renewAttempts := 0 }

namespace Channel

instance : Inhabited Channel := ⟨{}⟩

def put (channel : Channel) (place : Place) (slot : Slot) : Channel :=
  match place with
  | .pending => { channel with pending := some slot }
  | .current => { channel with current := some slot }
  | .previous => { channel with previous := some slot }

def clear (channel : Channel) : Channel :=
  { channel with
    current := none
    pending := none
    previous := none
    state := .relay
    needsRenew := false
    activationEvent := false }

def fallback (channel : Channel) : Channel := { channel.clear with fallbackEvent := true }

def cancelPending (channel : Channel) : Channel :=
  { channel with
    cancelled := channel.pending.elim channel.cancelled Slot.hash
    pending := none
    needsRenew := channel.current.isSome
    current := channel.current.map Slot.withoutRenewal }

/-- `Promote`, given the pending slot that becomes the current one. -/
def promote (channel : Channel) (next : Slot) (now : Millis) : Channel :=
  { channel with
    previous := channel.current.map fun slot =>
      { slot with
        previousMs := minMs slot.keyMs (now + next.offer.previousReceiveGraceMs.setWidth 64) }
    current := some { next with lastRxMs := now, lastHeartbeatMs := 0 }
    pending := none
    state := if channel.relayOnly then .relay else .direct
    activationEvent := true
    needsRenew := false }

def addressed (channel : Channel) (hash : OfferHash) : Option (Place × Slot) :=
  match channel.pending.filter fun slot => slot.hash = hash with
  | some slot => some (.pending, slot)
  | none =>
    (channel.current.filter fun slot => slot.hash = hash).map fun slot => (.current, slot)

section Handlers

variable (crypto : Crypto) (channel : Channel) (place : Place) (slot : Slot)

/-- `CommitAck`, for a slot that stands at `place`. -/
def commitAck (now : Millis) (result : ControlResult) : Channel × Reply ControlResult :=
  if ¬ (slot.commitReceived ∧ slot.Ready ∧ slot.Setup now) then
    (channel.put place slot, .refused)
  else
    match slot.makeControl .keyCommitAck slot.localCandidate slot.peerCandidate with
    | none => (channel.put place slot, .refused)
    | some ack =>
      -- `Ready` has found the probe
      let probe := slot.findTx slot.localCandidate slot.peerCandidate
      let ack :=
        { ack with
          commitTranscriptHash := slot.commitHash
          probeTranscriptHash := probe.elim 0 Transaction.hash }
      match slot.finishControl crypto ack none with
      | none => (channel.put place slot, .refused)
      | some (counted, _, bytes) =>
        if slot.commitBytes.length < bytes.length then (channel.put place counted, .refused)
        else
          let acknowledged := { counted with commitAckBytes := bytes }
          match (channel.put place acknowledged).pending with
          -- `Promote` dereferences the pending slot
          | none => (channel.put place acknowledged, .crashed)
          | some next =>
            let result : ControlResult :=
              { result with
                outbound := result.outbound ++ [⟨bytes, slot.peerCandidate⟩]
                event := .activated }
            ((channel.put place acknowledged).promote next now, .accepted (result.withDetails next))

/-- A probe: a cached answer for an exact duplicate, a new one otherwise. -/
def handleProbe (packet : ControlPacket) (hash : OfferHash) (bytes : Bytes) :
    Channel × Reply ControlResult :=
  if packet.source ∉ slot.context.peerCandidates ∨
      packet.destination ∉ slot.context.localCandidates then (channel, .refused)
  else
    match slot.findRx packet.source packet.destination with
    | some cached =>
      if cached.hash ≠ hash then (channel, .refused)
      else (channel, .accepted { outbound := [⟨cached.ackBytes, packet.source⟩] })
    | none =>
      match slot.replay.replay packet.sequence with
      | none => (channel, .refused)
      | some replay =>
        if slot.rx.length = maxTransactions then (channel, .refused)
        else
          match slot.makeControl .probeAck packet.destination packet.source with
          | none => (channel, .refused)
          | some ack =>
            match slot.finishControl crypto { ack with probeTranscriptHash := hash } none with
            | none => (channel, .refused)
            | some (counted, _, reply) =>
              if bytes.length < reply.length then (channel.put place counted, .refused)
              else
                let received : Transaction :=
                  { request := packet, hash := hash, requestBytes := bytes, ackBytes := reply }
                (channel.put place
                  { counted with rx := counted.rx ++ [received], replay := replay },
                  .accepted { outbound := [⟨reply, packet.source⟩] })

def sendCommit (sent : Transaction) (now : Millis) (result : ControlResult) :
    Channel × Reply ControlResult :=
  match slot.makeControl .keyCommit slot.localCandidate slot.peerCandidate with
  | none => (channel.put place slot, .refused)
  | some commit =>
    let commit :=
      { commit with
        previousOfferHash := slot.offer.previousOfferHash
        probeTranscriptHash := sent.hash }
    match slot.finishControl crypto commit none with
    | none => (channel.put place slot, .refused)
    | some (counted, signed, bytes) =>
      match signed.hash crypto with
      | none => (channel.put place counted, .refused)
      | some commitHash =>
        (channel.put place
          { counted with
            commit := signed
            commitHash := commitHash
            commitBytes := bytes
            commitSent := true
            commitStartedMs := now
            commitSends := 1 },
          .accepted
            { result with
              outbound := result.outbound ++ [⟨bytes, slot.peerCandidate⟩] })

def handleProbeAck (packet : ControlPacket) (now : Millis) : Channel × Reply ControlResult :=
  match slot.replay.replay packet.sequence with
  | none => (channel, .refused)
  | some replay =>
    match slot.findTx packet.destination packet.source with
    | none => (channel, .refused)
    | some sent =>
      if sent.acked ∨ sent.hash ≠ packet.probeTranscriptHash ∨
          packet.destination ∉ slot.context.localCandidates ∨
          packet.source ∉ slot.context.peerCandidates then (channel, .refused)
      else
        let acked :=
          { slot with
            tx := slot.changeTx packet.destination packet.source fun transaction =>
              { transaction with acked := true }
            replay := replay }
        let result : ControlResult :=
          { event := .probeAck
            localCandidate := packet.destination
            peerCandidate := packet.source
            probeSequence := sent.request.sequence
            offerHash := slot.hash }
        if slot.role = .initiator ∧ slot.nominated = false then
          sendCommit crypto channel place
            { acked with
              nominated := true
              localCandidate := packet.destination
              peerCandidate := packet.source }
            sent now result
        else if slot.role = .responder ∧ slot.nominated ∧
            packet.destination = slot.localCandidate ∧
            packet.source = slot.peerCandidate then
          commitAck crypto channel place acked now result
        else
          (channel.put place acked, .accepted result)

def handleKeyCommit (packet : ControlPacket) (hash : OfferHash) (bytes : Bytes) (now : Millis) :
    Channel × Reply ControlResult :=
  if slot.commitReceived then
    if slot.commitHash ≠ hash then (channel, .refused)
    else if slot.commitAckBytes ≠ [] then
      (channel, .accepted { outbound := [⟨slot.commitAckBytes, packet.source⟩] })
    else (channel, .accepted {})
  else
    match slot.replay.replay packet.sequence with
    | none => (channel, .refused)
    | some replay =>
      if place ≠ .pending ∨ slot.role ≠ .responder ∨
          packet.previousOfferHash ≠ slot.offer.previousOfferHash ∨
          packet.source ∉ slot.context.peerCandidates ∨
          packet.destination ∉ slot.context.localCandidates then (channel, .refused)
      else
        match slot.findRx packet.source packet.destination with
        | none => (channel, .refused)
        | some received =>
          if received.hash ≠ packet.probeTranscriptHash then (channel, .refused)
          else
            let committed :=
              { slot with
                nominated := true
                localCandidate := packet.destination
                peerCandidate := packet.source
                commitReceived := true
                commit := packet
                commitHash := hash
                commitBytes := bytes
                replay := replay }
            let result := ({} : ControlResult).withDetails committed
            if committed.Ready then commitAck crypto channel place committed now result
            else
              (channel.put place committed, .accepted { result with event := .reverseProbeNeeded })

def handleKeyCommitAck (packet : ControlPacket) (now : Millis) : Channel × Reply ControlResult :=
  match slot.replay.replay packet.sequence with
  | none => (channel, .refused)
  | some replay =>
    if place ≠ .pending ∨ slot.role ≠ .initiator ∨ slot.commitSent = false ∨ ¬ slot.Ready ∨
        packet.source ≠ slot.peerCandidate ∨ packet.destination ≠ slot.localCandidate ∨
        packet.commitTranscriptHash ≠ slot.commitHash then (channel, .refused)
    else
      match slot.findRx slot.peerCandidate slot.localCandidate with
      | none => (channel, .refused)
      | some received =>
        if received.hash ≠ packet.probeTranscriptHash then (channel, .refused)
        else
          let next := { slot with replay := replay }
          (channel.promote next now,
            .accepted (({ event := .activated } : ControlResult).withDetails next))

def handleMigrateChallenge (packet : ControlPacket) (hash : OfferHash) (bytes : Bytes)
    (now : Millis) : Channel × Reply ControlResult :=
  if slot.migrationAckBytes ≠ [] ∧ slot.receivedMigrationHash = hash then
    (channel, .accepted { outbound := [⟨slot.migrationAckBytes, packet.source⟩] })
  else
    match slot.replay.replay packet.sequence with
    | none => (channel, .refused)
    | some replay =>
      if place ≠ .current ∨ packet.source ≠ slot.peerCandidate ∨
          2 ≤ slot.receivedMigrations ∨ slot.migration.active then (channel, .refused)
      else if ∃ next ∈ channel.pending, next.commitSent ∨ next.commitReceived then
        (channel.fallback, .accepted { event := .fallback })
      else
        match slot.makeControl .migrateAck packet.destination packet.source with
        | none => (channel, .refused)
        | some ack =>
          match slot.finishControl crypto ack (some hash) with
          | none => (channel, .refused)
          | some (counted, _, reply) =>
            if bytes.length < reply.length then (channel.put place counted, .refused)
            else
              let cancelled :=
                if channel.pending.isSome then (channel.put place counted).cancelPending
                else channel.put place counted
              let counted :=
                if channel.pending.isSome then counted.withoutRenewal else counted
              let moved :=
                { counted with
                  migrationAckBytes := reply
                  receivedMigrationHash := hash
                  receivedMigrations := counted.receivedMigrations + 1
                  localCandidate := packet.destination
                  replay := replay
                  lastRxMs := now }
              ({ cancelled.put place moved with needsRenew := true },
                .accepted
                  (({ event := .migrated
                      outbound := [⟨reply, packet.source⟩]
                      cancelledOfferHash :=
                        if channel.pending.isSome then cancelled.cancelled else 0 } :
                    ControlResult).withDetails moved))

def handleMigrateAck (packet : ControlPacket) (now : Millis) : Channel × Reply ControlResult :=
  match slot.replay.replay packet.sequence with
  | none => (channel, .refused)
  | some replay =>
    let moved :=
      { slot with
        peerCandidate := slot.migration.peer
        migration := {}
        replay := replay
        lastRxMs := now }
    ({ channel.put place moved with state := .direct, needsRenew := true },
      .accepted (({ event := .migrated } : ControlResult).withDetails moved))

def AdmitsControl (packet : ControlPacket) (sender : Endpoint) (now : Millis) : Prop :=
  slot.Alive now ∧
    (packet.type = .migrateChallenge ∨ packet.type = .migrateAck ∨ slot.Setup now) ∧
    (packet.type = .migrateAck →
      place = .current ∧ slot.migration.active ∧ now < slot.migration.deadlineMs ∧
        sender = slot.migration.peer ∧ packet.destination = slot.localCandidate) ∧
    slot.Authenticates crypto packet sender
      (if packet.type = .migrateAck then some slot.migration.hash else none)

instance (packet : ControlPacket) (sender : Endpoint) (now : Millis) :
    Decidable (AdmitsControl crypto place slot packet sender now) :=
  inferInstanceAs (Decidable (_ ∧ _))

/-- The part of `Handle` that depends on the type of the packet. -/
def dispatch (packet : ControlPacket) (hash : OfferHash) (bytes : Bytes) (now : Millis) :
    Channel × Reply ControlResult :=
  match packet.type with
  | .probe => handleProbe crypto channel place slot packet hash bytes
  | .probeAck => handleProbeAck crypto channel place slot packet now
  | .keyCommit => handleKeyCommit crypto channel place slot packet hash bytes now
  | .keyCommitAck => handleKeyCommitAck channel place slot packet now
  | .migrateChallenge => handleMigrateChallenge crypto channel place slot packet hash bytes now
  | .migrateAck => handleMigrateAck channel place slot packet now

end Handlers

def handle (crypto : Crypto) (channel : Channel) (bytes : Bytes) (sender : Endpoint)
    (now : Millis) : Channel × Reply ControlResult :=
  match ControlPacket.parse bytes with
  | none => (channel, .refused)
  | some packet =>
    match channel.addressed packet.offerHash with
    | none => (channel, .refused)
    | some (place, slot) =>
      if ¬ AdmitsControl crypto place slot packet sender now then (channel, .refused)
      else
        match packet.hash crypto with
        | none => (channel, .refused)
        | some hash => dispatch crypto channel place slot packet hash bytes now

section Calls

variable (crypto : Crypto) (channel : Channel)

def startGeneration (generation : BitVec 64) : Channel :=
  if channel.generation < generation then
    { channel.clear with
      highWater := 0, generation := generation, cancelled := 0, fallbackEvent := false }
  else channel

def acceptOffer (encoded : Bytes) (context : RecipientContext) (exporter : Exporter)
    (now : Millis) (generation : BitVec 64) : Channel × Bool :=
  match Slot.ofOffer crypto encoded context exporter now with
  | none => (channel, false)
  | some slot =>
    if generation < channel.generation then (channel, false)
    else
      let started := channel.startGeneration generation
      if ∃ pending ∈ started.pending, pending.hash = slot.hash then (started, true)
      else if slot.offer.keyGeneration ≤ started.highWater ∨ started.pending.isSome ∨
          (∃ current ∈ started.current, ¬ current.Alive now ∨ current.migration.active) ∨
          slot.offer.previousOfferHash ≠ started.current.elim 0 Slot.hash then (started, false)
      else
        ({ started with
            highWater := slot.offer.keyGeneration
            pending := some slot
            state :=
              if started.current.isNone ∧ started.relayOnly = false then .probing
              else started.state },
          true)

def createProbe (here peer : Endpoint) (now : Millis) (generation : BitVec 64) :
    Channel × Option Bytes :=
  match channel.pending with
  | none => (channel, none)
  | some slot =>
    if channel.generation ≠ generation ∨ ¬ slot.Setup now ∨ 4000 ≤ now - slot.receivedMs ∨
        here ∉ slot.context.localCandidates ∨ peer ∉ slot.context.peerCandidates ∨
        (slot.nominated ∧
          (slot.localCandidate ≠ here ∨ slot.peerCandidate ≠ peer)) then (channel, none)
    else
      match slot.findTx here peer with
      | some cached =>
        if cached.acked ∨ 2 ≤ cached.sends ∨ now - cached.firstMs < retryMs then
          (channel, none)
        else
          (channel.put .pending
            { slot with
              tx := slot.changeTx here peer fun transaction =>
                { transaction with sends := transaction.sends + 1 } },
            some cached.requestBytes)
      | none =>
        if slot.tx.length = maxTransactions then (channel, none)
        else
          match slot.makeControl .probe here peer with
          | none => (channel, none)
          | some packet =>
            match slot.finishControl crypto packet none with
            | none => (channel, none)
            | some (counted, signed, bytes) =>
              match signed.hash crypto with
              | none => (channel.put .pending counted, none)
              | some hash =>
                let sent : Transaction :=
                  { request := signed, hash := hash, requestBytes := bytes,
                    firstMs := now, sends := 1 }
                (channel.put .pending { counted with tx := counted.tx ++ [sent] }, some bytes)

def handleControl (packet : Bytes) (sender : Endpoint) (now : Millis) (generation : BitVec 64) :
    Channel × Reply ControlResult :=
  if channel.generation ≠ generation then (channel, .refused)
  else handle crypto channel packet sender now

def sealData (data : Bytes) (now : Millis) (generation : BitVec 64) : Channel × Option Bytes :=
  match channel.current with
  | none => (channel, none)
  | some slot =>
    if channel.generation ≠ generation ∨ channel.state ≠ .direct ∨ channel.relayOnly then
      (channel, none)
    else if ¬ slot.Alive now ∨ slot.nextSequence = maxSequence then (channel.fallback, none)
    else
      match slot.sealData crypto data with
      | none => (channel, none)
      | some (counted, datagram) => (channel.put .current counted, some datagram)

def readable (hash : OfferHash) : Option (Slot × Bool × Bool) :=
  match channel.current.filter fun slot => slot.hash = hash with
  | some slot => some (slot, false, false)
  | none =>
    match channel.previous.filter fun slot => slot.hash = hash with
    | some slot => some (slot, true, false)
    | none =>
      (channel.pending.filter fun slot => slot.hash = hash).map fun slot =>
        (slot, false, true)

def openData (packet : Bytes) (sender : Endpoint) (now : Millis) (generation : BitVec 64) :
    Channel × Reply Bytes :=
  if channel.generation ≠ generation then (channel, .refused)
  else
    match DataHeader.parse packet with
    | none => (channel, .refused)
    | some header =>
      match channel.readable header.offerHash with
      | none => (channel, .refused)
      | some (slot, previous, promote) =>
        if promote ∧ ¬ (slot.Setup now ∧ slot.role = .initiator ∧
            slot.commitSent ∧ slot.Ready) then (channel, .refused)
        else if ¬ slot.Alive now ∨ sender ≠ slot.peerCandidate ∨
            (previous ∧ slot.previousMs ≤ now) then (channel, .refused)
        else
          match slot.openData crypto packet with
          | none => (channel, .refused)
          | some (plaintext, replay) =>
            if previous then
              (channel.put .previous { slot with replay := replay }, .accepted plaintext)
            else
              let heard := { slot with replay := replay, lastRxMs := now }
              if promote then (channel.promote heard now, .accepted plaintext)
              else
                ({ channel.put .current heard with
                    state :=
                      if channel.state = .suspect ∧ slot.migration.active = false then
                        .direct
                      else channel.state },
                  .accepted plaintext)

def handleNewEndpointData (packet : Bytes) (sender : Endpoint) (now : Millis)
    (generation : BitVec 64) : Channel × Reply ControlResult :=
  match channel.current with
  | none => (channel, .refused)
  | some slot =>
    if channel.generation ≠ generation ∨ ¬ slot.Alive now ∨ ¬ sender.Canonical then
      (channel, .refused)
    else if sender = slot.peerCandidate ∨ slot.migration.active ∨
        2 ≤ slot.migrationAttempts then (channel, .refused)
    else
      match slot.openData crypto packet with
      | none => (channel, .refused)
      | some _ =>
        if ∃ next ∈ channel.pending, next.commitSent ∨ next.commitReceived then
          (channel.fallback, .accepted { event := .fallback })
        else
          match slot.makeControl .migrateChallenge slot.localCandidate sender with
          | none => (channel, .refused)
          | some challenge =>
            match slot.finishControl crypto challenge none with
            | none => (channel, .refused)
            | some (counted, signed, bytes) =>
              match signed.hash crypto with
              | none => (channel.put .current counted, .refused)
              | some hash =>
                let migration : Migration :=
                  { active := true
                    peer := sender
                    challenge := signed
                    hash := hash
                    bytes := bytes
                    startedMs := now
                    deadlineMs := minMs slot.keyMs (now + channel.migrationGraceMs)
                    sends := 1 }
                let cancelled :=
                  if channel.pending.isSome then
                    (channel.put .current counted).cancelPending
                  else channel.put .current counted
                let counted :=
                  if channel.pending.isSome then counted.withoutRenewal else counted
                let moving :=
                  { counted with
                    migration := migration
                    migrationAttempts := counted.migrationAttempts + 1 }
                ({ cancelled.put .current moving with state := .suspect },
                  .accepted
                    (({ outbound := [⟨bytes, sender⟩]
                        cancelledOfferHash :=
                          if channel.pending.isSome then cancelled.cancelled else 0 } :
                      ControlResult).withDetails moving))

structure TickResult where
  outbound : List Outbound := []
  renew : Bool := false
  activated : Bool := false
  fallback : Bool := false
  currentOfferHash : OfferHash := 0
  cancelledOfferHash : OfferHash := 0
deriving DecidableEq

def expirePrevious (now : Millis) : Channel :=
  { channel with
    previous := channel.previous.filter fun slot => slot.Alive now ∧ now < slot.previousMs }

def expireCurrent (now : Millis) : Channel :=
  if ∃ slot ∈ channel.current, ¬ slot.Alive now ∨ slot.nextSequence = maxSequence then
    channel.fallback
  else channel

/-- A set-up that takes too long is cancelled, or ends everything once a commit
is under way or there is nothing to keep. -/
def expirePending (now : Millis) : Channel :=
  match channel.pending with
  | none => channel
  | some slot =>
    if slot.Setup now then channel
    else if slot.commitSent ∨ slot.commitReceived ∨ channel.current.isNone then
      channel.fallback
    else channel.cancelPending

def retryCommit (now : Millis) : Channel × List Outbound :=
  match channel.pending with
  | none => (channel, [])
  | some slot =>
    if slot.commitSent ∧ slot.commitSends < 2 ∧ retryMs ≤ now - slot.commitStartedMs then
      (channel.put .pending { slot with commitSends := slot.commitSends + 1 },
        [⟨slot.commitBytes, slot.peerCandidate⟩])
    else (channel, [])

def failCurrent (now : Millis) : Channel :=
  if ∃ slot ∈ channel.current,
      (slot.migration.active ∧ slot.migration.deadlineMs ≤ now) ∨
        (slot.lastRxMs ≤ now ∧ channel.failureAfterMs ≤ now - slot.lastRxMs) then
    channel.fallback
  else channel

def suspectCurrent (now : Millis) : Channel :=
  if ∃ slot ∈ channel.current, slot.migration.active = false ∧ slot.lastRxMs ≤ now ∧
      channel.suspectAfterMs ≤ now - slot.lastRxMs then
    { channel with state := .suspect }
  else channel

def retryMigration (now : Millis) : Channel × List Outbound :=
  match channel.current with
  | none => (channel, [])
  | some slot =>
    if slot.migration.active ∧ slot.migration.sends < 2 ∧
        retryMs ≤ now - slot.migration.startedMs then
      (channel.put .current
        { slot with migration := { slot.migration with sends := slot.migration.sends + 1 } },
        [⟨slot.migration.bytes, slot.migration.peer⟩])
    else (channel, [])

def heartbeat (now : Millis) : Channel × List Outbound :=
  match channel.current with
  | none => (channel, [])
  | some slot =>
    if slot.lastHeartbeatMs = 0 ∨ (slot.lastHeartbeatMs ≤ now ∧
        channel.heartbeatMs ≤ now - slot.lastHeartbeatMs) then
      match slot.sealData crypto [0] with
      | none => (channel.fallback, [])
      | some (counted, datagram) =>
        (channel.put .current { counted with lastHeartbeatMs := now },
          [⟨datagram, slot.peerCandidate⟩])
    else (channel, [])

/-- `retry_delays`; the index is an unsigned difference. -/
def retryDelay (attempts : BitVec 32) : Millis :=
  ([1000, 2000, 4000, 8000, 10000] : List Millis).getD (min (attempts - 1).toNat 4) 0

def renewCurrent (now : Millis) : Channel × Bool :=
  match channel.current with
  | none => (channel, false)
  | some slot =>
    if channel.pending.isNone ∧ slot.migration.active = false ∧
        (slot.refreshMs ≤ now ∨ refreshSequence ≤ slot.nextSequence ∨
          channel.needsRenew ∨ slot.renewRequested) ∧
        (slot.renewRequested = false ∨ (slot.lastRenewMs ≤ now ∧
          retryDelay slot.renewAttempts ≤ now - slot.lastRenewMs)) then
      ({ channel.put .current
          { slot with
            renewRequested := true
            lastRenewMs := now
            renewAttempts :=
              if slot.renewAttempts + 1 ≤ 5 then slot.renewAttempts + 1 else 5 } with
          needsRenew := false },
        true)
    else (channel, false)

/-- `Tick` up to its report: the channel, the datagrams built on the way and the
rest of the result. -/
def tickWork (now : Millis) : Channel × TickResult :=
  let expired := ((channel.expirePrevious now).expireCurrent now).expirePending now
  let (committed, commits) := expired.retryCommit now
  let (migrated, migrations) := ((committed.failCurrent now).suspectCurrent now).retryMigration now
  let (beaten, heartbeats) := migrated.heartbeat crypto now
  let (renewed, renew) := beaten.renewCurrent now
  (renewed,
    { outbound := commits ++ migrations ++ heartbeats
      renew := renew
      currentOfferHash := committed.current.elim 0 Slot.hash })

def tick (now : Millis) (generation : BitVec 64) : Channel × TickResult :=
  if channel.generation ≠ generation then (channel, {})
  else
    let (worked, result) := channel.tickWork crypto now
    ({ worked with activationEvent := false, fallbackEvent := false, cancelled := 0 },
      { result with
        activated := worked.activationEvent
        fallback := worked.fallbackEvent
        cancelledOfferHash := worked.cancelled
        outbound := if worked.fallbackEvent then [] else result.outbound
        renew := if worked.fallbackEvent then false else result.renew })

def requestRenewOf (generation : BitVec 64) : Channel :=
  if channel.generation ≠ generation then channel
  else
    { channel with
      cancelled := channel.pending.elim channel.cancelled Slot.hash
      pending := none
      current := channel.current.map Slot.withoutRenewal
      needsRenew := true
      state := if channel.current.isNone then .relay else channel.state }

def requestRenew : Channel :=
  { channel with needsRenew := true, current := channel.current.map Slot.withoutRenewal }

/-- `Reset`; within one generation it is a fresh registration boundary too. -/
def reset (generation : BitVec 64) : Channel :=
  if generation < channel.generation then channel
  else
    { channel.clear with
      fallbackEvent := false, cancelled := 0, highWater := 0, generation := generation }

def setRelayOnly (enabled : Bool) : Channel :=
  { channel with
    relayOnly := enabled
    state :=
      if enabled then .relay
      else if channel.current.isNone ∧ channel.pending.isSome then .probing
      else channel.state }

def clampMs (value low high : Int) : Millis := BitVec.ofInt 64 (max low (min value high))

def configureLiveness (interval misses suspect migration : Int) : Channel :=
  let heartbeat := clampMs interval 500 5000
  let suspectAfter := heartbeat * clampMs misses 1 10
  { channel with
    heartbeatMs := heartbeat
    suspectAfterMs := suspectAfter
    failureAfterMs := suspectAfter + clampMs suspect 500 10000
    migrationGraceMs := clampMs migration 1 5000 }

def advanceTxSequence (next : Sequence) : Channel × Bool :=
  match channel.current with
  | none => (channel, false)
  | some slot =>
    if next < slot.nextSequence then (channel, false)
    else (channel.put .current { slot with nextSequence := next }, true)

structure Snapshot where
  state : PathState
  effectivePath : String
  hasCurrent : Bool
  hasPending : Bool
  hasPrevious : Bool
  pendingReady : Bool
  commitStarted : Bool
  migrationPending : Bool
  localRole : PeerRole
  peerUuid : Id
  currentOfferHash : OfferHash
  pendingOfferHash : OfferHash
  previousOfferHash : OfferHash
  localCandidate : Endpoint
  peerCandidate : Endpoint
  generation : BitVec 64
  keyGeneration : BitVec 64
  keyDeadlineMs : Millis
  setupDeadlineMs : Millis
  lastReceiveMs : Millis
  previousDeadlineMs : Millis

def snapshot : Snapshot :=
  let peerOf (slot : Slot) := slot.offer.sessionId slot.role.other
  let currentPeer := channel.current.elim 0 peerOf
  { state := channel.state
    effectivePath := if channel.state = .direct then "direct" else "relay"
    hasCurrent := channel.current.isSome
    hasPending := channel.pending.isSome
    hasPrevious := channel.previous.isSome
    pendingReady := channel.pending.elim false fun slot => slot.Ready
    commitStarted := channel.pending.elim false fun slot => slot.commitSent || slot.commitReceived
    migrationPending := channel.current.elim false fun slot => slot.migration.active
    localRole := channel.current.elim (channel.pending.elim .initiator Slot.role) Slot.role
    peerUuid := if currentPeer = 0 then channel.pending.elim 0 peerOf else currentPeer
    currentOfferHash := channel.current.elim 0 Slot.hash
    pendingOfferHash := channel.pending.elim 0 Slot.hash
    previousOfferHash := channel.previous.elim 0 Slot.hash
    localCandidate := channel.current.elim {} Slot.localCandidate
    peerCandidate := channel.current.elim {} Slot.peerCandidate
    generation := channel.generation
    keyGeneration := channel.current.elim 0 fun slot => slot.offer.keyGeneration
    keyDeadlineMs := channel.current.elim 0 Slot.keyMs
    setupDeadlineMs := channel.pending.elim 0 Slot.setupMs
    lastReceiveMs := channel.current.elim 0 Slot.lastRxMs
    previousDeadlineMs := channel.previous.elim 0 Slot.previousMs }

end Calls

end Channel

end OpenPpp2.P2P
