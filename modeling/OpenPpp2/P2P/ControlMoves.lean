import OpenPpp2.P2P.Node

/-!
# Control packets as moves

Each handler of `Handle` is a sequence of moves with the events its result reports.
-/

namespace OpenPpp2.P2P

open Option Slot Move SlotStep

namespace Channel

/-- Unless it crashes, the outcome of a handler is reached by moves that cause
exactly the events it reports. -/
def Accounts (crypto : Crypto) (before : Channel) (call : Call) (channel : Channel)
    (outcome : Channel × Reply ControlResult) : Prop :=
  outcome.2 ≠ .crashed →
    Moves crypto before call channel (outcome.1.controlReport outcome.2).events outcome.1

/-- A handler that refuses leaves the channel as it was, unless it is `excused`. -/
def Handled (crypto : Crypto) (before : Channel) (call : Call) (excused : Prop) (channel : Channel)
    (outcome : Channel × Reply ControlResult) : Prop :=
  outcome = (channel, .refused) ∨
    (outcome.2 = .refused → excused) ∧ Accounts crypto before call channel outcome

/-- Why `CommitAck` can refuse. -/
def Withholds (slot : Slot) (now : Millis) : Prop :=
  ¬ (slot.commitReceived ∧ slot.Ready ∧ slot.Setup now) ∨
    slot.nextSequence = maxSequence ∨ slot.commitBytes.length ≠ ControlType.keyCommit.wireSize

section Handlers

variable {crypto : Crypto} {before : Channel} {call : Call} {channel : Channel} {place : Place}
  {slot : Slot}

theorem accounts_refused : Accounts crypto before call channel (channel, .refused) := fun _ => .done

variable {outcome : Channel × Reply ControlResult} {first : Channel}

theorem Accounts.after (moves : Moves crypto before call first [] channel)
    (accounts : Accounts crypto before call channel outcome) :
    Accounts crypto before call first outcome := by
  intro alive
  have joined := moves.append (accounts alive)
  rwa [List.nil_append] at joined

variable {bytes : Bytes} {result : ControlResult} {hash : OfferHash} {now : Millis} {excused : Prop}

theorem handled_refused : Handled crypto before call excused channel (channel, .refused) := .inl rfl

theorem handled_accepted {next : Channel}
    (accounts : Accounts crypto before call channel (next, .accepted result)) :
    Handled crypto before call excused channel (next, .accepted result) :=
  .inr ⟨nofun, accounts⟩

theorem Handled.accounts (handled : Handled crypto before call excused channel outcome) :
    Accounts crypto before call channel outcome := by
  rcases handled with rfl | ⟨_, accounts⟩
  · exact accounts_refused
  · exact accounts

theorem Handled.after {reason : Prop} (moves : Moves crypto before call first [] channel)
    (answer : (outcome.2 = .refused → reason) ∧ Accounts crypto before call channel outcome)
    (excuse : reason → excused) : Handled crypto before call excused first outcome :=
  .inr ⟨fun refused => excuse (answer.1 refused), .after moves answer.2⟩

theorem handled_resend {destination : Endpoint}
    (stands : channel.slotAt place = some slot) (cached : slot.Cached bytes)
    (sent : result.outbound = [⟨bytes, destination⟩]) (quiet : result.event = .none) :
    Handled crypto before call excused channel (channel, .accepted result) := by
  refine handled_accepted fun _ => ?_
  have move : Move crypto before call channel [.built bytes] (channel.put place slot) :=
    .slot stands (.resend cached)
  rw [put_self stands] at move
  simpa [controlReport, quiet, sent] using move.moves

variable {packet : ControlPacket}

theorem handleProbe_handled (stands : channel.slotAt place = some slot)
    (length : bytes.length = ControlType.probe.wireSize) :
    Handled crypto before call excused channel
      (handleProbe crypto channel place slot packet hash bytes) := by
  rw [handleProbe]
  split
  · exact handled_refused
  rcases found : slot.findRx packet.source packet.destination with _ | cached
  · rcases fresh : slot.replay.replay packet.sequence with _ | window
    · exact handled_refused
    by_cases full : slot.rx.length = maxTransactions
    · simp only [if_pos full]
      exact handled_refused
    simp only [if_neg full]
    rcases made : slot.makeControl .probeAck packet.destination packet.source with _ | ack
    · exact handled_refused
    rcases finished : slot.finishControl crypto { ack with probeTranscriptHash := hash } none
      with _ | ⟨counted, signed, reply⟩
    · simp only [finished]
      exact handled_refused
    obtain ⟨rfl, signs⟩ := finishControl_signs made rfl finished
    have short : ¬ bytes.length < reply.length := by
      rw [signs.length, length]
      decide
    simp only [finished, if_neg short]
    refine handled_accepted fun _ => ?_
    exact follow _ stands (.answerProbe signs full) (.hear fresh)
  · by_cases other : cached.hash ≠ hash
    · simp only [if_pos other]
      exact handled_refused
    · simp only [if_neg other]
      exact handled_resend stands (.probeAck (List.mem_of_find?_eq_some found)) rfl rfl

theorem commitAck_accounts (quiet : result.outbound = [])
    (allowed : (place = .pending ∧ slot.role = .responder) ∨
      (place = .current ∧ (slot.commitReceived → slot.Ready → channel.pending.isSome →
        before.latePromotion crypto call)))
    (nonzero : slot.hash ≠ 0) (epoch : slot.offer.connectionEpoch ≠ 0)
    (here : slot.localCandidate.Canonical) (peer : slot.peerCandidate.Canonical) :
    ((commitAck crypto channel place slot now result).2 = .refused → Withholds slot now) ∧
      Accounts crypto before call (channel.put place slot)
        (commitAck crypto channel place slot now result) := by
  rw [commitAck]
  split
  · rename_i early
    exact ⟨fun _ => .inl early, accounts_refused⟩
  rename_i early
  obtain ⟨received, ready, _⟩ := not_not.1 early
  rcases made : slot.makeControl .keyCommitAck slot.localCandidate slot.peerCandidate with _ | ack
  · exact ⟨fun _ => .inr (.inl (makeControl_eq_none made)), accounts_refused⟩
  have valid := makeControl_valid made nonzero epoch here peer
  obtain ⟨counted, signed, bytes, finished⟩ := finishControl_isSome crypto slot
    (show ({ ack with
      commitTranscriptHash := slot.commitHash
      probeTranscriptHash :=
        (slot.findTx slot.localCandidate slot.peerCandidate).elim 0 Transaction.hash } :
      ControlPacket).Valid from valid) none
  obtain ⟨rfl, signs⟩ := finishControl_signs made rfl finished
  by_cases long : slot.commitBytes.length < bytes.length
  · simp only [finished, if_pos long]
    refine ⟨fun _ => .inr (.inr fun sized => ?_), fun _ => ?_⟩
    · rw [signs.length, sized] at long
      exact absurd long (by decide)
    · exact moves channel (.lose signs.usable received (signs.length ▸ long))
  simp only [finished, if_neg long]
  rcases allowed with ⟨rfl, responder⟩ | ⟨rfl, late⟩
  · refine ⟨by simp [put], fun _ => ?_⟩
    have promoted : Moves crypto before call (channel.put .pending slot) _ _ :=
      (acknowledge now rfl responder received ready signs).moves
    simp only [put]
    simp only [ControlResult.withDetails, quiet, List.nil_append]
    exact promoted
  · rcases waits : channel.pending with _ | next
    · simp only [put, waits]
      exact ⟨by simp, fun alive => absurd rfl alive⟩
    · refine ⟨by simp [put, waits], fun _ => ?_⟩
      have answered : Moves crypto before call (channel.put .current slot) [.built bytes]
          (channel.put .current
            { slot with nextSequence := slot.nextSequence + 1, commitAckBytes := bytes }) :=
        moves channel (.ackCommit (by simp) received ready signs)
      have promoted := answered.append (Move.promote now
        (show (channel.put .current _).pending = some next from waits)
        (.late (late received ready (by simp [waits])))).moves
      simp only [put, waits]
      simp only [ControlResult.withDetails, quiet, List.nil_append]
      simp only [put, waits] at promoted
      exact promoted

theorem sendCommit_accounts {chosen : Slot} {here peer : Endpoint} {sent : Transaction}
    (chosen_eq : chosen =
      { slot with nominated := true, localCandidate := here, peerCandidate := peer })
    (quiet : result.outbound = []) (calm : result.event = .probeAck)
    (initiator : slot.role = .initiator) (open_ : slot.nominated = false)
    (hash : slot.hash ≠ 0) (epoch : slot.offer.connectionEpoch ≠ 0)
    (source : here.Canonical) (destination : peer.Canonical) :
    ((sendCommit crypto channel place chosen sent now result).2 = .refused →
        slot.nextSequence = maxSequence) ∧
      Accounts crypto before call (channel.put place slot)
        (sendCommit crypto channel place chosen sent now result) := by
  rw [sendCommit]
  rcases made : chosen.makeControl .keyCommit chosen.localCandidate chosen.peerCandidate
    with _ | commit
  · have exhausted := makeControl_eq_none made
    subst chosen_eq
    exact ⟨fun _ => exhausted,
      fun _ => moves channel (.nominate here peer initiator open_ exhausted)⟩
  · have valid : commit.Valid := by
      subst chosen_eq
      exact makeControl_valid made hash epoch source destination
    obtain ⟨counted, signed, bytes, finished⟩ := finishControl_isSome crypto chosen
      (show ({ commit with
        previousOfferHash := chosen.offer.previousOfferHash
        probeTranscriptHash := sent.hash } : ControlPacket).Valid from valid) none
    obtain ⟨rfl, signs⟩ := finishControl_signs made rfl finished
    obtain ⟨commitHash, hashed⟩ := signs.hash_isSome crypto
    simp only [finished, hashed]
    subst chosen_eq
    have signed : slot.Signs .keyCommit here peer signed bytes := { signs with }
    refine ⟨nofun, fun _ => ?_⟩
    simpa [controlReport, quiet, calm] using moves channel (.commit now initiator open_ signed)

section

variable (stands : channel.slotAt place = some slot)
include stands

theorem handleProbeAck_handled (valid : packet.Valid) (hash : packet.offerHash = slot.hash)
    (epoch : packet.connectionEpoch = slot.offer.connectionEpoch)
    (exhausts : slot.role = .initiator → slot.nominated = false →
      slot.nextSequence = maxSequence → excused)
    (allowed : slot.role = .responder → slot.nominated →
      packet.destination = slot.localCandidate → packet.source = slot.peerCandidate →
      (slot.replay.replay packet.sequence).isSome →
      (slot.findTx packet.destination packet.source).any (fun sent =>
        sent.acked = false ∧ sent.hash = packet.probeTranscriptHash) →
      packet.destination ∈ slot.context.localCandidates →
      packet.source ∈ slot.context.peerCandidates →
      (place = .pending ∨ (place = .current ∧ (slot.commitReceived →
        (∃ received ∈ slot.findRx slot.peerCandidate slot.localCandidate,
          received.ackBytes ≠ []) → channel.pending.isSome → before.latePromotion crypto call))) ∧
        ∀ window, Withholds { slot with
            tx := slot.changeTx packet.destination packet.source fun transaction =>
              { transaction with acked := true }
            replay := window } now → excused) :
    Handled crypto before call excused channel
      (handleProbeAck crypto channel place slot packet now) := by
  obtain ⟨_, _, _, _, _, _, nonzero, someEpoch, source, destination⟩ := valid
  rw [handleProbeAck]
  rcases fresh : slot.replay.replay packet.sequence with _ | window
  · exact handled_refused
  rcases found : slot.findTx packet.destination packet.source with _ | sent
  · exact handled_refused
  simp only
  split
  · exact handled_refused
  rename_i foreign
  simp only [not_or, not_not, Bool.not_eq_true] at foreign
  have acked : Moves crypto before call channel []
      (channel.put place
        { slot with
          tx := slot.changeTx packet.destination packet.source fun transaction =>
            { transaction with acked := true }
          replay := window }) :=
    follow _ stands (.ackProbe packet.destination packet.source) (.hear fresh)
  split
  · rename_i nominates
    exact .after acked (sendCommit_accounts rfl rfl rfl nominates.1 nominates.2 (hash ▸ nonzero)
      (epoch ▸ someEpoch) destination source) (exhausts nominates.1 nominates.2)
  split
  · rename_i completes
    obtain ⟨responder, nominated, here, peer⟩ := completes
    obtain ⟨places, withholds⟩ := allowed responder nominated here peer (by simp [fresh])
      (by simpa [found] using ⟨foreign.1, foreign.2.1⟩) foreign.2.2.1 foreign.2.2.2
    exact .after acked (commitAck_accounts rfl
      (places.imp (fun pending => ⟨pending, responder⟩) fun ⟨current, late⟩ =>
        ⟨current, fun received ready => late received ready.2.2⟩)
      (hash ▸ nonzero) (epoch ▸ someEpoch) (here ▸ destination) (peer ▸ source)) (withholds window)
  · exact handled_accepted (Accounts.after acked fun _ => .done)

theorem handleKeyCommit_handled (valid : packet.Valid) (sameHash : packet.offerHash = slot.hash)
    (epoch : packet.connectionEpoch = slot.offer.connectionEpoch)
    (type : packet.type = .keyCommit) (heard : Heard crypto before call place slot packet)
    (length : bytes.length = ControlType.keyCommit.wireSize)
    (withholds : place = .pending → slot.nextSequence = maxSequence ∨ ¬ slot.Setup now → excused) :
    Handled crypto before call excused channel
      (handleKeyCommit crypto channel place slot packet hash bytes now) := by
  obtain ⟨_, _, _, _, _, _, nonzero, someEpoch, source, destination⟩ := valid
  rw [handleKeyCommit]
  split
  · by_cases other : slot.commitHash ≠ hash
    · rw [if_pos other]
      exact handled_refused
    rw [if_neg other]
    by_cases answered : slot.commitAckBytes ≠ []
    · rw [if_pos answered]
      exact handled_resend stands (.commitAck answered) rfl rfl
    · rw [if_neg answered]
      exact handled_accepted fun _ => .done
  rename_i known
  rcases fresh : slot.replay.replay packet.sequence with _ | window
  · exact handled_refused
  simp only
  split
  · exact handled_refused
  rename_i foreign
  simp only [not_or, not_not] at foreign
  obtain ⟨rfl, responder, _⟩ := foreign
  rcases found : slot.findRx packet.source packet.destination with _ | received
  · exact handled_refused
  simp only
  split
  · exact handled_refused
  have committed : Moves crypto before call channel []
      (channel.put .pending
        { slot with
          nominated := true
          localCandidate := packet.destination
          peerCandidate := packet.source
          commitReceived := true
          commit := packet
          commitHash := hash
          commitBytes := bytes
          replay := window }) :=
    follow _ stands (.receiveCommit responder (by simpa using known) heard rfl type length found)
      (.hear fresh)
  split_ifs with ready
  · refine .after committed (commitAck_accounts rfl (.inl ⟨rfl, responder⟩) (sameHash ▸ nonzero)
      (epoch ▸ someEpoch) destination source) fun reason => withholds rfl ?_
    rcases reason with early | last | size
    · exact .inr fun setup => early ⟨rfl, ready, setup⟩
    · exact .inl last
    · exact absurd length size
  · exact handled_accepted (Accounts.after committed fun _ => .done)

theorem handleKeyCommitAck_handled
    (type : packet.type = .keyCommitAck) (heard : Heard crypto before call place slot packet) :
    Handled crypto before call excused channel
      (handleKeyCommitAck channel place slot packet now) := by
  rw [handleKeyCommitAck]
  rcases fresh : slot.replay.replay packet.sequence with _ | window
  · exact handled_refused
  simp only
  split
  · exact handled_refused
  rename_i foreign
  simp only [not_or, not_not, Bool.not_eq_false] at foreign
  obtain ⟨rfl, initiator, sent, ready, _⟩ := foreign
  rcases found : slot.findRx slot.peerCandidate slot.localCandidate with _ | received
  · exact handled_refused
  simp only
  split
  · exact handled_refused
  refine handled_accepted fun _ => ?_
  have cause : Cause crypto before call { slot with replay := window } :=
    .confirmed initiator sent ready heard rfl type
  have heard : Moves crypto before call channel []
      (channel.put .pending { slot with replay := window }) :=
    (Move.slot stands (.hear fresh)).moves
  exact heard.append (Move.promote now rfl cause).moves

theorem handleMigrateChallenge_handled
    (length : bytes.length = ControlType.migrateChallenge.wireSize) :
    Handled crypto before call excused channel
      (handleMigrateChallenge crypto channel place slot packet hash bytes now) := by
  rw [handleMigrateChallenge]
  split
  · rename_i known
    exact handled_resend stands (.migrationAck known.1) rfl rfl
  rcases fresh : slot.replay.replay packet.sequence with _ | window
  · exact handled_refused
  simp only
  split
  · exact handled_refused
  rename_i foreign
  obtain rfl : place = .current := not_not.1 fun elsewhere => foreign (.inl elsewhere)
  split
  · exact handled_accepted fun _ => Move.fallback.moves
  rcases made : slot.makeControl .migrateAck packet.destination packet.source with _ | ack
  · exact handled_refused
  simp only
  rcases finished : slot.finishControl crypto ack (some hash) with _ | ⟨counted, signed, reply⟩
  · exact handled_refused
  obtain ⟨rfl, signs⟩ := finishControl_signs made rfl finished
  have short : ¬ bytes.length < reply.length := by
    rw [signs.length, length]
    decide
  simp only [if_neg short]
  have answered : Moves crypto before call channel [.built reply]
      (channel.put .current
        { slot with
          nextSequence := slot.nextSequence + 1
          migrationAckBytes := reply
          receivedMigrationHash := hash
          receivedMigrations := slot.receivedMigrations + 1
          localCandidate := packet.destination
          replay := window
          lastRxMs := now }) :=
    (follow _ stands (.answerChallenge signs) (.hear fresh)).append
      (moves channel (.stamp slot.previousMs now slot.lastHeartbeatMs slot.lastRenewMs
        slot.renewAttempts slot.renewRequested))
  refine handled_accepted fun _ => ?_
  rcases waits : channel.pending with _ | next
  · have moved := answered.append (flags (.needsRenew true)).moves
    exact moved
  · have moved := (answered.append (cancel (.inl rfl)).moves).append
      (flags (.needsRenew true)).moves
    exact moved

end

theorem handleMigrateAck_handled (stands : channel.slotAt .current = some slot)
    (relay : channel.relayOnly → (slot.replay.replay packet.sequence).isSome →
      before.relayRecovery crypto call) : Handled crypto before call excused channel
      (handleMigrateAck channel .current slot packet now) := by
  rw [handleMigrateAck]
  rcases fresh : slot.replay.replay packet.sequence with _ | window
  · exact handled_refused
  refine handled_accepted fun _ => ?_
  have moved : Moves crypto before call channel []
      (channel.put .current
        { slot with
          peerCandidate := slot.migration.peer
          migration := {}
          replay := window
          lastRxMs := now }) :=
    (follow _ stands .migrate (.hear fresh)).append
      (moves channel (.stamp slot.previousMs now slot.lastHeartbeatMs slot.lastRenewMs
        slot.renewAttempts slot.renewRequested))
  have recovered := (moved.append (flags (.recover rfl
    (show (channel.put .current _).relayOnly → _ from
      fun switched => relay switched (by simp [fresh])))).moves).append
    (flags (.needsRenew true)).moves
  exact recovered

theorem addressed_eq_some (found : channel.addressed hash = some (place, slot)) :
    channel.slotAt place = some slot ∧ slot.hash = hash ∧ place ≠ .previous := by
  rw [addressed] at found
  rcases pending : channel.pending.filter (fun slot => slot.hash = hash) with _ | next
  · rw [pending] at found
    obtain ⟨current, filtered, equal⟩ := map_eq_some_iff.1 found
    cases equal
    obtain ⟨stands, same⟩ := filter_eq_some_iff.1 filtered
    exact ⟨stands, of_decide_eq_true same, by decide⟩
  · rw [pending] at found
    cases found
    obtain ⟨stands, same⟩ := filter_eq_some_iff.1 pending
    exact ⟨stands, of_decide_eq_true same, by decide⟩

end Handlers

section Dispatch

variable {crypto : Crypto} {before : Channel} {call : Call} {place : Place} {slot : Slot}
  {packet : ControlPacket}

theorem heard_lateProbeAck (heard : Heard crypto before call .current slot packet)
    (type : packet.type = .probeAck) (responder : slot.role = .responder)
    (nominated : slot.nominated) (here : packet.destination = slot.localCandidate)
    (peer : packet.source = slot.peerCandidate)
    (fresh : (slot.replay.replay packet.sequence).isSome)
    (probed : (slot.findTx packet.destination packet.source).any (fun sent =>
      sent.acked = false ∧ sent.hash = packet.probeTranscriptHash))
    (known : packet.destination ∈ slot.context.localCandidates)
    (partner : packet.source ∈ slot.context.peerCandidates) : before.lateProbeAck crypto call := by
  obtain ⟨bytes, sender, now, rfl, parsed, addressed, admits⟩ := heard
  simp only [lateProbeAck, parsed, addressed]
  exact decide_eq_true ⟨trivial, admits, type, fresh, probed, known, partner, responder, nominated,
    here, peer⟩

theorem heard_relayRecovery (heard : Heard crypto before call .current slot packet)
    (type : packet.type = .migrateAck) (relay : before.relayOnly)
    (fresh : (slot.replay.replay packet.sequence).isSome) : before.relayRecovery crypto call := by
  obtain ⟨bytes, sender, now, rfl, parsed, addressed, admits⟩ := heard
  obtain ⟨stands, hash, _⟩ := addressed_eq_some addressed
  have current : before.current = some slot := stands
  simp [relayRecovery, parsed, relay, type, current, hash, admits, fresh]

/-- What the failures of a handler after its first change come down to. -/
structure Excuses (crypto : Crypto) (before : Channel) (call : Call) (now : Millis)
    (excused : Prop) : Prop where
  late : before.lateProbeAck crypto call → excused
  exhausted : ∀ {place slot}, before.slotAt place = some slot → place ≠ .previous →
    (place = .pending ∨ slot.nominated = false) → slot.nextSequence = maxSequence → excused
  withheld : ∀ {slot : Slot} {packet : ControlPacket} {window}, before.pending = some slot →
    slot.role = .responder → slot.nominated → packet.destination = slot.localCandidate →
    packet.source = slot.peerCandidate →
    (slot.findTx packet.destination packet.source).isSome → slot.Setup now →
    Withholds
      { slot with
        tx := slot.changeTx packet.destination packet.source fun transaction =>
          { transaction with acked := true }
        replay := window } now → excused

variable {bytes : Bytes} {now : Millis} {excused : Prop} {sender : Endpoint}

theorem dispatch_handled {hash : OfferHash} (heard : Heard crypto before call place slot packet)
    (admits : AdmitsControl crypto place slot packet sender now)
    (stands : before.slotAt place = some slot) (elsewhere : place ≠ .previous)
    (parsed : ControlPacket.parse bytes = some packet)
    (excuses : Excuses crypto before call now excused) : Handled crypto before call excused before
      (dispatch crypto before place slot packet hash bytes now) := by
  obtain ⟨valid, length⟩ := ControlPacket.parse_valid parsed
  obtain ⟨_, setup, migrating, sameHash, sameEpoch, _⟩ := admits
  rw [dispatch]
  cases type : packet.type with
  | probe =>
    rw [type] at length
    exact handleProbe_handled stands length
  | probeAck =>
    refine handleProbeAck_handled stands valid sameHash sameEpoch
      (fun _ open_ => excuses.exhausted stands elsewhere (.inr open_)) ?_
    intro responder nominated here peer fresh probed known partner
    cases place with
    | pending =>
      refine ⟨.inl rfl, fun window => excuses.withheld stands responder nominated here peer ?_ ?_⟩
      · cases found : slot.findTx packet.destination packet.source <;> simp [found] at probed ⊢
      · simpa [type] using setup
    | current =>
      have late := heard_lateProbeAck heard type responder nominated here peer fresh probed known
        partner
      refine ⟨.inr ⟨rfl, fun received answered waits => ?_⟩, fun _ _ => excuses.late late⟩
      obtain ⟨answer, found, filled⟩ := answered
      have current : before.current = some slot := stands
      simp [latePromotion, late, waits, current, received, Option.mem_def.1 found, filled]
    | previous => exact absurd rfl elsewhere
  | keyCommit =>
    rw [type] at length
    refine handleKeyCommit_handled stands valid sameHash sameEpoch type heard length ?_
    rintro rfl (last | late)
    · exact excuses.exhausted stands elsewhere (.inl rfl) last
    · exact absurd (by simpa [type] using setup) late
  | keyCommitAck => exact handleKeyCommitAck_handled stands type heard
  | migrateChallenge =>
    rw [type] at length
    exact handleMigrateChallenge_handled stands length
  | migrateAck =>
    obtain rfl : place = .current := (migrating type).1
    exact handleMigrateAck_handled stands (heard_relayRecovery heard type)

variable {generation : BitVec 64}

theorem handleControl_handled
    (excuses : Excuses crypto before (.handleControl bytes sender now generation) now excused) :
    Handled crypto before (.handleControl bytes sender now generation) excused before
      (before.handleControl crypto bytes sender now generation) := by
  rw [handleControl]
  split
  · exact handled_refused
  rename_i stale
  obtain rfl := not_not.1 stale
  rw [handle]
  rcases parsed : ControlPacket.parse bytes with _ | packet
  · exact handled_refused
  simp only
  rcases found : before.addressed packet.offerHash with _ | ⟨place, slot⟩
  · exact handled_refused
  simp only
  by_cases admits : AdmitsControl crypto place slot packet sender now
  · rw [if_neg (not_not.2 admits)]
    rcases hashed : packet.hash crypto with _ | hash
    · exact handled_refused
    · obtain ⟨stands, _, elsewhere⟩ := addressed_eq_some found
      exact dispatch_handled ⟨bytes, sender, now, rfl, parsed, found, admits⟩ admits stands
        elsewhere parsed excuses
  · rw [if_pos admits]
    exact handled_refused

theorem handleControl_accounts :
    Accounts crypto before (.handleControl bytes sender now generation) before
      (before.handleControl crypto bytes sender now generation) := by
  have excuses : Excuses crypto before (.handleControl bytes sender now generation) now True := by
    constructor <;> intros <;> trivial
  exact (handleControl_handled excuses).accounts

end Dispatch

end Channel

end OpenPpp2.P2P
