import OpenPpp2.P2P.ControlMoves

/-!
# Every call is a sequence of moves

The calls other than `HandleControl`, and the summary over all of them.
-/

namespace OpenPpp2.P2P

open Lib.Run List Option Move SlotStep Channel

namespace Channel

section Calls

variable {crypto : Crypto} {before : Channel} {call : Call} {channel : Channel}

variable {generation : BitVec 64} {slot : Slot} (now : Millis)

theorem createProbe_moves {here peer : Endpoint} {now : Millis} : Moves crypto before call channel
      ((channel.createProbe crypto here peer now generation).2.toList.map .built)
      (channel.createProbe crypto here peer now generation).1 := by
  rw [createProbe]
  rcases waits : channel.pending with _ | slot
  · exact .done
  have stands : channel.slotAt .pending = some slot := waits
  simp only
  split
  · exact .done
  rcases found : slot.findTx here peer with _ | cached
  · by_cases full : slot.tx.length = maxTransactions
    · simp only [if_pos full]
      exact .done
    simp only [if_neg full]
    rcases made : slot.makeControl .probe here peer with _ | packet
    · exact .done
    simp only
    rcases finished : slot.finishControl crypto packet none with _ | ⟨counted, signed, bytes⟩
    · exact .done
    obtain ⟨rfl, signs⟩ := Slot.finishControl_signs made rfl finished
    obtain ⟨hash, hashed⟩ := signs.hash_isSome crypto
    simp only [hashed]
    exact (Move.slot stands (.probe now signs hashed full)).moves
  · simp only
    split
    · exact .done
    · exact follow _ stands (.resend (.probe (mem_of_find?_eq_some found))) (.countProbe here peer)

theorem sealData_moves {data : Bytes} {now : Millis} : Moves crypto before call channel
      ((channel.sealData crypto data now generation).2.toList.map .built)
      (channel.sealData crypto data now generation).1 := by
  rw [sealData]
  rcases present : channel.current with _ | slot
  · exact .done
  have stands : channel.slotAt .current = some slot := present
  simp only
  split
  · exact .done
  split
  · exact Move.fallback.moves
  rcases sealed : slot.sealData crypto data with _ | ⟨counted, datagram⟩
  · exact .done
  · exact (Move.slot stands (.sealData sealed)).moves

theorem readable_eq_some {hash : OfferHash} {previous promote : Bool}
    (found : channel.readable hash = some (slot, previous, promote)) : slot.hash = hash ∧
      ((channel.current = some slot ∧ previous = false ∧ promote = false) ∨
        (channel.previous = some slot ∧ previous ∧ promote = false) ∨
        (channel.pending = some slot ∧ previous = false ∧ promote)) := by
  unfold readable at found
  split at found
  · grind [filter_eq_some_iff]
  · split at found <;> grind [filter_eq_some_iff, map_eq_some_iff]

theorem heard_moves {place : Place} {sequence : Sequence} {window : ReplayWindow}
    (stands : channel.slotAt place = some slot)
    (fresh : slot.replay.replay sequence = some window) (now : Millis) :
    Moves crypto before call channel [.opened slot.hash sequence]
      (channel.put place { slot with replay := window, lastRxMs := now }) := by
  exact follow _ stands (.opened fresh) (.stamp slot.previousMs now slot.lastHeartbeatMs
    slot.lastRenewMs slot.renewAttempts slot.renewRequested)

theorem openData_moves (crypto : Crypto) (before : Channel) (packet : Bytes) (sender : Endpoint)
    (now : Millis) (generation : BitVec 64) :
    Moves crypto before (.openData packet sender now generation) before
      (before.call crypto (.openData packet sender now generation)).2.events
      (before.call crypto (.openData packet sender now generation)).1 := by
  simp only [call, openData]
  generalize requested : Call.openData packet sender now generation = call
  split_ifs with other
  · exact .done
  rcases parsed : DataHeader.parse packet with _ | header
  · exact .done
  simp only
  rcases found : before.readable header.offerHash with _ | ⟨slot, previous, promote⟩
  · exact .done
  obtain ⟨hash, stands⟩ := readable_eq_some found
  by_cases early : promote ∧ ¬ (slot.Setup now ∧ slot.role = .initiator ∧
      slot.commitSent ∧ slot.Ready)
  · simp only [if_pos early]
    exact .done
  simp only [if_neg early]
  by_cases stray : ¬ slot.Alive now ∨ sender ≠ slot.peerCandidate ∨
      (previous ∧ slot.previousMs ≤ now)
  · simp only [if_pos stray]
    exact .done
  simp only [if_neg stray]
  rcases opened : slot.openData crypto packet with _ | ⟨plaintext, window⟩
  · exact .done
  obtain ⟨read, parsed', _, _, _, fresh⟩ := Slot.openData_eq_some opened
  obtain rfl : header = read := some.inj (parsed.symm.trans parsed')
  rcases stands with ⟨present, rfl, rfl⟩ | ⟨present, rfl, rfl⟩ | ⟨waits, rfl, rfl⟩
  · -- the current slot; data ends a suspicion unless the path is migrating
    have heard : Moves crypto before call before
        [.opened slot.hash header.sequence]
        (before.put .current { slot with replay := window, lastRxMs := now }) :=
      heard_moves (show before.slotAt .current = some slot from present) fresh now
    by_cases recovers : before.state = .suspect ∧ slot.migration.active = false
    · have relay : before.relayOnly → before.relayRecovery crypto call := by
        intro switched
        have heard := not_or.1 stray |>.imp not_not.1 fun rest => not_not.1 (not_or.1 rest).1
        simp [relayRecovery, ← requested, not_not.1 other, switched, recovers, parsed, present,
          hash, opened, heard]
      have recovered : FlagStep crypto before call
          (before.put .current { slot with replay := window, lastRxMs := now })
          { before.put .current { slot with replay := window, lastRxMs := now } with
            state := .direct } := .recover rfl relay
      have flagged := heard.append (flags recovered).moves
      simpa [found, recovers, hash] using flagged
    · simp only [Bool.false_eq_true, if_false, found, if_neg recovers]
      rw [← hash]
      exact heard
  · have old : Moves crypto before call before
        [.opened slot.hash header.sequence] (before.put .previous { slot with replay := window }) :=
      (Move.slot (show before.slotAt .previous = some slot from present) (.opened fresh)).moves
    simpa [found, hash] using old
  · -- data under the pending key
    obtain ⟨_, initiator, sent, ready⟩ := not_not.1 (not_and.1 early rfl)
    have heard : Moves crypto before call before
        [.opened slot.hash header.sequence]
        (before.put .pending { slot with replay := window, lastRxMs := now }) :=
      heard_moves (show before.slotAt .pending = some slot from waits) fresh now
    have opens : Opens crypto before call slot header :=
      ⟨packet, sender, now, by rw [← requested, not_not.1 other], parsed, waits, by simp [opened]⟩
    have cause : Cause crypto before call
        { slot with replay := window, lastRxMs := now } := .data initiator sent ready opens rfl
    have promoted := heard.append (Move.promote now rfl cause).moves
    simp only [Bool.false_eq_true, if_false, if_true, found]
    rw [← hash]
    exact promoted

theorem handleNewEndpointData_handled {packet : Bytes} {sender : Endpoint} {now : Millis} :
    Handled crypto before call False channel
      (channel.handleNewEndpointData crypto packet sender now generation) := by
  rw [handleNewEndpointData]
  rcases present : channel.current with _ | slot
  · exact handled_refused
  have stands : channel.slotAt .current = some slot := present
  simp only
  split
  · exact handled_refused
  split
  · exact handled_refused
  rcases opened : slot.openData crypto packet with _ | payload
  · exact handled_refused
  simp only
  split
  · exact handled_accepted fun _ => Move.fallback.moves
  rcases made : slot.makeControl .migrateChallenge slot.localCandidate sender with _ | challenge
  · exact handled_refused
  simp only
  rcases finished : slot.finishControl crypto challenge none with _ | ⟨counted, signed, bytes⟩
  · exact handled_refused
  obtain ⟨rfl, signs⟩ := Slot.finishControl_signs made rfl finished
  obtain ⟨hash, hashed⟩ := signs.hash_isSome crypto
  simp only [hashed]
  refine handled_accepted fun _ => ?_
  let deadline := minMs slot.keyMs (now + channel.migrationGraceMs)
  -- the challenge is issued once no slot is pending
  rcases waits : channel.pending with _ | next
  · have challenged : Moves crypto before call channel [.built bytes] _ :=
      (Move.slot stands (.challenge hash now deadline waits signs)).moves
    have moved := challenged.append (flags (.suspect rfl)).moves
    exact moved
  · have cancelled : Moves crypto before call (channel.put .current slot) []
        (channel.put .current slot).cancelPending := (cancel (.inl rfl)).moves
    nth_rewrite 1 [put_self stands] at cancelled
    have renewed : (channel.put .current slot).cancelPending.slotAt .current =
        some slot.withoutRenewal := rfl
    have signs' : slot.withoutRenewal.Signs .migrateChallenge slot.localCandidate sender signed
        bytes := { signs with }
    have challenged := cancelled.append
      (Move.slot renewed (.challenge hash now deadline rfl signs')).moves
    have moved := challenged.append (flags (.suspect rfl)).moves
    exact moved

def sends (outbound : List Outbound) : List Event :=
  outbound.map fun outbound => .built outbound.datagram

theorem expirePrevious_moves :
    Moves crypto before call channel [] (channel.expirePrevious now) := by
  rw [expirePrevious]
  rcases old : channel.previous.filter (fun slot => slot.Alive now ∧ now < slot.previousMs)
    with _ | slot
  · simp only [old]
    exact forget.moves
  · simp only [old, ← (filter_eq_some_iff.1 old).1]
    exact .done

theorem expireCurrent_moves : Moves crypto before call channel [] (channel.expireCurrent now) := by
  rw [expireCurrent]
  split_ifs
  · exact Move.fallback.moves
  · exact .done

theorem expirePending_moves : Moves crypto before call channel [] (channel.expirePending now) := by
  rw [expirePending]
  rcases channel.pending with _ | slot
  · exact .done
  · simp only
    split_ifs with inTime ends
    · exact .done
    · exact Move.fallback.moves
    · have present : channel.current.isSome := by
        rw [isSome_iff_ne_none]
        intro absent
        exact ends (.inr (.inr (by rw [absent]; rfl)))
      exact (cancel (.inl present)).moves

theorem retryCommit_moves : Moves crypto before call channel (sends (channel.retryCommit now).2)
      (channel.retryCommit now).1 := by
  rw [retryCommit]
  rcases waits : channel.pending with _ | slot
  · exact .done
  simp only
  split_ifs with due
  · exact follow .pending waits (.resend (.commit due.1)) .countCommit
  · exact .done

theorem failCurrent_moves : Moves crypto before call channel [] (channel.failCurrent now) := by
  rw [failCurrent]
  split_ifs
  · exact Move.fallback.moves
  · exact .done

theorem suspectCurrent_moves :
    Moves crypto before call channel [] (channel.suspectCurrent now) := by
  rw [suspectCurrent]
  split_ifs with silent
  · obtain ⟨slot, present, _⟩ := silent
    exact (flags (.suspect (isSome_iff_exists.2 ⟨slot, present⟩))).moves
  · exact .done

theorem retryMigration_moves :
    Moves crypto before call channel (sends (channel.retryMigration now).2)
      (channel.retryMigration now).1 := by
  rw [retryMigration]
  rcases present : channel.current with _ | slot
  · exact .done
  simp only
  split_ifs with due
  · exact follow .current present (.resend (.migration due.1)) .countMigration
  · exact .done

theorem heartbeat_moves : Moves crypto before call channel (sends (channel.heartbeat crypto now).2)
      (channel.heartbeat crypto now).1 := by
  rw [heartbeat]
  rcases present : channel.current with _ | slot
  · exact .done
  simp only
  split_ifs
  · rcases sealed : slot.sealData crypto [0] with _ | ⟨counted, datagram⟩
    · exact Move.fallback.moves
    · exact follow .current present (.sealData sealed) (.stamp counted.previousMs
        counted.lastRxMs now counted.lastRenewMs counted.renewAttempts counted.renewRequested)
  · exact .done

theorem renewCurrent_moves : Moves crypto before call channel [] (channel.renewCurrent now).1 := by
  rw [renewCurrent]
  rcases present : channel.current with _ | slot
  · exact .done
  simp only
  split
  · have stamped : Moves crypto before call channel []
        (channel.put .current
          { slot with
            renewRequested := true
            lastRenewMs := now
            renewAttempts :=
              if slot.renewAttempts + 1 ≤ 5 then slot.renewAttempts + 1 else 5 }) :=
      (Move.slot (show channel.slotAt .current = some slot from present)
        (.stamp slot.previousMs slot.lastRxMs slot.lastHeartbeatMs now _ true)).moves
    have renewed := stamped.append (flags (.needsRenew false)).moves
    exact renewed
  · exact .done

theorem tickWork_moves :
    Moves crypto before call channel (sends (channel.tickWork crypto now).2.outbound)
      (channel.tickWork crypto now).1 := by
  have expired : Moves crypto before call channel []
      (((channel.expirePrevious now).expireCurrent now).expirePending now) :=
    ((expirePrevious_moves now).append (expireCurrent_moves now)).append (expirePending_moves now)
  have committed := expired.append (retryCommit_moves now)
  have migrated := ((committed.append (failCurrent_moves now)).append
    (suspectCurrent_moves now)).append (retryMigration_moves now)
  have beaten := migrated.append (heartbeat_moves now)
  have renewed := beaten.append (renewCurrent_moves now)
  simpa [tickWork, sends] using renewed

theorem tick_moves :
    Moves crypto before call channel (sends (channel.tickWork crypto now).2.outbound)
      (channel.tick crypto now channel.generation).1 := by
  have reported : Moves crypto before call channel
      (sends (channel.tickWork crypto now).2.outbound ++ []) _ :=
    (tickWork_moves now).append (flags .report).moves
  rw [append_nil] at reported
  rw [tick, if_neg (not_not.2 rfl)]
  exact reported

theorem withoutRenewal_moves : Moves crypto before call channel []
      { channel with current := channel.current.map Slot.withoutRenewal } := by
  rcases present : channel.current with _ | slot
  · simp only [map_none]
    rw [← present]
    exact .done
  · simp only [map_some]
    exact (Move.slot (show channel.slotAt .current = some slot from present)
      (.stamp slot.previousMs slot.lastRxMs slot.lastHeartbeatMs slot.lastRenewMs 0 false)).moves

theorem requestRenew_moves : Moves crypto before call channel [] channel.requestRenew := by
  have renewed : Moves crypto before call channel [] _ :=
    withoutRenewal_moves.append (flags (.needsRenew true)).moves
  exact renewed

theorem requestRenewOf_moves (generation : BitVec 64) :
    Moves crypto before call channel [] (channel.requestRenewOf generation) := by
  rw [requestRenewOf]
  split
  · exact .done
  rcases present : channel.current with _ | slot
  · have rested : Moves crypto before call channel [] _ :=
      ((flags (.rest present)).moves.append (cancel (.inr rfl)).moves).append
        (flags (.needsRenew true)).moves
    simpa [cancelPending, present] using rested
  · have renewed : Moves crypto before call channel [] _ :=
      (cancel (.inl (by rw [present]; rfl))).moves.append (flags (.needsRenew true)).moves
    simpa [cancelPending, present] using renewed

theorem advanceTxSequence_moves (next : Sequence) :
    Moves crypto before call channel [] (channel.advanceTxSequence next).1 := by
  rw [advanceTxSequence]
  rcases present : channel.current with _ | slot
  · exact .done
  simp only
  split_ifs with back
  · exact .done
  · exact (Move.slot (show channel.slotAt .current = some slot from present)
      (.advance (BitVec.not_lt.1 back))).moves

theorem startGeneration_eq_self
    (known : ¬ channel.generation < generation) : channel.startGeneration generation = channel := by
  rw [startGeneration, if_neg known]

/-- What a call does, starting from a channel. An offer takes one move at most. -/
inductive Performs (crypto : Crypto) (before : Channel) (call : Call) :
    Channel → List Event → Channel → Prop
  | nothing {channel : Channel} : Performs crypto before call channel [] channel
  | single {first last : Channel} {events : List Event}
      (move : Move crypto before call first events last) :
      Performs crypto before call first events last
  | several {first last : Channel} {events : List Event} (plain : call.offers = false)
      (moves : Moves crypto before call first events last) :
      Performs crypto before call first events last

theorem Performs.moves {first last : Channel} {events : List Event}
    (performs : Performs crypto before call first events last) :
    Moves crypto before call first events last := by
  cases performs with
  | nothing => exact .done
  | single move => exact move.moves
  | several plain moves => exact moves

theorem acceptOffer_performs {encoded : Bytes} {context : RecipientContext} {exporter : Exporter}
    {now : Millis} (built : Slot.ofOffer crypto encoded context exporter now = some slot) :
    Performs crypto before (.acceptOffer encoded context exporter now generation)
      (channel.startGeneration generation)
      (channel.call crypto (.acceptOffer encoded context exporter now generation)).2.events
      (channel.call crypto (.acceptOffer encoded context exporter now generation)).1 := by
  simp only [call, acceptOffer, built]
  by_cases stale : generation < channel.generation
  · simp only [if_pos stale]
    rw [startGeneration_eq_self (BitVec.not_lt.2 (BitVec.le_of_lt stale))]
    exact .nothing
  simp only [if_neg stale]
  set started := channel.startGeneration generation
  by_cases known : ∃ pending ∈ started.pending, pending.hash = slot.hash
  · have waits : started.pending.isNone = false := by
      obtain ⟨pending, waits, _⟩ := known
      rw [mem_def.1 waits]
      rfl
    simp only [if_pos known, waits]
    exact .nothing
  simp only [if_neg known]
  by_cases refused : slot.offer.keyGeneration ≤ started.highWater ∨ started.pending.isSome ∨
      (∃ current ∈ started.current, ¬ current.Alive now ∨ current.migration.active) ∨
      slot.offer.previousOfferHash ≠ started.current.elim 0 Slot.hash
  · simp only [if_pos refused]
    exact .nothing
  · simp only [if_neg refused]
    rw [not_or, not_or, not_or] at refused
    obtain ⟨fresh, empty, settled, follows⟩ := refused
    have none : started.pending = none := by simpa using empty
    have installed : Move crypto before (.acceptOffer encoded context exporter now generation)
        started _ _ :=
      .install rfl built (BitVec.not_le.1 fresh) none
        (fun current present => by
          rcases active : current.migration.active
          · rfl
          · exact absurd ⟨current, present, .inr active⟩ settled)
        (not_not.1 follows)
    exact .single (by simpa [none] using installed)

def restart (channel : Channel) : Call → Channel
  | .reset generation => channel.reset generation
  | .acceptOffer _ _ _ _ generation => channel.startGeneration generation
  | _ => channel

theorem call_performs (alive : (before.call crypto call).2.crashed = false)
    (continues : before.startsEpoch crypto call = false) :
    Performs crypto before call before (before.call crypto call).2.events
      (before.call crypto call).1 := by
  cases call with
  | acceptOffer encoded context exporter now generation =>
    rcases built : Slot.ofOffer crypto encoded context exporter now with _ | slot
    · simp only [call, acceptOffer, built]
      exact .nothing
    · have known : ¬ before.generation < generation := by
        simpa [startsEpoch, built] using continues
      have performs : Performs crypto before (.acceptOffer encoded context exporter now generation)
          (before.startGeneration generation) _ _ := acceptOffer_performs built
      rwa [startGeneration_eq_self known] at performs
  | createProbe here peer now generation => exact .several rfl createProbe_moves
  | handleControl packet sender now generation =>
    apply Performs.several rfl
    apply handleControl_accounts
    intro crashed
    simp [call, crashed, controlReport] at alive
  | sealData data now generation => exact .several rfl sealData_moves
  | openData packet sender now generation =>
    exact .several rfl (openData_moves crypto before packet sender now generation)
  | handleNewEndpointData packet sender now generation =>
    apply Performs.several rfl
    apply handleNewEndpointData_handled.accounts
    intro crashed
    simp [call, crashed, controlReport] at alive
  | tick now generation =>
    simp only [call]
    by_cases stale : before.generation ≠ generation
    · rw [if_pos stale, tick, if_pos stale]
      exact .nothing
    · rw [if_neg stale, ← not_not.1 stale]
      exact .several rfl (tick_moves now)
  | requestRenewOf generation => exact .several rfl (requestRenewOf_moves generation)
  | requestRenew => exact .several rfl requestRenew_moves
  | setRelayOnly enabled => exact .single (.flags (.relayOnly enabled))
  | reset generation =>
    have old : generation < before.generation := by simpa [startsEpoch] using continues
    simp only [call, reset, if_pos old]
    exact .nothing
  | configureLiveness interval misses suspect migration =>
    exact .single (.flags (.liveness interval misses suspect migration))
  | advanceTxSequence next => exact .several rfl (advanceTxSequence_moves next)

theorem call_restart (starts : before.startsEpoch crypto call) :
    (before.restart call).toKeyChain = {} ∧ (before.restart call).state = .relay ∧
      Performs crypto before call (before.restart call) (before.call crypto call).2.events
        (before.call crypto call).1 := by
  cases call with
  | acceptOffer encoded context exporter now generation =>
    simp only [startsEpoch, decide_eq_true_eq] at starts
    obtain ⟨slot, built⟩ := isSome_iff_exists.1 starts.1
    have cleared : (before.startGeneration generation).toKeyChain = {} ∧
        (before.startGeneration generation).state = .relay := by
      rw [startGeneration, if_pos starts.2]
      exact ⟨rfl, rfl⟩
    exact ⟨cleared.1, cleared.2, acceptOffer_performs built⟩
  | reset generation =>
    have raised : ¬ generation < before.generation := by simpa [startsEpoch] using starts
    simp only [restart, call, reset, if_neg raised]
    exact ⟨rfl, rfl, .nothing⟩
  | _ => simp [startsEpoch] at starts

end Calls

end Channel

namespace Node

section Rules

variable {crypto : Crypto}

theorem step_cases (crypto : Crypto) (node : Node) (call : Call) :
    ((node.step crypto call).channel = node.channel ∧
      (node.step crypto call).epoch = node.epoch ∧ (node.step crypto call).past = node.past) ∨
    (∃ events, Channel.Performs crypto node.channel call node.channel events
        (node.step crypto call).channel ∧ (node.step crypto call).epoch = node.epoch ++ events ∧
      (node.step crypto call).past = node.past) ∨
    (∃ started events, node.channel.startsEpoch crypto call ∧
      started.toKeyChain = {} ∧ started.state = .relay ∧
      Channel.Performs crypto node.channel call started events (node.step crypto call).channel ∧
      (node.step crypto call).epoch = events ∧
      (node.step crypto call).past = node.epoch :: node.past) := by
  rw [step]
  split
  · exact .inl ⟨rfl, rfl, rfl⟩
  simp only
  split
  · exact .inl ⟨rfl, rfl, rfl⟩
  rename_i crashed
  split
  · rename_i starts
    obtain ⟨empty, resting, performs⟩ := call_restart starts
    exact .inr (.inr ⟨_, _, starts, empty, resting, performs, rfl, rfl⟩)
  · rename_i starts
    exact .inr (.inl ⟨_, call_performs (by simpa using crashed) (by simpa using starts), rfl, rfl⟩)

variable {invariant : Channel → List Event → Prop}

theorem step_history (node : Node) (call : Call) (holds : invariant node.channel node.events)
    (emptied : ∀ started : Channel, started.toKeyChain = {} → invariant started node.events)
    (kept : ∀ channel events later next, (call.offers → events = node.events ∧
        (channel = node.channel ∨ node.channel.startsEpoch crypto call)) →
      invariant channel events → Move crypto node.channel call channel later next →
        invariant next (events ++ later)) :
    invariant (node.step crypto call).channel (node.step crypto call).events := by
  have performed : ∀ {first last later},
      (first = node.channel ∨ node.channel.startsEpoch crypto call) →
      invariant first node.events → Channel.Performs crypto node.channel call first later last →
      invariant last (node.events ++ later) := by
    intro first last later begins holds performs
    cases performs with
    | nothing => rwa [append_nil]
    | single move => exact kept first node.events later last (fun _ => ⟨rfl, begins⟩) holds move
    | several plain moves =>
      apply moves.invariant _ holds
      intro channel earlier more next holds move
      exact kept channel earlier more next (by simp [plain]) holds move
  rcases node.step_cases crypto call with ⟨channel, epoch, past⟩ | ⟨later, performs, epoch, past⟩ |
    ⟨started, later, starts, empty, _, performs, epoch, past⟩
  · rw [events, channel, epoch, past]
    exact holds
  · rw [events, epoch, past, ← append_assoc]
    exact performed (.inl rfl) holds performs
  · have joined : (node.step crypto call).events = node.events ++ later := by
      simp [events, epoch, past]
    rw [joined]
    exact performed (.inr starts) (emptied started empty) performs

theorem step_extends (crypto : Crypto) (node : Node) (call : Call) :
    ∃ later, (node.step crypto call).events = node.events ++ later := by
  rcases node.step_cases crypto call with ⟨_, epoch, past⟩ | ⟨later, _, epoch, past⟩ |
    ⟨_, later, _, _, _, _, epoch, past⟩
  · exact ⟨[], by simp [events, epoch, past]⟩
  · exact ⟨later, by simp [events, epoch, past]⟩
  · exact ⟨later, by simp [events, epoch, past]⟩

/-- The relation holds of the channel and its epoch, and held when each earlier
epoch ended. -/
def Throughout (invariant : Channel → List Event → Prop) (node : Node) : Prop :=
  invariant node.channel node.epoch ∧ ∀ epoch ∈ node.past, ∃ channel, invariant channel epoch

theorem epoch_invariant (allowed : Channel → Call → Prop)
    (fresh : ∀ channel : Channel, channel.toKeyChain = {} → channel.state = .relay →
      invariant channel [])
    (kept : ∀ before call, allowed before call → ∀ channel events later next,
      invariant channel events → Move crypto before call channel later next →
        invariant next (events ++ later)) {calls : List Call}
    (guarded : Guarded (step crypto) (fun node => allowed node.channel) {} calls) :
    Throughout invariant (run (step crypto) {} calls) := by
  apply guarded_invariant _ guarded ⟨fresh _ rfl rfl, by simp⟩
  rintro node call permitted ⟨holds, earlier⟩
  have moved := fun {first last events later}
      (moves : Moves crypto node.channel call first later last) (holds : invariant first events) =>
    Moves.invariant (kept node.channel call permitted) moves holds
  rcases node.step_cases crypto call with ⟨channel, epoch, past⟩ | ⟨events, performs, epoch, past⟩ |
    ⟨started, events, _, empty, resting, performs, epoch, past⟩
  · rw [Throughout, channel, epoch, past]
    exact ⟨holds, earlier⟩
  · rw [Throughout, epoch, past]
    exact ⟨moved performs.moves holds, earlier⟩
  · rw [Throughout, epoch, past]
    exact ⟨moved performs.moves (fresh started empty resting),
      forall_mem_cons.2 ⟨⟨_, holds⟩, earlier⟩⟩

theorem run_epoch (fresh : ∀ channel : Channel, channel.toKeyChain = {} → channel.state = .relay →
      invariant channel [])
    (kept : ∀ before call channel events later next, invariant channel events →
      Move crypto before call channel later next → invariant next (events ++ later))
    (calls : List Call) : Throughout invariant (run (step crypto) {} calls) := by
  apply epoch_invariant (fun _ _ => True) fresh (fun before call _ => kept before call)
  exact guarded_of_forall (fun _ _ => trivial) _ calls

end Rules

end Node

end OpenPpp2.P2P
