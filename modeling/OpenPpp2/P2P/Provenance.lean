import OpenPpp2.P2P.CallMoves

/-!
# Where slots come from

A move steps one slot, installs one, or rearranges those there are.
-/

namespace OpenPpp2.P2P

open Lib.Run List Option Sample

def Slot.Restamps (held slot : Slot) : Prop :=
  ∃ previousMs lastRxMs lastHeartbeatMs lastRenewMs renewAttempts renewRequested,
    held = { slot with
      previousMs := previousMs, lastRxMs := lastRxMs, lastHeartbeatMs := lastHeartbeatMs,
      lastRenewMs := lastRenewMs, renewAttempts := renewAttempts,
      renewRequested := renewRequested }

theorem Slot.Restamps.refl (slot : Slot) : slot.Restamps slot := ⟨_, _, _, _, _, _, rfl⟩

structure KeyChain.Rearranges (next chain : KeyChain) : Prop where
  highWater : next.highWater = chain.highWater
  slots : ∀ place held, next.slotAt place = some held →
    ∃ old slot, chain.slotAt old = some slot ∧ held.Restamps slot

theorem KeyChain.Rearranges.refl (chain : KeyChain) : chain.Rearranges chain :=
  ⟨rfl, fun place held stands => ⟨place, held, stands, .refl held⟩⟩

theorem KeyChain.slotAt_install {chain : KeyChain} {generation : BitVec 64} {place : Place}
    {slot held : Slot} (stands : { chain with highWater := generation, pending := some slot }.slotAt
      place = some held) : (place = .pending ∧ held = slot) ∨ chain.slotAt place = some held := by
  cases place with
  | pending => exact .inl ⟨rfl, (some.inj stands).symm⟩
  | current | previous => exact .inr stands

section Kinds

variable {crypto : Crypto} {before channel next : Channel} {call : Call} {later : List Event}

theorem Channel.promote_rearranges {slot : Slot} {now : Millis}
    (waits : channel.pending = some slot) :
    (channel.promote slot now).toKeyChain.Rearranges channel.toKeyChain := by
  constructor
  · rfl
  · intro place held stands
    cases place with
    | pending => cases stands
    | current =>
      cases stands
      exact ⟨.pending, slot, waits, _, _, _, _, _, _, rfl⟩
    | previous =>
      obtain ⟨current, present, rfl⟩ := map_eq_some_iff.1 stands
      exact ⟨.current, current, present, _, _, _, _, _, _, rfl⟩

theorem Channel.cancelPending_rearranges :
    channel.cancelPending.toKeyChain.Rearranges channel.toKeyChain := by
  constructor
  · rfl
  · intro place held stands
    cases place with
    | pending => cases stands
    | current =>
      obtain ⟨current, present, rfl⟩ := map_eq_some_iff.1 stands
      exact ⟨.current, current, present, _, _, _, _, _, _, rfl⟩
    | previous => exact ⟨.previous, held, stands, .refl held⟩

inductive Move.Kind (crypto : Crypto) (before : Channel) (call : Call) (channel : Channel) :
    List Event → Channel → Prop
  | stepped {closing : Prop} {place : Place} {slot held : Slot} {later : List Event}
      (stands : channel.slotAt place = some slot)
      (step : SlotStep crypto before call (channel.pending = none) closing place slot later held) :
      Kind crypto before call channel later (channel.put place held)
  | installed {encoded : Bytes} {slot : Slot} {envelope : WrappedPairSeed} {next : Channel}
      (unused : slot.Unused crypto) (parsed : parseRecipient encoded = some (slot.offer, envelope))
      (role : envelope.recipientRole = slot.role)
      (fresh : channel.highWater < slot.offer.keyGeneration) (empty : channel.pending = none)
      (chain : next.toKeyChain =
        { channel.toKeyChain with
          highWater := slot.offer.keyGeneration, pending := some slot }) :
      Kind crypto before call channel [.installed encoded slot.offer slot.hash slot.role] next
  | rearranged {next : Channel} {later : List Event}
      (slots : next.toKeyChain.Rearranges channel.toKeyChain)
      (quiet : later = [] ∨ ∃ slot : Slot, later = [slot.promotion]) :
      Kind crypto before call channel later next
  | promoted {closing : Prop} {place : Place} {slot held promoted : Slot} {later : List Event}
      {next : Channel} (stands : channel.slotAt place = some slot)
      (step : SlotStep crypto before call (channel.pending = none) closing place slot later held)
      (slots : next.toKeyChain.Rearranges (channel.put place held).toKeyChain) :
      Kind crypto before call channel (later ++ [promoted.promotion]) next

theorem Move.kind (move : Move crypto before call channel later next) :
    Move.Kind crypto before call channel later next := by
  cases move with
  | slot stands step => exact .stepped stands step
  | promote now waits cause =>
    exact .rearranged (Channel.promote_rearranges waits) (.inr ⟨_, rfl⟩)
  | @acknowledge slot packet bytes now waits responder received ready signs =>
    have stands : channel.slotAt .pending = some slot := waits
    let held := { slot with nextSequence := slot.nextSequence + 1, commitAckBytes := bytes }
    have moved : ((channel.put .pending held).promote held now).toKeyChain.Rearranges
        (channel.put .pending held).toKeyChain := Channel.promote_rearranges rfl
    exact .promoted stands (.acknowledges received ready signs) moved
  | fallback =>
    apply Kind.rearranged _ (.inl rfl)
    exact ⟨rfl, fun place _ stands => by cases place <;> cases stands⟩
  | cancel settled => exact .rearranged Channel.cancelPending_rearranges (.inl rfl)
  | forget =>
    apply Kind.rearranged _ (.inl rfl)
    refine ⟨rfl, fun place held stands => ?_⟩
    cases place with
    | previous => cases stands
    | pending => exact ⟨.pending, held, stands, .refl held⟩
    | current => exact ⟨.current, held, stands, .refl held⟩
  | install offered built fresh empty settled follows =>
    obtain ⟨unused, envelope, parsed, role⟩ := Slot.ofOffer_unused built
    exact .installed unused parsed role fresh empty rfl
  | flags step =>
    apply Kind.rearranged _ (.inl rfl)
    rw [step.toKeyChain]
    exact .refl _

end Kinds

def Event.keyGeneration : Event → Option (BitVec 64)
  | .installed _ offer _ _ => some offer.keyGeneration
  | _ => none

open Event

def Event.encoded : Event → Option Bytes
  | .installed encoded _ _ _ => some encoded
  | _ => none

structure Genuine (crypto : Crypto) (encoded : Bytes) (offer : RelayOffer) (hash : OfferHash)
    (role : PeerRole) : Prop where
  valid : offer.Valid
  hashed : offer.hash crypto = some hash
  hash_ne : hash ≠ 0
  parsed : ∃ envelope, parseRecipient encoded = some (offer, envelope) ∧
    envelope.recipientRole = role

structure Channel.Provenance (crypto : Crypto) (channel : Channel) (events : List Event) :
    Prop where
  held : ∀ place, ∀ slot ∈ channel.slotAt place,
    ∃ encoded, .installed encoded slot.offer slot.hash slot.role ∈ events
  genuine : ∀ encoded offer hash role, .installed encoded offer hash role ∈ events →
    Genuine crypto encoded offer hash role
  increasing : (events.filterMap Event.keyGeneration).Pairwise (· < ·)
  bounded : ∀ generation ∈ events.filterMap Event.keyGeneration, generation ≤ channel.highWater

section Provenance

variable {crypto : Crypto} {before channel next : Channel} {call : Call} {events later : List Event}

variable {place : Place} {slot : Slot} {alone closing : Prop} {held : Slot}

theorem SlotStep.no_installation
    (step : SlotStep crypto before call alone closing place slot later held) :
    later.filterMap Event.keyGeneration = [] := by
  cases step <;> rfl

section

variable (provenance : channel.Provenance crypto events)
include provenance

theorem Channel.Provenance.extend (quiet : later.filterMap Event.keyGeneration = [])
    (highWater : next.highWater = channel.highWater)
    (slots : ∀ place held, next.slotAt place = some held → ∃ old slot,
      channel.slotAt old = some slot ∧ held.offer = slot.offer ∧ held.hash = slot.hash ∧
        held.role = slot.role) : next.Provenance crypto (events ++ later) := by
  have none_later : ∀ encoded offer hash role, installed encoded offer hash role ∉ later := by
    intro encoded offer hash role member
    have listed : offer.keyGeneration ∈ later.filterMap keyGeneration :=
      mem_filterMap.2 ⟨_, member, rfl⟩
    rw [quiet] at listed
    cases listed
  constructor
  · intro place held stands
    obtain ⟨old, slot, standing, offer, hash, role⟩ := slots place held stands
    obtain ⟨encoded, member⟩ := provenance.held old slot standing
    rw [offer, hash, role]
    exact ⟨encoded, mem_append_left _ member⟩
  · intro encoded offer hash role member
    rcases mem_append.1 member with earlier | later
    · exact provenance.genuine encoded offer hash role earlier
    · exact absurd later (none_later encoded offer hash role)
  · rw [filterMap_append, quiet, append_nil]
    exact provenance.increasing
  · rw [filterMap_append, quiet, append_nil, highWater]
    exact provenance.bounded

theorem Channel.Provenance.stepped (stands : channel.slotAt place = some slot)
    (step : SlotStep crypto before call alone closing place slot later held) :
    (channel.put place held).Provenance crypto (events ++ later) := by
  apply provenance.extend step.no_installation
  · cases place <;> rfl
  · intro other shown standing
    rcases slotAt_put_eq_some standing with ⟨_, rfl⟩ | ⟨_, standing⟩
    · exact ⟨place, slot, stands, step.same⟩
    · exact ⟨other, shown, standing, rfl, rfl, rfl⟩

theorem Channel.Provenance.rearranged (slots : next.toKeyChain.Rearranges channel.toKeyChain)
    (quiet : later.filterMap Event.keyGeneration = []) :
    next.Provenance crypto (events ++ later) := by
  apply provenance.extend quiet slots.highWater
  intro place held stands
  obtain ⟨old, slot, standing, _, _, _, _, _, _, rfl⟩ := slots.slots place held stands
  exact ⟨old, slot, standing, rfl, rfl, rfl⟩

theorem Channel.Provenance.installed {encoded : Bytes}
    (genuine : Genuine crypto encoded slot.offer slot.hash slot.role)
    (fresh : channel.highWater < slot.offer.keyGeneration) (chain : next.toKeyChain =
      { channel.toKeyChain with highWater := slot.offer.keyGeneration, pending := some slot }) :
    next.Provenance crypto (events ++ [.installed encoded slot.offer slot.hash slot.role]) := by
  have generations :
      (events ++ [Event.installed encoded slot.offer slot.hash slot.role]).filterMap
          keyGeneration =
        events.filterMap keyGeneration ++ [slot.offer.keyGeneration] := by
    simp [keyGeneration]
  constructor
  · intro place held stands
    rw [chain] at stands
    rcases KeyChain.slotAt_install stands with ⟨_, rfl⟩ | stands
    · exact ⟨encoded, mem_append_right _ (mem_singleton.2 rfl)⟩
    · obtain ⟨wire, member⟩ := provenance.held place held stands
      exact ⟨wire, mem_append_left _ member⟩
  · intro wire offer hash side member
    rcases mem_append.1 member with earlier | new
    · exact provenance.genuine wire offer hash side earlier
    · cases mem_singleton.1 new
      exact genuine
  · rw [generations, pairwise_append]
    refine ⟨provenance.increasing, pairwise_singleton _ _, ?_⟩
    intro earlier member last new
    rw [mem_singleton.1 new]
    exact Nat.lt_of_le_of_lt (provenance.bounded earlier member) fresh
  · intro generation member
    rw [chain]
    rw [generations, mem_append] at member
    rcases member with earlier | new
    · exact Nat.le_of_lt (Nat.lt_of_le_of_lt (provenance.bounded generation earlier) fresh)
    · rw [mem_singleton.1 new]
      exact BitVec.le_refl _

theorem Channel.Provenance.move (move : Move crypto before call channel later next) :
    next.Provenance crypto (events ++ later) := by
  cases move.kind with
  | stepped stands step => exact provenance.stepped stands step
  | installed unused parsed role fresh empty chain =>
    exact provenance.installed
      ⟨unused.valid, unused.hashed, unused.hash_ne, _, parsed, role⟩ fresh chain
  | rearranged slots quiet =>
    exact provenance.rearranged slots (by rcases quiet with rfl | ⟨slot, rfl⟩ <;> rfl)
  | promoted stands step slots =>
    rw [← append_assoc]
    exact (provenance.stepped stands step).rearranged slots rfl

end

theorem Channel.provenance_empty (empty : channel.toKeyChain = {}) :
    channel.Provenance crypto [] := by
  constructor
  · intro place slot stands
    rw [empty] at stands
    cases place <;> cases stands
  all_goals simp

theorem Node.provenance (crypto : Crypto) (calls : List Call) :
    Throughout (Channel.Provenance crypto) (run (step crypto) {} calls) := by
  apply run_epoch
  · exact fun _ empty _ => Channel.provenance_empty empty
  · exact fun _ _ _ _ _ _ provenance move => provenance.move move

theorem Channel.Provenance.encoded_nodup (provenance : channel.Provenance crypto events) :
    (events.filterMap Event.encoded).Nodup := by
  let generation (encoded : Bytes) : Option (BitVec 64) :=
    (parseRecipient encoded).map fun parsed => parsed.1.keyGeneration
  have mapped : (events.filterMap encoded).map generation =
      (events.filterMap keyGeneration).map some := by
    rw [map_filterMap, map_filterMap]
    apply filterMap_congr
    intro event member
    cases event with
    | installed encoded offer hash role =>
      obtain ⟨envelope, parsed, _⟩ := (provenance.genuine encoded offer hash role member).parsed
      simp [Event.encoded, keyGeneration, generation, parsed]
    | _ => rfl
  apply Nodup.of_map generation
  rw [mapped]
  apply Nodup.map (some_injective _)
  exact provenance.increasing.imp fun less => BitVec.ne_of_lt less

end Provenance

/-- A reset within the generation of the channel lets the same encoded offer in
again, and its numbers start over at 0. -/
theorem reset_reinstalls_offer :
    let accept : Call :=
      .acceptOffer (encode (Sample.offer 1 0) .initiator) initiatorContext exporter 1 1
    let node := run (Node.step Sample.crypto) {} [accept, .reset 1, accept]
    ¬ (node.events.filterMap Event.encoded).Nodup ∧ node.channel.generation = 1 ∧
      node.channel.pending.map Slot.nextSequence = some 0 := by
  decide +kernel

/-- Between two boundaries an encoded offer is installed at most once. -/
theorem offer_installed_once (crypto : Crypto) (calls : List Call) :
    ∀ epoch ∈ (run (Node.step crypto) {} calls).epochs, (epoch.filterMap Event.encoded).Nodup := by
  obtain ⟨present, past⟩ := Node.provenance crypto calls
  intro epoch member
  rcases mem_cons.1 member with rfl | earlier
  · exact present.encoded_nodup
  · obtain ⟨channel, provenance⟩ := past epoch earlier
    exact provenance.encoded_nodup

/-- Offered twice to one registration and once more after a reset: each of the two
epochs installs it once. -/
theorem offer_installed_once_offered_again :
    let accept : Call :=
      .acceptOffer (encode (offer 1 0) .initiator) initiatorContext exporter 1 1
    let node := run (Node.step Sample.crypto) {} [accept, accept, .reset 1, accept]
    (node.events.filterMap encoded).length = 2 ∧
      (node.epoch.filterMap encoded).length = 1 ∧
      (node.epoch.filterMap encoded).Nodup := by
  intro accept node
  have evaluated : (node.events.filterMap encoded).length = 2 ∧
      (node.epoch.filterMap encoded).length = 1 := by
    decide +kernel
  exact ⟨evaluated.1, evaluated.2, offer_installed_once crypto _ node.epoch mem_cons_self⟩

/-- Within an epoch the generations of the installed keys increase, and every key that the channel
holds comes from a genuine offer installed in the epoch. -/
theorem keys_from_newer_offers (crypto : Crypto) (calls : List Call) :
    let node := run (Node.step crypto) {} calls
    (∀ epoch ∈ node.epochs, (epoch.filterMap Event.keyGeneration).Pairwise (· < ·)) ∧
      ∀ place, ∀ slot ∈ node.channel.slotAt place, ∃ encoded,
        .installed encoded slot.offer slot.hash slot.role ∈ node.epoch ∧
          Genuine crypto encoded slot.offer slot.hash slot.role := by
  obtain ⟨present, past⟩ := Node.provenance crypto calls
  constructor
  · intro epoch member
    rcases mem_cons.1 member with rfl | earlier
    · exact present.increasing
    · obtain ⟨_, provenance⟩ := past epoch earlier
      exact provenance.increasing
  · intro place slot stands
    obtain ⟨encoded, member⟩ := present.held place slot stands
    exact ⟨encoded, member, present.genuine _ _ _ _ member⟩

open DataHeader Node

namespace Channel

variable {crypto : Crypto} {before channel next : Channel} {call : Call} {events : List Event}

def RelayRespected (channel : Channel) : Prop := channel.relayOnly → channel.state ≠ .direct

theorem RelayRespected.flags (respected : channel.RelayRespected)
    (still : before.relayRecovery crypto call = false)
    (step : FlagStep crypto before call channel next) : next.RelayRespected := by
  cases step with
  | suspect present | rest absent => exact fun _ direct => by cases direct
  | recover present relay =>
    intro switched
    rw [relay switched] at still
    cases still
  | relayOnly enabled =>
    intro switched
    have on : enabled := switched
    simp [setRelayOnly, on]
  | _ => exact respected

theorem RelayRespected.move (respected : channel.RelayRespected)
    (still : before.relayRecovery crypto call = false)
    (move : Move crypto before call channel events next) : next.RelayRespected := by
  cases move with
  | slot stands step =>
    rename_i place _ _
    cases place <;> exact respected
  | promote | acknowledge =>
    intro switched
    have on : channel.relayOnly := switched
    simp [promote, on]
  | fallback => exact fun _ direct => by cases direct
  | install offered built fresh empty settled follows =>
    intro switched
    have on : channel.relayOnly := switched
    simp only [on, Bool.true_eq_false, and_false, if_false]
    exact respected on
  | cancel | forget => exact respected
  | flags step => exact respected.flags still step

theorem RelayRespected.effectivePath_iff (respected : channel.RelayRespected) :
    channel.snapshot.effectivePath = "direct" ↔
      channel.state = .direct ∧ channel.relayOnly = false := by
  simp only [snapshot]
  by_cases direct : channel.state = .direct
  · have off : channel.relayOnly = false := by
      by_contra on
      exact respected (by simpa using on) direct
    simp [direct, off]
  · simp [direct]

variable {slot : Slot} {data : Bytes}

theorem sealData_isSome (hash : slot.hash ≠ 0) (epoch : slot.offer.connectionEpoch ≠ 0)
    (usable : slot.nextSequence ≠ maxSequence) (nonempty : 1 ≤ data.length)
    (fits : data.length ≤ DataHeader.maxPayloadSize) : (slot.sealData crypto data).isSome := by
  have size : (BitVec.ofNat 16 data.length).toNat = data.length := by
    apply Nat.mod_eq_of_lt
    simp only [maxPayloadSize] at fits
    omega
  have roles : slot.role.code ≤ 1 ∧ 1 - slot.role.code ≤ 1 ∧
      slot.role.code ≠ 1 - slot.role.code := by
    cases slot.role <;> decide
  rw [Slot.sealData, if_neg usable, Option.isSome_map]
  apply sealDatagram_isSome nonempty fits
  exact ⟨usable, roles.1, roles.2.1, roles.2.2, rfl, size.symm ▸ nonempty, size.symm ▸ fits, hash,
    epoch⟩

theorem sealData_accepts_iff {now : Millis}
    (provenance : channel.Provenance crypto events) (present : channel.current = some slot)
    (alive : slot.Alive now) (usable : slot.nextSequence ≠ maxSequence)
    (nonempty : 1 ≤ data.length) (fits : data.length ≤ DataHeader.maxPayloadSize) :
    (channel.sealData crypto data now channel.generation).2.isSome ↔
      channel.state = .direct ∧ channel.relayOnly = false := by
  obtain ⟨encoded, member⟩ := provenance.held .current slot present
  have genuine := provenance.genuine _ _ _ _ member
  have epoch := genuine.valid.2.2.2.2.2.2.2.2.2.2.1
  have seals : (slot.sealData crypto data).isSome :=
    sealData_isSome genuine.hash_ne epoch usable nonempty fits
  obtain ⟨⟨counted, datagram⟩, sealed⟩ := Option.isSome_iff_exists.1 seals
  rw [sealData, present]
  simp only
  by_cases open_ : channel.state = .direct ∧ channel.relayOnly = false
  · rw [if_neg (by simp [open_]), if_neg (by simp [alive, usable]), sealed]
    simp [open_]
  · have barred : channel.generation ≠ channel.generation ∨ channel.state ≠ .direct ∨
        channel.relayOnly := by
      rcases not_and_or.1 open_ with state | switch
      · exact .inr (.inl state)
      · exact .inr (.inr (by simpa using switch))
    rw [if_pos barred]
    simpa using open_

end Channel

/-- In every run without a recovery under the relay switch, the reported path is the
one `SealData` takes. -/
theorem reported_path_is_real (crypto : Crypto) (calls : List Call)
    (guarded : Guarded (Node.step crypto)
      (fun node call => node.channel.relayRecovery crypto call = false) {} calls) :
    let channel := (run (step crypto) {} calls).channel
    (channel.relayOnly = true → channel.state ≠ .direct) ∧
      ∀ slot ∈ channel.current, ∀ now data, slot.Alive now → slot.nextSequence ≠ maxSequence →
        1 ≤ data.length → data.length ≤ maxPayloadSize →
        (channel.snapshot.effectivePath = "direct" ↔
          (channel.sealData crypto data now channel.generation).2.isSome) := by
  have respected : Node.Throughout (fun channel _ => channel.RelayRespected)
      (run (step crypto) {} calls) := by
    apply epoch_invariant (fun channel call => channel.relayRecovery crypto call = false) _ _
      guarded
    · intro channel _ resting _
      rw [resting]
      decide
    · intro before call still channel events later next respected move
      exact respected.move still move
  refine ⟨respected.1, ?_⟩
  intro slot present now data alive usable nonempty fits
  rw [Channel.sealData_accepts_iff (provenance crypto calls).1 present alive usable nonempty fits]
  exact Channel.RelayRespected.effectivePath_iff respected.1

theorem reported_path_is_real_after_handshake :
    let calls := System.callsOf .initiator (System.play Sample.crypto {} Sample.handshake)
    let channel := (run (step Sample.crypto) {} calls).channel
    Guarded (step Sample.crypto)
        (fun node call => node.channel.relayRecovery Sample.crypto call = false) {} calls ∧
      channel.state = .direct ∧
      ∀ slot ∈ channel.current, ∀ now data, slot.Alive now → slot.nextSequence ≠ maxSequence →
        1 ≤ data.length → data.length ≤ maxPayloadSize →
        (channel.snapshot.effectivePath = "direct" ↔
          (channel.sealData Sample.crypto data now channel.generation).2.isSome) := by
  intro calls
  -- one evaluation of the handshake serves both facts
  have evaluated : Guarded (step crypto)
      (fun node call => node.channel.relayRecovery crypto call = false) {} calls ∧
      (run (step crypto) {} calls).channel.state = .direct := by
    decide +kernel
  have path := reported_path_is_real crypto calls evaluated.1
  exact ⟨evaluated.1, evaluated.2, path.2⟩

/-- The switch is turned on, the peer falls silent long enough for a tick to suspect
it, and is heard again: the channel reports the direct path and seals nothing. -/
theorem relay_only_reports_direct :
    let script := handshake ++
      [act .responder (.sealData [1] 7 1), act .initiator (.setRelayOnly true),
        act .initiator (.tick 2100 1),
        receiveData .initiator 3 there 2101]
    let calls := System.callsOf .initiator (System.play Sample.crypto {} script)
    let channel := (run (step Sample.crypto) {} calls).channel
    (∃ slot ∈ channel.current, slot.Alive 2102 ∧ slot.nextSequence ≠ maxSequence) ∧
      channel.relayOnly = true ∧ channel.state = .direct ∧
      channel.snapshot.effectivePath = "direct" ∧
      (channel.sealData Sample.crypto [1] 2102 channel.generation).2 = none := by
  decide +kernel

end OpenPpp2.P2P
