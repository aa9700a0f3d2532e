import OpenPpp2.P2P.Party

/-!
# Agreement on a key

Two channels accept one offer, each in its own role.
-/

namespace OpenPpp2.P2P

open Lib.Run List Option Sample

namespace System

instance : LawfulBEq Bytes := inferInstance

def datagrams (system : System) : List Bytes :=
  system.initiator.datagrams ++ system.responder.datagrams

/-- What authenticates under the key of the offer was built by one of the channels. -/
def unforged (crypto : Crypto) (hash : OfferHash) (system : System) (taken : PeerRole × Call) :
    Bool :=
  let channel := (system.node taken.1).channel
  match taken.2 with
  | .handleControl bytes sender now _ =>
    (ControlPacket.parse bytes).all fun packet =>
      (channel.addressed packet.offerHash).all fun addressed =>
        addressed.2.hash = hash →
          Channel.AdmitsControl crypto addressed.1 addressed.2 packet sender now →
            bytes ∈ system.datagrams
  | .openData bytes _ _ _ =>
    channel.pending.all fun slot =>
      slot.hash = hash → (slot.openData crypto bytes).isSome → bytes ∈ system.datagrams
  | _ => true

/-- The offer is installed once by each channel, in the role of its side. It may be
handed over again while a slot is pending, when nothing is installed. -/
def acceptedOnce (crypto : Crypto) (hash : OfferHash) (system : System)
    (taken : PeerRole × Call) : Bool :=
  let node := system.node taken.1
  match taken.2 with
  | .acceptOffer encoded context exporter now _ =>
    (Slot.ofOffer crypto encoded context exporter now).all fun slot =>
      slot.hash = hash →
        (slot.role = taken.1 ∧ ¬ Installs node.events hash) ∨
          (node.channel.startsEpoch crypto taken.2 = false ∧ node.channel.pending.isSome)
  | _ => true

/-- The call makes `CommitAck` on the current slot of its channel promote the pending one. -/
def latePromotion (crypto : Crypto) (system : System) (taken : PeerRole × Call) : Bool :=
  (system.node taken.1).channel.latePromotion crypto taken.2

end System

section Steps

variable {crypto : Crypto} {before channel next : Channel} {call : Call} {alone closing : Prop}
  {slot held : Slot} {later : List Event} {hash : OfferHash}

theorem Move.promotes {role : PeerRole} {here peer : Endpoint}
    (move : Move crypto before call channel later next)
    (member : .promoted hash role here peer ∈ later) :
    ∃ slot ∈ channel.pending, slot.hash = hash ∧ slot.localCandidate = here ∧
      slot.peerCandidate = peer ∧
      (Cause crypto before call slot ∨ (slot.role = .responder ∧ slot.commitReceived)) := by
  cases move with
  | slot stands step => exact absurd member (step.no_promotion hash role here peer)
  | promote now waits cause =>
    obtain ⟨own, _, here, peer⟩ := Event.promoted.inj (mem_singleton.1 member)
    exact ⟨_, waits, own.symm, here.symm, peer.symm, .inl cause⟩
  | @acknowledge slot packet bytes now waits responder received ready signs =>
    have promotion : Event.promoted hash role here peer = slot.promotion := by
      simpa using member
    obtain ⟨own, _, here, peer⟩ := Event.promoted.inj promotion
    exact ⟨slot, waits, own.symm, here.symm, peer.symm, .inr ⟨responder, received⟩⟩
  | install offered built fresh empty settled follows => cases mem_singleton.1 member
  | fallback | cancel settled | forget | flags step => cases member

theorem SlotStep.receives (step : SlotStep crypto before call alone closing .pending slot later held)
    (received : held.commitReceived) : slot.role = .initiator ∨
      (slot.commitReceived ∧ held.localCandidate = slot.localCandidate ∧
        held.peerCandidate = slot.peerCandidate) ∨
      ∃ first packet, Heard crypto before call .pending first packet ∧ first.hash = slot.hash ∧
        packet.type = .keyCommit ∧ packet.destination = held.localCandidate ∧
        packet.source = held.peerCandidate := by
  cases step with
  | commit now initiator open_ signs | nominate here peer initiator open_ exhausted =>
    exact .inl initiator
  | receiveCommit responder new heard same type length probed =>
    exact .inr (.inr ⟨_, _, heard, same, type, rfl, rfl⟩)
  | _ => exact .inr (.inl ⟨received, rfl, rfl⟩)

end Steps

/-- The initiator's side of the agreement, given what the responder has done. -/
structure Follows (hash : OfferHash) (peer : List Event) (channel : Channel)
    (events : List Event) : Prop where
  party : Party hash .initiator channel events
  after : Promotes events hash → Promotes peer hash

/-- The responder's side of the agreement, given what the initiator has done. -/
structure Leads (hash : OfferHash) (peer : List Event) (channel : Channel)
    (events : List Event) : Prop where
  party : Party hash .responder channel events
  acks : ∀ packet, Builds events packet → packet.offerHash = hash →
    packet.type = .keyCommitAck → Promotes events hash
  received : ∀ slot ∈ channel.pending, slot.hash = hash → slot.commitReceived →
    ∃ packet, Commits peer hash packet ∧ packet.destination = slot.localCandidate ∧
      packet.source = slot.peerCandidate
  mirrored : ∀ role here there, .promoted hash role here there ∈ events →
    ∃ packet, Commits peer hash packet ∧ packet.destination = here ∧ packet.source = there

section Moves

variable {crypto : Crypto} {before channel next : Channel} {call : Call}
  {events later peer : List Event} {hash : OfferHash}

theorem Follows.move (follows : Follows hash peer channel events)
    (usual : before.latePromotion crypto call = false)
    (once : InstallsOnce crypto hash .initiator channel events call)
    (reached : ∀ slot : Slot, slot.hash = hash → Cause crypto before call slot → Promotes peer hash)
    (move : Move crypto before call channel later next) :
    Follows hash peer next (events ++ later) := by
  refine ⟨follows.party.move usual once move, ?_⟩
  rintro ⟨role, here, there, member⟩
  rcases mem_append.1 member with earlier | new
  · exact follows.after ⟨role, here, there, earlier⟩
  obtain ⟨slot, waits, own, _, _, cause | ⟨responder, _⟩⟩ := move.promotes new
  · exact reached slot own cause
  · rw [(follows.party.roles .pending slot waits own).1] at responder
    cases responder

theorem Leads.move (leads : Leads hash peer channel events)
    (usual : before.latePromotion crypto call = false)
    (once : InstallsOnce crypto hash .responder channel events call)
    (committed : ∀ slot packet, Heard crypto before call .pending slot packet →
      slot.hash = hash → packet.type = .keyCommit → Commits peer hash packet)
    (move : Move crypto before call channel later next) :
    Leads hash peer next (events ++ later) := by
  have party := leads.party
  have responder : ∀ slot ∈ channel.pending, slot.hash = hash → slot.role ≠ .initiator := by
    intro slot waits own initiator
    rw [(party.roles .pending slot waits own).1] at initiator
    cases initiator
  refine ⟨party.move usual once move, ?_, ?_, ?_⟩
  · intro packet builds offer type
    cases move with
    | slot stands step =>
      rcases party.builds_step stands step builds with earlier | ⟨signed, _, _, ack⟩
      · exact (leads.acks packet earlier offer type).append _
      · exact (party.active _ _ stands (signed.symm.trans offer) (ack type)).1.append _
    | @acknowledge slot packet' bytes now waits _ received ready signs =>
      rcases built_append builds with earlier | ⟨wire, new, parsed⟩
      · exact (leads.acks packet earlier offer type).append _
      · have built : wire = bytes := by simpa [Slot.promotion] using new
        cases some.inj (parsed.symm.trans (built ▸ signs.parse))
        have signed : slot.hash = hash := signs.offerHash.symm.trans offer
        refine ⟨slot.role, slot.localCandidate, slot.peerCandidate, ?_⟩
        simp [Slot.promotion, signed]
    | promote now waits cause =>
      exact (leads.acks packet (builds_of_append (by simp [Slot.promotion]) builds) offer
        type).append _
    | install offered built fresh empty settled follows
    | fallback | cancel settled | forget | flags step =>
      exact (leads.acks packet (builds_of_append (by simp) builds) offer type).append _
  · intro shown standing own received
    cases move with
    | @slot place slot held _ stands step =>
      rcases Channel.pending_put standing with ⟨rfl, rfl⟩ | ⟨_, standing⟩
      · have mine : slot.hash = hash := step.same.2.1.symm.trans own
        rcases step.receives received with initiator | ⟨before, here, there⟩ |
          ⟨first, packet, heard, same, type, destination, source⟩
        · exact absurd initiator (responder slot stands mine)
        · rw [here, there]
          exact leads.received slot stands mine before
        · exact ⟨packet, committed first packet heard (same.trans mine) type, destination, source⟩
      · exact leads.received shown standing own received
    | promote now waits cause | acknowledge now waits responder received ready signs | fallback
    | cancel settled => cases standing
    | install offered built fresh empty settled follows =>
      cases standing
      rw [(Slot.ofOffer_unused built).1.commitReceived] at received
      cases received
    | forget => exact leads.received shown standing own received
    | flags step =>
      rw [step.toKeyChain] at standing
      exact leads.received shown standing own received
  · intro role here there member
    rcases mem_append.1 member with earlier | new
    · exact leads.mirrored role here there earlier
    obtain ⟨slot, waits, own, rfl, rfl, cause | ⟨_, received⟩⟩ := move.promotes new
    · exact absurd (cause.ready usual).1 (responder slot waits own)
    · exact leads.received slot waits own received

variable {started : Channel}

theorem Party.emptied {side : PeerRole} (party : Party hash side channel events)
    (empty : started.toKeyChain = {}) : Party hash side started events := by
  have kept : Party hash side started (events ++ []) := by
    refine party.carry (fun place slot stands => ?_) (fun _ => not_mem_nil) fun _ _ _ => not_mem_nil
    rw [empty] at stands
    cases place <;> cases stands
  rwa [append_nil] at kept

theorem Follows.emptied (follows : Follows hash peer channel events)
    (empty : started.toKeyChain = {}) : Follows hash peer started events :=
  ⟨follows.party.emptied empty, follows.after⟩

theorem Leads.emptied (leads : Leads hash peer channel events)
    (empty : started.toKeyChain = {}) : Leads hash peer started events := by
  refine ⟨leads.party.emptied empty, leads.acks, ?_, leads.mirrored⟩
  · intro slot waits
    rw [empty] at waits
    cases waits

theorem Follows.grow (follows : Follows hash peer channel events) (later : List Event) :
    Follows hash (peer ++ later) channel events :=
  ⟨follows.party, fun promotes => (follows.after promotes).append later⟩

theorem Leads.grow (leads : Leads hash peer channel events) (later : List Event) :
    Leads hash (peer ++ later) channel events := by
  refine ⟨leads.party, leads.acks, ?_, ?_⟩
  · intro slot waits own received
    obtain ⟨packet, ⟨builds, kind⟩, pair⟩ := leads.received slot waits own received
    exact ⟨packet, ⟨builds.append later, kind⟩, pair⟩
  · intro role here there member
    obtain ⟨packet, ⟨builds, kind⟩, pair⟩ := leads.mirrored role here there member
    exact ⟨packet, ⟨builds.append later, kind⟩, pair⟩

end Moves

namespace System

structure Agreement (hash : OfferHash) (system : System) : Prop where
  follows : Follows hash system.responder.events system.initiator.channel system.initiator.events
  leads : Leads hash system.initiator.events system.responder.channel system.responder.events

section Step

variable {crypto : Crypto} {hash : OfferHash} {system : System} {side : PeerRole} {call : Call}
  {place : Place} {slot : Slot}

theorem Agreement.party (agreement : Agreement hash system) (side : PeerRole) :
    Party hash side (system.node side).channel (system.node side).events := by
  cases side with
  | initiator => exact agreement.follows.party
  | responder => exact agreement.leads.party

theorem built_of_mem_datagrams {bytes : Bytes} (member : bytes ∈ system.datagrams)
    (side : PeerRole) :
    .built bytes ∈ (system.node side).events ∨ .built bytes ∈ (system.node side.other).events := by
  have built : ∀ node : Node, bytes ∈ node.datagrams → .built bytes ∈ node.events := by
    intro node member
    obtain ⟨event, present, shown⟩ := mem_filterMap.1 member
    cases event with
    | built datagram =>
      cases shown
      exact present
    | _ => cases shown
  rcases mem_append.1 member with mine | mine <;> cases side
  · exact .inl (built _ mine)
  · exact .inr (built _ mine)
  · exact .inr (built _ mine)
  · exact .inl (built _ mine)

theorem Agreement.heard {packet : ControlPacket} (agreement : Agreement hash system)
    (genuine : system.unforged crypto hash (side, call))
    (heard : Heard crypto (system.node side).channel call place slot packet)
    (own : slot.hash = hash) :
    Builds (system.node side.other).events packet ∧ packet.offerHash = hash := by
  obtain ⟨bytes, from_, now, rfl, parsed, addressed, admits⟩ := heard
  obtain ⟨offer, _, receiver, sender, _⟩ := admits.2.2.2
  have member : bytes ∈ system.datagrams := by
    simp only [unforged, parsed, addressed, all_some, decide_eq_true_eq] at genuine
    exact genuine own admits
  have carries : packet.offerHash = hash := offer.trans own
  refine ⟨?_, carries⟩
  rcases built_of_mem_datagrams member side with mine | theirs
  · -- its own packets carry its own role, and it would not take them
    have party := agreement.party side
    have role := (party.roles place slot (Channel.addressed_eq_some addressed).1 own).1
    have signed := (party.control packet ⟨bytes, mine, parsed⟩ carries).1
    rw [sender, receiver, role, PeerRole.one_sub_code] at signed
    exact absurd (PeerRole.code_injective signed) side.other_ne
  · exact ⟨bytes, theirs, parsed⟩

theorem Agreement.opens {header : DataHeader} (agreement : Agreement hash system)
    (genuine : system.unforged crypto hash (side, call))
    (opens : Opens crypto (system.node side).channel call slot header) (own : slot.hash = hash) :
    Seals (system.node side.other).events header ∧ header.offerHash = hash := by
  obtain ⟨bytes, from_, now, rfl, parsed, waits, opened⟩ := opens
  have member : bytes ∈ system.datagrams := by
    simp only [unforged, waits, all_some, decide_eq_true_eq] at genuine
    exact genuine own opened
  obtain ⟨⟨plaintext, window⟩, opened⟩ := isSome_iff_exists.1 opened
  obtain ⟨read, parsed', offer, receiver, sender, _⟩ := Slot.openData_eq_some opened
  cases some.inj (parsed.symm.trans parsed')
  have carries : header.offerHash = hash := offer.trans own
  refine ⟨?_, carries⟩
  rcases built_of_mem_datagrams member side with mine | theirs
  · have party := agreement.party side
    have role := (party.roles .pending slot waits own).1
    have sealed := (party.data header ⟨bytes, mine, parsed⟩ carries).1
    rw [sender, receiver, role, PeerRole.one_sub_code] at sealed
    exact absurd (PeerRole.code_injective sealed) side.other_ne
  · exact ⟨bytes, theirs, parsed⟩

theorem installs_once (once : system.acceptedOnce crypto hash (side, call))
    {channel : Channel} {events : List Event}
    (begins : call.offers → events = (system.node side).events ∧
      (channel = (system.node side).channel ∨ (system.node side).channel.startsEpoch crypto call)) :
    InstallsOnce crypto hash side channel events call := by
  rintro empty encoded context exporter now generation rfl slot built own
  obtain ⟨rfl, starts⟩ := begins rfl
  simp only [acceptedOnce, mem_def.1 built, all_some, decide_eq_true_eq] at once
  rcases once own with first | ⟨continues, waits⟩
  · exact first
  · rcases starts with rfl | starts
    · simp [empty] at waits
    · rw [continues] at starts
      cases starts

theorem agreement_empty (hash : OfferHash) : Agreement hash {} := by
  have party : ∀ side, Party hash side {} [] :=
    fun side => .start (fun place => by cases place <;> rfl)
  exact ⟨⟨party _, by simp [Promotes, Node.events]⟩, party _, by simp [Builds, Node.events],
    by simp, by simp [Node.events]⟩

theorem Agreement.step (agreement : Agreement hash system)
    (genuine : system.unforged crypto hash (side, call))
    (once : system.acceptedOnce crypto hash (side, call))
    (usual : system.latePromotion crypto (side, call) = false) :
    Agreement hash (system.step crypto (side, call)) := by
  cases side with
  | initiator =>
    have follows := system.initiator.step_history call agreement.follows
      (fun _ empty => agreement.follows.emptied empty)
      (fun channel events later next begins holds move =>
        holds.move usual (installs_once once begins) (fun slot own cause => by
          cases cause with
          | late late => exact absurd (usual.symm.trans late) (by decide)
          | confirmed initiator sent ready heard same type =>
            obtain ⟨builds, offer⟩ := agreement.heard genuine heard (same.trans own)
            exact agreement.leads.acks _ builds offer type
          | data initiator sent ready opens same =>
            obtain ⟨seals, offer⟩ := agreement.opens genuine opens (same.trans own)
            exact (agreement.leads.party.data _ seals offer).2) move)
    obtain ⟨later, grown⟩ := system.initiator.step_extends crypto call
    refine ⟨follows, ?_⟩
    have leads := agreement.leads.grow later
    rw [← grown] at leads
    exact leads
  | responder =>
    have leads := system.responder.step_history call agreement.leads
      (fun _ empty => agreement.leads.emptied empty)
      (fun channel events later next begins holds move =>
        holds.move usual (installs_once once begins) (fun slot packet heard own type => by
          obtain ⟨builds, offer⟩ := agreement.heard genuine heard own
          exact ⟨builds, type, offer⟩) move)
    obtain ⟨later, grown⟩ := system.responder.step_extends crypto call
    refine ⟨?_, leads⟩
    have follows := agreement.follows.grow later
    rw [← grown] at follows
    exact follows

end Step

end System

/-- The initiator promotes the key after the responder, on the mirrored pair. -/
theorem promotion_agreement (crypto : Crypto) (hash : OfferHash) (taken : List (PeerRole × Call))
    (guarded : Guarded (System.step crypto) (fun system taken =>
        (system.unforged crypto hash taken = true ∧ system.acceptedOnce crypto hash taken = true) ∧
        system.latePromotion crypto taken = false) {} taken) :
    let system := run (System.step crypto) {} taken
    ∀ role here peer, .promoted hash role here peer ∈ system.initiator.events →
      (∃ role here peer, .promoted hash role here peer ∈ system.responder.events) ∧
      ∀ role' here' peer', .promoted hash role' here' peer' ∈ system.responder.events →
        here = peer' ∧ peer = here' := by
  have agreement : System.Agreement hash (run (System.step crypto) {} taken) := by
    apply guarded_invariant _ guarded
    · exact System.agreement_empty hash
    · rintro system ⟨side, call⟩ ⟨⟨genuine, once⟩, usual⟩ agreement
      exact agreement.step genuine once usual
  intro system role here peer promoted
  refine ⟨agreement.follows.after ⟨role, here, peer, promoted⟩, ?_⟩
  intro role' here' peer' promoted'
  obtain ⟨packet, commits, destination, source⟩ :=
    agreement.leads.mirrored role' here' peer' promoted'
  obtain ⟨from_, to_⟩ := agreement.follows.party.settled role here peer promoted packet commits
  exact ⟨from_.symm.trans source, to_.symm.trans destination⟩

namespace Sample

def key (offer : RelayOffer) : OfferHash := (offer.hash crypto).getD 0

end Sample

theorem promotion_agreement_after_handshake :
    let taken := System.play Sample.crypto {} Sample.handshake
    let system := run (System.step Sample.crypto) {} taken
    let hash := key (Sample.offer 1 0)
    .promoted hash .initiator Sample.here there ∈ system.initiator.events ∧
      (∃ role here peer, .promoted hash role here peer ∈ system.responder.events) ∧
      ∀ role here peer, .promoted hash role here peer ∈ system.responder.events →
        Sample.here = peer ∧ there = here := by
  intro taken system hash
  -- one evaluation of the handshake serves both facts
  have evaluated : Guarded (System.step crypto)
      (fun system taken =>
        (system.unforged crypto hash taken = true ∧
          system.acceptedOnce crypto hash taken = true) ∧
        system.latePromotion crypto taken = false) {} taken ∧
      .promoted hash .initiator here there ∈ system.initiator.events := by
    decide +kernel
  exact ⟨evaluated.2, promotion_agreement crypto hash taken evaluated.1 _ _ _ evaluated.2⟩

namespace Sample

def renewal : RelayOffer := offer 2 (key (offer 1 0))

/-- Both pairs are probed, the key is established on the first pair, and the
responder roams to the second. -/
def roamed : List System.Cue :=
  [accept .initiator (offer 1 0) 1, accept .responder (offer 1 0) 1,
    act .initiator (.createProbe here there 2 1), act .initiator (.createProbe here elsewhere 2 1),
    act .responder (.createProbe there here 2 1), act .responder (.createProbe elsewhere here 2 1),
    receive .responder 0 here 3, receive .responder 1 here 3,
    receive .initiator 0 there 3, receive .initiator 1 elsewhere 3,
    receive .initiator 2 there 4, receive .responder 2 here 4,
    receive .responder 4 here 5, receive .initiator 4 there 6,
    act .responder (.sealData [1] 7 1),
    { side := .initiator
      index := 5
      call := fun datagram => .handleNewEndpointData datagram elsewhere 8 1 },
    receive .responder 5 here 9, receive .initiator 6 elsewhere 10]

/-- Both sides accept the renewal and probe for it. The answer to the first key's
second probe arrives only now, and the responder promotes the renewed key before it
has heard of a pair; the initiator commits, and promotes on the responder's data. -/
def renewed : List System.Cue :=
  roamed ++
    [accept .initiator renewal 11, accept .responder renewal 11,
      act .responder (.createProbe there here 12 1), act .initiator (.createProbe here there 12 1),
      receive .initiator 7 there 13, receive .responder 6 here 13,
      receive .responder 3 here 14, receive .initiator 8 there 15,
      act .responder (.sealData [2] 16 1), receiveData .initiator 10 there 17]

end Sample

/-- Nothing is forged and each side installs the renewal once, yet the two sides
promote it on pairs that are not mirrored. -/
theorem late_probe_ack_breaks_agreement :
    let taken := System.play Sample.crypto {} renewed
    let system := run (System.step Sample.crypto) {} taken
    let hash := key Sample.renewal
    Guarded (System.step Sample.crypto)
      (fun system taken => system.unforged Sample.crypto hash taken = true ∧
        system.acceptedOnce Sample.crypto hash taken = true) {} taken ∧
    .promoted hash .initiator here there ∈ system.initiator.events ∧
    .promoted hash .responder {} {} ∈ system.responder.events ∧
    ¬ (here = {} ∧ there = {}) := by
  decide +kernel

end OpenPpp2.P2P
