import OpenPpp2.P2P.Inertness
import OpenPpp2.P2P.Nonces

/-!
# One party of a key agreement

What a node that installs an offer once, in one role, can have built under its hash, and how that
fits the slot and the promotions of that hash.
-/

namespace OpenPpp2.P2P

open List Option Channel ControlPacket

def Promotes (events : List Event) (hash : OfferHash) : Prop :=
  ∃ role here peer, .promoted hash role here peer ∈ events

def Builds (events : List Event) (packet : ControlPacket) : Prop :=
  ∃ bytes, .built bytes ∈ events ∧ ControlPacket.parse bytes = some packet

def Seals (events : List Event) (header : DataHeader) : Prop :=
  ∃ bytes, .built bytes ∈ events ∧ DataHeader.parse bytes = some header

def Commits (events : List Event) (hash : OfferHash) (packet : ControlPacket) : Prop :=
  Builds events packet ∧ packet.type = .keyCommit ∧ packet.offerHash = hash

section Append

variable {events later : List Event} {hash : OfferHash} {packet : ControlPacket}

theorem Promotes.append (promotes : Promotes events hash) (later : List Event) :
    Promotes (events ++ later) hash := by
  obtain ⟨role, here, peer, member⟩ := promotes
  exact ⟨role, here, peer, mem_append_left _ member⟩

theorem Builds.append (builds : Builds events packet) (later : List Event) :
    Builds (events ++ later) packet := by
  obtain ⟨bytes, member, parsed⟩ := builds
  exact ⟨bytes, mem_append_left _ member, parsed⟩

theorem built_append {α : Type} {read : Bytes → Option α} {value : α}
    (built : ∃ bytes, .built bytes ∈ events ++ later ∧ read bytes = some value) :
    (∃ bytes, .built bytes ∈ events ∧ read bytes = some value) ∨
      ∃ bytes, .built bytes ∈ later ∧ read bytes = some value := by
  obtain ⟨bytes, member, parsed⟩ := built
  rcases mem_append.1 member with earlier | new
  · exact .inl ⟨bytes, earlier, parsed⟩
  · exact .inr ⟨bytes, new, parsed⟩

theorem builds_of_append (unbuilt : ∀ bytes, .built bytes ∉ later)
    (builds : Builds (events ++ later) packet) : Builds events packet := by
  rcases built_append builds with earlier | ⟨bytes, new, _⟩
  · exact earlier
  · exact absurd new (unbuilt bytes)

theorem promotes_append (quiet : ∀ role here peer, .promoted hash role here peer ∉ later)
    (promotes : Promotes (events ++ later) hash) : Promotes events hash := by
  obtain ⟨role, here, peer, member⟩ := promotes
  rcases mem_append.1 member with earlier | new
  · exact ⟨role, here, peer, earlier⟩
  · exact absurd new (quiet role here peer)

end Append

inductive Authored (closing : Prop) (place : Place) (slot held : Slot) (bytes : Bytes) : Prop
  | cached (kept : slot.Cached bytes)
  | control {packet : ControlPacket} (parsed : ControlPacket.parse bytes = some packet)
      (hash : packet.offerHash = slot.hash) (sender : packet.senderRole = slot.role.code)
      (commit : packet.type = .keyCommit → slot.role = .initiator ∧ slot.nominated = false ∧
        held.nominated ∧ packet.source = held.localCandidate ∧
        packet.destination = held.peerCandidate)
      (ack : packet.type = .keyCommitAck → place = .pending → closing)
  | data {header : DataHeader} (parsed : DataHeader.parse bytes = some header)
      (hash : header.offerHash = slot.hash) (sender : header.senderRole = slot.role.code)
      (current : place = .current)

variable {packet : ControlPacket}

section Steps

variable {crypto : Crypto} {before : Channel} {call : Call} {alone closing : Prop}
  {place : Place} {slot held : Slot} {later : List Event} {bytes : Bytes}

theorem Authored.signed {type : ControlType} {here peer : Endpoint}
    (signs : slot.Signs type here peer packet bytes)
    (commit : type = .keyCommit → slot.role = .initiator ∧ slot.nominated = false ∧
      held.nominated ∧ here = held.localCandidate ∧ peer = held.peerCandidate)
    (ack : type = .keyCommitAck → place = .pending → closing) :
    Authored closing place slot held bytes := by
  apply control signs.parse signs.offerHash signs.senderRole
  · intro keyCommit
    have sent : type = .keyCommit := signs.type_eq.symm.trans keyCommit
    obtain ⟨initiator, open_, nominated, here, peer⟩ := commit sent
    exact ⟨initiator, open_, nominated, signs.source.trans here, signs.destination.trans peer⟩
  · exact fun keyCommitAck => ack (signs.type_eq.symm.trans keyCommitAck)

section

variable (step : SlotStep crypto before call alone closing place slot later held)
include step

theorem SlotStep.authored
    (member : .built bytes ∈ later) : Authored closing place slot held bytes := by
  cases step with
  | resend cached =>
    cases mem_singleton.1 member
    exact .cached cached
  | commit now initiator open_ signs =>
    cases mem_singleton.1 member
    exact .signed signs (fun _ => ⟨initiator, open_, rfl, rfl, rfl⟩) (by simp)
  | ackCommit closes received ready signs =>
    cases mem_singleton.1 member
    exact .signed signs (by simp) (fun _ => closes)
  | probe now signs | answerProbe signs | challenge hash now deadline single signs
  | answerChallenge signs =>
    cases mem_singleton.1 member
    exact .signed signs (by simp) (by simp)
  | sealData sealed =>
    cases mem_singleton.1 member
    obtain ⟨_, _, size, parsed⟩ := Slot.sealData_eq_some sealed
    exact .data parsed rfl rfl rfl
  | _ => simp at member

theorem SlotStep.no_promotion : ∀ hash role here peer, .promoted hash role here peer ∉ later := by
  intro hash role here peer member
  cases step <;> simp at member

end

theorem SlotStep.pair (step : SlotStep crypto before call alone closing .pending slot later held)
    (nominated : slot.nominated) :
    (held.localCandidate = slot.localCandidate ∧ held.peerCandidate = slot.peerCandidate) ∨
      slot.role = .responder := by
  cases step with
  | commit now initiator open_ signs | nominate here peer initiator open_ exhausted =>
    rw [nominated] at open_
    cases open_
  | receiveCommit responder new heard same type length probed => exact .inr responder
  | _ => exact .inl ⟨rfl, rfl⟩

theorem SlotStep.caches (step : SlotStep crypto before call alone closing place slot later held)
    (commits : slot.commitSent → slot.role = .initiator) (kept : held.Cached bytes) :
    slot.Cached bytes ∨ (.built bytes ∈ later ∧ ∃ packet,
      parse bytes = some packet ∧ packet.offerHash = slot.hash) := by
  cases step.numbering commits with
  | fresh usable next mark cached keyed built =>
    rcases cached bytes kept with old | ⟨rfl, control⟩
    · exact .inl old
    · obtain ⟨packet, parsed⟩ := isSome_iff_exists.1 control
      rw [label, parsed] at mark
      obtain ⟨hash, _⟩ := Prod.mk.inj (some.inj mark)
      exact .inr ⟨built ▸ mem_singleton.2 rfl, packet, parsed, hash⟩
  | stale grows cached quiet => exact .inl (cached bytes kept)

end Steps

/-- A node that takes part in the agreement on `hash` in the role `side`. -/
structure Party (hash : OfferHash) (side : PeerRole) (channel : Channel) (events : List Event) :
    Prop where
  caches : ∀ place, ∀ slot ∈ channel.slotAt place, ∀ bytes, slot.Cached bytes →
    .built bytes ∈ events ∧
      ∃ packet, parse bytes = some packet ∧ packet.offerHash = slot.hash
  commits : ∀ place, ∀ slot ∈ channel.slotAt place, slot.commitSent → slot.role = .initiator
  roles : ∀ place, ∀ slot ∈ channel.slotAt place, slot.hash = hash →
    slot.role = side ∧ Installs events hash
  unique : ∀ place other, ∀ slot ∈ channel.slotAt place, ∀ held ∈ channel.slotAt other,
    slot.hash = hash → held.hash = hash → place = other
  active : ∀ place, ∀ slot ∈ channel.slotAt place, slot.hash = hash → place ≠ .pending →
    Promotes events hash ∧ slot.nominated
  spent : Promotes events hash → Installs events hash ∧ ∀ slot ∈ channel.pending, slot.hash ≠ hash
  control : ∀ packet, Builds events packet → packet.offerHash = hash →
    packet.senderRole = side.code ∧ Installs events hash ∧
      (packet.type = .keyCommit → side = .initiator)
  data : ∀ header, Seals events header → header.offerHash = hash →
    header.senderRole = side.code ∧ Promotes events hash
  undecided : ∀ slot ∈ channel.pending, slot.hash = hash → slot.nominated = false →
    ∀ packet, ¬ Commits events hash packet
  decided : ∀ slot ∈ channel.pending, slot.hash = hash → slot.nominated →
    ∀ packet, Commits events hash packet →
      packet.source = slot.localCandidate ∧ packet.destination = slot.peerCandidate
  settled : ∀ role here peer, .promoted hash role here peer ∈ events →
    ∀ packet, Commits events hash packet → packet.source = here ∧ packet.destination = peer

/-- An offer of the hash that a call can install is the first one, and in the role `side`. -/
def InstallsOnce (crypto : Crypto) (hash : OfferHash) (side : PeerRole) (channel : Channel)
    (events : List Event) (call : Call) : Prop :=
  channel.pending = none → ∀ encoded context exporter now generation,
    call = .acceptOffer encoded context exporter now generation →
    ∀ slot ∈ Slot.ofOffer crypto encoded context exporter now, slot.hash = hash →
      slot.role = side ∧ ¬ Installs events hash

namespace Party

variable {crypto : Crypto} {before channel next : Channel} {call : Call} {alone closing : Prop}
  {place : Place} {slot held : Slot} {events later : List Event} {hash : OfferHash}
  {side : PeerRole}

theorem start (vacant : ∀ place, channel.slotAt place = none) : Party hash side channel [] := by
  have pending : channel.pending = none := vacant .pending
  constructor <;> simp [vacant, pending, Promotes, Builds, Seals, Commits]

section

variable (party : Party hash side channel events) (stands : channel.slotAt place = some slot)
    (step : SlotStep crypto before call alone closing place slot later held)
include party stands step

theorem builds_step (builds : Builds (events ++ later) packet) :
    Builds events packet ∨ (packet.offerHash = slot.hash ∧ packet.senderRole = slot.role.code ∧
      (packet.type = .keyCommit → slot.role = .initiator ∧ slot.nominated = false ∧
        held.nominated ∧ packet.source = held.localCandidate ∧
        packet.destination = held.peerCandidate) ∧
      (packet.type = .keyCommitAck → place = .pending → closing)) := by
  rcases built_append builds with earlier | ⟨bytes, new, parsed⟩
  · exact .inl earlier
  cases step.authored new with
  | cached kept => exact .inl ⟨bytes, (party.caches place slot stands bytes kept).1, parsed⟩
  | control parsed' hash sender commit ack =>
    cases some.inj (parsed.symm.trans parsed')
    exact .inr ⟨hash, sender, commit, ack⟩
  | data parsed' hash sender current =>
    rw [parse_of_data parsed'] at parsed
    cases parsed

theorem commits_step (commits : Commits (events ++ later) hash packet) :
    Commits events hash packet ∨ (slot.hash = hash ∧ place = .pending ∧ slot.nominated = false ∧
      held.nominated ∧ packet.source = held.localCandidate ∧
      packet.destination = held.peerCandidate) := by
  obtain ⟨builds, type, offer⟩ := commits
  rcases party.builds_step stands step builds with earlier | ⟨same, _, commit, _⟩
  · exact .inl ⟨earlier, type, offer⟩
  · obtain ⟨_, open_, nominated, source, destination⟩ := commit type
    have mine : slot.hash = hash := same.symm.trans offer
    refine .inr ⟨mine, ?_, open_, nominated, source, destination⟩
    by_contra elsewhere
    rw [(party.active place slot stands mine elsewhere).2] at open_
    cases open_

theorem seals_step {header : DataHeader} (seals : Seals (events ++ later) header) :
    Seals events header ∨ (header.offerHash = slot.hash ∧
      header.senderRole = slot.role.code ∧ place = .current) := by
  rcases built_append seals with earlier | ⟨bytes, new, parsed⟩
  · exact .inl earlier
  have sealed : parse bytes = none := parse_of_data parsed
  cases step.authored new with
  | cached kept =>
    obtain ⟨_, packet, control, _⟩ := party.caches place slot stands bytes kept
    cases sealed.symm.trans control
  | control control hash sender commit ack => cases sealed.symm.trans control
  | data parsed' signed sender current =>
    cases some.inj (parsed.symm.trans parsed')
    exact .inr ⟨signed, sender, current⟩

omit party in
theorem stood_put : ∀ other, ∀ shown ∈ (channel.put place held).slotAt other,
    ∃ old ∈ channel.slotAt other, shown.hash = old.hash ∧ shown.role = old.role := by
  obtain ⟨_, same, role⟩ := step.same
  intro other shown standing
  rcases slotAt_put_eq_some standing with ⟨rfl, rfl⟩ | ⟨_, standing⟩
  · exact ⟨slot, stands, same, role⟩
  · exact ⟨shown, standing, rfl, rfl⟩

theorem caches_put : ∀ other, ∀ shown ∈ (channel.put place held).slotAt other,
    ∀ bytes, shown.Cached bytes → .built bytes ∈ events ++ later ∧
      ∃ packet, parse bytes = some packet ∧ packet.offerHash = shown.hash := by
  obtain ⟨_, same, _⟩ := step.same
  intro other shown standing bytes kept
  rcases slotAt_put_eq_some standing with ⟨rfl, rfl⟩ | ⟨_, standing⟩
  · rcases step.caches (party.commits other slot stands) kept with old | ⟨new, packet, facts⟩
    · obtain ⟨member, packet, parsed, offer⟩ := party.caches other slot stands bytes old
      exact ⟨mem_append_left _ member, packet, parsed, offer.trans same.symm⟩
    · exact ⟨mem_append_right _ new, packet, facts.1, facts.2.trans same.symm⟩
  · obtain ⟨member, facts⟩ := party.caches other shown standing bytes kept
    exact ⟨mem_append_left _ member, facts⟩

theorem undecided_put : ∀ shown ∈ (channel.put place held).pending, shown.hash = hash →
    shown.nominated = false → ∀ packet, ¬ Commits (events ++ later) hash packet := by
  obtain ⟨_, same, _⟩ := step.same
  intro shown standing mine open_ packet commits
  rcases pending_put standing with ⟨rfl, rfl⟩ | ⟨elsewhere, standing⟩
  · rcases party.commits_step stands step commits with earlier | ⟨_, _, _, nominated, _⟩
    · have still : slot.nominated = false := by
        by_contra nominated
        rw [step.nominated (by simpa using nominated)] at open_
        cases open_
      exact party.undecided slot stands (same.symm.trans mine) still packet earlier
    · rw [nominated] at open_
      cases open_
  · rcases party.commits_step stands step commits with earlier | ⟨_, here, _⟩
    · exact party.undecided shown standing mine open_ packet earlier
    · exact absurd here.symm elsewhere

theorem decided_put : ∀ shown ∈ (channel.put place held).pending, shown.hash = hash →
    shown.nominated → ∀ packet, Commits (events ++ later) hash packet →
      packet.source = shown.localCandidate ∧ packet.destination = shown.peerCandidate := by
  obtain ⟨_, same, _⟩ := step.same
  intro shown standing mine nominated packet commits
  rcases pending_put standing with ⟨rfl, rfl⟩ | ⟨elsewhere, standing⟩
  · have own : slot.hash = hash := same.symm.trans mine
    rcases party.commits_step stands step commits with earlier | ⟨_, _, _, _, pair⟩
    · by_cases decided : slot.nominated
      · rcases step.pair decided with ⟨here, peer⟩ | responder
        · rw [here, peer]
          exact party.decided slot stands own decided packet earlier
        · have initiates := (party.control packet earlier.1 earlier.2.2).2.2 earlier.2.1
          rw [(party.roles _ slot stands own).1, initiates] at responder
          cases responder
      · exact (party.undecided slot stands own (by simpa using decided) packet earlier).elim
    · exact pair
  · rcases party.commits_step stands step commits with earlier | ⟨_, here, _⟩
    · exact party.decided shown standing mine nominated packet earlier
    · exact absurd here.symm elsewhere

theorem put : Party hash side (channel.put place held) (events ++ later) := by
  obtain ⟨_, same, _⟩ := step.same
  have stood := stood_put stands step
  have quiet := step.no_promotion hash
  refine ⟨party.caches_put stands step, ?_, ?_, ?_, ?_, ?_, ?_, ?_, party.undecided_put stands step,
    party.decided_put stands step, ?_⟩
  · intro other shown standing sent
    rcases slotAt_put_eq_some standing with ⟨rfl, rfl⟩ | ⟨_, standing⟩
    · exact step.commits (party.commits other slot stands) sent
    · exact party.commits other shown standing sent
  · intro other shown standing mine
    obtain ⟨old, standing, hash_eq, role_eq⟩ := stood other shown standing
    obtain ⟨role, installs⟩ := party.roles other old standing (hash_eq.symm.trans mine)
    exact ⟨role_eq.trans role, installs.append later⟩
  · intro first second left standing right standing' mine mine'
    obtain ⟨old, stood_left, left_hash, _⟩ := stood first left standing
    obtain ⟨old', stood_right, right_hash, _⟩ := stood second right standing'
    exact party.unique first second old stood_left old' stood_right (left_hash.symm.trans mine)
      (right_hash.symm.trans mine')
  · intro other shown standing mine elsewhere
    rcases slotAt_put_eq_some standing with ⟨rfl, rfl⟩ | ⟨_, standing⟩
    · obtain ⟨promotes, nominated⟩ :=
        party.active other slot stands (same.symm.trans mine) elsewhere
      exact ⟨promotes.append later, step.nominated nominated⟩
    · obtain ⟨promotes, nominated⟩ := party.active other shown standing mine elsewhere
      exact ⟨promotes.append later, nominated⟩
  · intro promotes
    obtain ⟨installs, others⟩ := party.spent (promotes_append quiet promotes)
    refine ⟨installs.append later, fun shown standing => ?_⟩
    rcases pending_put standing with ⟨rfl, rfl⟩ | ⟨_, standing⟩
    · rw [same]
      exact others slot stands
    · exact others shown standing
  · intro packet builds offer
    rcases party.builds_step stands step builds with earlier | ⟨signed, sender, commit, _⟩
    · obtain ⟨sender, installs, initiates⟩ := party.control packet earlier offer
      exact ⟨sender, installs.append later, initiates⟩
    · obtain ⟨mine, installs⟩ := party.roles place slot stands (signed.symm.trans offer)
      exact ⟨mine ▸ sender, installs.append later, fun type => mine ▸ (commit type).1⟩
  · intro header seals offer
    rcases party.seals_step stands step seals with earlier | ⟨signed, sender, current⟩
    · obtain ⟨sender, promotes⟩ := party.data header earlier offer
      exact ⟨sender, promotes.append later⟩
    · have mine := signed.symm.trans offer
      obtain ⟨promotes, _⟩ := party.active place slot stands mine (by rw [current]; decide)
      exact ⟨(party.roles place slot stands mine).1 ▸ sender, promotes.append later⟩
  · intro role here peer member packet commits
    have earlier : .promoted hash role here peer ∈ events :=
      (mem_append.1 member).elim id fun new => absurd new (quiet role here peer)
    rcases party.commits_step stands step commits with old | ⟨own, rfl, _⟩
    · exact party.settled role here peer earlier packet old
    · exact absurd own ((party.spent ⟨role, here, peer, earlier⟩).2 slot stands)

end

section

variable (party : Party hash side channel events)
include party

theorem shift (goes : Place → Place)
    (kept : ∀ place, ∀ held ∈ next.slotAt place, ∃ old, goes old = place ∧
      ∃ slot ∈ channel.slotAt old, held.Restamps slot)
    (still : ∀ old, goes old = .pending → old = .pending)
    (risen : goes .pending ≠ .pending → ∀ slot ∈ channel.pending, slot.hash = hash →
      Promotes (events ++ later) hash ∧ slot.nominated) (unbuilt : ∀ bytes, .built bytes ∉ later)
    (promoted : ∀ role here peer, .promoted hash role here peer ∈ later →
      next.pending = none ∧ ∃ slot ∈ channel.pending, slot.hash = hash ∧ slot.nominated ∧
        slot.localCandidate = here ∧ slot.peerCandidate = peer) :
    Party hash side next (events ++ later) := by
  have pending : ∀ held ∈ next.pending, ∃ slot ∈ channel.pending, held.Restamps slot := by
    intro held standing
    obtain ⟨old, moved, found⟩ := kept .pending held standing
    cases still old moved
    exact found
  have commits : ∀ {packet}, Commits (events ++ later) hash packet → Commits events hash packet :=
    fun commits => ⟨builds_of_append unbuilt commits.1, commits.2⟩
  constructor
  · intro place held standing bytes cached
    obtain ⟨old, -, slot, stands, _, _, _, _, _, _, rfl⟩ := kept place held standing
    obtain ⟨member, facts⟩ := party.caches old slot stands bytes
      (by cases cached <;> constructor <;> assumption)
    exact ⟨mem_append_left _ member, facts⟩
  · intro place held standing
    obtain ⟨old, -, slot, stands, _, _, _, _, _, _, rfl⟩ := kept place held standing
    exact party.commits old slot stands
  · intro place held standing mine
    obtain ⟨old, -, slot, stands, _, _, _, _, _, _, rfl⟩ := kept place held standing
    obtain ⟨role, installs⟩ := party.roles old slot stands mine
    exact ⟨role, installs.append later⟩
  · intro place other left standing right standing' mine mine'
    obtain ⟨old, rfl, slot, stands, _, _, _, _, _, _, rfl⟩ := kept place left standing
    obtain ⟨old', rfl, slot', stands', _, _, _, _, _, _, rfl⟩ := kept other right standing'
    exact congrArg goes (party.unique old old' slot stands slot' stands' mine mine')
  · intro place held standing mine elsewhere
    obtain ⟨old, rfl, slot, stands, _, _, _, _, _, _, rfl⟩ := kept place held standing
    by_cases waited : old = .pending
    · subst waited
      exact risen elsewhere slot stands mine
    · obtain ⟨promotes, nominated⟩ := party.active old slot stands mine waited
      exact ⟨promotes.append later, nominated⟩
  · rintro ⟨role, here, peer, member⟩
    rcases mem_append.1 member with earlier | new
    · obtain ⟨installs, others⟩ := party.spent ⟨role, here, peer, earlier⟩
      refine ⟨installs.append later, fun held standing => ?_⟩
      obtain ⟨slot, stands, _, _, _, _, _, _, rfl⟩ := pending held standing
      exact others slot stands
    · obtain ⟨none, slot, stands, own, _⟩ := promoted role here peer new
      exact ⟨(party.roles .pending slot stands own).2.append later, by simp [none]⟩
  · intro packet built offer
    obtain ⟨sender, installs, initiates⟩ :=
      party.control packet (builds_of_append unbuilt built) offer
    exact ⟨sender, installs.append later, initiates⟩
  · intro header seals offer
    rcases built_append seals with earlier | ⟨bytes, new, _⟩
    · obtain ⟨sender, promotes⟩ := party.data header earlier offer
      exact ⟨sender, promotes.append later⟩
    · exact absurd new (unbuilt bytes)
  · intro held standing mine open_ packet sent
    obtain ⟨slot, stands, _, _, _, _, _, _, rfl⟩ := pending held standing
    exact party.undecided slot stands mine open_ packet (commits sent)
  · intro held standing mine nominated packet sent
    obtain ⟨slot, stands, _, _, _, _, _, _, rfl⟩ := pending held standing
    exact party.decided slot stands mine nominated packet (commits sent)
  · intro role here peer member packet sent
    rcases mem_append.1 member with earlier | new
    · exact party.settled role here peer earlier packet (commits sent)
    · obtain ⟨-, slot, stands, own, nominated, rfl, rfl⟩ := promoted role here peer new
      exact party.decided slot stands own nominated packet (commits sent)

theorem carry
    (kept : ∀ place, ∀ held ∈ next.slotAt place, ∃ slot ∈ channel.slotAt place, held.Restamps slot)
    (unbuilt : ∀ bytes, .built bytes ∉ later)
    (promoted : ∀ role here peer, .promoted hash role here peer ∉ later) :
    Party hash side next (events ++ later) :=
  party.shift id (fun place held standing => ⟨place, rfl, kept place held standing⟩) (fun _ => id)
    (fun apart => absurd rfl apart) unbuilt
    fun role here peer new => absurd new (promoted role here peer)

theorem install {encoded : Bytes} (unused : slot.Unused crypto)
    (mine : slot.hash = hash → slot.role = side ∧ ¬ Installs events hash) (chain : next.toKeyChain =
      { channel.toKeyChain with highWater := slot.offer.keyGeneration, pending := some slot }) :
    Party hash side next (events ++ [.installed encoded slot.offer slot.hash slot.role]) := by
  have unbuilt : ∀ bytes, .built bytes ∉ [Event.installed encoded slot.offer slot.hash slot.role] :=
    fun bytes member => by cases mem_singleton.1 member
  have unpromoted : ∀ role here peer, .promoted hash role here peer ∉
      [Event.installed encoded slot.offer slot.hash slot.role] :=
    fun role here peer member => by cases mem_singleton.1 member
  have extended := party.carry (fun _ held stands => ⟨held, stands, .refl held⟩) unbuilt unpromoted
  have stood : ∀ place, ∀ held ∈ next.slotAt place,
      (place = .pending ∧ held = slot) ∨ channel.slotAt place = some held := by
    intro place held standing
    rw [chain] at standing
    exact KeyChain.slotAt_install standing
  have waiting : ∀ held ∈ next.pending, held = slot := by
    intro held standing
    rw [chain] at standing
    exact (some.inj standing).symm
  -- no slot with the hash stands anywhere before it is installed
  have first : slot.hash = hash → ∀ place, ∀ held ∈ channel.slotAt place, held.hash ≠ hash :=
    fun own place held standing equal =>
      (mine own).2 (party.roles place held standing equal).2
  constructor
  · intro place held standing bytes kept
    rcases stood place held standing with ⟨_, rfl⟩ | standing
    · exact absurd kept (unused.not_cached bytes)
    · exact extended.caches place held standing bytes kept
  · intro place held standing sent
    rcases stood place held standing with ⟨_, rfl⟩ | standing
    · rw [unused.commitSent] at sent
      cases sent
    · exact extended.commits place held standing sent
  · intro place held standing own
    rcases stood place held standing with ⟨_, rfl⟩ | standing
    · refine ⟨(mine own).1, encoded, held.offer, held.role, ?_⟩
      rw [← own]
      exact mem_append_right _ (mem_singleton.2 rfl)
    · exact extended.roles place held standing own
  · intro place other left standing right standing' own own'
    rcases stood place left standing with ⟨rfl, rfl⟩ | standing <;>
      rcases stood other right standing' with ⟨rfl, rfl⟩ | standing'
    · rfl
    · exact absurd own' (first own other right standing')
    · exact absurd own (first own' place left standing)
    · exact party.unique place other left standing right standing' own own'
  · intro place held standing own elsewhere
    rcases stood place held standing with ⟨rfl, _⟩ | standing
    · exact absurd rfl elsewhere
    · exact extended.active place held standing own elsewhere
  · intro promotes
    refine ⟨(extended.spent promotes).1, fun held standing own => ?_⟩
    cases waiting held standing
    exact (mine own).2 (party.spent (promotes_append unpromoted promotes)).1
  · exact extended.control
  · exact extended.data
  · intro held standing own open_ packet commits
    cases waiting held standing
    have builds := builds_of_append unbuilt commits.1
    exact (mine own).2 (party.control packet builds commits.2.2).2.1
  · intro held standing own nominated
    cases waiting held standing
    rw [unused.nominated] at nominated
    cases nominated
  · exact extended.settled

end

theorem promote (now : Millis) (party : Party hash side channel events)
    (waits : channel.pending = some slot) (nominated : slot.hash = hash → slot.nominated) :
    Party hash side (channel.promote slot now) (events ++ [slot.promotion]) := by
  refine party.shift (fun old => if old = .pending then .current else .previous)
    (fun place held standing => ?_) (fun old => by split_ifs <;> simp) ?_ ?_ ?_
  · cases place with
    | pending => cases standing
    | current =>
      cases standing
      exact ⟨.pending, rfl, slot, waits, _, _, _, _, _, _, rfl⟩
    | previous =>
      obtain ⟨old, present, rfl⟩ := map_eq_some_iff.1 standing
      exact ⟨.current, rfl, old, present, _, _, _, _, _, _, rfl⟩
  · intro _ former stands own
    cases some.inj (waits.symm.trans stands)
    refine ⟨⟨slot.role, slot.localCandidate, slot.peerCandidate, ?_⟩, nominated own⟩
    rw [← own]
    exact mem_append_right _ (mem_singleton.2 rfl)
  · exact fun bytes member => by cases mem_singleton.1 member
  · intro role here peer new
    obtain ⟨own, _, rfl, rfl⟩ := Event.promoted.inj (mem_singleton.1 new)
    exact ⟨rfl, slot, waits, own.symm, nominated own.symm, rfl, rfl⟩

theorem lost (party : Party hash side channel events)
    (moved : next = channel.fallback ∨ next = channel.cancelPending ∨
      next = { channel with previous := none } ∨ next.toKeyChain = channel.toKeyChain) :
    Party hash side next (events ++ []) := by
  refine party.carry (fun place held standing => ?_) (fun _ => not_mem_nil) fun _ _ _ => not_mem_nil
  have kept : channel.slotAt place = some held →
      ∃ slot ∈ channel.slotAt place, held.Restamps slot :=
    fun stands => ⟨held, stands, .refl held⟩
  rcases moved with rfl | rfl | rfl | chain
  · cases place <;> cases standing
  · cases place with
    | pending => cases standing
    | current =>
      obtain ⟨old, present, rfl⟩ := map_eq_some_iff.1 standing
      exact ⟨old, present, _, _, _, _, _, _, rfl⟩
    | previous => exact kept standing
  · cases place with
    | pending | current => exact kept standing
    | previous => cases standing
  · rw [chain] at standing
    exact kept standing

theorem move (party : Party hash side channel events)
    (usual : before.latePromotion crypto call = false)
    (once : InstallsOnce crypto hash side channel events call)
    (move : Move crypto before call channel later next) :
    Party hash side next (events ++ later) := by
  cases move with
  | slot stands step => exact party.put stands step
  | promote now waits cause => exact party.promote now waits (fun _ => (cause.ready usual).2.1)
  | @acknowledge slot packet bytes now waits responder received ready signs =>
    have step : SlotStep crypto before call True True .pending slot _ _ :=
      .acknowledges received ready signs
    have signed := party.put (show channel.slotAt .pending = some slot from waits) step
    have promoted := signed.promote now rfl (fun _ => ready.1)
    rw [append_assoc] at promoted
    exact promoted
  | fallback => exact party.lost (.inl rfl)
  | cancel settled => exact party.lost (.inr (.inl rfl))
  | forget => exact party.lost (.inr (.inr (.inl rfl)))
  | flags step => exact party.lost (.inr (.inr (.inr step.toKeyChain)))
  | install offered built fresh empty settled follows =>
    exact party.install (Slot.ofOffer_unused built).1 (once empty _ _ _ _ _ offered _ built) rfl

end Party

end OpenPpp2.P2P
