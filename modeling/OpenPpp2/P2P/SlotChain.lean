import OpenPpp2.P2P.Provenance

/-!
# The chain of slots

The three slots of a channel and its state variable are changed independently, by every public call.
-/

namespace OpenPpp2.P2P

open Lib.Run

namespace Channel

open Option

structure Chained (channel : Channel) : Prop where
  direct : channel.state = .direct ∨ channel.state = .suspect → channel.current.isSome
  probing : channel.state = .probing → channel.pending.isSome ∧ channel.current = none
  previous : channel.previous.isSome → channel.current.isSome
  follows : ∀ pending ∈ channel.pending,
    pending.offer.previousOfferHash = channel.current.elim 0 Slot.hash
  older : ∀ previous ∈ channel.previous, ∀ current ∈ channel.current,
    previous.offer.keyGeneration < current.offer.keyGeneration
  newer : ∀ current ∈ channel.current, ∀ pending ∈ channel.pending,
    current.offer.keyGeneration < pending.offer.keyGeneration
  bounded : ∀ place, ∀ slot ∈ channel.slotAt place, slot.offer.keyGeneration ≤ channel.highWater
  settled : ∀ current ∈ channel.current, current.migration.active → channel.pending = none

variable {crypto : Crypto} {before : Channel} {call : Call} {channel next : Channel}

theorem chained_empty (current : channel.current = none) (pending : channel.pending = none)
    (previous : channel.previous = none) (resting : channel.state = .relay) : channel.Chained := by
  constructor
  case bounded => intro place; cases place <;> simp [KeyChain.slotAt, current, pending, previous]
  all_goals simp [current, pending, previous, resting]

variable {events : List Event} {slot : Slot}

section

variable (chained : channel.Chained)
include chained

theorem Chained.put {closing : Prop} {place : Place} {held : Slot}
    (stands : channel.slotAt place = some slot)
    (step : SlotStep crypto before call (channel.pending = none) closing place slot events held) :
    (channel.put place held).Chained := by
  obtain ⟨offer, hash, _⟩ := step.same
  have bounded : ∀ other, ∀ shown ∈ (channel.put place held).slotAt other,
      shown.offer.keyGeneration ≤ channel.highWater := by
    intro other shown standing
    rcases slotAt_put_eq_some standing with ⟨_, rfl⟩ | ⟨_, standing⟩
    · rw [offer]
      exact chained.bounded place slot stands
    · exact chained.bounded other shown standing
  cases place with
  | pending =>
    have waits : channel.pending = some slot := stands
    refine { chained with
      probing := fun probing => ⟨rfl, (chained.probing probing).2⟩
      follows := ?_, newer := ?_, bounded, settled := ?_ }
    · rintro _ ⟨⟩
      rw [offer]
      exact chained.follows slot waits
    · rintro current present _ ⟨⟩
      rw [offer]
      exact chained.newer current present slot waits
    · intro current present active
      have none := chained.settled current present active
      rw [waits] at none
      cases none
  | current =>
    have present : channel.current = some slot := stands
    constructor
    · exact fun _ => rfl
    · intro probing
      have none := (chained.probing probing).2
      rw [present] at none
      cases none
    · exact fun _ => rfl
    · intro pending waits
      have follows := chained.follows pending waits
      rw [present] at follows
      exact follows.trans hash.symm
    · rintro previous old _ ⟨⟩
      rw [offer]
      exact chained.older previous old slot present
    · rintro _ ⟨⟩ pending waits
      rw [offer]
      exact chained.newer slot present pending waits
    · exact bounded
    · rintro _ ⟨⟩ active
      rcases step.migrates active with active | alone
      · exact chained.settled slot present active
      · exact alone
  | previous =>
    have old : channel.previous = some slot := stands
    refine { chained with
      previous := fun _ => chained.previous (by rw [old]; rfl), older := ?_, bounded }
    rintro _ ⟨⟩ current present
    rw [offer]
    exact chained.older slot old current present

theorem Chained.promote {now : Millis}
    (waits : channel.pending = some slot) : (channel.promote slot now).Chained := by
  constructor
  · exact fun _ => rfl
  · intro probing
    simp only [Channel.promote] at probing
    split_ifs at probing
  · exact fun _ => rfl
  · rintro _ ⟨⟩
  · rintro _ old _ ⟨⟩
    obtain ⟨current, present, rfl⟩ := map_eq_some_iff.1 old
    exact chained.newer current present slot waits
  · rintro _ _ _ ⟨⟩
  · intro place held standing
    cases place with
    | pending => cases standing
    | current =>
      cases standing
      exact chained.bounded .pending slot waits
    | previous =>
      obtain ⟨current, present, rfl⟩ := map_eq_some_iff.1 standing
      exact chained.bounded .current current present
  · exact fun _ _ _ => rfl

theorem Chained.cancelPending (settled : channel.current.isSome ∨ channel.state = .relay) :
    channel.cancelPending.Chained := by
  constructor
  · intro direct
    rw [Channel.cancelPending, isSome_map]
    exact chained.direct direct
  · intro probing
    rcases settled with present | resting
    · rw [(chained.probing probing).2] at present
      cases present
    · exact absurd (resting.symm.trans probing) (by decide)
  · intro old
    rw [Channel.cancelPending, isSome_map]
    exact chained.previous old
  · rintro _ ⟨⟩
  · intro previous old _ present
    obtain ⟨current, held, rfl⟩ := map_eq_some_iff.1 present
    exact chained.older previous old current held
  · rintro _ _ _ ⟨⟩
  · intro place held standing
    cases place with
    | pending => cases standing
    | current =>
      obtain ⟨current, present, rfl⟩ := map_eq_some_iff.1 standing
      exact chained.bounded .current current present
    | previous => exact chained.bounded .previous held standing
  · exact fun _ _ _ => rfl

theorem Chained.install
    (fresh : channel.highWater < slot.offer.keyGeneration) (empty : channel.pending = none)
    (settled : ∀ current ∈ channel.current, current.migration.active = false)
    (follows : slot.offer.previousOfferHash = channel.current.elim 0 Slot.hash) :
    Chained { channel with
      highWater := slot.offer.keyGeneration
      pending := some slot
      state :=
        if channel.current.isNone ∧ channel.relayOnly = false then .probing
        else channel.state } := by
  have quiet : channel.state ≠ .probing := by
    intro probing
    have waits := (chained.probing probing).1
    rw [empty] at waits
    cases waits
  constructor
  · intro direct
    split_ifs at direct
    · rcases direct with direct | direct <;> cases direct
    · exact chained.direct direct
  · intro probing
    split_ifs at probing with alone
    · exact ⟨rfl, isNone_iff_eq_none.1 alone.1⟩
    · exact absurd probing quiet
  · exact chained.previous
  · rintro _ ⟨⟩
    exact follows
  · exact chained.older
  · rintro current present _ ⟨⟩
    exact Nat.lt_of_le_of_lt (chained.bounded .current current present) fresh
  · intro place held standing
    rcases KeyChain.slotAt_install standing with ⟨_, rfl⟩ | standing
    · exact BitVec.le_refl _
    · exact Nat.le_of_lt (Nat.lt_of_le_of_lt (chained.bounded place held standing) fresh)
  · intro current present active
    rw [settled current present] at active
    cases active

theorem Chained.flags (step : FlagStep crypto before call channel next) : next.Chained := by
  cases step with
  | suspect present | recover present =>
    exact { chained with
      direct := fun _ => present
      probing := fun probing => by cases probing }
  | rest absent =>
    exact { chained with
      direct := fun direct => by rcases direct with direct | direct <;> cases direct
      probing := fun probing => by cases probing }
  | relayOnly enabled =>
    refine { chained with direct := ?_, probing := ?_ }
    · intro direct
      simp only [setRelayOnly] at direct
      split_ifs at direct
      · rcases direct with direct | direct <;> cases direct
      · rcases direct with direct | direct <;> cases direct
      · exact chained.direct direct
    · intro probing
      simp only [setRelayOnly] at probing
      split_ifs at probing with on alone
      · exact ⟨alone.2, isNone_iff_eq_none.1 alone.1⟩
      · exact chained.probing probing
  | _ => exact { chained with }

theorem Chained.move (move : Move crypto before call channel events next) : next.Chained := by
  cases move with
  | slot stands step => exact chained.put stands step
  | promote now waits cause => exact chained.promote waits
  | @acknowledge slot packet bytes now waits responder received ready signs =>
    have answers : SlotStep crypto before call (channel.pending = none) True .pending slot _ _ :=
      .acknowledges received ready signs
    exact (chained.put (show channel.slotAt .pending = some slot from waits) answers).promote rfl
  | fallback => exact chained_empty rfl rfl rfl rfl
  | cancel settled => exact chained.cancelPending settled
  | forget =>
    exact { chained with
      previous := fun old => by cases old
      older := by rintro _ ⟨⟩
      bounded := fun place => by
        cases place with
        | previous => rintro _ ⟨⟩
        | pending => exact chained.bounded .pending
        | current => exact chained.bounded .current }
  | install offered built fresh empty settled follows =>
    exact chained.install fresh empty settled follows
  | flags step => exact chained.flags step

end

end Channel

theorem slots_chained (crypto : Crypto) (calls : List Call) :
    (run (Node.step crypto) {} calls).channel.Chained := by
  have throughout : Node.Throughout (fun channel _ => channel.Chained)
      (run (Node.step crypto) {} calls) := by
    apply Node.run_epoch
    · intro channel empty resting
      apply Channel.chained_empty <;> simp [empty, resting]
    · intro before call channel events later next chained move
      exact chained.move move
  exact throughout.1

open List

def Event.offer : Event → Option (OfferHash × RelayOffer)
  | .installed _ offer hash _ => some (hash, offer)
  | _ => none

def NoCollision (events : List Event) : Prop :=
  ∀ left ∈ events.filterMap Event.offer, ∀ right ∈ events.filterMap Event.offer,
    left.1 = right.1 → left.2 = right.2

instance (events : List Event) : Decidable (NoCollision events) :=
  inferInstanceAs (Decidable (∀ left ∈ _, ∀ right ∈ _, _))

def Installs (events : List Event) (hash : OfferHash) : Prop :=
  ∃ encoded offer role, .installed encoded offer hash role ∈ events

instance (events : List Event) (hash : OfferHash) : Decidable (Installs events hash) :=
  decidable_of_iff (∃ pair ∈ events.filterMap Event.offer, pair.1 = hash) (by
    constructor
    · rintro ⟨pair, found, rfl⟩
      obtain ⟨event, member, shown⟩ := List.mem_filterMap.1 found
      cases event with
      | installed encoded offer hash role =>
        cases shown
        exact ⟨encoded, offer, role, member⟩
      | _ => cases shown
    · rintro ⟨encoded, offer, role, member⟩
      exact ⟨(hash, offer), List.mem_filterMap.2 ⟨_, member, rfl⟩, rfl⟩)

variable {hash : OfferHash}

theorem Installs.append {events : List Event} (installs : Installs events hash)
    (later : List Event) : Installs (events ++ later) hash := by
  obtain ⟨encoded, offer, role, member⟩ := installs
  exact ⟨encoded, offer, role, mem_append_left _ member⟩

theorem NoCollision.of_append {events later : List Event}
    (distinct : NoCollision (events ++ later)) : NoCollision events := by
  intro left first right second
  apply distinct
  · rw [filterMap_append]
    exact mem_append_left _ first
  · rw [filterMap_append]
    exact mem_append_left _ second

theorem NoCollision.offer_eq {events : List Event} (distinct : NoCollision events)
    {encoded encoded' : Bytes} {offer offer' : RelayOffer}
    {role role' : PeerRole} (first : .installed encoded offer hash role ∈ events)
    (second : .installed encoded' offer' hash role' ∈ events) : offer = offer' :=
  distinct (hash, offer) (mem_filterMap.2 ⟨_, first, rfl⟩)
    (hash, offer') (mem_filterMap.2 ⟨_, second, rfl⟩) rfl

section Distinct

variable {crypto : Crypto} {channel : Channel} {events : List Event}

variable {slot : Slot}

theorem Channel.Chained.place_eq (chained : channel.Chained) {place other : Place} {held : Slot}
    (stands : channel.slotAt place = some slot) (standing : channel.slotAt other = some held)
    (same : slot.offer.keyGeneration = held.offer.keyGeneration) : place = other := by
  have older := chained.older
  have newer := chained.newer
  have present : ∀ old ∈ channel.previous, ∃ current, channel.current = some current :=
    fun old member => Option.isSome_iff_exists.1 (chained.previous (by rw [member]; rfl))
  have apart : ∀ {left right : BitVec 64}, left < right → left = right → False :=
    fun less equal => BitVec.ne_of_lt less equal
  cases place <;> cases other
  case pending.pending | current.current | previous.previous => rfl
  case pending.current => exact (apart (newer held standing slot stands) same.symm).elim
  case current.pending => exact (apart (newer slot stands held standing) same).elim
  case current.previous => exact (apart (older held standing slot stands) same.symm).elim
  case previous.current => exact (apart (older slot stands held standing) same).elim
  case pending.previous =>
    obtain ⟨current, middle⟩ := present held standing
    exact (apart (Nat.lt_trans (older held standing current middle)
      (newer current middle slot stands)) same.symm).elim
  case previous.pending =>
    obtain ⟨current, middle⟩ := present slot stands
    exact (apart (Nat.lt_trans (older slot stands current middle)
      (newer current middle held standing)) same).elim

theorem Channel.hash_ne_of_place_ne (chained : channel.Chained)
    (provenance : channel.Provenance crypto events) (distinct : NoCollision events)
    {place other : Place} {held : Slot} (stands : channel.slotAt place = some slot)
    (standing : channel.slotAt other = some held) (apart : other ≠ place) :
    held.hash ≠ slot.hash := by
  intro equal
  obtain ⟨encoded, member⟩ := provenance.held place slot stands
  obtain ⟨encoded', member'⟩ := provenance.held other held standing
  rw [equal] at member'
  apply apart
  apply chained.place_eq standing stands
  rw [distinct.offer_eq member' member]

theorem Channel.Provenance.hash_fresh (provenance : channel.Provenance crypto events)
    {encoded : Bytes} (fresh : channel.highWater < slot.offer.keyGeneration)
    (distinct : NoCollision (events ++ [.installed encoded slot.offer slot.hash slot.role])) :
    ¬ Installs events slot.hash := by
  rintro ⟨wire, offer, role, member⟩
  have same : offer = slot.offer :=
    distinct.offer_eq (mem_append_left _ member) (mem_append_right _ (mem_singleton.2 rfl))
  have bounded := provenance.bounded offer.keyGeneration (mem_filterMap.2 ⟨_, member, rfl⟩)
  rw [same] at bounded
  exact Nat.not_le_of_lt fresh bounded

end Distinct

/-- What has to be checked of a property of single slots and one of all events, for
both to hold throughout an epoch. -/
structure Slotwise (crypto : Crypto) (perSlot : List Event → Slot → Prop)
    (overall : List Event → Prop) : Prop where
  start : overall []
  restamp : ∀ {events slot held}, perSlot events slot → held.Restamps slot → perSlot events held
  promotion : ∀ {events} (promoted : Slot), overall events →
    overall (events ++ [promoted.promotion]) ∧
      ∀ slot, perSlot events slot → perSlot (events ++ [promoted.promotion]) slot
  install : ∀ {events encoded slot}, overall events → slot.Unused crypto →
    ¬ Installs events slot.hash →
    let later := [Event.installed encoded slot.offer slot.hash slot.role]
    overall (events ++ later) ∧ perSlot (events ++ later) slot ∧
      ∀ other, perSlot events other → perSlot (events ++ later) other
  step : ∀ {before call alone closing place slot events later held}, overall events →
    perSlot events slot → Installs events slot.hash →
    SlotStep crypto before call alone closing place slot later held →
    overall (events ++ later) ∧ perSlot (events ++ later) held ∧
      ∀ other, perSlot events other → other.hash ≠ slot.hash → perSlot (events ++ later) other

namespace Slotwise

variable {crypto : Crypto} {perSlot : List Event → Slot → Prop} {overall : List Event → Prop}

structure Holds (crypto : Crypto) (perSlot : List Event → Slot → Prop)
    (overall : List Event → Prop) (channel : Channel) (events : List Event) : Prop where
  chained : channel.Chained
  provenance : channel.Provenance crypto events
  overall : NoCollision events → overall events
  slots : NoCollision events → ∀ place, ∀ slot ∈ channel.slotAt place, perSlot events slot

section Moves

variable {before channel next : Channel} {call : Call} {events later : List Event}

theorem stepped {alone closing : Prop} {place : Place} {slot held : Slot}
    (rule : Slotwise crypto perSlot overall) (holds : Holds crypto perSlot overall channel events)
    (distinct : NoCollision events) (stands : channel.slotAt place = some slot)
    (step : SlotStep crypto before call alone closing place slot later held) :
    overall (events ++ later) ∧
      ∀ other, ∀ shown ∈ (channel.put place held).slotAt other, perSlot (events ++ later) shown := by
  have slots := holds.slots distinct
  obtain ⟨encoded, member⟩ := holds.provenance.held place slot stands
  obtain ⟨total, stepped, others⟩ := rule.step (holds.overall distinct) (slots place slot stands)
    ⟨encoded, _, _, member⟩ step
  refine ⟨total, fun other shown standing => ?_⟩
  rcases Channel.slotAt_put_eq_some standing with ⟨_, rfl⟩ | ⟨apart, standing⟩
  · exact stepped
  · exact others shown (slots other shown standing)
      (Channel.hash_ne_of_place_ne holds.chained holds.provenance distinct stands standing apart)

theorem rearranged {chain : KeyChain} (rule : Slotwise crypto perSlot overall)
    (everything : overall events) (slots : ∀ place, ∀ slot ∈ chain.slotAt place, perSlot events slot)
    (moved : next.toKeyChain.Rearranges chain)
    (quiet : later = [] ∨ ∃ slot : Slot, later = [slot.promotion]) : overall (events ++ later) ∧
      ∀ place, ∀ held ∈ next.slotAt place, perSlot (events ++ later) held := by
  have kept : ∀ place, ∀ held ∈ next.slotAt place, perSlot events held := by
    intro place held standing
    obtain ⟨old, slot, stands, restamps⟩ := moved.slots place held standing
    exact rule.restamp (slots old slot stands) restamps
  rcases quiet with rfl | ⟨promoted, rfl⟩
  · rw [append_nil]
    exact ⟨everything, kept⟩
  · obtain ⟨total, others⟩ := rule.promotion promoted everything
    exact ⟨total, fun place held standing => others held (kept place held standing)⟩

theorem move (rule : Slotwise crypto perSlot overall)
    (holds : Holds crypto perSlot overall channel events)
    (move : Move crypto before call channel later next) :
    Holds crypto perSlot overall next (events ++ later) := by
  have both : NoCollision (events ++ later) → overall (events ++ later) ∧
      ∀ place, ∀ slot ∈ next.slotAt place, perSlot (events ++ later) slot := by
    intro distinct
    have everything := holds.overall distinct.of_append
    have slots := holds.slots distinct.of_append
    cases move.kind with
    | stepped stands step => exact rule.stepped holds distinct.of_append stands step
    | @installed encoded slot envelope next unused parsed role fresh empty chain =>
      obtain ⟨total, new, others⟩ := rule.install everything unused
        (holds.provenance.hash_fresh fresh distinct)
      refine ⟨total, fun place held standing => ?_⟩
      rw [chain] at standing
      rcases KeyChain.slotAt_install standing with ⟨_, rfl⟩ | standing
      · exact new
      · exact others held (slots place held standing)
    | rearranged moved quiet => exact rule.rearranged everything slots moved quiet
    | promoted stands step moved =>
      obtain ⟨total, others⟩ := rule.stepped holds distinct.of_append stands step
      rw [← append_assoc]
      exact rule.rearranged total others moved (.inr ⟨_, rfl⟩)
  exact ⟨holds.chained.move move, holds.provenance.move move, fun distinct => (both distinct).1,
    fun distinct => (both distinct).2⟩

end Moves

theorem throughout (rule : Slotwise crypto perSlot overall) (calls : List Call) :
    Node.Throughout (Holds crypto perSlot overall) (run (Node.step crypto) {} calls) := by
  apply Node.run_epoch
  · intro channel empty resting
    constructor
    · apply Channel.chained_empty <;> simp [empty, resting]
    · exact Channel.provenance_empty empty
    · exact fun _ => rule.start
    · intro _ place slot stands
      rw [empty] at stands
      cases place <;> cases stands
  · exact fun _ _ _ _ _ _ holds move => rule.move holds move

theorem epochs (rule : Slotwise crypto perSlot overall) (calls : List Call) :
    ∀ epoch ∈ (run (Node.step crypto) {} calls).epochs, NoCollision epoch → overall epoch := by
  obtain ⟨present, past⟩ := rule.throughout calls
  intro epoch member distinct
  rcases mem_cons.1 member with rfl | earlier
  · exact present.overall distinct
  · obtain ⟨channel, holds⟩ := past epoch earlier
    exact holds.overall distinct

end Slotwise

open Sample

def Event.opening : Event → Option (OfferHash × Sequence)
  | .opened hash sequence => some (hash, sequence)
  | _ => none

theorem mem_openings {events : List Event} {hash : OfferHash} {sequence : Sequence} :
    (hash, sequence) ∈ events.filterMap Event.opening ↔ .opened hash sequence ∈ events := by
  rw [mem_filterMap]
  constructor
  · rintro ⟨event, member, opening⟩
    cases event with
    | opened _ _ =>
      cases opening
      exact member
    | _ => cases opening
  · exact fun member => ⟨_, member, rfl⟩

def Remembers (events : List Event) (slot : Slot) : Prop :=
  ∃ accepted, ReplayWindow.Tracks slot.replay accepted ∧
    ∀ sequence, .opened slot.hash sequence ∈ events → sequence ∈ accepted

/-- Nothing was opened twice, and nothing under a key that was not installed. -/
structure OpenedOnce (events : List Event) : Prop where
  known : ∀ hash sequence, .opened hash sequence ∈ events → Installs events hash
  once : (events.filterMap Event.opening).Nodup

section Steps

variable {crypto : Crypto} {before : Channel} {call : Call} {alone closing : Prop}
  {place : Place}
  {slot held : Slot} {events later : List Event}

theorem SlotStep.window (step : SlotStep crypto before call alone closing place slot later held) :
    (∃ sequence, slot.replay.replay sequence = some held.replay ∧
      (later = [] ∨ later = [.opened slot.hash sequence])) ∨
    (held.replay = slot.replay ∧ later.filterMap Event.opening = []) := by
  cases step with
  | hear fresh => exact .inl ⟨_, fresh, .inl rfl⟩
  | opened fresh => exact .inl ⟨_, fresh, .inr rfl⟩
  | sealData sealed =>
    obtain ⟨_, rfl, _⟩ := Slot.sealData_eq_some sealed
    exact .inr ⟨rfl, rfl⟩
  | _ => exact .inr ⟨rfl, rfl⟩

theorem Remembers.extend (remembers : Remembers events slot)
    (quiet : ∀ sequence, .opened slot.hash sequence ∉ later) :
    Remembers (events ++ later) slot := by
  obtain ⟨accepted, tracks, includes⟩ := remembers
  refine ⟨accepted, tracks, fun sequence member => ?_⟩
  rcases mem_append.1 member with earlier | new
  · exact includes sequence earlier
  · exact absurd new (quiet sequence)

theorem OpenedOnce.extend (once : OpenedOnce events)
    (quiet : later.filterMap Event.opening = []) : OpenedOnce (events ++ later) := by
  constructor
  · intro hash sequence member
    rcases mem_append.1 member with earlier | new
    · exact (once.known hash sequence earlier).append later
    · have listed := mem_openings.2 new
      rw [quiet] at listed
      cases listed
  · rw [filterMap_append, quiet, append_nil]
    exact once.once

theorem Remembers.hear {sequence : Sequence} {window : ReplayWindow}
    (remembers : Remembers events slot) (taken : slot.replay.replay sequence = some window) :
    .opened slot.hash sequence ∉ events ∧
      ∃ accepted, ReplayWindow.Tracks window accepted ∧ sequence ∈ accepted ∧
        ∀ earlier, .opened slot.hash earlier ∈ events → earlier ∈ accepted := by
  obtain ⟨accepted, tracks, includes⟩ := remembers
  obtain ⟨_, new, tracked⟩ := tracks.replay taken
  exact ⟨fun member => new (includes sequence member), _, tracked, Set.mem_insert _ _,
    fun earlier member => Set.mem_insert_of_mem _ (includes earlier member)⟩

theorem openedOnce_step (once : OpenedOnce events) (remembers : Remembers events slot)
    (installs : Installs events slot.hash)
    (step : SlotStep crypto before call alone closing place slot later held) :
    OpenedOnce (events ++ later) ∧ Remembers (events ++ later) held ∧
      ∀ other, Remembers events other → other.hash ≠ slot.hash →
        Remembers (events ++ later) other := by
  obtain ⟨_, hash, _⟩ := step.same
  rcases step.window with ⟨sequence, taken, rfl | rfl⟩ | ⟨window, quiet⟩
  · -- a control packet was heard
    obtain ⟨_, accepted, tracks, _, includes⟩ := remembers.hear taken
    rw [append_nil]
    exact ⟨once, ⟨accepted, tracks, by rwa [hash]⟩, fun _ remembers _ => remembers⟩
  · -- a datagram was opened
    obtain ⟨new, accepted, tracks, entered, includes⟩ := remembers.hear taken
    refine ⟨⟨?_, ?_⟩, ⟨accepted, tracks, ?_⟩, ?_⟩
    · intro other number member
      rcases mem_append.1 member with earlier | opened
      · exact (once.known other number earlier).append _
      · cases mem_singleton.1 opened
        exact installs.append _
    · rw [filterMap_append, show [Event.opened slot.hash sequence].filterMap Event.opening =
        [(slot.hash, sequence)] from rfl]
      apply Nodup.append once.once (nodup_singleton _)
      rw [disjoint_singleton]
      exact fun member => new (mem_openings.1 member)
    · intro number member
      rw [hash] at member
      rcases mem_append.1 member with earlier | opened
      · exact includes number earlier
      · cases mem_singleton.1 opened
        exact entered
    · intro other remembers apart
      apply remembers.extend
      intro number member
      obtain ⟨same, _⟩ := Event.opened.inj (mem_singleton.1 member)
      exact apart same
  · have none : ∀ hash number, .opened hash number ∉ later := by
      intro hash number member
      have listed := mem_openings.2 member
      rw [quiet] at listed
      cases listed
    refine ⟨once.extend quiet, ?_, fun other remembers _ => remembers.extend fun _ => none _ _⟩
    have kept := remembers.extend fun number => none slot.hash number
    rwa [Remembers, ← window, ← hash] at kept

end Steps

theorem openedOnce_slotwise (crypto : Crypto) : Slotwise crypto Remembers OpenedOnce where
  start := ⟨by simp, by simp⟩
  restamp := by
    rintro events slot held remembers ⟨_, _, _, _, _, _, rfl⟩
    exact remembers
  promotion := by
    intro events promoted once
    exact ⟨once.extend rfl, fun slot remembers =>
      remembers.extend fun sequence member => by cases mem_singleton.1 member⟩
  install := by
    intro events encoded slot once unused new
    refine ⟨once.extend rfl, ⟨∅, unused.replay ▸ .fresh rfl rfl, ?_⟩, fun other remembers =>
      remembers.extend fun sequence member => by cases mem_singleton.1 member⟩
    intro sequence member
    rcases mem_append.1 member with earlier | later
    · exact absurd (once.known slot.hash sequence earlier) new
    · cases mem_singleton.1 later
  step := openedOnce_step

/-- Between two boundaries each hash and number makes `OpenData` return true at most
once. -/
theorem data_opened_once (crypto : Crypto) (calls : List Call) :
    ∀ epoch ∈ (run (Node.step crypto) {} calls).epochs, NoCollision epoch →
      (epoch.filterMap Event.opening).Nodup :=
  fun epoch member distinct => ((openedOnce_slotwise crypto).epochs calls epoch member distinct).once

/-- A datagram that is received twice. -/
theorem data_opened_once_replayed :
    let script := handshake ++
      [act .responder (.sealData [1] 7 1),
        receiveData .initiator 3 there 8,
        receiveData .initiator 3 there 9]
    let calls := System.callsOf .initiator (System.play Sample.crypto {} script)
    let epoch := (run (Node.step Sample.crypto) {} calls).epoch
    NoCollision epoch ∧ (epoch.filterMap Event.opening).length = 1 ∧
      (epoch.filterMap Event.opening).Nodup := by
  intro script calls epoch
  -- one evaluation of the script serves both facts
  have evaluated : NoCollision epoch ∧ (epoch.filterMap Event.opening).length = 1 := by
    decide +kernel
  exact ⟨evaluated.1, evaluated.2,
    data_opened_once crypto calls epoch mem_cons_self evaluated.1⟩

end OpenPpp2.P2P
