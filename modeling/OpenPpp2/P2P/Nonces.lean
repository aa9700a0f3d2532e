import OpenPpp2.P2P.SlotChain

/-!
# Numbers are used once

One counter per slot numbers probes, acknowledgements, commits, migrations, heartbeats and data.
-/

namespace OpenPpp2.P2P

open Lib.Run List Option ControlPacket

def label (datagram : Bytes) : Option (OfferHash × Sequence) :=
  match ControlPacket.parse datagram with
  | some packet => some (packet.offerHash, packet.sequence)
  | none => (DataHeader.parse datagram).map fun header => (header.offerHash, header.sequence)

def Event.sealing : Event → Option (OfferHash × Sequence)
  | .built datagram =>
    (DataHeader.parse datagram).map fun header => (header.offerHash, header.sequence)
  | _ => none

/-- The cipher is given the key of the direction and the nonce of the header's number. -/
def SealedBy (crypto : Crypto) (direction : DirectionalKeys) (datagram : Bytes)
    (header : DataHeader) : Prop :=
  ∃ payload, DataHeader.sealDatagram crypto header direction.txKey
    (buildNonce direction.txNoncePrefix header.sequence) payload = some datagram

def Sealed (crypto : Crypto) (events : List Event) (hash : OfferHash)
    (direction : DirectionalKeys) : Prop :=
  ∀ datagram header, .built datagram ∈ events → DataHeader.parse datagram = some header →
    header.offerHash = hash → SealedBy crypto direction datagram header

def Slot.direction (slot : Slot) : DirectionalKeys :=
  slot.keys.selectDirection slot.role

structure Counted (crypto : Crypto) (events : List Event) (slot : Slot) : Prop where
  below : ∀ datagram sequence, .built datagram ∈ events →
    label datagram = some (slot.hash, sequence) → sequence.toNat < slot.nextSequence.toNat
  cached : ∀ datagram, slot.Cached datagram →
    .built datagram ∈ events ∧ (ControlPacket.parse datagram).isSome
  commits : slot.commitSent → slot.role = .initiator
  keyed : Sealed crypto events slot.hash slot.direction

/-- The datagrams of the epoch, each with a usable number of an installed key. -/
structure Numbered (crypto : Crypto) (events : List Event) : Prop where
  labelled : ∀ datagram, .built datagram ∈ events → ∃ hash sequence,
    label datagram = some (hash, sequence) ∧ sequence ≠ maxSequence ∧ Installs events hash
  identical : ∀ left right, .built left ∈ events → .built right ∈ events →
    label left = label right → left = right
  once : (events.filterMap Event.sealing).Nodup
  keyed : ∀ hash, ∃ direction, Sealed crypto events hash direction

variable {bytes : Bytes} {packet : ControlPacket} {type : ControlType}

variable {here peer : Endpoint}

theorem Slot.Signs.parse {slot : Slot} (signs : slot.Signs type here peer packet bytes) :
    parse bytes = some packet.carried :=
  parse_serialize signs.written

theorem Slot.Signs.label {slot : Slot} (signs : slot.Signs type here peer packet bytes) :
    label bytes = some (slot.hash, slot.nextSequence) := by
  rw [P2P.label, signs.parse, ← signs.offerHash, ← signs.sequence]
  rfl

variable {datagram : Bytes}

theorem sealing_control (control : (parse datagram).isSome) :
    Event.sealing (.built datagram) = none := by
  rcases parsed : DataHeader.parse datagram with _ | header
  · simp [Event.sealing, parsed]
  · rw [parse_of_data parsed] at control
    cases control

theorem label_sealed {crypto : Crypto} {slot counted : Slot} {payload datagram : Bytes}
    (sealed : slot.sealData crypto payload = some (counted, datagram)) :
    label datagram = some (slot.hash, slot.nextSequence) ∧
      Event.sealing (.built datagram) = some (slot.hash, slot.nextSequence) := by
  obtain ⟨_, _, size, parsed⟩ := Slot.sealData_eq_some sealed
  simp only [label, parse_of_data parsed, Event.sealing, parsed, map_some]
  exact ⟨rfl, rfl⟩

variable {header : DataHeader}

theorem sealedBy_slot {crypto : Crypto} {slot counted : Slot} {payload datagram : Bytes}
    (sealed : slot.sealData crypto payload = some (counted, datagram))
    (parsed : DataHeader.parse datagram = some header) :
    SealedBy crypto slot.direction datagram header := by
  simp only [Slot.sealData] at sealed
  split_ifs at sealed
  obtain ⟨wire, done, equal⟩ := map_eq_some_iff.1 sealed
  cases equal
  cases parsed.symm.trans (DataHeader.parse_sealDatagram done)
  -- the length of the payload is written again
  exact ⟨payload, done⟩

theorem label_of_parse (parsed : DataHeader.parse datagram = some header) :
    label datagram = some (header.offerHash, header.sequence) := by
  rw [label, parse_of_data parsed, parsed]
  rfl

theorem label_of_sealing {mark : OfferHash × Sequence}
    (sealing : Event.sealing (.built datagram) = some mark) : label datagram = some mark := by
  obtain ⟨header, parsed, rfl⟩ := map_eq_some_iff.1 sealing
  exact label_of_parse parsed

section Caches

variable {slot : Slot} {datagram : Bytes}

theorem Slot.cached_changeTx {change : Transaction → Transaction}
    (cached : { slot with tx := slot.changeTx here peer change }.Cached datagram)
    (keeps : ∀ transaction, (change transaction).requestBytes = transaction.requestBytes) :
    slot.Cached datagram := by
  cases cached with
  | @probe sent member =>
    rcases slot.changeTx_cases here peer change with same | ⟨front, earlier, back, tx, _, new⟩
    · exact .probe (same ▸ member)
    · have listed := new ▸ member
      rcases mem_append.1 listed with listed | listed
      · exact .probe (tx ▸ mem_append_left _ listed)
      rcases mem_cons.1 listed with rfl | listed
      · rw [keeps]
        exact .probe (tx ▸ mem_append_right _ mem_cons_self)
      · exact .probe (tx ▸ mem_append_right _ (mem_cons_of_mem _ listed))
  | probeAck member => exact .probeAck member
  | commit sent => exact .commit sent
  | commitAck answered => exact .commitAck answered
  | migration active => exact .migration active
  | migrationAck answered => exact .migrationAck answered

end Caches

/-- A step builds one datagram with the next number, or none that is new. -/
inductive Numbering (crypto : Crypto) (slot : Slot) (later : List Event) (held : Slot) : Prop
  | fresh {datagram : Bytes} (usable : slot.nextSequence ≠ maxSequence)
      (next : held.nextSequence = slot.nextSequence + 1)
      (mark : label datagram = some (slot.hash, slot.nextSequence))
      (cached : ∀ bytes, held.Cached bytes → slot.Cached bytes ∨
        (bytes = datagram ∧ (parse datagram).isSome))
      (keyed : ∀ header, DataHeader.parse datagram = some header →
        SealedBy crypto slot.direction datagram header)
      (events : later = [.built datagram])
  | stale (grows : slot.nextSequence.toNat ≤ held.nextSequence.toNat)
      (cached : ∀ bytes, held.Cached bytes → slot.Cached bytes)
      (events : (∃ bytes, slot.Cached bytes ∧ later = [.built bytes]) ∨
        later.filterMap Event.datagram = [])

section Steps

variable {crypto : Crypto} {before : Channel} {call : Call} {alone closing : Prop}
  {place : Place}
  {slot held : Slot} {events later : List Event}

theorem Numbering.signed {type : ControlType} {packet : ControlPacket}
    {bytes : Bytes} (signs : slot.Signs type here peer packet bytes)
    (next : held.nextSequence = slot.nextSequence + 1)
    (cached : ∀ other, held.Cached other → slot.Cached other ∨ other = bytes) :
    Numbering crypto slot [.built bytes] held := by
  apply fresh signs.usable next signs.label _ _ rfl
  · intro other kept
    rcases cached other kept with old | rfl
    · exact .inl old
    · exact .inr ⟨rfl, by rw [signs.parse]; rfl⟩
  · intro header parsed
    cases signs.parse.symm.trans (parse_of_data parsed)

theorem Numbering.quiet (grows : slot.nextSequence.toNat ≤ held.nextSequence.toNat)
    (cached : ∀ bytes, held.Cached bytes → slot.Cached bytes)
    (none : later.filterMap Event.datagram = []) : Numbering crypto slot later held :=
  .stale grows cached (.inr none)

theorem SlotStep.numbering (step : SlotStep crypto before call alone closing place slot later held)
    (commits : slot.commitSent → slot.role = .initiator) : Numbering crypto slot later held := by
  cases step with
  | resend cached => exact .stale le_rfl (fun _ kept => kept) (.inl ⟨_, cached, rfl⟩)
  | lose usable received short =>
    apply Numbering.quiet _ (fun _ kept => by cases kept <;> constructor <;> assumption) rfl
    rw [toNat_add_one usable]
    exact Nat.le_succ _
  | advance forward =>
    exact .quiet forward (fun _ kept => by cases kept <;> constructor <;> assumption) rfl
  | countProbe | ackProbe =>
    exact .quiet le_rfl (fun _ kept => Slot.cached_changeTx kept (fun _ => rfl)) rfl
  | probe now signs hashed room =>
    apply Numbering.signed signs rfl
    intro other kept
    cases kept with
    | probe member =>
      rcases mem_append.1 member with old | new
      · exact .inl (.probe old)
      · rw [mem_singleton.1 new]
        exact .inr rfl
    | _ => left; constructor; assumption
  | answerProbe signs room =>
    apply Numbering.signed signs rfl
    intro other kept
    cases kept with
    | probeAck member =>
      rcases mem_append.1 member with old | new
      · exact .inl (.probeAck old)
      · rw [mem_singleton.1 new]
        exact .inr rfl
    | _ => left; constructor; assumption
  | commit now initiator open_ signs | ackCommit closes received ready signs
  | challenge hash now deadline single signs | answerChallenge signs =>
    -- the datagram takes the place of an earlier one
    apply Numbering.signed signs rfl
    intro other kept
    cases kept <;> first | exact .inr rfl | (left; constructor; assumption)
  | receiveCommit responder new heard same type length probed =>
    refine .quiet (Nat.le_refl slot.nextSequence.toNat) ?_ rfl
    intro other kept
    cases kept with
    | commit sent =>
      -- only an initiator has sent a commit
      have initiator := commits sent
      rw [responder] at initiator
      cases initiator
    | _ => constructor; assumption
  | migrate =>
    refine .quiet (Nat.le_refl slot.nextSequence.toNat) ?_ rfl
    intro other kept
    cases kept with
    | migration active => cases active
    | _ => constructor; assumption
  | sealData sealed =>
    obtain ⟨usable, rfl, _⟩ := Slot.sealData_eq_some sealed
    exact .fresh usable rfl (label_sealed sealed).1
      (fun _ kept => .inl (by cases kept <;> constructor <;> assumption))
      (fun _ parsed => sealedBy_slot sealed parsed) rfl
  | _ =>
    exact .quiet le_rfl (fun _ kept => by cases kept <;> constructor <;> assumption) rfl

theorem SlotStep.commits (step : SlotStep crypto before call alone closing place slot later held)
    (commits : slot.commitSent → slot.role = .initiator)
    (sent : held.commitSent) : held.role = .initiator := by
  cases step with
  | commit now initiator open_ signs => exact initiator
  | sealData sealed =>
    obtain ⟨_, rfl, _⟩ := Slot.sealData_eq_some sealed
    exact commits sent
  | _ => exact commits sent

theorem Sealed.extend {hash : OfferHash} {direction : DirectionalKeys}
    (sealed : Sealed crypto events hash direction)
    (new : ∀ datagram header, .built datagram ∈ later → DataHeader.parse datagram = some header →
      header.offerHash = hash →
        .built datagram ∈ events ∨ SealedBy crypto direction datagram header) :
    Sealed crypto (events ++ later) hash direction := by
  intro datagram header member parsed own
  rcases mem_append.1 member with earlier | added
  · exact sealed datagram header earlier parsed own
  · rcases new datagram header added parsed own with earlier | done
    · exact sealed datagram header earlier parsed own
    · exact done

theorem SlotStep.direction
    (step : SlotStep crypto before call alone closing place slot later held) :
    held.direction = slot.direction := by
  cases step with
  | sealData sealed =>
    obtain ⟨_, rfl, _⟩ := Slot.sealData_eq_some sealed
    rfl
  | _ => rfl

theorem Counted.extend (counted : Counted crypto events slot)
    (foreign : ∀ datagram, .built datagram ∈ later → .built datagram ∈ events ∨
      ∀ sequence, label datagram ≠ some (slot.hash, sequence)) :
    Counted crypto (events ++ later) slot := by
  constructor
  · intro datagram sequence member mark
    rcases mem_append.1 member with earlier | new
    · exact counted.below datagram sequence earlier mark
    · rcases foreign datagram new with earlier | other
      · exact counted.below datagram sequence earlier mark
      · exact absurd mark (other sequence)
  · intro datagram kept
    obtain ⟨member, control⟩ := counted.cached datagram kept
    exact ⟨mem_append_left _ member, control⟩
  · exact counted.commits
  · apply counted.keyed.extend
    intro datagram header member parsed own
    refine (foreign datagram member).imp_right fun other => ?_
    exact absurd (own ▸ label_of_parse parsed) (other header.sequence)

theorem Numbered.extend (numbered : Numbered crypto events)
    (old : ∀ datagram, .built datagram ∈ later → .built datagram ∈ events)
    (quiet : later.filterMap Event.sealing = []) : Numbered crypto (events ++ later) := by
  have known : ∀ datagram, .built datagram ∈ events ++ later → .built datagram ∈ events := by
    intro datagram member
    rcases mem_append.1 member with earlier | new
    · exact earlier
    · exact old datagram new
  constructor
  · intro datagram member
    obtain ⟨hash, sequence, mark, usable, installs⟩ := numbered.labelled datagram (known _ member)
    exact ⟨hash, sequence, mark, usable, installs.append later⟩
  · exact fun left right first second =>
      numbered.identical left right (known left first) (known right second)
  · rw [filterMap_append, quiet, append_nil]
    exact numbered.once
  · intro hash
    obtain ⟨direction, sealed⟩ := numbered.keyed hash
    exact ⟨direction, sealed.extend fun datagram _ member _ _ => .inl (old datagram member)⟩

theorem Numbered.build (numbered : Numbered crypto events) (counted : Counted crypto events slot)
    (installs : Installs events slot.hash) (usable : slot.nextSequence ≠ maxSequence)
    (mark : label datagram = some (slot.hash, slot.nextSequence))
    (keyed : Sealed crypto (events ++ [.built datagram]) slot.hash slot.direction) :
    Numbered crypto (events ++ [.built datagram]) := by
  have unused : ∀ earlier, .built earlier ∈ events → label earlier ≠ label datagram := by
    intro earlier member same
    have less := counted.below earlier slot.nextSequence member (same.trans mark)
    exact Nat.lt_irrefl _ less
  constructor
  · intro other member
    rcases mem_append.1 member with earlier | new
    · obtain ⟨hash, sequence, mark, usable, installs⟩ := numbered.labelled other earlier
      exact ⟨hash, sequence, mark, usable, installs.append _⟩
    · cases mem_singleton.1 new
      exact ⟨slot.hash, slot.nextSequence, mark, usable, installs.append _⟩
  · intro left right first second same
    rcases mem_append.1 first with earlier | new <;>
      rcases mem_append.1 second with earlier' | new'
    · exact numbered.identical left right earlier earlier' same
    · cases mem_singleton.1 new'
      exact absurd same (unused left earlier)
    · cases mem_singleton.1 new
      exact absurd same.symm (unused right earlier')
    · cases mem_singleton.1 new
      cases mem_singleton.1 new'
      rfl
  · rw [filterMap_append]
    rcases sealing : Event.sealing (.built datagram) with _ | number
    · simpa [sealing] using numbered.once
    · have single : [Event.built datagram].filterMap Event.sealing = [number] := by
        simp [sealing]
      rw [single]
      apply Nodup.append numbered.once (nodup_singleton _)
      rw [disjoint_singleton]
      intro listed
      obtain ⟨event, member, earlier⟩ := mem_filterMap.1 listed
      cases event with
      | built other =>
        exact unused other member ((label_of_sealing earlier).trans (label_of_sealing sealing).symm)
      | _ => cases earlier
  · intro hash
    by_cases own : hash = slot.hash
    · exact ⟨slot.direction, own ▸ keyed⟩
    · obtain ⟨direction, sealed⟩ := numbered.keyed hash
      refine ⟨direction, sealed.extend ?_⟩
      intro other header new parsed hashed
      cases mem_singleton.1 new
      obtain ⟨same, _⟩ := Prod.mk.inj (some.inj ((label_of_parse parsed).symm.trans mark))
      exact absurd (hashed.symm.trans same) own

theorem numbered_step (numbered : Numbered crypto events) (counted : Counted crypto events slot)
    (installs : Installs events slot.hash)
    (step : SlotStep crypto before call alone closing place slot later held) :
    Numbered crypto (events ++ later) ∧ Counted crypto (events ++ later) held ∧
      ∀ other, Counted crypto events other → other.hash ≠ slot.hash →
        Counted crypto (events ++ later) other := by
  obtain ⟨_, hash, _⟩ := step.same
  have direction := step.direction
  have commits := step.commits counted.commits
  cases step.numbering counted.commits with
  | @fresh datagram usable next mark cached keyed built =>
    subst built
    have sealed : Sealed crypto (events ++ [.built datagram]) slot.hash slot.direction := by
      apply counted.keyed.extend
      intro other header new parsed _
      cases mem_singleton.1 new
      exact .inr (keyed header parsed)
    refine ⟨numbered.build counted installs usable mark sealed,
      ⟨?_, ?_, commits, hash ▸ direction ▸ sealed⟩, ?_⟩
    · intro other sequence member found
      rw [hash] at found
      rw [next, toNat_add_one usable]
      rcases mem_append.1 member with earlier | new
      · exact Nat.lt_succ_of_lt (counted.below other sequence earlier found)
      · cases mem_singleton.1 new
        cases mark.symm.trans found
        exact Nat.lt_succ_self _
    · intro bytes kept
      rcases cached bytes kept with old | ⟨rfl, control⟩
      · obtain ⟨member, control⟩ := counted.cached bytes old
        exact ⟨mem_append_left _ member, control⟩
      · exact ⟨mem_append_right _ (mem_singleton.2 rfl), control⟩
    · intro other numbers apart
      apply numbers.extend
      intro bytes member
      cases mem_singleton.1 member
      right
      intro sequence found
      obtain ⟨same, _⟩ := Prod.mk.inj (some.inj (mark.symm.trans found))
      exact apart same.symm
  | stale grows cached quiet =>
    have old : ∀ datagram, .built datagram ∈ later →
        .built datagram ∈ events ∧ (parse datagram).isSome := by
      intro datagram member
      rcases quiet with ⟨bytes, kept, rfl⟩ | none
      · cases mem_singleton.1 member
        exact counted.cached datagram kept
      · have listed : datagram ∈ later.filterMap Event.datagram := mem_filterMap.2 ⟨_, member, rfl⟩
        rw [none] at listed
        cases listed
    have unsealed : later.filterMap Event.sealing = [] := by
      rw [filterMap_eq_nil_iff]
      intro event member
      cases event with
      | built datagram => exact sealing_control (old datagram member).2
      | _ => rfl
    refine ⟨numbered.extend (fun _ member => (old _ member).1) unsealed, ?_, fun other numbers _ =>
      numbers.extend fun datagram member => .inl (old datagram member).1⟩
    constructor
    · intro datagram sequence member found
      rw [hash] at found
      have earlier := (mem_append.1 member).elim id fun new => (old datagram new).1
      exact Nat.lt_of_lt_of_le (counted.below datagram sequence earlier found) grows
    · intro datagram kept
      obtain ⟨member, control⟩ := counted.cached datagram (cached datagram kept)
      exact ⟨mem_append_left _ member, control⟩
    · exact commits
    · rw [hash, direction]
      exact counted.keyed.extend fun datagram _ member _ _ => .inl (old datagram member).1

end Steps

theorem Slot.Unused.not_cached {crypto : Crypto} {slot : Slot} (unused : slot.Unused crypto)
    (datagram : Bytes) : ¬ slot.Cached datagram := by
  rintro (member | member | sent | answered | active | answered)
  · rw [unused.tx] at member
    cases member
  · rw [unused.rx] at member
    cases member
  · rw [unused.commitSent] at sent
    cases sent
  · exact answered unused.commitAckBytes
  · rw [unused.migration] at active
    cases active
  · exact answered unused.migrationAckBytes

theorem numbered_slotwise (crypto : Crypto) :
    Slotwise crypto (Counted crypto) (Numbered crypto) where
  start := ⟨by simp, by simp, by simp, fun _ => ⟨⟨0, 0, 0, 0⟩, by simp [Sealed]⟩⟩
  restamp := by
    rintro events slot held counted ⟨_, _, _, _, _, _, rfl⟩
    exact ⟨counted.below, fun datagram kept =>
      counted.cached datagram (by cases kept <;> constructor <;> assumption), counted.commits,
      counted.keyed⟩
  promotion := by
    intro events promoted numbered
    exact ⟨numbered.extend (fun _ member => by cases mem_singleton.1 member) rfl,
      fun slot counted => counted.extend fun _ member => by cases mem_singleton.1 member⟩
  install := by
    intro events encoded slot numbered unused new
    refine ⟨numbered.extend (fun _ member => by cases mem_singleton.1 member) rfl, ?_,
      fun other counted => counted.extend fun _ member => by cases mem_singleton.1 member⟩
    constructor
    · intro datagram sequence member found
      rcases mem_append.1 member with earlier | later
      · obtain ⟨hash, number, mark, _, installs⟩ := numbered.labelled datagram earlier
        cases mark.symm.trans found
        exact absurd installs new
      · cases mem_singleton.1 later
    · exact fun datagram kept => absurd kept (unused.not_cached datagram)
    · intro sent
      rw [unused.commitSent] at sent
      cases sent
    · intro datagram header member parsed own
      rcases mem_append.1 member with earlier | later
      · obtain ⟨hash, number, mark, _, installs⟩ := numbered.labelled datagram earlier
        cases mark.symm.trans (label_of_parse parsed)
        exact absurd (own ▸ installs) new
      · cases mem_singleton.1 later
  step := numbered_step

theorem nonces_nodup {events : List Event} (once : (events.filterMap Event.sealing).Nodup)
    (hash : OfferHash) (direction : NoncePrefix) :
    (((events.filterMap Event.sealing).filter fun mark => mark.1 = hash).map fun mark =>
      buildNonce direction mark.2).Nodup := by
  apply Nodup.map_on _ (once.filter _)
  intro left first right second same
  have left_hash : left.1 = hash := by simpa using (mem_filter.1 first).2
  have right_hash : right.1 = hash := by simpa using (mem_filter.1 second).2
  exact Prod.ext (left_hash.trans right_hash.symm) (buildNonce_injective same)

/-- Between two boundaries, datagrams with the same hash and number are the same bytes and the last
number is not used; the data of one hash goes to the cipher under one key, each time with another
nonce. -/
theorem numbers_used_once (crypto : Crypto) (calls : List Call) :
    ∀ epoch ∈ (run (Node.step crypto) {} calls).epochs, NoCollision epoch →
      (∀ left right mark, .built left ∈ epoch → .built right ∈ epoch →
        label left = some mark → label right = some mark → left = right) ∧
      (∀ datagram, .built datagram ∈ epoch →
        ∃ hash sequence, label datagram = some (hash, sequence) ∧ sequence ≠ maxSequence) ∧
      ∀ hash, ∃ direction, Sealed crypto epoch hash direction ∧
        (((epoch.filterMap Event.sealing).filter fun mark => mark.1 = hash).map fun mark =>
          buildNonce direction.txNoncePrefix mark.2).Nodup := by
  intro epoch member distinct
  have numbered := (numbered_slotwise crypto).epochs calls epoch member distinct
  refine ⟨?_, ?_, ?_⟩
  · intro left right mark first second mine other
    exact numbered.identical left right first second (mine.trans other.symm)
  · intro datagram built
    obtain ⟨hash, sequence, mark, usable, _⟩ := numbered.labelled datagram built
    exact ⟨hash, sequence, mark, usable⟩
  · intro hash
    obtain ⟨direction, sealed⟩ := numbered.keyed hash
    exact ⟨direction, sealed, nonces_nodup numbered.once hash direction.txNoncePrefix⟩

/-- A responder that is sent the commit again and seals two payloads. -/
theorem numbers_used_once_resent :
    let script := Sample.handshake ++
      [Sample.receive .responder 2 Sample.here 7, Sample.act .responder (.sealData [1] 8 1),
        Sample.act .responder (.sealData [2] 9 1)]
    let calls := System.callsOf .responder (System.play Sample.crypto {} script)
    let epoch := (run (Node.step Sample.crypto) {} calls).epoch
    let hash := ((Sample.offer 1 0).hash Sample.crypto).getD 0
    NoCollision epoch ∧ ((epoch.filterMap Event.datagram).filterMap label).length = 6 ∧
      (epoch.filterMap Event.sealing).map Prod.fst = [hash, hash] ∧
      (∀ left right mark, .built left ∈ epoch → .built right ∈ epoch →
        label left = some mark → label right = some mark → left = right) ∧
      ∃ direction, Sealed Sample.crypto epoch hash direction := by
  intro script calls epoch hash
  -- one evaluation of the script serves the three facts
  have evaluated : NoCollision epoch ∧
      ((epoch.filterMap Event.datagram).filterMap label).length = 6 ∧
      (epoch.filterMap Event.sealing).map Prod.fst = [hash, hash] := by
    decide +kernel
  have used := numbers_used_once Sample.crypto calls epoch mem_cons_self evaluated.1
  obtain ⟨direction, sealed, _⟩ := used.2.2 hash
  exact ⟨evaluated.1, evaluated.2.1, evaluated.2.2, used.1, direction, sealed⟩

end OpenPpp2.P2P
