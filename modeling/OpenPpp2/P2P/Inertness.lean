import OpenPpp2.P2P.CallMoves

/-!
# Rejected input changes nothing

The handlers change the slot in the middle and can still fail after that.
-/

namespace OpenPpp2.P2P

open Lib.Run List Option Slot Node

namespace Slot

structure Preparing (slot : Slot) : Prop where
  probes : slot.tx.length ≤ maxTransactions
  answers : slot.rx.length ≤ maxTransactions
  counted : slot.nextSequence.toNat ≤
    slot.tx.length + slot.rx.length + (if slot.commitSent then 1 else 0)
  nominates : slot.commitSent → slot.nominated
  answered : ∀ received ∈ slot.rx, received.ackBytes ≠ []
  responds : slot.commitReceived → slot.role = .responder
  sized : slot.commitReceived → slot.commitBytes.length = ControlType.keyCommit.wireSize
  paired : slot.commitReceived → slot.localCandidate.Canonical ∧
    slot.peerCandidate.Canonical ∧ (slot.findRx slot.peerCandidate slot.localCandidate).isSome
  received : slot.role = .responder → slot.nominated → slot.commitReceived

variable {slot : Slot}

theorem Preparing.usable (preparing : slot.Preparing) : slot.nextSequence ≠ maxSequence := by
  intro last
  have probes := preparing.probes
  have answers := preparing.answers
  have counted := preparing.counted
  rw [last] at counted
  have size : maxSequence.toNat = 2 ^ 32 - 1 := by decide
  simp only [maxTransactions] at probes answers
  split_ifs at counted <;> omega

theorem Unused.preparing {crypto : Crypto} (unused : slot.Unused crypto) : slot.Preparing := by
  constructor <;>
    simp [unused.tx, unused.rx, unused.nextSequence, unused.commitSent, unused.commitReceived,
      unused.nominated]

theorem length_changeTx (slot : Slot) (here peer : Endpoint) (change : Transaction → Transaction) :
    (slot.changeTx here peer change).length = slot.tx.length := by
  rcases slot.changeTx_cases here peer change with same | ⟨front, sent, back, tx, _, new⟩
  · rw [same]
  · rw [new, tx]
    simp

theorem findRx_append {here peer : Endpoint} (last : Transaction)
    (found : (slot.findRx peer here).isSome) :
    ((slot.rx ++ [last]).find? fun transaction => transaction.connects peer here) =
      slot.findRx peer here := by
  obtain ⟨received, found⟩ := isSome_iff_exists.1 found
  rw [found, find?_append]
  rw [findRx] at found
  rw [found]
  rfl

theorem findTx_changeTx {here peer : Endpoint} {sent : Transaction}
    {change : Transaction → Transaction} (found : slot.findTx here peer = some sent)
    (keeps : ∀ transaction, (change transaction).connects here peer =
      transaction.connects here peer) :
    ((slot.changeTx here peer change).find? fun transaction => transaction.connects here peer) =
      some (change sent) := by
  rw [findTx] at found
  rw [changeTx]
  generalize slot.tx = transactions at found
  induction transactions with
  | nil => cases found
  | cons head tail ih =>
    by_cases connects : head.connects here peer
    · simp only [find?_cons, connects] at found
      cases found
      simp [keeps, connects]
    · simp only [find?_cons, connects] at found
      simpa [connects] using ih found

end Slot

section Steps

variable {crypto : Crypto} {before channel next : Channel} {call : Call} {alone closing : Prop}
  {place : Place} {slot held : Slot} {later : List Event}

theorem SlotStep.nominated (step : SlotStep crypto before call alone closing place slot later held)
    (nominated : slot.nominated) : held.nominated := by
  cases step with
  | sealData sealed =>
    obtain ⟨_, rfl, _⟩ := sealData_eq_some sealed
    exact nominated
  | commit | nominate | receiveCommit => rfl
  | _ => exact nominated

theorem Cause.ready (cause : Cause crypto before call slot)
    (usual : before.latePromotion crypto call = false) : slot.role = .initiator ∧ slot.Ready := by
  cases cause with
  | late late =>
    rw [usual] at late
    cases late
  | confirmed initiator sent ready | data initiator sent ready => exact ⟨initiator, ready⟩

theorem Heard.canonical {packet : ControlPacket}
    (heard : Heard crypto before call place slot packet) :
    packet.source.Canonical ∧ packet.destination.Canonical := by
  obtain ⟨bytes, _, _, _, parsed, _⟩ := heard
  obtain ⟨_, _, _, _, _, _, _, _, source, destination⟩ := (ControlPacket.parse_valid parsed).1
  exact ⟨source, destination⟩

theorem SlotStep.preparing (step : SlotStep crypto before call alone False .pending slot later held)
    (preparing : slot.Preparing) : held.Preparing := by
  have usable := preparing.usable
  have counted := preparing.counted
  cases step with
  | lose usable received short =>
    rw [preparing.sized received] at short
    exact absurd short (by decide)
  | countProbe | ackProbe =>
    exact { preparing with
      probes := by rw [length_changeTx]; exact preparing.probes
      counted := by rw [length_changeTx]; exact counted }
  | probe now signs hashed room =>
    refine { preparing with probes := ?_, counted := ?_ }
    · rw [length_append]
      exact Nat.lt_of_le_of_ne preparing.probes room
    · simp only [toNat_add_one usable, length_append, length_singleton]
      omega
  | answerProbe signs room =>
    refine { preparing with answers := ?_, counted := ?_, answered := ?_, paired := ?_ }
    · rw [length_append]
      exact Nat.lt_of_le_of_ne preparing.answers room
    · simp only [toNat_add_one usable, length_append, length_singleton]
      omega
    · intro received member
      rcases mem_append.1 member with old | new
      · exact preparing.answered received old
      · rw [mem_singleton.1 new]
        rintro rfl
        exact absurd signs.length (by decide)
    · intro received
      obtain ⟨here, peer, found⟩ := preparing.paired received
      refine ⟨here, peer, ?_⟩
      rw [findRx, findRx_append _ found]
      exact found
  | commit now initiator open_ signs =>
    have unsent : slot.commitSent = false := by
      by_contra sent
      rw [preparing.nominates (by simpa using sent)] at open_
      cases open_
    have none : slot.commitReceived → False := fun received => by
      rw [preparing.responds received] at initiator
      cases initiator
    refine { preparing with
      counted := ?_, nominates := fun _ => rfl, sized := fun received => (none received).elim
      paired := fun received => (none received).elim, received := fun responder => ?_ }
    · rw [unsent] at counted
      rw [toNat_add_one usable]
      simpa using counted
    · rw [responder] at initiator
      cases initiator
  | nominate here peer initiator open_ exhausted => exact absurd exhausted usable
  | receiveCommit responder new heard same type length probed =>
    obtain ⟨source, destination⟩ := heard.canonical
    exact { preparing with
      nominates := fun _ => rfl
      responds := fun _ => responder
      sized := fun _ => length
      paired := fun _ => ⟨destination, source, by
        rw [findRx]
        rw [findRx] at probed
        rw [probed]
        rfl⟩
      received := fun _ _ => rfl }
  | ackCommit closes received ready signs => exact (closes rfl).elim
  | _ => exact { preparing with }

namespace Channel

/-- The pending slot is being set up, the current one has a nominated pair. -/
structure Orderly (channel : Channel) : Prop where
  pending : ∀ slot ∈ channel.pending, slot.Preparing
  current : ∀ slot ∈ channel.current, slot.nominated

theorem Orderly.move (orderly : channel.Orderly) (usual : before.latePromotion crypto call = false)
    (move : Move crypto before call channel later next) : next.Orderly := by
  cases move with
  | @slot place slot held _ stands step =>
    cases place with
    | pending =>
      refine ⟨?_, orderly.current⟩
      rintro _ ⟨⟩
      exact step.preparing (orderly.pending slot stands)
    | current =>
      refine ⟨orderly.pending, ?_⟩
      rintro _ ⟨⟩
      exact step.nominated (orderly.current slot stands)
    | previous => exact ⟨orderly.pending, orderly.current⟩
  | promote now waits cause =>
    refine ⟨by rintro _ ⟨⟩, ?_⟩
    rintro _ ⟨⟩
    exact (cause.ready usual).2.1
  | acknowledge now waits responder received ready signs =>
    refine ⟨by rintro _ ⟨⟩, ?_⟩
    rintro _ ⟨⟩
    exact ready.1
  | fallback => exact ⟨by rintro _ ⟨⟩, by rintro _ ⟨⟩⟩
  | cancel settled =>
    refine ⟨by rintro _ ⟨⟩, ?_⟩
    intro slot present
    obtain ⟨current, stands, rfl⟩ := map_eq_some_iff.1 present
    exact orderly.current current stands
  | forget => exact ⟨orderly.pending, orderly.current⟩
  | install offered built fresh empty settled follows =>
    refine ⟨?_, orderly.current⟩
    rintro _ ⟨⟩
    exact (ofOffer_unused built).1.preparing
  | flags step =>
    have same := step.toKeyChain
    constructor
    · rw [same]
      exact orderly.pending
    · rw [same]
      exact orderly.current

def Inert {α : Type} (channel : Channel) (outcome : Channel × Reply α) : Prop :=
  outcome.2 = .refused → outcome.1 = channel

variable {α : Type}

theorem inert_refused : Inert channel (channel, (.refused : Reply α)) := fun _ => rfl

theorem inert_accepted {value : α} : Inert channel (next, .accepted value) :=
  fun refused => by cases refused

theorem Handled.inert {outcome : Channel × Reply ControlResult}
    (handled : Handled crypto before call False channel outcome) : Inert channel outcome := by
  rcases handled with rfl | ⟨accepts, _⟩
  · exact inert_refused
  · exact fun refused => (accepts refused).elim

theorem Orderly.not_withholds {packet : ControlPacket} {now : Millis} {window : ReplayWindow}
    (orderly : channel.Orderly) (stands : channel.pending = some slot)
    (responder : slot.role = .responder) (nominated : slot.nominated)
    (here : packet.destination = slot.localCandidate) (peer : packet.source = slot.peerCandidate)
    (probed : (slot.findTx packet.destination packet.source).isSome) (setup : slot.Setup now) :
    ¬ Withholds { slot with
        tx := slot.changeTx packet.destination packet.source fun transaction =>
          { transaction with acked := true }
        replay := window } now := by
  have preparing := orderly.pending slot stands
  have received := preparing.received responder nominated
  obtain ⟨_, _, answered⟩ := preparing.paired received
  obtain ⟨answer, answered⟩ := isSome_iff_exists.1 answered
  obtain ⟨sent, found⟩ := isSome_iff_exists.1 probed
  rintro (early | last | size)
  · refine early ⟨received, ⟨nominated, ⟨{ sent with acked := true }, ?_, rfl⟩, answer, answered, ?_⟩,
      setup⟩
    · rw [findTx, ← here, ← peer]
      exact findTx_changeTx found fun _ => rfl
    · exact preparing.answered answer (mem_of_find?_eq_some answered)
  · exact preparing.usable last
  · exact size (preparing.sized received)

section Calls

variable {bytes : Bytes} {sender : Endpoint} {now : Millis} {generation : BitVec 64}

theorem handleControl_inert (orderly : channel.Orderly)
    (usual : channel.lateProbeAck crypto (.handleControl bytes sender now generation) = false) :
    Inert channel (channel.handleControl crypto bytes sender now generation) := by
  have excuses : Excuses crypto channel (.handleControl bytes sender now generation) now False := by
    refine ⟨fun late => ?_, ?_, fun stands responder nominated here peer probed setup =>
      orderly.not_withholds stands responder nominated here peer probed setup⟩
    · rw [late] at usual
      cases usual
    · intro place slot stands elsewhere open_ last
      cases place with
      | pending => exact (orderly.pending slot stands).usable last
      | current =>
        rw [orderly.current slot stands] at open_
        simp at open_
      | previous => exact elsewhere rfl
  exact (handleControl_handled excuses).inert

theorem openData_inert : Inert channel (channel.openData crypto bytes sender now generation) := by
  rw [openData]
  split
  · exact inert_refused
  rcases DataHeader.parse bytes with _ | header
  · exact inert_refused
  simp only
  rcases channel.readable header.offerHash with _ | ⟨slot, previous, promote⟩
  · exact inert_refused
  simp only
  split
  · exact inert_refused
  split
  · exact inert_refused
  rcases slot.openData crypto bytes with _ | ⟨plaintext, window⟩
  · exact inert_refused
  simp only
  split
  · exact inert_accepted
  split <;> exact inert_accepted

end Calls

end Channel

end Steps

/-- In every run without a late probe acknowledgement, a call that returns false
leaves the channel as it was. -/
theorem rejected_input_inert (crypto : Crypto) (calls : List Call)
    (guarded : Guarded (Node.step crypto)
      (fun node call => node.channel.latePromotion crypto call = false) {} calls) :
    let channel := (run (step crypto) {} calls).channel
    ∀ packet sender now generation,
      (channel.lateProbeAck crypto (.handleControl packet sender now generation) = false →
        (channel.handleControl crypto packet sender now generation).2 = .refused →
        (channel.handleControl crypto packet sender now generation).1 = channel) ∧
      ((channel.openData crypto packet sender now generation).2 = .refused →
        (channel.openData crypto packet sender now generation).1 = channel) ∧
      ((channel.handleNewEndpointData crypto packet sender now generation).2 = .refused →
        (channel.handleNewEndpointData crypto packet sender now generation).1 = channel) := by
  have orderly : Node.Throughout (fun channel _ => channel.Orderly)
      (run (step crypto) {} calls) := by
    apply epoch_invariant
      (fun channel call => channel.latePromotion crypto call = false) _ _ guarded
    · intro channel empty _
      constructor
      · rw [empty]
        rintro _ ⟨⟩
      · rw [empty]
        rintro _ ⟨⟩
    · intro before call usual channel events later next orderly move
      exact orderly.move usual move
  intro channel packet sender now generation
  have roamed : Channel.Handled crypto channel (.handleNewEndpointData packet sender now generation)
      False channel (channel.handleNewEndpointData crypto packet sender now generation) :=
    Channel.handleNewEndpointData_handled
  exact ⟨Channel.handleControl_inert orderly.1, Channel.openData_inert, roamed.inert⟩

/-- The responder hears a probe acknowledgement of the handshake again. -/
theorem rejected_input_inert_after_handshake :
    let taken := System.play Sample.crypto {} Sample.handshake
    let calls := System.callsOf .responder taken
    let channel := (run (step Sample.crypto) {} calls).channel
    let packet := ((run (System.step Sample.crypto) {} taken).node .initiator).datagrams.getD 1 []
    Guarded (step Sample.crypto)
        (fun node call => node.channel.latePromotion Sample.crypto call = false) {} calls ∧
      (ControlPacket.parse packet).map ControlPacket.type = some .probeAck ∧
      (channel.handleControl Sample.crypto packet Sample.here 7 1).2 = .refused ∧
      (channel.handleControl Sample.crypto packet Sample.here 7 1).1 = channel := by
  intro taken calls channel packet
  -- one evaluation of the handshake serves all facts
  have evaluated : Guarded (step Sample.crypto)
      (fun node call => node.channel.latePromotion Sample.crypto call = false) {} calls ∧
      (ControlPacket.parse packet).map ControlPacket.type = some .probeAck ∧
      channel.lateProbeAck Sample.crypto (.handleControl packet Sample.here 7 1) = false ∧
      (channel.handleControl Sample.crypto packet Sample.here 7 1).2 = .refused := by
    decide +kernel
  obtain ⟨guarded, parsed, usual, refused⟩ := evaluated
  have inert := rejected_input_inert Sample.crypto calls guarded packet Sample.here 7 1
  exact ⟨guarded, parsed, refused, inert.1 usual refused⟩

namespace Sample

/-- The responder probes a second pair, the key is established on the first, and the
responder roams to its second candidate before the answer to that probe is in. -/
def roaming : List System.Cue :=
  [accept .initiator (offer 1 0) 1, accept .responder (offer 1 0) 1,
    act .initiator (.createProbe here there 2 1), act .responder (.createProbe there here 2 1),
    act .responder (.createProbe elsewhere here 2 1),
    receive .responder 0 here 3, receive .initiator 0 there 3, receive .initiator 1 elsewhere 3,
    receive .initiator 2 there 4, receive .responder 1 here 4,
    receive .responder 3 here 5, receive .initiator 3 there 6,
    act .responder (.sealData [1] 7 1),
    { side := .initiator
      index := 4
      call := fun datagram => .handleNewEndpointData datagram elsewhere 8 1 },
    receive .responder 4 here 9]

end Sample

/-- The late answer is refused, and the channel has changed all the same. -/
theorem late_probe_ack_refused :
    let taken := System.play Sample.crypto {} Sample.roaming
    let channel := (run (step Sample.crypto) {} (System.callsOf .responder taken)).channel
    let answer := (run (System.step Sample.crypto) {} taken).initiator.datagrams.getD 2 []
    (channel.handleControl Sample.crypto answer Sample.here 10 1).2 = .refused ∧
      (channel.handleControl Sample.crypto answer Sample.here 10 1).1 ≠ channel := by
  decide +kernel

end OpenPpp2.P2P
