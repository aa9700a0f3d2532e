import OpenPpp2.Server.SessionRecovery

/-!
# The resume transaction of a new carrier

`SessionResumeEstablishTransaction.cpp` over the exchanger: at most two begins, the second after a
`GenerationSync`, then send, confirm, commit, send, publish.
-/

namespace OpenPpp2.Server.ResumeTransaction

open Lib.Run Server.SessionRecovery Exchanger

inductive Outcome where
  | resumed
  | rejected
  | preserveSuspended
  | fatal
  deriving DecidableEq, Repr

inductive FallbackReason where
  | resumeDisabled
  | ineligibleCarrier
  | lookupMiss
  | beginRejected
  | otherResumeFailure
  deriving DecidableEq, Repr

structure Result where
  outcome : Outcome := .rejected
  fallbackReason : FallbackReason := .otherResumeFailure
  deriving DecidableEq, Repr

/-- What the transaction did with reservations: a begin obtained one, a publish succeeded with
it, or a cancel was called with it. -/
inductive Event where
  | reserved (token : Token)
  | published (token : Token)
  | cancelled (token : Token)
  deriving DecidableEq, Repr

structure Candidate where
  auth : Authenticator
  carrier : Carrier
  binding : BitVec 256

structure Round where
  beforeBegin : List Interference := []
  request : Option Control := none
  beginEligible : Bool := true
  beginNow : Time := 0
  nonce : Option (BitVec 256) := none
  responseSent : Bool := true
  confirm : Option Control := none
  beforeCommit : List Interference := []
  commitEligible : Bool := true
  commitNow : Time := 0
  withinCommit : List Interference := []
  echo : Bool := true
  commitTick : Time := 0
  preparedValid : Bool := true
  committedSent : Bool := true
  beforePublish : List Interference := []
  publishNow : Time := 0
  beforeCancel : List Interference := []

section

variable (candidate : Candidate) (round : Round)

/-- A round that cancels its reservation and ends with `outcome`. -/
def giveUp (token : Token) (outcome : Outcome) (exchanger : Exchanger) :
    Result × Exchanger × List Event :=
  ({ outcome := outcome },
    (run Exchanger.interfere exchanger round.beforeCancel).cancel candidate.carrier token,
    [.cancelled token])

def conclude (token : Token) (exchanger : Exchanger) : Result × Exchanger × List Event :=
  if round.responseSent then
    match round.confirm with
    | none => giveUp candidate round token .rejected exchanger
    | some confirm =>
      let later := run Exchanger.interfere exchanger round.beforeCommit
      match later.commit candidate.auth candidate.carrier token
        { confirm := confirm, binding := candidate.binding, eligible := round.commitEligible,
          now := round.commitNow, between := round.withinCommit, echo := round.echo,
          tick := round.commitTick, preparedValid := round.preparedValid } with
      | (false, refused) => giveUp candidate round token .rejected refused
      | (true, committed) =>
        if round.committedSent then
          let sent := run Exchanger.interfere committed round.beforePublish
          match sent.publish candidate.carrier token round.publishNow with
          | (false, refused) => giveUp candidate round token .fatal refused
          | (true, published) => ({ outcome := .resumed }, published, [.published token])
        else giveUp candidate round token .preserveSuspended committed
  else giveUp candidate round token .rejected exchanger

def attempt (first : Bool) (exchanger : Exchanger) : Option Result × Exchanger × List Event :=
  match round.request with
  | none => (some { fallbackReason := .lookupMiss }, exchanger, [])
  | some request =>
    let later := run Exchanger.interfere exchanger round.beforeBegin
    match later.beginResume candidate.auth candidate.carrier
      { request := request, binding := candidate.binding, eligible := round.beginEligible,
        now := round.beginNow, nonce := round.nonce } with
    | (.rejected, refused) => (some { fallbackReason := .beginRejected }, refused, [])
    | (.generationSync, synced) =>
      (if round.responseSent && first then none else some {}, synced, [])
    | (.reserved token, reserved) =>
      let (result, final, events) := conclude candidate round token reserved
      (some result, final, .reserved token :: events)

end

/-- `RunSessionResumeEstablishTransaction`. -/
def establish (candidate : Candidate) (first second : Round) (exchanger : Exchanger) :
    Result × Exchanger × List Event :=
  match attempt candidate first true exchanger with
  | (some result, final, events) => (result, final, events)
  | (none, synced, events) =>
    match attempt candidate second false synced with
    | (result, final, more) => (result.getD {}, final, events ++ more)

/-- What a transaction that started at `start` has done: a resumed one has moved the generation
by one and activated the session on its carrier, any other has kept the generation. -/
def Settled (candidate : Candidate) (start : Exchanger) (outcome : Outcome)
    (final : Exchanger) : Prop :=
  if outcome = .resumed then
    final.recovery.generation.toNat = start.recovery.generation.toNat + 1 ∧
      final.recovery.phase = .active ∧ final.transmission = some candidate.carrier
  else final.recovery.generation = start.recovery.generation

variable {start : Exchanger} {outcome : Outcome} {token : Token}
    {answer : Result × Exchanger × List Event} {exchanger : Exchanger} {result : Result}

variable {later final : Exchanger}

theorem Settled.of_generation {candidate : Candidate}
    (settled : Settled candidate later outcome final)
    (same : later.recovery.generation = start.recovery.generation) :
    Settled candidate start outcome final := by
  unfold Settled at settled ⊢
  rw [same] at settled
  exact settled

structure Concluded (candidate : Candidate) (token : Token) (start : Exchanger)
    (answer : Result × Exchanger × List Event) : Prop where
  settled : Settled candidate start answer.1.outcome answer.2.1
  given : answer.1.outcome ≠ .resumed →
    answer.2.1.recovery.reservationToken = token → answer.2.1.disposed
  once : answer.2.2 = [.published token] ∨ answer.2.2 = [.cancelled token]

variable {candidate : Candidate} {round : Round}

theorem concluded_giveUp (nonzero : token ≠ 0) (held : start.Held candidate.carrier token)
    (frame : Frame start exchanger) (unresumed : outcome ≠ .resumed) :
    Concluded candidate token start (giveUp candidate round token outcome exchanger) := by
  have later := frame.trans (frame_run_interfere exchanger round.beforeCancel)
  have outcomeOf := cancel_spec (run interfere exchanger round.beforeCancel)
    candidate.carrier token nonzero (later.held candidate.carrier token nonzero held)
  constructor
  · simp only [Settled, giveUp, unresumed, if_false]
    exact outcomeOf.1.trans later.generation
  · intro _
    exact outcomeOf.2
  · exact .inr rfl

theorem concluded_conclude (round : Round) (nonzero : token ≠ 0)
    (held : exchanger.Held candidate.carrier token) :
    Concluded candidate token exchanger (conclude candidate round token exchanger) := by
  unfold conclude
  split
  · split
    · exact concluded_giveUp nonzero held (.refl _) (by decide)
    dsimp only
    have early := frame_run_interfere exchanger round.beforeCommit
    split
    case h_1 refused committed =>
      have frame := early.trans (committed ▸ frame_commit _ candidate.auth _ token _)
      exact concluded_giveUp nonzero held frame (by decide)
    case h_2 prepared committed =>
      have frame := early.trans (committed ▸ frame_commit _ candidate.auth _ token _)
      split
      · have later := frame.trans (frame_run_interfere prepared round.beforePublish)
        rcases publish_cases (run interfere prepared round.beforePublish)
          candidate.carrier token round.publishNow with
          ⟨published, success, moved, active, carried⟩ | failure
        · rw [success]
          rw [later.generation] at moved
          constructor
          · simp only [Settled, if_true]
            exact ⟨moved, active, carried⟩
          · intro unresumed
            exact absurd rfl unresumed
          · exact .inl rfl
        · rw [failure]
          exact concluded_giveUp nonzero held later (by decide)
      · exact concluded_giveUp nonzero held frame (by decide)
  · exact concluded_giveUp nonzero held (.refl _) (by decide)

structure Finished (candidate : Candidate) (start : Exchanger) (result : Result)
    (final : Exchanger) (events : List Event) : Prop where
  settled : Settled candidate start result.outcome final
  given : result.outcome ≠ .resumed → ∀ token, .reserved token ∈ events →
    final.recovery.reservationToken = token → final.disposed
  once : ∀ token, .reserved token ∈ events →
    events.count (.published token) + events.count (.cancelled token) = 1

theorem Finished.of_generation
    {events : List Event} (finished : Finished candidate later result final events)
    (same : later.recovery.generation = start.recovery.generation) :
    Finished candidate start result final events where
  settled := finished.settled.of_generation same
  given := finished.given
  once := finished.once

theorem finished_unreserved (unresumed : result.outcome ≠ .resumed)
    (same : final.recovery.generation = start.recovery.generation) :
    Finished candidate start result final [] where
  settled := by
    simp only [Settled, unresumed, if_false]
    exact same
  given := by simp
  once := by simp

theorem finished_reserved (concluded : Concluded candidate token start answer) :
    Finished candidate start answer.1 answer.2.1 (.reserved token :: answer.2.2) := by
  have only : ∀ other, Event.reserved other ∈ Event.reserved token :: answer.2.2 →
      other = token := by
    intro other member
    rcases concluded.once with events | events <;> simpa [events] using member
  constructor
  · exact concluded.settled
  · intro unresumed other member
    rw [only other member]
    exact concluded.given unresumed
  · intro other member
    rw [only other member]
    rcases concluded.once with events | events <;> simp [events]

/-- A round either ends the transaction or leaves the generation for the next one. -/
def Attempted (candidate : Candidate) (start : Exchanger) :
    Option Result × Exchanger × List Event → Prop
  | (some result, final, events) => Finished candidate start result final events
  | (none, synced, events) =>
    synced.recovery.generation = start.recovery.generation ∧ events = []

theorem attempted_attempt (candidate : Candidate) (round : Round) (first : Bool)
    (exchanger : Exchanger) :
    Attempted candidate exchanger (attempt candidate round first exchanger) := by
  unfold attempt
  split
  · exact finished_unreserved Outcome.noConfusion rfl
  case h_2 request _ =>
    have frame := frame_run_interfere exchanger round.beforeBegin
    have begun := begun_beginResume (run interfere exchanger round.beforeBegin)
      candidate.auth candidate.carrier
      { request := request, binding := candidate.binding, eligible := round.beginEligible,
        now := round.beginNow, nonce := round.nonce }
    have same := begun.generation.trans frame.generation
    dsimp only
    generalize beginResume _ _ _ _ = answer at begun same
    rcases answer with ⟨status, left⟩
    cases status with
    | rejected => exact finished_unreserved Outcome.noConfusion same
    | generationSync =>
      dsimp only
      split_ifs
      · exact ⟨same, rfl⟩
      · exact finished_unreserved Outcome.noConfusion same
    | reserved token =>
      have reserved := begun.reserved token rfl
      have concluded := concluded_conclude round reserved.1 reserved.2
      exact (finished_reserved concluded).of_generation same

theorem finished_establish (candidate : Candidate) (first second : Round) (exchanger : Exchanger) :
    Finished candidate exchanger (establish candidate first second exchanger).1
      (establish candidate first second exchanger).2.1
      (establish candidate first second exchanger).2.2 := by
  have begun := attempted_attempt candidate first true exchanger
  unfold establish
  generalize attempt candidate first true exchanger = answer at begun
  rcases answer with ⟨_ | result, later, events⟩
  · have again := attempted_attempt candidate second false later
    dsimp only
    generalize attempt candidate second false later = answer at again
    rcases answer with ⟨_ | result, final, more⟩
    · rw [begun.2, again.2]
      exact finished_unreserved Outcome.noConfusion (again.1.trans begun.1)
    · rw [begun.2]
      exact .of_generation again begun.1
  · exact begun

/-- A transaction ends as resumed exactly when it moved the generation by one and the session is
active on its carrier. Otherwise the generation is the one it started with, and no reservation
of it is left but in a session that was finalized meanwhile. Each reservation is published or
cancelled exactly once. -/
theorem establish_settles (candidate : Candidate) (first second : Round) (start : Exchanger) :
    let (result, final, events) := establish candidate first second start
    (result.outcome = .resumed ↔
      final.recovery.generation.toNat = start.recovery.generation.toNat + 1 ∧
        final.recovery.phase = .active ∧ final.transmission = some candidate.carrier) ∧
    (result.outcome ≠ .resumed →
      final.recovery.generation = start.recovery.generation ∧
        ∀ token, .reserved token ∈ events →
          final.recovery.reservationToken = token → final.disposed = true) ∧
    ∀ token, .reserved token ∈ events →
      events.count (.published token) + events.count (.cancelled token) = 1 := by
  have finished := finished_establish candidate first second start
  generalize establish candidate first second start = answer at finished
  rcases answer with ⟨result, final, events⟩
  have settled := finished.settled
  by_cases resumed : result.outcome = .resumed
  · simp only [Settled, resumed, if_true] at settled
    exact ⟨⟨fun _ => settled, fun _ => resumed⟩, fun unresumed => absurd resumed unresumed,
      finished.once⟩
  · simp only [Settled, resumed, if_false] at settled
    constructor
    · constructor
      · intro same
        exact absurd same resumed
      · intro moved
        rw [settled] at moved
        omega
    · exact ⟨fun _ => ⟨settled, finished.given resumed⟩, finished.once⟩

def sampleCandidate : Candidate where
  auth :=
    { verify := fun root fields proof => proof == root ^^^ fields.clientNonce
      compute := fun root fields => some (root ^^^ fields.clientNonce) }
  carrier := 2
  binding := 9

def sampleSession : Exchanger where
  recoveryArmed := true
  retainedRoot := some 12
  recovery := { phase := .suspended, generation := 3, deadline := 60000 }

/-- A request for generation 3 that is answered; its carrier closes before it confirms, and the
session is finalized before the reservation is cancelled. -/
def finalizedRound : Round where
  request := some
    { wellFormed := true
      fields :=
        { action := .resumeRequest, generation := 3, clientNonce := 7, serverNonce := 0,
          candidateBinding := 9 }
      proof := 11 }
  nonce := some 5
  beforeCancel := [.dispose, .release]

/-- `Finalize` forgets the candidate but not the reservation, so the cancel that follows finds no
candidate and leaves the reservation in the recovery state. -/
theorem finalized_session_keeps_reservation :
    let (result, final, events) := establish sampleCandidate finalizedRound {} sampleSession
    result.outcome = .rejected ∧ Event.reserved 1 ∈ events ∧
      final.recovery.reservationToken = 1 := by
  decide +kernel

end OpenPpp2.Server.ResumeTransaction
