import Mathlib.Data.BitVec
import OpenPpp2.Lib.Run

/-!
# Recovery of a session on a new carrier

`SessionRecoveryState.h` is the state machine of a session that lost its carrier.
-/

namespace OpenPpp2.Server.SessionRecovery

open Lib.Run

abbrev Time := BitVec 64

abbrev Token := BitVec 64

abbrev Generation := BitVec 64

def maximum : BitVec 64 := BitVec.allOnes 64

inductive Phase where
  | active
  | suspended
  | expired
  deriving DecidableEq, Repr

structure RecoveryState where
  phase : Phase := .active
  generation : Generation := 1
  deadline : Time := 0
  reservationToken : Token := 0
  deriving DecidableEq, Repr

def saturatingAdd (now grace : Time) : Time :=
  if grace > maximum - now then maximum else now + grace

namespace RecoveryState

variable (recovery : RecoveryState)

/-- `Suspend`; `none` where it returns false, which leaves the state as it is. -/
def suspend (expected : Generation) (now grace : Time) : Option RecoveryState :=
  if recovery.phase ≠ .active ∨ recovery.generation ≠ expected ∨
      recovery.reservationToken ≠ 0 then none
  else some { recovery with deadline := saturatingAdd now grace, phase := .suspended }

def canResume (expected : Generation) (now : Time) : Bool :=
  recovery.phase == .suspended && recovery.reservationToken == 0 &&
    recovery.generation == expected && decide (now < recovery.deadline)

def reserveResume (expected : Generation) (now : Time) (token : Token) : Option RecoveryState :=
  if token = 0 ∨ recovery.canResume expected now = false then none
  else some { recovery with reservationToken := token }

def canCommitResume (expected : Generation) (now : Time) (token : Token) : Bool :=
  recovery.phase == .suspended && token != 0 && recovery.reservationToken == token &&
    recovery.generation == expected && decide (now < recovery.deadline)

def commitResume (expected : Generation) (now : Time) (token : Token) : Option RecoveryState :=
  if recovery.canCommitResume expected now token = false ∨ recovery.generation = maximum then none
  else some { generation := recovery.generation + 1, deadline := 0, reservationToken := 0,
              phase := .active }

def markResumeCommitted (token : Token) (now grace : Time) : Option RecoveryState :=
  if token = 0 ∨ recovery.reservationToken ≠ token ∨ recovery.phase ≠ .suspended then none
  else
    let extended := saturatingAdd now grace
    some (if extended > recovery.deadline then { recovery with deadline := extended }
      else recovery)

def cancelResume (token : Token) : Option RecoveryState :=
  if token = 0 ∨ recovery.reservationToken ≠ token ∨ recovery.phase ≠ .suspended then none
  else some { recovery with reservationToken := 0 }

/-- What `IsExpired`, and `IsSuspended` through it, does to the state. -/
def expire (now : Time) : RecoveryState :=
  if recovery.phase = .suspended ∧ recovery.deadline ≤ now then
    { recovery with reservationToken := 0, phase := .expired }
  else recovery

end RecoveryState

/-- The actions of a resume control that the server reads or writes here. -/
inductive ResumeAction where
  | resumeRequest
  | resumeAccept
  | generationSync
  | resumeConfirm
  | resumeCommitted
  deriving DecidableEq, Repr

/-- `SessionResumeTranscriptFields`; the session id and the capabilities are fixed. -/
structure Transcript where
  action : ResumeAction
  generation : Generation
  clientNonce : BitVec 256
  serverNonce : BitVec 256
  candidateBinding : BitVec 256
  deriving DecidableEq, Repr

abbrev Proof := BitVec 256

abbrev Root := BitVec 256

/-- A control that was received: `wellFormed` is the outcome of the tests of
`DecodeResumeControl` other than the one of the action. -/
structure Control where
  wellFormed : Bool
  fields : Transcript
  proof : Proof
  deriving DecidableEq, Repr

def Control.decodes (control : Control) (expected : ResumeAction) : Bool :=
  control.wellFormed && control.fields.action == expected

/-- `VerifySessionResumeProof` and `ComputeSessionResumeProof`. -/
structure Authenticator where
  verify : Root → Transcript → Proof → Bool
  compute : Root → Transcript → Option Proof

abbrev Carrier := Nat

/-- The members of `VirtualEthernetExchanger` that a resume reads or writes. `attempt` holds the
fields of `resume_attempt_` while it is active. -/
structure Exchanger where
  disposed : Bool := false
  recoveryArmed : Bool := false
  retainedRoot : Option Root := none
  transmission : Option Carrier := none
  attempt : Option Transcript := none
  candidate : Option Carrier := none
  replacementEcho : Bool := false
  nextToken : Token := 0
  recovery : RecoveryState := {}
  deriving DecidableEq, Repr

open Exchanger

namespace Exchanger

variable (exchanger : Exchanger)

/-- The next value of `next_resume_token_`, which skips zero. -/
def followingToken : Token :=
  if exchanger.nextToken + 1 = 0 then 1 else exchanger.nextToken + 1

/-- What `BeginResume` is called with, and what the carrier and the random source answer. -/
structure BeginInput where
  request : Control
  binding : BitVec 256
  eligible : Bool
  now : Time
  nonce : Option (BitVec 256)

inductive BeginStatus where
  | reserved (token : Token)
  | generationSync
  | rejected
  deriving DecidableEq, Repr

/-- The fields of the response of `BeginResume`. -/
def response (request : Transcript) (nonce : BitVec 256) : Transcript where
  action := if request.generation = exchanger.recovery.generation then .resumeAccept
    else .generationSync
  generation := exchanger.recovery.generation
  clientNonce := request.clientNonce
  serverNonce := nonce
  candidateBinding := request.candidateBinding

/-- `BeginResume` once the request is authenticated. -/
def reserve (auth : Authenticator) (carrier : Carrier) (root : Root) (input : BeginInput) :
    BeginStatus × Exchanger :=
  if input.request.fields.generation = exchanger.recovery.generation then
    match input.nonce with
    | none => (.rejected, exchanger)
    | some nonce =>
      let accepted := exchanger.response input.request.fields nonce
      match auth.compute root accepted with
      | none => (.rejected, exchanger)
      | some _ =>
        let token := exchanger.followingToken
        match exchanger.recovery.reserveResume accepted.generation input.now token with
        | none => (.rejected, { exchanger with nextToken := token })
        | some recovery =>
          (.reserved token, { exchanger with
            nextToken := token, recovery := recovery, attempt := some accepted,
            candidate := some carrier })
  else
    match auth.compute root (exchanger.response input.request.fields 0) with
    | none => (.rejected, exchanger)
    | some _ => (.generationSync, exchanger)

def beginResume (auth : Authenticator) (carrier : Carrier) (input : BeginInput) :
    BeginStatus × Exchanger :=
  if exchanger.disposed || !input.eligible then (.rejected, exchanger)
  else if !input.request.decodes .resumeRequest ||
      input.request.fields.candidateBinding != input.binding ||
      input.request.fields.serverNonce != 0 then (.rejected, exchanger)
  else if !exchanger.recoveryArmed || exchanger.transmission.isSome ||
      exchanger.attempt.isSome then (.rejected, exchanger)
  else
    match exchanger.retainedRoot with
    | none => (.rejected, exchanger)
    | some root =>
      let checked := { exchanger with recovery := exchanger.recovery.expire input.now }
      if checked.recovery.phase ≠ .suspended ∨
          auth.verify root input.request.fields input.request.proof = false then
        (.rejected, checked)
      else checked.reserve auth carrier root input

/-- The test that `CommitResume` makes twice; the transcript and root it was made with. -/
def commitReady (auth : Authenticator) (carrier : Carrier) (confirm : Control) (token : Token)
    (now : Time) : Option (Transcript × Root) :=
  match exchanger.attempt, exchanger.retainedRoot with
  | some accepted, some root =>
    if !exchanger.disposed && exchanger.candidate == some carrier &&
        exchanger.transmission.isNone && !exchanger.replacementEcho &&
        exchanger.recovery.canCommitResume accepted.generation now token &&
        confirm.fields.generation == accepted.generation &&
        confirm.fields.clientNonce == accepted.clientNonce &&
        confirm.fields.serverNonce == accepted.serverNonce &&
        confirm.fields.candidateBinding == accepted.candidateBinding &&
        auth.verify root confirm.fields confirm.proof then some (accepted, root)
    else none
  | _, _ => none

def publishGrace : Time := 10000

/-- The second locked section of `CommitResume`. -/
def prepareCommitted (auth : Authenticator) (carrier : Carrier) (confirm : Control)
    (token : Token) (now : Time) (preparedValid : Bool) : Bool × Exchanger :=
  match exchanger.commitReady auth carrier confirm token now with
  | none => (false, exchanger)
  | some (accepted, root) =>
    if accepted.generation = maximum then (false, exchanger)
    else
      match auth.compute root
        { accepted with action := .resumeCommitted, generation := accepted.generation + 1 } with
      | none => (false, exchanger)
      | some _ =>
        if preparedValid then
          match exchanger.recovery.markResumeCommitted token now publishGrace with
          | none => (false, exchanger)
          | some recovery =>
            (true, { exchanger with recovery := recovery, replacementEcho := true })
        else (false, exchanger)

def publish (carrier : Carrier) (token : Token) (now : Time) : Bool × Exchanger :=
  if token = 0 ∨ exchanger.disposed then (false, exchanger)
  else
    match exchanger.attempt with
    | none => (false, exchanger)
    | some accepted =>
      if exchanger.candidate == some carrier && exchanger.transmission.isNone &&
          exchanger.replacementEcho &&
          exchanger.recovery.canCommitResume accepted.generation now token then
        match exchanger.recovery.commitResume accepted.generation now token with
        | none => (false, exchanger)
        | some recovery =>
          (true, { exchanger with
            recovery := recovery, replacementEcho := false, transmission := some carrier,
            attempt := none, candidate := none })
      else (false, exchanger)

def cancel (carrier : Carrier) (token : Token) : Exchanger :=
  if token = 0 then exchanger
  else if exchanger.candidate = some carrier then
    match exchanger.recovery.cancelResume token with
    | none => exchanger
    | some recovery =>
      { exchanger with
        recovery := recovery, attempt := none, candidate := none, replacementEcho := false }
  else exchanger

/-- The start of `Finalize`: `disposed_` is exchanged before the lock is taken. -/
def dispose : Exchanger := { exchanger with disposed := true }

/-- The locked section of `Finalize`, which follows `dispose`. `recovery_state_` is not among
the members it resets. -/
def release : Exchanger :=
  if exchanger.disposed then
    { exchanger with
      replacementEcho := false, transmission := none, retainedRoot := none,
      recoveryArmed := false, attempt := none, candidate := none }
  else exchanger

/-- `OnCarrierStopped`, with the outcomes of the tests of the carrier and of the error. -/
def onCarrierStopped (carrier : Carrier) (generation : Generation) (eligible recoverable : Bool)
    (now grace : Time) : Exchanger :=
  if exchanger.recovery.generation ≠ generation ∨ exchanger.transmission ≠ some carrier then
    exchanger
  else
    let terminal := { exchanger with
      retainedRoot := none, recoveryArmed := false, attempt := none, candidate := none }
    if exchanger.disposed || !eligible || !exchanger.recoveryArmed ||
        exchanger.retainedRoot.isNone || exchanger.attempt.isSome || !recoverable then terminal
    else
      match exchanger.recovery.suspend generation now grace with
      | none => terminal
      | some recovery => { exchanger with recovery := recovery, transmission := none }

end Exchanger

/-- What other parts of the server may do to the session between two calls of a transaction. -/
inductive Interference where
  | expiryCheck (now : Time)
  | dispose
  | release
  | carrierStopped (carrier : Carrier) (generation : Generation) (eligible recoverable : Bool)
      (now grace : Time)
  deriving DecidableEq, Repr

def Exchanger.interfere (exchanger : Exchanger) : Interference → Exchanger
  | .expiryCheck now => { exchanger with recovery := exchanger.recovery.expire now }
  | .dispose => exchanger.dispose
  | .release => exchanger.release
  | .carrierStopped carrier generation eligible recoverable now grace =>
    exchanger.onCarrierStopped carrier generation eligible recoverable now grace

/-- What `CommitResume` is called with, what its carrier and echo answer, and what happens
between its two locked sections. -/
structure CommitInput where
  confirm : Control
  binding : BitVec 256
  eligible : Bool
  now : Time
  between : List Interference
  echo : Bool
  tick : Time
  preparedValid : Bool

def Exchanger.commit (exchanger : Exchanger) (auth : Authenticator) (carrier : Carrier)
    (token : Token) (input : CommitInput) : Bool × Exchanger :=
  if token = 0 ∨ exchanger.disposed ∨ input.eligible = false then (false, exchanger)
  else if !input.confirm.decodes .resumeConfirm ||
      input.confirm.fields.candidateBinding != input.binding then (false, exchanger)
  else if (exchanger.commitReady auth carrier input.confirm token input.now).isNone then
    (false, exchanger)
  else
    let later := run Exchanger.interfere exchanger input.between
    if input.echo then
      later.prepareCommitted auth carrier input.confirm token
        (if input.now < input.tick then input.tick else input.now) input.preparedValid
    else (false, later)

/-- The reservation `token`, while the recovery state has it, is the one of `carrier`, which can
cancel it; a disposed session excepted. -/
def Exchanger.Held (exchanger : Exchanger) (carrier : Carrier) (token : Token) : Prop :=
  exchanger.recovery.reservationToken = token →
    exchanger.disposed ∨
      (exchanger.candidate = some carrier ∧ exchanger.recovery.phase = .suspended ∧
        exchanger.transmission = none)

/-- What a call keeps: the generation, and the link of a reservation to its carrier. -/
structure Frame (before after : Exchanger) : Prop where
  generation : after.recovery.generation = before.recovery.generation
  held : ∀ carrier token, token ≠ 0 → before.Held carrier token → after.Held carrier token

variable (exchanger : Exchanger)

theorem Frame.refl : Frame exchanger exchanger :=
  ⟨rfl, fun _ _ _ held => held⟩

theorem Frame.trans {first second third : Exchanger} (left : Frame first second)
    (right : Frame second third) : Frame first third where
  generation := right.generation.trans left.generation
  held carrier token nonzero held :=
    right.held carrier token nonzero (left.held carrier token nonzero held)

theorem frame_expire (now : Time) :
    Frame exchanger { exchanger with recovery := exchanger.recovery.expire now } := by
  unfold RecoveryState.expire
  split_ifs
  · exact ⟨rfl, fun _ _ nonzero _ reserved => absurd reserved.symm nonzero⟩
  · exact .refl _

theorem frame_dispose : Frame exchanger exchanger.dispose where
  generation := rfl
  held _ _ _ _ _ := Or.inl rfl

theorem frame_release : Frame exchanger exchanger.release := by
  unfold release
  split_ifs with disposed
  · exact ⟨rfl, fun _ _ _ _ _ => .inl disposed⟩
  · exact .refl _

variable {expected : Generation}

variable {now : Time} {token : Token} {grace : Time}

theorem RecoveryState.suspend_eq_some {recovery suspended : RecoveryState}
    (accepted : recovery.suspend expected now grace = some suspended) :
    recovery.reservationToken = 0 ∧ suspended.generation = recovery.generation ∧
      suspended.reservationToken = recovery.reservationToken := by
  unfold suspend at accepted
  split_ifs at accepted with allowed
  cases accepted
  simp only [not_or, not_not] at allowed
  exact ⟨allowed.2.2, rfl, rfl⟩

theorem frame_onCarrierStopped (carrier : Carrier)
    (generation : Generation) (eligible recoverable : Bool) (now grace : Time) : Frame exchanger
      (exchanger.onCarrierStopped carrier generation eligible recoverable now grace) := by
  unfold onCarrierStopped
  split
  · exact .refl _
  rename_i current
  -- a session with a carrier has no reservation to keep
  have carried : exchanger.transmission = some carrier := by
    simp only [not_or, not_not] at current
    exact current.2
  have terminal : Frame exchanger { exchanger with
      retainedRoot := none, recoveryArmed := false, attempt := none, candidate := none } := by
    constructor
    · rfl
    · intro other token _ held reserved
      apply (held reserved).imp_right
      intro pending
      rw [carried] at pending
      exact absurd pending.2.2 (by simp)
  split
  · exact terminal
  split
  · exact terminal
  case h_2 recovery suspended =>
    have kept := RecoveryState.suspend_eq_some suspended
    constructor
    · exact kept.2.1
    · intro other token nonzero _ reserved
      exact absurd (reserved.symm.trans (kept.2.2.trans kept.1)) nonzero

theorem frame_interfere (event : Interference) : Frame exchanger (exchanger.interfere event) := by
  cases event with
  | expiryCheck now => exact frame_expire exchanger now
  | dispose => exact frame_dispose exchanger
  | release => exact frame_release exchanger
  | carrierStopped carrier generation eligible recoverable now grace =>
    exact frame_onCarrierStopped exchanger carrier generation eligible recoverable now grace

theorem frame_run_interfere (events : List Interference) :
    Frame exchanger (run Exchanger.interfere exchanger events) := by
  induction events generalizing exchanger with
  | nil => exact .refl _
  | cons event events ih =>
    exact (frame_interfere exchanger event).trans (ih (exchanger.interfere event))

theorem RecoveryState.markResumeCommitted_eq_some {recovery marked : RecoveryState}
    (accepted : recovery.markResumeCommitted token now grace = some marked) :
    marked.generation = recovery.generation ∧ marked.phase = recovery.phase ∧
      marked.reservationToken = recovery.reservationToken := by
  unfold markResumeCommitted at accepted
  split_ifs at accepted
  dsimp only at accepted
  split_ifs at accepted <;> cases accepted <;> exact ⟨rfl, rfl, rfl⟩

theorem frame_prepareCommitted (auth : Authenticator) (carrier : Carrier)
    (confirm : Control) (token : Token) (now : Time) (preparedValid : Bool) : Frame exchanger
      (exchanger.prepareCommitted auth carrier confirm token now preparedValid).2 := by
  unfold prepareCommitted
  split
  · exact .refl _
  split
  · exact .refl _
  split
  · exact .refl _
  split
  · split
    · exact .refl _
    case h_2 recovery marked =>
      have kept := RecoveryState.markResumeCommitted_eq_some marked
      constructor
      · exact kept.1
      · intro other reservation _ held reserved
        have before := held (kept.2.2.symm.trans reserved)
        rw [← kept.2.1] at before
        exact before
  · exact .refl _

theorem frame_commit (auth : Authenticator) (carrier : Carrier) (token : Token)
    (input : CommitInput) : Frame exchanger (exchanger.commit auth carrier token input).2 := by
  have later := frame_run_interfere exchanger input.between
  unfold commit
  split
  · exact .refl _
  split
  · exact .refl _
  split
  · exact .refl _
  split
  · exact later.trans (frame_prepareCommitted _ auth carrier input.confirm token _ _)
  · exact later

theorem Exchanger.followingToken_ne_zero : exchanger.followingToken ≠ 0 := by
  unfold followingToken
  split
  · decide
  · assumption

theorem RecoveryState.reserveResume_eq_some {recovery reserved : RecoveryState}
    (accepted : recovery.reserveResume expected now token = some reserved) :
    recovery.phase = .suspended ∧ reserved = { recovery with reservationToken := token } := by
  unfold reserveResume canResume at accepted
  split_ifs at accepted with allowed
  cases accepted
  simp only [not_or, Bool.not_eq_false, Bool.and_eq_true, beq_iff_eq] at allowed
  exact ⟨allowed.2.1.1.1, rfl⟩

/-- What a begin answers and leaves: the generation it found, and with a reservation a nonzero
token that its carrier can cancel. -/
structure Begun (before : Exchanger) (carrier : Carrier)
    (answer : Exchanger.BeginStatus × Exchanger) : Prop where
  generation : answer.2.recovery.generation = before.recovery.generation
  reserved : ∀ token, answer.1 = .reserved token → token ≠ 0 ∧ answer.2.Held carrier token

theorem begun_reserve (auth : Authenticator) (carrier : Carrier)
    (root : Root) (input : Exchanger.BeginInput) (idle : exchanger.transmission = none) :
    Begun exchanger carrier (exchanger.reserve auth carrier root input) := by
  unfold reserve
  split
  · split
    · exact ⟨rfl, by simp⟩
    dsimp only
    split
    · exact ⟨rfl, by simp⟩
    split
    · exact ⟨rfl, by simp⟩
    case h_2 recovery accepted =>
      have outcome := RecoveryState.reserveResume_eq_some accepted
      constructor
      · rw [outcome.2]
      · intro token answered
        cases answered
        apply And.intro exchanger.followingToken_ne_zero
        intro _
        rw [outcome.2]
        exact .inr ⟨rfl, outcome.1, idle⟩
  · split <;> exact ⟨rfl, by simp⟩

theorem begun_beginResume (auth : Authenticator) (carrier : Carrier)
    (input : Exchanger.BeginInput) :
    Begun exchanger carrier (exchanger.beginResume auth carrier input) := by
  unfold beginResume
  split_ifs with _ _ idle
  · exact ⟨rfl, by simp⟩
  · exact ⟨rfl, by simp⟩
  · exact ⟨rfl, by simp⟩
  have uncarried : exchanger.transmission = none := by
    simp only [Bool.or_eq_true, not_or, Bool.not_eq_true, Option.isSome_eq_false_iff,
      Option.isNone_iff_eq_none] at idle
    exact idle.1.2
  split
  · exact ⟨rfl, by simp⟩
  case h_2 root _ =>
    have checked := (frame_expire exchanger input.now).generation
    dsimp only
    split_ifs
    · exact ⟨checked, by simp⟩
    · have begun := begun_reserve
        { exchanger with recovery := exchanger.recovery.expire input.now } auth carrier root
        input uncarried
      exact ⟨begun.generation.trans checked, begun.reserved⟩

theorem RecoveryState.commitResume_eq_some {recovery committed : RecoveryState}
    (accepted : recovery.commitResume expected now token = some committed) :
    committed.phase = .active ∧ committed.generation.toNat = recovery.generation.toNat + 1 := by
  unfold commitResume at accepted
  split_ifs at accepted with allowed
  cases accepted
  simp only [not_or, maximum] at allowed
  have below : recovery.generation.toNat ≠ 2 ^ 64 - 1 := by
    intro full
    apply allowed.2
    apply BitVec.eq_of_toNat_eq
    rw [full]
    rfl
  apply And.intro rfl
  apply Nat.mod_eq_of_lt
  change recovery.generation.toNat + 1 < 2 ^ 64
  omega

theorem publish_cases (carrier : Carrier) (token : Token) (now : Time) :
    (∃ published, exchanger.publish carrier token now = (true, published) ∧
      published.recovery.generation.toNat = exchanger.recovery.generation.toNat + 1 ∧
      published.recovery.phase = .active ∧ published.transmission = some carrier) ∨
    exchanger.publish carrier token now = (false, exchanger) := by
  unfold publish
  split
  · exact .inr rfl
  split
  · exact .inr rfl
  split
  · split
    · exact .inr rfl
    case h_2 recovery accepted =>
      have outcome := RecoveryState.commitResume_eq_some accepted
      exact .inl ⟨_, rfl, outcome.2, outcome.1, rfl⟩
  · exact .inr rfl

theorem cancel_spec (carrier : Carrier) (token : Token)
    (nonzero : token ≠ 0) (held : exchanger.Held carrier token) :
    (exchanger.cancel carrier token).recovery.generation = exchanger.recovery.generation ∧
      ((exchanger.cancel carrier token).recovery.reservationToken = token →
        (exchanger.cancel carrier token).disposed) := by
  simp only [cancel, nonzero, if_false, RecoveryState.cancelResume, false_or]
  split
  · split
    case h_1 refused =>
      apply And.intro rfl
      intro reserved
      apply (held reserved).resolve_right
      intro pending
      simp [reserved, pending.2.1] at refused
    case h_2 recovery accepted =>
      split_ifs at accepted
      cases accepted
      exact ⟨rfl, fun reserved => absurd reserved.symm nonzero⟩
  case isFalse other =>
    exact ⟨rfl, fun reserved => (held reserved).resolve_right fun pending => other pending.1⟩

end OpenPpp2.Server.SessionRecovery
