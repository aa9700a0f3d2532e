import OpenPpp2.Server.SessionRecovery

/-!
# Resumes of several carriers

Any number of carriers may try to resume one session. Their calls interleave at the lock of the
exchanger, and with its other events.
-/

namespace OpenPpp2.Server.ResumeInterleaving

open Lib.Run Server.SessionRecovery Exchanger RecoveryState List

/-- The locked sections. The first one of `CommitResume` writes nothing; `prepare` is the second.
An `OnInformation` that accepts a root, here at any time, is `arm`. -/
inductive Call where
  | arm (root : Root)
  | beginResume (auth : Authenticator) (carrier : Carrier) (input : BeginInput)
  | prepare (auth : Authenticator) (carrier : Carrier) (confirm : Control) (token : Token)
    (now : Time) (preparedValid : Bool)
  | publish (carrier : Carrier) (token : Token) (now : Time)
  | cancel (carrier : Carrier) (token : Token)
  | interfere (event : Interference)

/-- A call of a carrier that succeeded. -/
inductive Answer where
  | granted (carrier : Carrier) (token : Token)
  | prepared (carrier : Carrier) (token : Token)
  | published (carrier : Carrier) (token : Token)

/-- The session and the calls that succeeded, newest first. -/
structure State extends Exchanger where
  answers : List Answer := []

namespace State

variable (state : State)

def begun (carrier : Carrier) : BeginStatus × Exchanger → State
  | (.reserved token, after) => ⟨after, .granted carrier token :: state.answers⟩
  | (_, after) => ⟨after, state.answers⟩

def answered (answer : Answer) : Bool × Exchanger → State
  | (true, after) => ⟨after, answer :: state.answers⟩
  | (false, after) => ⟨after, state.answers⟩

def step : Call → State
  | .arm root => { state with recoveryArmed := true, retainedRoot := root }
  | .beginResume auth carrier input => state.begun carrier (state.beginResume auth carrier input)
  | .prepare auth carrier confirm token now preparedValid =>
    state.answered (.prepared carrier token)
      (state.prepareCommitted auth carrier confirm token now preparedValid)
  | .publish carrier token now =>
    state.answered (.published carrier token) (state.publish carrier token now)
  | .cancel carrier token => ⟨state.cancel carrier token, state.answers⟩
  | .interfere event => ⟨state.interfere event, state.answers⟩

end State

def publications (answers : List Answer) : Nat := answers.countP (· matches .published _ _)

/-- What the carrier with the reservation was answered, newest first. -/
def course (carrier : Carrier) (token : Token) (prepared : Bool) : List Answer :=
  if prepared then [.prepared carrier token, .granted carrier token] else [.granted carrier token]

def Ordered (answers : List Answer) : Prop :=
  ∀ carrier token earlier, .published carrier token :: earlier <:+ answers →
    course carrier token true <+: earlier

theorem Ordered.cons {answer : Answer} {answers : List Answer} (ordered : Ordered answers)
    (own : ∀ carrier token, answer = .published carrier token →
      course carrier token true <+: answers) : Ordered (answer :: answers) := by
  intro carrier token earlier part
  rcases suffix_cons_iff.1 part with whole | later
  · obtain ⟨rfl, rfl⟩ := cons.inj whole
    exact own carrier token rfl
  · exact ordered carrier token earlier later

structure Fenced (state : State) : Prop where
  counted : state.recovery.generation.toNat = 1 + publications state.answers
  idle : state.recovery.phase ≠ .expired → state.recovery.reservationToken = 0 →
    state.replacementEcho = false
  held : ∀ carrier, state.candidate = some carrier → state.recovery.reservationToken ≠ 0 →
    course carrier state.recovery.reservationToken state.replacementEcho <+: state.answers
  ordered : Ordered state.answers

variable {state : State} {auth : Authenticator} {carrier : Carrier} {token : Token} {now : Time}
  (fenced : Fenced state)

include fenced

/-- Every event leaves the reservation as it is or gives it up. -/
theorem Fenced.interfere (event : Interference) : Fenced (state.step (.interfere event)) := by
  cases event with
  | expiryCheck now =>
    simp only [State.step, Exchanger.interfere, expire]
    split
    · exact ⟨fenced.counted, fun live => absurd rfl live, fun _ _ reserved => absurd rfl reserved,
        fenced.ordered⟩
    · exact { fenced with }
  | dispose => exact { fenced with }
  | release =>
    simp only [State.step, Exchanger.interfere, release]
    split
    · exact ⟨fenced.counted, fun _ _ => rfl, nofun, fenced.ordered⟩
    · exact { fenced with }
  | carrierStopped carrier generation eligible recoverable now grace =>
    simp only [State.step, Exchanger.interfere, onCarrierStopped]
    split
    · exact { fenced with }
    split
    · exact ⟨fenced.counted, fenced.idle, nofun, fenced.ordered⟩
    split
    · exact ⟨fenced.counted, fenced.idle, nofun, fenced.ordered⟩
    · rename_i suspended
      unfold suspend at suspended
      split_ifs at suspended with busy
      cases suspended
      simp only [not_or, not_not] at busy
      have unprepared := fenced.idle (busy.1 ▸ nofun) busy.2.2
      exact ⟨fenced.counted, fun _ _ => unprepared, fenced.held, fenced.ordered⟩

theorem Fenced.cancel : Fenced (state.step (.cancel carrier token)) := by
  simp only [State.step, Exchanger.cancel]
  split
  · exact { fenced with }
  split
  · split
    · exact { fenced with }
    · rename_i cancelled
      unfold cancelResume at cancelled
      split_ifs at cancelled
      cases cancelled
      exact ⟨fenced.counted, fun _ _ => rfl, (fun _ found => by cases found),
        fenced.ordered⟩
  · exact { fenced with }

theorem Fenced.beginResume {input : BeginInput} :
    Fenced (state.step (.beginResume auth carrier input)) := by
  have checked := fenced.interfere (.expiryCheck input.now)
  unfold State.step Exchanger.beginResume
  dsimp only
  split_ifs
  any_goals exact fenced
  split
  · exact fenced
  split
  · exact checked
  unfold reserve
  split
  · split
    · exact checked
    dsimp only
    split
    · exact checked
    split
    · exact { checked with }
    case h_2 recovery accepted =>
      obtain ⟨suspended, rfl⟩ := reserveResume_eq_some accepted
      have free : (state.recovery.expire input.now).reservationToken = 0 := by
        unfold reserveResume canResume at accepted
        grind
      have unprepared : state.replacementEcho = false := checked.idle (suspended ▸ nofun) free
      refine ⟨checked.counted, fun _ none => absurd none (followingToken_ne_zero _), ?_,
        checked.ordered.cons nofun⟩
      rintro _ ⟨⟩ _
      simp [State.begun, course, unprepared]
  · split <;> exact checked

theorem Fenced.prepare {confirm : Control} {preparedValid : Bool} :
    Fenced (state.step (.prepare auth carrier confirm token now preparedValid)) := by
  unfold State.step prepareCommitted
  dsimp only
  split
  · exact fenced
  case h_2 found ready =>
    have ours : state.candidate = some carrier ∧ state.replacementEcho = false ∧
        state.recovery.reservationToken = token ∧ token ≠ 0 := by
      unfold commitReady canCommitResume at ready
      grind
    obtain ⟨candidate, unprepared, rfl, nonzero⟩ := ours
    have granted := fenced.held carrier candidate nonzero
    -- a refusal changes nothing
    repeat' split
    any_goals exact fenced
    rename_i recovery marked
    have kept := markResumeCommitted_eq_some marked
    refine ⟨(congrArg BitVec.toNat kept.1).trans fenced.counted,
      fun _ none => absurd (kept.2.2.symm.trans none) nonzero, ?_, fenced.ordered.cons nofun⟩
    intro other same _
    cases candidate.symm.trans same
    rw [unprepared] at granted
    simp only [State.answered, kept.2.2]
    exact (prefix_cons_inj _).2 granted

theorem Fenced.publish : Fenced (state.step (.publish carrier token now)) := by
  unfold State.step Exchanger.publish
  dsimp only
  repeat' split
  any_goals exact fenced
  rename_i ready _ recovery accepted
  have outcome := commitResume_eq_some accepted
  simp only [canCommitResume, Bool.and_eq_true, beq_iff_eq, bne_iff_ne] at ready
  obtain ⟨⟨⟨candidate, _⟩, prepared⟩, ⟨⟨⟨_, nonzero⟩, rfl⟩, _⟩, _⟩ := ready
  have granted := fenced.held carrier candidate nonzero
  rw [prepared] at granted
  refine ⟨?_, fun _ _ => rfl, nofun, fenced.ordered.cons ?_⟩
  · simp only [State.answered, outcome.2, fenced.counted, publications, countP_cons]
    rfl
  · rintro _ _ ⟨⟩
    exact granted

omit fenced in
/-- However the calls of the carriers interleave, the generation counts the publications, and each
publication directly follows the preparation, and that the grant, of its token to its carrier. -/
theorem publications_exclusive (transmission : Option Carrier) (calls : List Call) :
    let state := run State.step { transmission } calls
    state.recovery.generation.toNat = 1 + publications state.answers ∧
      ∀ carrier token earlier, .published carrier token :: earlier <:+ state.answers →
        [.prepared carrier token, .granted carrier token] <+: earlier := by
  have kept (state : State) (call : Call) (fenced : Fenced state) : Fenced (state.step call) := by
    cases call with
    | arm => exact { fenced with }
    | beginResume => exact fenced.beginResume
    | prepare => exact fenced.prepare
    | publish => exact fenced.publish
    | cancel => exact fenced.cancel
    | interfere event => exact fenced.interfere event
  intro state
  have fenced : Fenced state :=
    run_invariant kept ⟨rfl, fun _ _ => rfl, by simp, by simp [Ordered]⟩ calls
  exact ⟨fenced.counted, fenced.ordered⟩

end OpenPpp2.Server.ResumeInterleaving
