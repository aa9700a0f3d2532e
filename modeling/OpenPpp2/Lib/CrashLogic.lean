import Mathlib.Logic.Basic
import Mathlib.Data.List.Basic

/-!
# Programs that may be stopped, and their triples

A program over a state consults a script at each of its steps: the environment lets the step happen,
refuses it where the program can be refused, or stops the program there.
-/

namespace OpenPpp2.Lib.CrashLogic

inductive Outcome where
  | proceed
  | refuse
  | stop
  deriving DecidableEq, Repr

/-- A program: from a script and a state to the result, missing when it was stopped, the rest of
the script and the state. Beyond the end of the script every step proceeds. -/
def Prog (σ α : Type) : Type := List Outcome → σ → Option α × List Outcome × σ

variable {σ α β ε : Type}

namespace Prog

def pure (value : α) : Prog σ α := fun script state => (some value, script, state)

def bind (first : Prog σ α) (rest : α → Prog σ β) : Prog σ β := fun script state =>
  match first script state with
  | (none, script, state) => (none, script, state)
  | (some value, script, state) => rest value script state

def read (look : σ → α) : Prog σ α := fun script state => (some (look state), script, state)

def modify (change : σ → α × σ) : Prog σ α := fun script state =>
  (some (change state).1, script, (change state).2)

def within {τ : Type} (look : σ → τ) (store : σ → τ → σ) (program : Prog τ α) : Prog σ α :=
  fun script state =>
    match program script (look state) with
    | (result, script, part) => (result, script, store state part)

def act (change : σ → σ) : Prog σ Unit
  | [], state => (some (), [], change state)
  | .stop :: script, state => (none, script, state)
  | _ :: script, state => (some (), script, change state)

def allow : Prog σ Bool
  | [], state => (some true, [], state)
  | .stop :: script, state => (none, script, state)
  | .refuse :: script, state => (some false, script, state)
  | .proceed :: script, state => (some true, script, state)

def andThen (first : Prog σ (Except ε α)) (rest : α → Prog σ (Except ε β)) : Prog σ (Except ε β) :=
  first.bind fun
    | .error error => pure (.error error)
    | .ok value => rest value

/-- A step that is refused with `error`, if the program asks at all. -/
def staged (asks : Bool) (error : ε) (rest : Prog σ (Except ε α)) : Prog σ (Except ε α) :=
  if asks then allow.bind fun allowed => if allowed then rest else pure (.error error)
  else rest

end Prog

/-- From a state with `pre`, a program that returns ends with `post` and one that is stopped
with `crash`. -/
def Triple (pre : σ → Prop) (program : Prog σ α) (post : α → σ → Prop) (crash : σ → Prop) : Prop :=
  ∀ script state, pre state →
    match program script state with
    | (some value, _, final) => post value final
    | (none, _, final) => crash final

/-- The triple of a program whose state does not matter once it is stopped. -/
abbrev Live (pre : σ → Prop) (program : Prog σ α) (post : α → σ → Prop) : Prop :=
  Triple pre program post fun _ => True

variable {rest : α → Prog σ β}

namespace Triple

variable {pre crash : σ → Prop} {post : α → σ → Prop}

theorem pure {value : α} (holds : ∀ state, pre state → post value state) :
    Triple pre (Prog.pure value) post crash :=
  fun _ state given => holds state given

theorem stay {value : α} {start : σ} (holds : post value start) :
    Triple (· = start) (Prog.pure value) post crash :=
  pure fun _ same => same ▸ holds

variable {look : σ → α} {change : σ → σ} {program : Prog σ α}

theorem read (holds : ∀ state, pre state → post (look state) state) :
    Triple pre (Prog.read look) post crash :=
  fun _ state given => holds state given

theorem modify {change : σ → α × σ}
    (holds : ∀ state, pre state → post (change state).1 (change state).2) :
    Triple pre (Prog.modify change) post crash :=
  fun _ state given => holds state given

theorem within {τ : Type} {look : σ → τ} {store : σ → τ → σ} {program : Prog τ α} {start : σ}
    {partPost : α → τ → Prop} {partCrash : τ → Prop}
    (inner : Triple (fun part => part = look start) program partPost partCrash)
    (returns : ∀ value part, partPost value part → post value (store start part))
    (stops : ∀ part, partCrash part → crash (store start part)) :
    Triple (· = start) (Prog.within look store program) post crash := by
  rintro script _ rfl
  have outcome := inner script _ rfl
  unfold Prog.within
  generalize program script _ = answer at outcome
  rcases answer with ⟨_ | value, rest, part⟩
  · exact stops part outcome
  · exact returns value part outcome

theorem act {post : Unit → σ → Prop} (holds : ∀ state, pre state → post () (change state))
    (stopped : ∀ state, pre state → crash state) : Triple pre (Prog.act change) post crash := by
  intro script state given
  cases script with
  | nil => exact holds state given
  | cons outcome script =>
    cases outcome with
    | stop => exact stopped state given
    | proceed | refuse => exact holds state given

theorem allow {post : Bool → σ → Prop} (holds : ∀ allowed state, pre state → post allowed state)
    (stopped : ∀ state, pre state → crash state) : Triple pre Prog.allow post crash := by
  intro script state given
  cases script with
  | nil => exact holds true state given
  | cons outcome script =>
    cases outcome with
    | stop => exact stopped state given
    | proceed => exact holds true state given
    | refuse => exact holds false state given

theorem bind {first : Prog σ α} {m : α → σ → Prop}
    {post : β → σ → Prop} (before : Triple pre first m crash)
    (after : ∀ value, Triple (m value) (rest value) post crash) :
    Triple pre (first.bind rest) post crash := by
  intro script state given
  have outcome := before script state given
  unfold Prog.bind
  generalize first script state = answer at outcome
  rcases answer with ⟨_ | value, later, final⟩
  · exact outcome
  · exact after value later final outcome

theorem readBind {post : β → σ → Prop} (after : ∀ value,
      Triple (fun state => pre state ∧ look state = value) (rest value) post crash) :
    Triple pre ((Prog.read look).bind rest) post crash :=
  bind (read fun _ holds => ⟨holds, rfl⟩) after

theorem actBind {rest : Unit → Prog σ β} {m : σ → Prop} {post : β → σ → Prop}
    (changed : ∀ state, pre state → m (change state)) (stopped : ∀ state, pre state → crash state)
    (after : Triple m (rest ()) post crash) : Triple pre ((Prog.act change).bind rest) post crash :=
  bind (act changed stopped) fun _ => after

theorem andThen {first : Prog σ (Except ε α)} {rest : α → Prog σ (Except ε β)}
    {m : Except ε α → σ → Prop} {post : Except ε β → σ → Prop} (before : Triple pre first m crash)
    (after : ∀ value, Triple (m (.ok value)) (rest value) post crash)
    (failed : ∀ error state, m (.error error) state → post (.error error) state) :
    Triple pre (first.andThen rest) post crash := by
  apply bind before
  intro result
  cases result with
  | error error => exact pure (failed error)
  | ok value => exact after value

theorem staged {asks : Bool} {error : ε} {rest : Prog σ (Except ε α)}
    {post : Except ε α → σ → Prop} (after : Triple pre rest post crash)
    (refused : asks → ∀ state, pre state → post (.error error) state)
    (stopped : ∀ state, pre state → crash state) :
    Triple pre (Prog.staged asks error rest) post crash := by
  cases asks with
  | false => exact after
  | true =>
    apply bind (allow (fun _ _ holds => holds) stopped)
    intro allowed
    cases allowed with
    | true => exact after
    | false => exact pure (refused rfl)

theorem pointwise (each : ∀ start, pre start → Triple (· = start) program post crash) :
    Triple pre program post crash :=
  fun script state given => each state given script state rfl

theorem weaken {pre' crash' : σ → Prop} {post' : α → σ → Prop}
    (triple : Triple pre program post crash) (requires : ∀ state, pre' state → pre state)
    (ensures : ∀ value state, post value state → post' value state)
    (crashes : ∀ state, crash state → crash' state) : Triple pre' program post' crash' := by
  intro script state given
  have outcome := triple script state (requires state given)
  generalize program script state = answer at outcome
  rcases answer with ⟨_ | value, rest, final⟩
  · exact crashes final outcome
  · exact ensures value final outcome

section

variable (triple : Triple pre program post crash)
include triple

theorem require {pre' : σ → Prop} (requires : ∀ state, pre' state → pre state) :
    Triple pre' program post crash :=
  triple.weaken requires (fun _ _ given => given) (fun _ given => given)

theorem ensure {post' : α → σ → Prop}
    (ensures : ∀ value state, post value state → post' value state) :
    Triple pre program post' crash :=
  triple.weaken (fun _ given => given) ensures (fun _ given => given)

theorem stopping {crash' : σ → Prop} (crashes : ∀ state, crash state → crash' state) :
    Triple pre program post crash' :=
  triple.weaken (fun _ given => given) (fun _ _ given => given) crashes

theorem live : Live pre program post := triple.stopping fun _ _ => trivial

end

end Triple

def Preserves (holds : σ → Prop) (program : Prog σ α) : Prop :=
  Triple holds program (fun _ => holds) holds

namespace Preserves

variable {holds : σ → Prop}

theorem pure (value : α) : Preserves holds (Prog.pure value) := Triple.pure fun _ given => given

theorem read (look : σ → α) : Preserves holds (Prog.read look) := Triple.read fun _ given => given

theorem bind {first : Prog σ α} (before : Preserves holds first)
    (after : ∀ value, Preserves holds (rest value)) : Preserves holds (first.bind rest) :=
  Triple.bind before after

theorem within {τ : Type} {look : σ → τ} {store : σ → τ → σ} (program : Prog τ α)
    (frame : ∀ state part, holds state → holds (store state part)) :
    Preserves holds (Prog.within look store program) := by
  intro script state given
  unfold Prog.within
  generalize program script (look state) = answer
  rcases answer with ⟨_ | value, rest, part⟩
  · exact frame state part given
  · exact frame state part given

end Preserves

end OpenPpp2.Lib.CrashLogic

namespace OpenPpp2.Lib.Durable

open List

variable {α : Type*}

/-- The value at the last sync and the values given since, the newest first. -/
structure Cell (α : Type*) where
  durable : α
  pending : List α
  deriving DecidableEq, Repr

namespace Cell

def settled (value : α) : Cell α := ⟨value, []⟩

def live (cell : Cell α) : α := cell.pending.headD cell.durable

def put (cell : Cell α) (value : α) : Cell α := { cell with pending := value :: cell.pending }

def sync (cell : Cell α) : Cell α := settled cell.live

def values (cell : Cell α) : List α := cell.durable :: cell.pending

def crash (cell : Cell α) (choice : Nat) : α := cell.values.getD choice cell.durable

variable (cell : Cell α) (value : α) (choice : Nat)

@[simp] theorem live_settled : (settled value).live = value := rfl

@[simp] theorem live_sync : cell.sync.live = cell.live := rfl

@[simp] theorem values_settled : (settled value).values = [value] := rfl

@[simp] theorem sync_settled : (settled value).sync = settled value := rfl

@[simp] theorem crash_settled : (settled value).crash choice = value := by
  cases choice <;> rfl

theorem mem_values_put {cell : Cell α} {value found : α} :
    found ∈ (cell.put value).values ↔ found = value ∨ found ∈ cell.values := by
  simp only [values, put, mem_cons]
  tauto

theorem live_mem_values : cell.live ∈ cell.values := by
  obtain ⟨durable, pending⟩ := cell
  cases pending <;> simp [live, values]

theorem crash_mem_values : cell.crash choice ∈ cell.values := by
  unfold crash
  rw [getD_eq_getElem?_getD]
  cases found : cell.values[choice]? with
  | none => exact mem_cons_self
  | some value => exact mem_of_getElem? found

end Cell

end OpenPpp2.Lib.Durable
