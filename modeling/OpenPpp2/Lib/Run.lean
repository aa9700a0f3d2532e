import Mathlib.Data.List.Basic

/-!
# Runs of a deterministic step function

A machine is a function `step : State → Step → State`. A run feeds it a finite
list of steps; a run is guarded when every step meets a condition on the state
it is taken from. The two induction rules below are the only way the
developments built on this file reason about whole runs: one step keeps the
invariant, hence every run does.
-/

namespace OpenPpp2.Lib.Run

section Machine

variable {State Step : Type*} (step : State → Step → State)

def run (state : State) (steps : List Step) : State := steps.foldl step state

def Guarded (allowed : State → Step → Prop) : State → List Step → Prop
  | _, [] => True
  | state, first :: rest =>
    allowed state first ∧ Guarded allowed (step state first) rest

instance decidableGuarded (allowed : State → Step → Prop)
    [∀ state taken, Decidable (allowed state taken)] :
    ∀ (state : State) (steps : List Step), Decidable (Guarded step allowed state steps)
  | _, [] => isTrue trivial
  | state, first :: rest =>
    match inferInstanceAs (Decidable (allowed state first)),
      decidableGuarded allowed (step state first) rest with
    | isTrue here, isTrue later => isTrue ⟨here, later⟩
    | isFalse here, _ => isFalse fun both => here both.1
    | _, isFalse later => isFalse fun both => later both.2

variable (state : State) {allowed : State → Step → Prop} {invariant : State → Prop}

@[simp] theorem run_nil : run step state [] = state := rfl

@[simp] theorem run_cons (first : Step) (rest : List Step) :
    run step state (first :: rest) = run step (step state first) rest := rfl

theorem run_append (first second : List Step) :
    run step state (first ++ second) = run step (run step state first) second := by
  simp [run, List.foldl_append]

variable {step}

theorem guarded_append {state : State} {first second : List Step} :
    Guarded step allowed state (first ++ second) ↔ Guarded step allowed state first ∧ Guarded step
      allowed (run step state first) second := by
  induction first generalizing state with
  | nil => simp [Guarded]
  | cons head tail ih =>
    simp only [List.cons_append, Guarded, run_cons, ih, and_assoc]

theorem guarded_of_forall (always : ∀ state taken, allowed state taken) (state : State)
    (steps : List Step) : Guarded step allowed state steps := by
  induction steps generalizing state with
  | nil => trivial
  | cons first rest ih => exact ⟨always state first, ih _⟩

theorem run_invariant (kept : ∀ state taken, invariant state → invariant (step state taken))
    {state : State} (initial : invariant state) (steps : List Step) :
    invariant (run step state steps) := by
  induction steps generalizing state with
  | nil => exact initial
  | cons first rest ih => exact ih (kept state first initial)

theorem guarded_invariant
    (kept : ∀ state taken, allowed state taken → invariant state → invariant (step state taken))
    {state : State} {steps : List Step} (guarded : Guarded step allowed state steps)
    (initial : invariant state) : invariant (run step state steps) := by
  induction steps generalizing state with
  | nil => exact initial
  | cons first rest ih => exact ih guarded.2 (kept state first guarded.1 initial)

end Machine

end OpenPpp2.Lib.Run
