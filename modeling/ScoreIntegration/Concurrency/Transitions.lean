import Mathlib.Data.List.Basic

/-!
# Transition systems

States, labelled steps and the states that are reached.  A system may be
restricted to the runs all of whose steps meet a condition on the state before
the step and its label.
-/

namespace ScoreIntegration.Concurrency

structure TransitionSystem (State Label : Type) where
  initial : State → Prop
  step : State → Label → State → Prop

namespace TransitionSystem

variable {State Label : Type} {s : State} {next : State → Label → Option State}
  {start final : State} {labels : List Label} {ok : State → Label → Prop}

inductive Reachable (system : TransitionSystem State Label) : State → Prop
  | initial {state : State} : system.initial state → Reachable system state
  | step {before after : State} {label : Label} :
      Reachable system before → system.step before label after →
      Reachable system after

/-- What holds initially and is preserved by every step holds in every state
of a run. -/
theorem Reachable.invariant {sys : TransitionSystem State Label} (inv : State → Prop)
    (base : ∀ s, sys.initial s → inv s)
    (preserved : ∀ pre label s', inv pre → sys.step pre label s' → inv s')
    (reach : sys.Reachable s) : inv s := by
  induction reach with
  | initial isInitial => exact base _ isInitial
  | step _ step ih => exact preserved _ _ _ ih step

def restrict (system : TransitionSystem State Label)
    (allowed : State → Label → Prop) : TransitionSystem State Label where
  initial := system.initial
  step before label after := allowed before label ∧ system.step before label after

def ofStep (start : State) (next : State → Label → Option State) :
    TransitionSystem State Label where
  initial state := state = start
  step before label after := next before label = some after

theorem Reachable.preserves (reach : ((ofStep start next).restrict ok).Reachable s)
    {inv : State → Prop} (base : inv start)
    (preserved : ∀ {pre label s'}, inv pre → ok pre label →
      next pre label = some s' → inv s') : inv s := by
  refine reach.invariant inv ?_ ?_
  · rintro _ rfl
    exact base
  · rintro pre label s' kept ⟨meets, taken⟩
    exact preserved kept meets taken

def run (next : State → Label → Option State) : State → List Label → Option State
  | state, [] => some state
  | state, label :: labels =>
    match next state label with
    | none => none
    | some after => run next after labels

theorem Reachable.run (reach : (ofStep start next).Reachable s)
    (ends : run next s labels = some final) :
    (ofStep start next).Reachable final := by
  induction labels generalizing s with
  | nil =>
    cases ends
    exact reach
  | cons label labels ih =>
    rw [run] at ends
    cases step : next s label with
    | none =>
      rw [step] at ends
      cases ends
    | some s' =>
      rw [step] at ends
      exact ih (.step reach step) ends

theorem exists_reachable (labels : List Label) {property : State → Prop}
    (ends : ∃ s, run next start labels = some s ∧ property s) :
    ∃ s, (ofStep start next).Reachable s ∧ property s := by
  obtain ⟨s, ran, holds⟩ := ends
  exact ⟨s, .run (.initial rfl) ran, holds⟩

theorem Reachable.allowedStep {s'} (reach : ((ofStep start next).restrict ok).Reachable s)
    (label : Label) (meets : ok s label) (taken : next s label = some s') :
    ((ofStep start next).restrict ok).Reachable s' :=
  .step reach ⟨meets, taken⟩

/-- A label that is allowed in every state may be repeated. -/
theorem Reachable.allowedSteps (reach : ((ofStep start next).restrict ok).Reachable s)
    (label : Label) (count : Nat) (free : ∀ s, ok s label)
    (taken : TransitionSystem.run next s (.replicate count label) = some final) :
    ((ofStep start next).restrict ok).Reachable final := by
  induction count generalizing s with
  | zero =>
    cases taken
    exact reach
  | succ count ih =>
    rw [List.replicate_succ, TransitionSystem.run] at taken
    split at taken
    · cases taken
    next step => exact ih (reach.allowedStep label (free s) step) taken

def guarded (next : State → Label → Option State) (allowed : State → Label → Prop)
    [∀ state label, Decidable (allowed state label)] (state : State)
    (label : Label) : Option State :=
  if allowed state label then next state label else none

theorem exists_restricted [∀ s label, Decidable (ok s label)] (labels : List Label)
    {property : State → Prop}
    (ends : ∃ s, run (guarded next ok) start labels = some s ∧ property s) :
    ∃ s, ((ofStep start next).restrict ok).Reachable s ∧ property s := by
  obtain ⟨s, reach, holds⟩ := exists_reachable labels ends
  refine ⟨s, ?_, holds⟩
  clear holds
  induction reach with
  | initial isStart => exact .initial isStart
  | step _ step ih =>
    obtain ⟨meets, taken⟩ := Option.ite_none_right_eq_some.mp step
    exact ih.allowedStep _ meets taken

end TransitionSystem

end ScoreIntegration.Concurrency
