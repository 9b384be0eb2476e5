import Mathlib.Algebra.Group.Nat.Defs
import ScoreIntegration.Concurrency.Transitions

/-!
# The high beam of the remote app

The switch, the menu and the vehicle set the state, the stored value and the LED in one
critical section.  The publisher records the generation of the state in another one and
reads the state after it.  Writes to the store and to the LED succeed.
-/

namespace ScoreIntegration.RemoteApp

open Concurrency TransitionSystem

inductive KvsValue where
  | boolean (value : Bool)
  | other

inductive Publisher where
  | waiting
  /-- The generation is recorded. -/
  | recorded
  | loaded (value : Bool)
  | stopped

structure HighBeam where
  outboundState : Bool
  led : Option Bool
  sensorStore : Option KvsValue
  outboundGeneration : Nat
  lastSentGeneration : Nat
  publisher : Publisher
  /-- The values of the frames, the last one first. -/
  sent : List Bool
  /-- How often the state has changed. -/
  changes : Nat

namespace HighBeam

def initialOutput : Option KvsValue → Bool
  | some (.boolean value) => value
  | _ => false

def start (hasLed : Bool) (storedCommand : Option KvsValue) : HighBeam where
  outboundState := initialOutput storedCommand
  led := if hasLed then some (initialOutput storedCommand) else none
  sensorStore := storedCommand
  outboundGeneration := 0
  lastSentGeneration := 2 ^ 64 - 1
  publisher := .waiting
  sent := []
  changes := 0

def setOutboundState (app : HighBeam) (value : Bool) : HighBeam :=
  if app.outboundState = value then app
  else { app with
    outboundState := value
    sensorStore := some (.boolean value)
    led := app.led.map fun _ => value
    outboundGeneration := (app.outboundGeneration + 1) % 2 ^ 64
    changes := app.changes + 1 }

inductive Step where
  /-- By the GPIO monitor, the menu or a command of the vehicle. -/
  | setOutboundState (value : Bool)
  /-- The wait of the publisher ends, possibly after `next_publish`. -/
  | wake (isDue running : Bool)
  | load
  | send

def step (app : HighBeam) : Step → Option HighBeam
  | .setOutboundState value => some (app.setOutboundState value)
  | .wake isDue running =>
    match app.publisher with
    | .waiting =>
      if running = false then some { app with publisher := .stopped }
      else if app.outboundGeneration = app.lastSentGeneration ∧ isDue = false then some app
      else some { app with
        lastSentGeneration := app.outboundGeneration
        publisher := .recorded }
    | _ => none
  | .load =>
    match app.publisher with
    | .recorded => some { app with publisher := .loaded app.outboundState }
    | _ => none
  | .send =>
    match app.publisher with
    | .loaded value => some { app with
        sent := value :: app.sent
        publisher := .waiting }
    | _ => none

/-- The publisher has or sends the current state. -/
def UpToDate (app : HighBeam) : Prop :=
  match app.publisher with
  | .waiting => app.sent.head? = some app.outboundState
  | .loaded value => value = app.outboundState
  | _ => True

structure Invariant (app : HighBeam) : Prop where
  led : ∀ lit ∈ app.led, lit = app.outboundState
  sensorStore : ∀ value ∈ app.sensorStore,
    value = .boolean app.outboundState ∨ value = .other ∧ app.changes = 0
  generation : app.outboundGeneration = app.changes % 2 ^ 64
  recorded : app.lastSentGeneration = 2 ^ 64 - 1 ∨ app.lastSentGeneration ≤ app.changes
  upToDate : app.changes < 2 ^ 64 - 1 → app.lastSentGeneration = app.changes → app.UpToDate

variable {app s' : HighBeam} {hasLed : Bool} {storedCommand : Option KvsValue}

theorem invariant_start : (start hasLed storedCommand).Invariant := by
  constructor
  · intro lit isLit
    cases hasLed <;> cases isLit
    rfl
  · intro value isStored
    cases value with
    | boolean value =>
      cases isStored
      exact .inl rfl
    | other => exact .inr ⟨rfl, rfl⟩
  · rfl
  · exact .inl rfl
  · intro few recorded
    exact absurd recorded (Nat.ne_of_gt few)

theorem Invariant.setOutboundState (inv : app.Invariant) (value : Bool) :
    (app.setOutboundState value).Invariant := by
  unfold HighBeam.setOutboundState
  split
  · exact inv
  · constructor
    · intro lit isLit
      obtain ⟨_, _, same⟩ := Option.map_eq_some_iff.mp isLit
      exact same.symm
    · rintro _ ⟨⟩
      exact .inl rfl
    · have generation := inv.generation
      dsimp only
      omega
    · exact inv.recorded.imp_right Nat.le_succ_of_le
    · intro few recorded
      have earlier := inv.recorded
      dsimp only at few recorded
      omega

theorem Invariant.step (inv : app.Invariant) {label : Step} (taken : app.step label = some s') :
    s'.Invariant := by
  cases label with
  | setOutboundState value =>
    cases taken
    exact inv.setOutboundState value
  | wake isDue running =>
    rw [HighBeam.step] at taken
    split at taken
    · split_ifs at taken <;> cases taken
      · exact { inv with upToDate := fun _ _ => trivial }
      · exact inv
      · exact { inv with
          recorded := .inr (inv.generation ▸ Nat.mod_le _ _)
          upToDate := fun _ _ => trivial }
    · cases taken
  | load =>
    rw [HighBeam.step] at taken
    split at taken <;> cases taken
    exact { inv with upToDate := fun _ _ => rfl }
  | send =>
    rw [HighBeam.step] at taken
    split at taken
    next value isLoaded =>
      cases taken
      refine { inv with upToDate := fun few isCurrent => ?_ }
      have carries := inv.upToDate few isCurrent
      rw [UpToDate, isLoaded] at carries
      exact congrArg some carries
    · cases taken

/-- The LED and the stored value agree with the state, and a publisher that waits without a change
to send has sent the state, unless the generation has come back to a value of before. -/
theorem reachable_highBeam_agrees (hasLed : Bool) (storedCommand : Option KvsValue)
    {app : HighBeam} (reachable : (ofStep (start hasLed storedCommand) step).Reachable app) :
    (∀ lit ∈ app.led, lit = app.outboundState) ∧
      (∀ value ∈ app.sensorStore,
        value = .boolean app.outboundState ∨ value = .other ∧ app.changes = 0) ∧
      (app.changes < 2 ^ 64 - 1 → app.publisher = .waiting →
        app.outboundGeneration = app.lastSentGeneration →
        app.sent.head? = some app.outboundState) := by
  have inv : app.Invariant :=
    reachable.invariant Invariant (by rintro _ rfl; exact invariant_start)
      fun _ _ _ kept taken => kept.step taken
  refine ⟨inv.led, inv.sensorStore, fun few isWaiting isRecorded => ?_⟩
  have generation := inv.generation
  have upToDate := inv.upToDate few (by omega)
  rw [UpToDate, isWaiting] at upToDate
  exact upToDate

theorem change_published : ∃ app, (ofStep (start true none) step).Reachable app ∧
    app.led = some true ∧ app.sent.head? = some true := by
  have reachable := Reachable.run (.initial rfl) (show run step (start true none)
    [.setOutboundState true, .wake false true, .load, .send] = some _ from rfl)
  exact ⟨_, reachable, rfl, (reachable_highBeam_agrees true none reachable).2.2 (by decide) rfl rfl⟩

/-- The frame has the state of the first change, which is not recorded, and the changes after it
are undone. -/
theorem reachable_unrecorded (n : Nat) : (ofStep (start false none) step).Reachable
    ⟨false, none, some (.boolean false), (2 * n + 2) % 2 ^ 64, 0, .waiting, [true], 2 * n + 2⟩ := by
  induction n with
  | zero =>
    exact .run (.initial rfl) (show run step (start false none) [.wake false true,
      .setOutboundState true, .load, .send, .setOutboundState false] = some _ from rfl)
  | succ n ih =>
    have generation : (2 * (n + 1) + 2) % 2 ^ 64 =
        (((2 * n + 2) % 2 ^ 64 + 1) % 2 ^ 64 + 1) % 2 ^ 64 := by omega
    rw [generation]
    exact .run ih (show run step _ [.setOutboundState true, .setOutboundState false] =
      some _ from rfl)

theorem old_state_sent : ∃ app, (ofStep (start false none) step).Reachable app ∧
    app.publisher = .waiting ∧ app.outboundGeneration = app.lastSentGeneration ∧
    app.outboundState = false ∧ app.sent.head? = some true :=
  ⟨_, reachable_unrecorded (2 ^ 63 - 1), rfl, rfl, rfl, rfl⟩

end HighBeam

end ScoreIntegration.RemoteApp
