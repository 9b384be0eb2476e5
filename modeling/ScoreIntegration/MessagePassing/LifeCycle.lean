import Mathlib.Data.Fintype.Basic
import ScoreIntegration.MessagePassing.ConnectionStacks

/-!
# The life cycle of a connection

A started connection has one token: a thread that restarts, connects or stops it, a
scheduled attempt to connect, or the command that disconnects it.  The frame that
holds the token says which state is published, so the states follow each other as
they should as long as the token stays alone.  A second token appears when the
connection is stopped during a restart, when an attempt succeeds although the
connection stops, or when it is started twice.
-/

namespace ScoreIntegration.MessagePassing

open Concurrency ClientConnection LifeFrame MessagePassing.Frame List Option Bool Command
open List (count_append count_cons_self forall_mem_cons mem_cons)

/-- The changes of the published state. -/
inductive ConnectionState.Moves : ConnectionState → ConnectionState → Prop
  | stays (state : ConnectionState) : Moves state state
  | starts : Moves .stopped .starting
  | connects : Moves .starting .ready
  | aborts : Moves .starting .stopping
  | stops : Moves .ready .stopping
  | ends : Moves .stopping .stopped

/-! ## Frames -/

namespace Frame

/-- `DoRestart`. -/
def isRestarting : Frame → Bool
  | .life .restart => true
  | .life .restartStarting => true
  | .life .restartConnect => true
  | _ => false

/-- `TryConnect` without success. -/
def isAttempting : Frame → Bool
  | .life .connect => true
  | .life (.connectFailed _) => true
  | .life .connectRetry => true
  | _ => false

/-- `TryConnect` after a success. -/
def isConnected : Frame → Bool
  | .life .connectRegister => true
  | .life .connectReady => true
  | _ => false

def isCallback : Frame → Bool
  | .life (.callback _) => true
  | _ => false

/-- A frame that is alone on the stack of its thread and does not have the token. -/
def isLone {ι : Type} : Thread ι → Frame → Bool
  | .user _, .call _ => true
  | .callbackThread, .queue _ => true
  | .callbackThread, .life (.inputStop reason) => reason ≠ .none
  | _, _ => false

/-- The frame may find an error in the input. -/
def isInput : Frame → Bool
  | .queue (.inputReply _) => true
  | .life (.inputStop _) => true
  | _ => false

/-- The connection while the frame has the token. -/
def Fits (life : Life) : Frame → Prop
  | .life .restart => life.state = .stopped ∧ life.stopReason ≠ .none
  | .life .restartStarting => life.state = .stopped ∧ life.stopReason = .none
  | .life .restartConnect => life.state = .starting ∧ life.stopReason = .none
  | .life .connect => life.state = .starting ∧ life.stopReason = .none
  | .life (.connectFailed reason) =>
    life.state = .starting ∧ life.stopReason = .none ∧ reason ≠ .none
  | .life .connectRetry => life.state = .starting ∧ life.stopReason = .none
  | .life .connectRegister =>
    life.state = .starting ∧ life.stopReason = .none ∧ life.disconnect = true
  | .life .connectReady => life.state = .starting ∧ life.stopReason = .none ∧ life.disconnect = true
  | .life .connectFailedStopping => life.state = .starting ∧ life.stopReason ≠ .none
  | .life .inputStopping => life.state = .ready ∧ life.stopReason ≠ .none ∧ life.disconnect = true
  | .life .unregister => life.state = .stopping ∧ life.stopReason ≠ .none ∧ life.disconnect = true
  | .life .stopStopping => (life.state = .starting ∨ life.state = .ready) ∧ life.stopReason ≠ .none
  | .life .stopSwitch => life.state = .stopping ∧ life.stopReason ≠ .none
  | .switch _ => life.state = .stopping ∧ life.stopReason ≠ .none
  | _ => False

/-- While the frame stops the connection there may still be attempts to connect. -/
def mayAttempt : Frame → Bool
  | .life .connectFailedStopping => true
  | .life .inputStopping => true
  | .life .unregister => true
  | .life .stopStopping => true
  | .life .stopSwitch => true
  | .switch .cleanUp => true
  | _ => false

/-- While the frame has the token the endpoint is not polled. -/
def isQuiet : Frame → Bool
  | .life .connectReady => false
  | .life .inputStopping => false
  | .life .unregister => false
  | .life .stopStopping => false
  | .life .stopSwitch => false
  | .switch .cleanUp => false
  | _ => true

end Frame

/-- The user is in callbacks of the connection, which may be nested. -/
def Callbacks (stack : List Frame) : Prop := ∀ frame ∈ stack, frame.isCallback = true

theorem callbacks_nil : Callbacks [] := List.forall_mem_nil _

def Passive {ι : Type} (thread : Thread ι) (stack : List Frame) : Prop :=
  Callbacks stack ∨ ∃ frame, Frame.isLone thread frame = true ∧ stack = [frame]

/-- The thread tries to connect although the connection stops. -/
def Attempts (stack : List Frame) : Prop :=
  ∃ frame rest, frame.isAttempting = true ∧ Callbacks rest ∧ stack = frame :: rest

/-- The frame is the next one of its thread, apart from the callback for the state
`kStarting`. -/
def Frame.OnTop (frame : Frame) (stack : List Frame) : Prop :=
  ∃ rest, Callbacks rest ∧ (stack = frame :: rest ∨ frame = .life .restartConnect ∧
        stack = .life (.callback .starting) :: frame :: rest)

theorem Frame.eq_callback {fr : Frame} (isCb : fr.isCallback = true) :
    ∃ kind, fr = .life (.callback kind) := by
  cases fr with
  | life fr =>
    cases fr with
    | callback kind => exact ⟨kind, rfl⟩
    | _ => cases isCb
  | _ => cases isCb

theorem Frame.attempting_cases {fr : Frame} (isAttempting : fr.isAttempting = true) :
    fr = .life .connect ∨ (∃ reason, fr = .life (.connectFailed reason)) ∨
      fr = .life .connectRetry := by
  cases fr with
  | life fr =>
    cases fr with
    | connect => exact .inl rfl
    | connectFailed reason => exact .inr (.inl ⟨reason, rfl⟩)
    | connectRetry => exact .inr (.inr rfl)
    | _ => cases isAttempting
  | _ => cases isAttempting

theorem Callbacks.noInput {stack : List Frame} (cbs : Callbacks stack) :
    ∀ fr ∈ stack, fr.isInput = false := by
  intro fr mem
  obtain ⟨kind, rfl⟩ := eq_callback (cbs fr mem)
  rfl

theorem Callbacks.tail {top rest} (cbs : Callbacks (top :: rest)) : Callbacks rest :=
  fun fr mem => cbs fr (mem_cons_of_mem top mem)

/-! ## The token -/

inductive Phase (ι : Type) where
  | resting
  | up
  /-- An attempt to connect is scheduled. -/
  | scheduled
  /-- The disconnection is scheduled. -/
  | commanded
  | held (thread : Thread ι) (frame : Frame)

namespace Phase

variable {ι : Type} [DecidableEq ι] {t : Thread ι} {stack : List Frame}

def frame? (thread : Thread ι) : Phase ι → Option Frame
  | .held holder frame => if holder = thread then some frame else none
  | _ => none

def Fits (life : Life) : Phase ι → Prop
  | .resting => life.state = .stopped ∧ life.stopReason ≠ .none
  | .up => life.state = .ready ∧ life.stopReason = .none ∧ life.disconnect = true
  | .scheduled => life.state = .starting ∧ life.stopReason = .none
  | .commanded => life.state = .stopping ∧ life.stopReason ≠ .none
  | .held _ frame => frame.Fits life

def mayAttempt : Phase ι → Bool
  | .commanded => true
  | .held _ frame => frame.mayAttempt
  | _ => false

/-- The scheduled attempts, unless the connection stops. -/
def attempts : Phase ι → Nat
  | .scheduled => 1
  | _ => 0

def disconnects : Phase ι → Nat
  | .commanded => 1
  | _ => 0

def isQuiet : Phase ι → Bool
  | .up => false
  | .commanded => false
  | .held _ frame => frame.isQuiet
  | _ => true

def Allows (phase : Phase ι) (thread : Thread ι) (stack : List Frame) : Prop :=
  match phase.frame? thread with
  | some frame => frame.OnTop stack
  | none => Passive thread stack ∨
      thread = .callbackThread ∧ phase.mayAttempt = true ∧ Attempts stack

/-- The data and the stacks of a connection while the token is somewhere. -/
structure Matches (phase : Phase ι) (connection : ClientConnection ι) : Prop where
  life : phase.Fits connection.core.life
  attempts : phase.mayAttempt = false →
    connection.core.commands.count .connect + connection.core.retries = phase.attempts
  disconnects : connection.core.commands.count .disconnect = phase.disconnects
  quiet : phase.isQuiet = true → connection.core.life.polled = false ∧
    connection.core.commands.count .register = 0 ∧
    ∀ frame ∈ connection.callbackThread, frame.isInput = false
  threads : ∀ thread, phase.Allows thread (connection.stack thread)

theorem frame?_held (t : Thread ι) (fr : Frame) : (held t fr).frame? t = some fr := if_pos rfl

theorem frame?_of_ne (fr : Frame) (o) (differ : o ≠ t) : (held t fr).frame? o = none :=
  if_neg differ.symm

theorem allows_held {fr} (onTop : fr.OnTop stack) : (held t fr).Allows t stack := by
  rw [Allows, frame?_held]
  exact onTop

theorem allows_passive {phase : Phase ι} (notHeld : phase.frame? t = none)
    (passive : Passive t stack) : phase.Allows t stack := by
  rw [Allows, notHeld]
  exact .inl passive

end Phase

variable {ι : Type}

theorem ClientConnection.stack_setStack [DecidableEq ι] (conn : ClientConnection ι)
    (t o : Thread ι) (frames : List Frame) :
    (conn.setStack t frames).stack o = if o = t then frames else conn.stack o := by
  cases t with
  | callbackThread => cases o <;> rfl
  | user i =>
    cases o with
    | callbackThread => rfl
    | user pos => simp only [setStack, stack, Function.update_apply, Thread.user.injEq]

@[simp]
theorem ClientConnection.core_setStack {ι : Type} [DecidableEq ι] (conn : ClientConnection ι)
    (t : Thread ι) (frames : List Frame) :
    (conn.setStack t frames).core = conn.core := by
  cases t <;> rfl

theorem ClientConnection.noInput_setStack [DecidableEq ι] {conn : ClientConnection ι}
    {core : Core} {t : Thread ι} {frames : List Frame}
    (noInput : ∀ fr ∈ conn.callbackThread, fr.isInput = false)
    (noneAdded : ∀ fr ∈ frames, fr.isInput = false) :
    ∀ fr ∈ ({ conn with core }.setStack t frames).callbackThread, fr.isInput = false := by
  cases t with
  | callbackThread => exact noneAdded
  | user i => exact noInput

namespace Phase

variable {ι : Type} [DecidableEq ι] {conn : ClientConnection ι} {t : Thread ι}
  {frames : List Frame} {phase next : Phase ι} {core : Core} {fr : Frame} {life : Life}
  {rest : List Frame}

theorem Matches.replace (matched : phase.Matches conn)
    (notElsewhere : ∀ o, o ≠ t → next.frame? o = phase.frame? o)
    (keepsAttempts : phase.mayAttempt = true → next.mayAttempt = true ∨
      t = .callbackThread ∨ conn.callbackThread = [])
    (life : next.Fits core.life)
    (attempts : next.mayAttempt = false →
      core.commands.count .connect + core.retries = next.attempts)
    (disconnects : core.commands.count .disconnect = next.disconnects)
    (quiet : next.isQuiet = true → core.life.polled = false ∧ core.commands.count .register = 0 ∧
      ∀ fr ∈ ({ conn with core }.setStack t frames).callbackThread, fr.isInput = false)
    (own : next.Allows t frames) :
    next.Matches ({ conn with core }.setStack t frames) := by
  refine ⟨?_, ?_, ?_, ?_, fun o => ?_⟩
  · simpa using life
  · simpa using attempts
  · simpa using disconnects
  · simpa using quiet
  rw [stack_setStack]
  split
  next same => exact same ▸ own
  next differ =>
    have allows := matched.threads o
    change next.Allows o (conn.stack o)
    unfold Allows at allows ⊢
    rw [notElsewhere o differ]
    split at allows
    · exact allows
    · rcases allows with passive | ⟨rfl, mayAttempt, attempting⟩
      · exact .inl passive
      · rcases keepsAttempts mayAttempt with keeps | isThread | isIdle
        · exact .inr ⟨rfl, keeps, attempting⟩
        · exact absurd isThread.symm differ
        · obtain ⟨_, _, _, _, isStack⟩ := attempting
          cases isIdle.symm.trans isStack

theorem Matches.pass (matched : (held t fr).Matches conn)
    (notElsewhere : ∀ o, o ≠ t → next.frame? o = none)
    (keepsAttempts : fr.mayAttempt = true → next.mayAttempt = true) (life : next.Fits core.life)
    (attempts : next.mayAttempt = false →
      core.commands.count .connect + core.retries = next.attempts)
    (disconnects : core.commands.count .disconnect = next.disconnects)
    (quiet : next.isQuiet = true → fr.isQuiet = true ∧ core.life.polled = conn.core.life.polled ∧
      core.commands.count .register = conn.core.commands.count .register ∧
      ∀ fr ∈ frames, fr.isInput = false)
    (own : next.Allows t frames) :
    next.Matches ({ conn with core }.setStack t frames) := by
  refine matched.replace (fun o differ => ?_)
    (fun mayAttempt => .inl (keepsAttempts mayAttempt)) life attempts disconnects
    (fun isQuiet => ?_) own
  · rw [notElsewhere o differ, frame?_of_ne _ _ differ]
  · obtain ⟨wasQuiet, samePolled, sameRegister, noInput⟩ := quiet isQuiet
    obtain ⟨notPolled, noRegister, noInputBefore⟩ := matched.quiet wasQuiet
    exact ⟨samePolled.trans notPolled, sameRegister.trans noRegister,
      noInput_setStack noInputBefore noInput⟩

theorem Matches.hold {next} (matched : (held t fr).Matches conn)
    (cbs : Callbacks rest) (noInput : next.isInput = false)
    (keepsAttempts : fr.mayAttempt = true → next.mayAttempt = true)
    (quiet : next.isQuiet = true → fr.isQuiet = true ∧ life.polled = conn.core.life.polled)
    (fits : next.Fits life) :
    (held t next).Matches ({ conn with
      core := { conn.core with life } }.setStack t (next :: rest)) := by
  refine matched.pass (frame?_of_ne next)
    keepsAttempts fits (fun noAttempt => matched.attempts ?_) matched.disconnects
    (fun isQuiet => ⟨(quiet isQuiet).1, (quiet isQuiet).2, rfl,
      forall_mem_cons.mpr ⟨noInput, cbs.noInput⟩⟩)
    (allows_held ⟨rest, cbs, .inl rfl⟩)
  exact eq_false_iff.mpr fun mayAttempt => eq_false_iff.mp noAttempt (keepsAttempts mayAttempt)

theorem Matches.runLife {cfg : ClientConfig} {fr : LifeFrame} {opens : OpenResult}
    (matched : (held t (.life fr)).Matches conn) (cbs : Callbacks rest) :
    let step := fr.exec cfg (t = .callbackThread) opens conn.core.life
      conn.core.commands conn.core.retries
    (∃ next : Phase ι, next.Matches ({ conn with
        core := { conn.core with
          life := step.life
          commands := step.commands
          retries := step.retries } }.setStack t (step.frames ++ rest))) ∧
      conn.core.life.state.Moves step.life.state := by
  have fits := matched.life
  have disconnects := matched.disconnects
  cases fr with
  | callback kind | inputStop reason => cases fits
  | restart =>
    exact ⟨⟨_, matched.hold cbs rfl (by cases ·) (fun _ => ⟨rfl, rfl⟩) ⟨fits.1, rfl⟩⟩, .stays _⟩
  | restartStarting =>
    refine ⟨⟨.held t (.life .restartConnect), matched.pass (frame?_of_ne _)
      (by cases ·) ⟨rfl, fits.2⟩ (fun _ => matched.attempts rfl) disconnects
      (fun _ => ⟨rfl, rfl, rfl, ?_⟩)
      (allows_held ⟨rest, cbs, .inr ⟨rfl, rfl⟩⟩)⟩, ?_⟩
    · exact forall_mem_cons.mpr ⟨rfl, forall_mem_cons.mpr ⟨rfl, cbs.noInput⟩⟩
    · rw [fits.1]
      exact .starts
  | restartConnect =>
    have attempts := matched.attempts rfl
    by_cases isSync : cfg.syncFirstConnect = true
    · simp only [exec, isSync, if_true]
      exact ⟨⟨_, matched.hold cbs rfl (by cases ·) (fun _ => ⟨rfl, rfl⟩) fits⟩, .stays _⟩
    · simp only [exec, isSync, false_eq_true, if_false]
      refine ⟨⟨.scheduled, matched.pass (fun _ _ => rfl) (by cases ·) fits (fun _ => ?_) ?_
        (fun _ => ⟨rfl, rfl, ?_, cbs.noInput⟩) (allows_passive rfl (.inl cbs))⟩,
        .stays _⟩
      · rw [count_append, count_singleton_self, Nat.add_right_comm]
        exact congrArg Nat.succ attempts
      · rw [count_append]
        exact disconnects
      · rw [count_append]
        rfl
  | connect =>
    cases opens with
    | opened =>
      exact ⟨⟨_, matched.hold cbs rfl (by cases ·) (fun _ => ⟨rfl, rfl⟩)
        ⟨fits.1, fits.2, rfl⟩⟩, .stays _⟩
    | retry => exact ⟨⟨_, matched.hold cbs rfl (by cases ·) (fun _ => ⟨rfl, rfl⟩) fits⟩, .stays _⟩
    | _ =>
      exact ⟨⟨_, matched.hold cbs rfl (by cases ·) (fun _ => ⟨rfl, rfl⟩)
        ⟨fits.1, fits.2, StopReason.noConfusion⟩⟩, .stays _⟩
  | connectFailed reason =>
    obtain ⟨isStarting, isNone, isReason⟩ := fits
    simp only [exec, Life.trySetStopReason, isNone, if_true]
    exact ⟨⟨_, matched.hold cbs rfl (by cases ·) (fun _ => ⟨rfl, rfl⟩)
      ⟨isStarting, isReason⟩⟩, .stays _⟩
  | connectFailedStopping =>
    refine ⟨⟨_, matched.hold cbs rfl (fun _ => rfl) (by cases ·) ⟨rfl, fits.2⟩⟩, ?_⟩
    rw [fits.1]
    exact .aborts
  | connectRetry =>
    have attempts := matched.attempts rfl
    refine ⟨⟨.scheduled, matched.pass (fun _ _ => rfl) (by cases ·) fits (fun _ => ?_) disconnects
      (fun _ => ⟨rfl, rfl, rfl, cbs.noInput⟩)
      (allows_passive rfl (.inl cbs))⟩, .stays _⟩
    exact congrArg Nat.succ attempts
  | connectRegister =>
    have attempts := matched.attempts rfl
    by_cases onCallbackThread : t = .callbackThread
    · simp only [exec, onCallbackThread, decide_true, if_true]
      exact ⟨⟨_, (onCallbackThread ▸ matched).hold cbs rfl (by cases ·) (by cases ·) fits⟩,
        .stays _⟩
    · simp only [exec, onCallbackThread, decide_false, false_eq_true, if_false]
      refine ⟨⟨.held t (.life .connectReady), matched.pass (frame?_of_ne _) (by cases ·) fits
        (fun _ => ?_) ?_ (by cases ·) (allows_held ⟨rest, cbs, .inl rfl⟩)⟩, .stays _⟩
      · rw [count_append]
        exact attempts
      · rw [count_append]
        exact disconnects
  | connectReady =>
    refine ⟨⟨.up, matched.pass (fun _ _ => rfl) (by cases ·) ⟨rfl, fits.2⟩
      (fun _ => matched.attempts rfl) disconnects
      (by cases ·)
      (allows_passive rfl (.inl (forall_mem_cons.mpr ⟨rfl, cbs⟩)))⟩, ?_⟩
    rw [fits.1]
    exact .connects
  | inputStopping =>
    refine ⟨⟨_, matched.hold cbs rfl (fun _ => rfl) (by cases ·) ⟨rfl, fits.2⟩⟩, ?_⟩
    rw [fits.1]
    exact .stops
  | unregister =>
    simp only [exec, fits.2.2, if_true]
    exact ⟨⟨_, matched.hold cbs rfl (fun _ => rfl) (by cases ·) ⟨fits.1, fits.2.1⟩⟩, .stays _⟩
  | stopStopping =>
    refine ⟨⟨_, matched.hold cbs rfl (fun _ => rfl) (by cases ·) ⟨rfl, fits.2⟩⟩, ?_⟩
    rcases fits.1 with isStarting | isReady
    · rw [isStarting]
      exact .aborts
    · rw [isReady]
      exact .stops
  | stopSwitch =>
    by_cases onCallbackThread : t = .callbackThread
    · simp only [exec, onCallbackThread, decide_true, if_true]
      exact ⟨⟨_, (onCallbackThread ▸ matched).hold cbs rfl (fun _ => rfl) (by cases ·) fits⟩,
        .stays _⟩
    · simp only [exec, onCallbackThread, decide_false, false_eq_true, if_false]
      refine ⟨⟨.commanded, matched.pass (fun _ _ => rfl) (fun _ => rfl) fits (by cases ·) ?_
        (by cases ·) (allows_passive rfl (.inl cbs))⟩, .stays _⟩
      rw [count_append]
      exact congrArg Nat.succ disconnects

theorem Matches.runSwitch {fr : SwitchFrame}
    (matched : (held t (.switch fr)).Matches conn) (cbs : Callbacks rest)
    (mayRun : mayRun conn t (.switch fr) = true)
    (ran : conn.core.execSwitch fr = some (core, frames)) :
    (∃ next : Phase ι, next.Matches ({ conn with core }.setStack t (frames ++ rest))) ∧
      conn.core.life.state.Moves core.life.state := by
  obtain ⟨isStopping, hasReason⟩ := matched.life
  have noInput : ∀ fr : SwitchFrame, ∀ o ∈ switch fr :: rest, o.isInput = false :=
    fun fr => forall_mem_cons.mpr ⟨rfl, cbs.noInput⟩
  rcases Core.execSwitch_cases ran with ⟨rfl, rfl, rfl⟩ | ⟨rfl, rfl, rfl⟩ |
    ⟨rfl, rfl, rfl⟩ | ⟨sends, tl, ranSends, rfl, rfl⟩
  · -- `CleanUpOwner` ends all attempts; on a user thread it waits for the other one.
    have isIdle : t = .callbackThread ∨ conn.callbackThread = [] := by
      cases t with
      | callbackThread => exact .inl rfl
      | user i => exact .inr (of_decide_eq_true mayRun)
    refine ⟨⟨.held t (.switch .close), matched.replace (fun o differ => ?_)
      (fun _ => .inr isIdle) ⟨isStopping, hasReason⟩ (fun _ => rfl) rfl
      (fun _ => ⟨rfl, rfl, ?_⟩) (allows_held ⟨rest, cbs, .inl rfl⟩)⟩, .stays _⟩
    · rw [frame?_of_ne _ _ differ, frame?_of_ne _ _ differ]
    · rcases isIdle with rfl | isIdle
      · exact noInput .close
      · refine noInput_setStack ?_ (noInput .close)
        rw [isIdle]
        exact List.forall_mem_nil _
  · exact ⟨⟨.held t (.switch .take), matched.pass (frame?_of_ne _) nofun ⟨isStopping, hasReason⟩
      (fun _ => matched.attempts rfl) matched.disconnects
      (fun _ => ⟨rfl, rfl, rfl, noInput _⟩)
      (allows_held ⟨rest, cbs, .inl rfl⟩)⟩, .stays _⟩
  · refine ⟨⟨.resting, matched.pass (fun _ _ => rfl) nofun ⟨rfl, hasReason⟩
      (fun _ => matched.attempts rfl) matched.disconnects
      (fun _ => ⟨rfl, rfl, rfl, forall_mem_cons.mpr ⟨rfl, cbs.noInput⟩⟩)
      (allows_passive rfl (.inl (forall_mem_cons.mpr ⟨rfl, cbs⟩)))⟩, ?_⟩
    rw [isStopping]
    exact .ends
  · -- The other sections do not concern the life cycle.
    have runs := SwitchFrame.runs_of_execSends ranSends
    have notFirst : (switch fr).mayAttempt = false ∧ (switch fr).isQuiet = true ∧
        (switch tl).mayAttempt = false := by
      cases runs with
      | empties isDrain _ | drains isDrain _ _ _ =>
        rcases isDrain with rfl | ⟨rfl, _⟩ <;> exact ⟨rfl, rfl, rfl⟩
      | callsBack isCb => rcases isCb with rfl | rfl <;> exact ⟨rfl, rfl, rfl⟩
      | _ => exact ⟨rfl, rfl, rfl⟩
    obtain ⟨noAttempt, isQuiet, noLaterAttempt⟩ := notFirst
    refine ⟨⟨.held t (.switch tl), matched.pass (frame?_of_ne _)
      (fun mayAttempt => ?_) ⟨isStopping, hasReason⟩
      (fun _ => matched.attempts noAttempt) matched.disconnects
      (fun _ => ⟨isQuiet, rfl, rfl, noInput _⟩)
      (allows_held ⟨rest, cbs, .inl rfl⟩)⟩, .stays _⟩
    rw [noAttempt] at mayAttempt
    cases mayAttempt

/-! ## Threads without the token -/

theorem Matches.setPassive (matched : phase.Matches conn)
    (notHeld : phase.frame? t = none) (sameLife : core.life = conn.core.life)
    (attempts : phase.mayAttempt = false → core.commands.count .connect + core.retries =
        conn.core.commands.count .connect + conn.core.retries)
    (disconnects : core.commands.count .disconnect = conn.core.commands.count .disconnect)
    (registers : core.commands.count .register = conn.core.commands.count .register)
    (noInput : phase.isQuiet = true → t = .callbackThread → ∀ fr ∈ frames, fr.isInput = false)
    (own : Passive t frames ∨ t = .callbackThread ∧ phase.mayAttempt = true ∧ Attempts frames) :
    phase.Matches ({ conn with core }.setStack t frames) := by
  refine matched.replace (fun _ _ => rfl) (fun mayAttempt => .inl mayAttempt) ?_
    (fun noAttempt => (attempts noAttempt).trans (matched.attempts noAttempt))
    (disconnects.trans matched.disconnects) (fun isQuiet => ?_) ?_
  · rw [sameLife]
    exact matched.life
  · obtain ⟨notPolled, noRegister, noInputBefore⟩ := matched.quiet isQuiet
    rw [sameLife]
    refine ⟨notPolled, registers.trans noRegister, ?_⟩
    cases t with
    | callbackThread => exact noInput isQuiet rfl
    | user i => exact noInputBefore
  · rw [Allows, notHeld]
    exact own

omit [DecidableEq ι] in
theorem hasReason_of_mayAttempt (fits : phase.Fits life) (mayAttempt : phase.mayAttempt = true) :
    life.stopReason ≠ .none := by
  cases phase with
  | commanded => exact fits.2
  | held t fr =>
    cases fr with
    | life fr =>
      cases fr with
      | connectFailedStopping | stopStopping | stopSwitch => exact fits.2
      | inputStopping | unregister => exact fits.2.1
      | _ => cases mayAttempt
    | switch fr => exact fits.2
    | _ => cases mayAttempt
  | _ => cases mayAttempt

end Phase

theorem QueueFrame.Runs.noInput {session sends fr step} (runs : fr.Runs session sends step)
    (noInput : (queue fr).isInput = false) :
    step.fails = false ∧ ∀ next ∈ step.next, (queue next).isInput = false := by
  have leaves : ∀ sends s', (QueueStep.leaves sends s').fails = false ∧
        ∀ next ∈ (QueueStep.leaves sends s').next, (queue next).isInput = false := by
    intro sends s'
    refine ⟨rfl, fun next isNext => ?_⟩
    obtain ⟨pending, _, rfl⟩ := map_eq_some_iff.mp isNext
    rfl
  cases runs with
  | leaves _ _ | hasWritten _ => exact leaves _ _
  | refuses _ => cases noInput
  | replies =>
    refine ⟨rfl, fun _ isNext => ?_⟩
    cases isNext
  | _ =>
    refine ⟨rfl, fun _ isNext => ?_⟩
    cases isNext
    rfl

/-! ## Runs with one token -/

namespace ClientConnection

variable {ι : Type} [DecidableEq ι] (connection : ClientConnection ι)

def NoRestart : Prop :=
  (∀ frame ∈ connection.callbackThread, frame.isRestarting = false) ∧
    ∀ user, ∀ frame ∈ connection.users user, frame.isRestarting = false

/-- The connection may be stopped: it is neither being restarted nor about to be
published as ready, and no user thread tries to connect it. -/
def StopsInTurn : Prop :=
  (∀ frame ∈ connection.callbackThread, frame.isRestarting = false ∧ frame.isConnected = false) ∧
    ∀ user, ∀ frame ∈ connection.users user, frame.isRestarting = false ∧
      frame.isConnected = false ∧ frame.isAttempting = false

def FrameInTurn (opens : OpenResult) : Frame → Prop
  | .life (.inputStop _) => connection.core.life.stopReason = .none → connection.StopsInTurn
  | .life .connect => opens = .opened → connection.core.life.stopReason = .none
  | _ => True

/-- A step that keeps the token alone. -/
def InTurn : ConnectionStep ι → Prop
  | .start _ => connection.core.life.state = .stopped ∧ connection.NoRestart
  | .restart _ => connection.core.life.state = .stopped → connection.NoRestart
  | .stop _ => connection.core.life.stopReason = .none → connection.StopsInTurn
  | .run thread answer => ∀ frame ∈ (connection.stack thread).head?,
      connection.FrameInTurn answer.opens frame
  | _ => True

end ClientConnection

namespace Phase

variable {ι : Type} [DecidableEq ι] {conn : ClientConnection ι} {t : Thread ι}
  {fr : Frame} {cfg : ClientConfig} {phase : Phase ι} {ans : EngineAnswer}
  {rest frames stack : List Frame} {core : Core} {life : Life} {s' : ClientConnection ι}

theorem Matches.mem_stack (matched : (held t fr).Matches conn) : fr ∈ conn.stack t := by
  have allows := matched.threads t
  rw [Allows, frame?_held] at allows
  obtain ⟨rest, _, isStack | ⟨_, isStack⟩⟩ := allows <;> rw [isStack] <;> simp

section

variable (matched : phase.Matches conn)
include matched

theorem Matches.cases_of_stopsInTurn
    (inTurn : conn.StopsInTurn) (isNone : conn.core.life.stopReason = .none) :
    phase = .up ∨ phase = .scheduled ∨
      ∃ fr, fr.isAttempting = true ∧ phase = .held .callbackThread fr := by
  have fits := matched.life
  cases phase with
  | resting | commanded => exact absurd isNone fits.2
  | up => exact .inl rfl
  | scheduled => exact .inr (.inl rfl)
  | held t fr =>
    have mem := matched.mem_stack
    have notLate : fr.isRestarting = false ∧ fr.isConnected = false := by
      cases t with
      | callbackThread => exact inTurn.1 fr mem
      | user i =>
        obtain ⟨notRestarting, notConnected, _⟩ := inTurn.2 i fr mem
        exact ⟨notRestarting, notConnected⟩
    have isAttempting : fr.isAttempting = true := by
      cases fr with
      | life fr =>
        cases fr with
        | connect | connectFailed reason | connectRetry => rfl
        | restartStarting | restartConnect => cases notLate.1
        | connectRegister | connectReady => cases notLate.2
        | callback kind | inputStop reason => cases fits
        | inputStopping | unregister => exact absurd isNone fits.2.1
        | _ => exact absurd isNone fits.2
      | switch fr => exact absurd isNone fits.2
      | _ => cases fits
    cases t with
    | callbackThread => exact .inr (.inr ⟨fr, isAttempting, rfl⟩)
    | user i =>
      have notAttempting := (inTurn.2 i fr mem).2.2
      rw [isAttempting] at notAttempting
      cases notAttempting

theorem Matches.runInputStop {opens reason} (notHeld : phase.frame? .callbackThread = none)
    (onStack : conn.callbackThread = [.life (.inputStop reason)]) (hasReason : reason ≠ .none)
    (inTurn : conn.core.life.stopReason = .none → conn.StopsInTurn) :
    let step := exec cfg true opens conn.core.life
      conn.core.commands conn.core.retries (.inputStop reason)
    (∃ next : Phase ι, next.Matches ({ conn with
        core := { conn.core with
          life := step.life
          commands := step.commands
          retries := step.retries } }.setStack .callbackThread (step.frames ++ []))) ∧
      conn.core.life.state.Moves step.life.state := by
  by_cases isNone : conn.core.life.stopReason = .none
  · simp only [exec, Life.trySetStopReason, isNone, if_true]
    -- The endpoint is polled, so the connection is up.
    rcases matched.cases_of_stopsInTurn (inTurn isNone) isNone with rfl | rfl | ⟨fr, _, rfl⟩
    · refine ⟨⟨.held .callbackThread (.life .inputStopping), matched.replace (frame?_of_ne _)
          (by cases ·) ⟨matched.life.1, hasReason, matched.life.2.2⟩
          (by cases ·) matched.disconnects
          (by cases ·)
          (allows_held ⟨[], callbacks_nil, .inl rfl⟩)⟩, .stays _⟩
    · have noInput := (matched.quiet rfl).2.2 (.life (.inputStop reason)) (by
        rw [onStack]
        exact mem_singleton_self _)
      cases noInput
    · rw [frame?_held] at notHeld
      cases notHeld
  · simp only [exec, Life.trySetStopReason, isNone, if_false]
    exact ⟨⟨phase, matched.setPassive notHeld rfl (fun _ => rfl) rfl rfl
      (fun _ _ => List.forall_mem_nil _) (.inl (.inl callbacks_nil))⟩, .stays _⟩

theorem Matches.runPassive (notHeld : phase.frame? t = none) (isStack : conn.stack t = fr :: rest)
    (passive : Passive t (fr :: rest)) (inTurn : conn.FrameInTurn ans.opens fr)
    (ran : conn.core.exec cfg (t = .callbackThread) ans fr = some (core, frames)) :
    (∃ next : Phase ι, next.Matches ({ conn with core }.setStack t (frames ++ rest))) ∧
      conn.core.life.state.Moves core.life.state := by
  rcases passive with cbs | ⟨lone, isLone, isOnly⟩
  · obtain ⟨kind, rfl⟩ := eq_callback (cbs fr mem_cons_self)
    cases ran
    exact ⟨⟨phase, matched.setPassive notHeld rfl (fun _ => rfl) rfl rfl
      (fun _ _ => cbs.tail.noInput) (.inl (.inl cbs.tail))⟩, .stays _⟩
  · cases isOnly
    cases t with
    | user i =>
      cases fr with
      | call fr =>
        obtain ⟨step, _, isCore⟩ := map_eq_some_iff.mp ran
        cases isCore
        have sameCount : ∀ cmd : Command, cmd ≠ .asyncSend →
            (if step.arms then conn.core.commands ++ [.asyncSend]
              else conn.core.commands).count cmd =
              conn.core.commands.count cmd := by
          intro cmd differ
          split
          · rw [count_append, count_singleton]
            simp [differ.symm]
          · rfl
        refine ⟨⟨phase, matched.setPassive notHeld rfl
          (fun _ => by rw [sameCount _ noConfusion])
          (sameCount _ noConfusion) (sameCount _ noConfusion)
          nofun (.inl ?_)⟩, .stays _⟩
        cases step.next with
        | none => exact .inl callbacks_nil
        | some tl => exact .inr ⟨_, rfl, rfl⟩
      | _ => cases isLone
    | callbackThread =>
      have onStack : conn.callbackThread = [fr] := isStack
      cases fr with
      | queue fr =>
        have runs := QueueFrame.runs_exec (conn.core.session ans) conn.core.sends fr
        cases ran
        refine ⟨⟨phase, matched.setPassive notHeld rfl (fun _ => rfl) rfl rfl
          (fun isQuiet _ => ?_) (.inl ?_)⟩, .stays _⟩
        · have noInput := (matched.quiet isQuiet).2.2 (.queue fr) (by
            rw [onStack]; exact mem_singleton_self _)
          obtain ⟨notFailed, noNext⟩ := runs.noInput noInput
          rw [notFailed, append_nil]
          simp only [false_eq_true, if_false, mem_toList, map_eq_some_iff]
          rintro _ ⟨tl, isFollowing, rfl⟩
          exact noNext tl isFollowing
        · split
          · exact .inr ⟨_, rfl, rfl⟩
          · cases (fr.exec (conn.core.session ans) conn.core.sends).next with
            | none => exact .inl callbacks_nil
            | some tl => exact .inr ⟨_, rfl, rfl⟩
      | life fr =>
        cases fr with
        | inputStop reason =>
          cases ran
          exact matched.runInputStop notHeld onStack (of_decide_eq_true isLone) inTurn
        | _ => cases isLone
      | _ => cases isLone

theorem Matches.runAttempt
    (notHeld : phase.frame? .callbackThread = none) (mayAttempt : phase.mayAttempt = true)
    (isAttempting : fr.isAttempting = true) (cbs : Callbacks rest)
    (inTurn : conn.FrameInTurn ans.opens fr)
    (ran : conn.core.exec cfg true ans fr = some (core, frames)) :
    phase.Matches ({ conn with core }.setStack .callbackThread (frames ++ rest)) ∧
      core.life = conn.core.life := by
  have hasReason := hasReason_of_mayAttempt matched.life mayAttempt
  have anyAttempts : ∀ {count : Nat}, phase.mayAttempt = false →
      count = conn.core.commands.count .connect + conn.core.retries :=
    fun contradiction => absurd (mayAttempt.symm.trans contradiction) Bool.noConfusion
  have goesOn : ∀ fr : Frame, fr.isAttempting = true → fr.isInput = false →
      phase.Matches ({ conn with core := conn.core }.setStack .callbackThread (fr :: rest)) := by
    intro fr isAttempting noInput
    exact matched.setPassive notHeld rfl (fun _ => rfl) rfl rfl
      (fun _ _ => forall_mem_cons.mpr ⟨noInput, cbs.noInput⟩)
      (.inr ⟨rfl, mayAttempt, fr, rest, isAttempting, cbs, rfl⟩)
  rcases attempting_cases isAttempting with rfl | ⟨reason, rfl⟩ | rfl
  · cases opens : ans.opens with
    | opened => exact absurd (inTurn opens) hasReason
    | _ =>
      simp only [Core.exec, exec, opens] at ran
      cases ran
      exact ⟨goesOn _ rfl rfl, rfl⟩
  · simp only [Core.exec, exec, Life.trySetStopReason, hasReason, if_false] at ran
    cases ran
    exact ⟨matched.setPassive notHeld rfl (fun _ => rfl) rfl rfl
      (fun _ _ => cbs.noInput) (.inl (.inl cbs)), rfl⟩
  · cases ran
    exact ⟨matched.setPassive notHeld rfl anyAttempts rfl rfl
      (fun _ _ => cbs.noInput) (.inl (.inl cbs)), rfl⟩

theorem Matches.run (isStack : conn.stack t = fr :: rest) (mayRun : mayRun conn t fr = true)
    (inTurn : conn.FrameInTurn ans.opens fr)
    (ran : conn.core.exec cfg (t = .callbackThread) ans fr = some (core, frames)) :
    (∃ next : Phase ι, next.Matches ({ conn with core }.setStack t (frames ++ rest))) ∧
      conn.core.life.state.Moves core.life.state := by
  have allows := matched.threads t
  rw [isStack] at allows
  cases isHeld : phase.frame? t with
  | none =>
    rw [Allows, isHeld] at allows
    rcases allows with passive | ⟨rfl, mayAttempt, attempting, below, isAttempting, cbs, isTop⟩
    · exact matched.runPassive isHeld isStack passive inTurn ran
    · cases isTop
      obtain ⟨matched, sameLife⟩ := matched.runAttempt isHeld mayAttempt isAttempting cbs inTurn ran
      exact ⟨⟨phase, matched⟩, sameLife ▸ .stays _⟩
  | some holding =>
    rw [Allows, isHeld] at allows
    cases phase with
    | held holder held =>
      obtain ⟨rfl, rfl⟩ : holder = t ∧ held = holding := by
        obtain ⟨isHolder, isFrame⟩ := ite_none_right_eq_some.mp isHeld
        exact ⟨isHolder, some.inj isFrame⟩
      obtain ⟨below, cbs, isTop | ⟨rfl, isTop⟩⟩ := allows
      · cases isTop
        cases fr with
        | life fr =>
          cases ran
          exact matched.runLife cbs
        | switch fr => exact matched.runSwitch cbs mayRun ran
        | _ => cases matched.life
      · -- The callback for the state `kStarting` returns.
        cases isTop
        cases ran
        exact ⟨⟨_, matched.pass (frame?_of_ne _) nofun matched.life
          (fun _ => matched.attempts rfl) matched.disconnects
          (fun _ => ⟨rfl, rfl, rfl, forall_mem_cons.mpr ⟨rfl, cbs.noInput⟩⟩)
          (allows_held ⟨below, cbs, .inl rfl⟩)⟩, .stays _⟩
    | _ => cases isHeld

end

/-! ## All steps -/

theorem Allows.callbacks (allows : phase.Allows t stack) (notHeld : phase.frame? t = none)
    (inCallback : InCallback stack) : Callbacks stack := by
  rw [Allows, notHeld] at allows
  rcases allows with (cbs | ⟨fr, isLone, rfl⟩) | ⟨_, _, fr, rest, isAttempting, _, rfl⟩
  · exact cbs
  · obtain ⟨kind, rfl⟩ := inCallback fr rfl
    cases t <;> cases isLone
  · obtain ⟨kind, rfl⟩ := inCallback fr rfl
    cases isAttempting

theorem Matches.restart (matched : phase.Matches conn)
    (isStopped : conn.core.life.state = .stopped) (noRestart : conn.NoRestart)
    (inCallback : InCallback (conn.stack t)) :
    (held t (.life .restart)).Matches (conn.setStack t (.life .restart :: conn.stack t)) := by
  have isResting : phase = .resting := by
    have fits := matched.life
    cases phase with
    | resting => rfl
    | held holder fr =>
      have notRestarting : fr.isRestarting = false := by
        cases holder with
        | callbackThread => exact noRestart.1 fr matched.mem_stack
        | user i => exact noRestart.2 i fr matched.mem_stack
      cases fr with
      | life fr =>
        cases fr with
        | restart | restartStarting => cases notRestarting
        | stopStopping =>
          rcases fits.1 with isStarting | isReady
          · cases isStopped.symm.trans isStarting
          · cases isStopped.symm.trans isReady
        | callback kind | inputStop reason => cases fits
        | _ => cases isStopped.symm.trans fits.1
      | switch fr => cases isStopped.symm.trans fits.1
      | _ => cases fits
    | _ => cases isStopped.symm.trans fits.1
  subst isResting
  have cbs := (matched.threads t).callbacks rfl inCallback
  refine matched.replace (frame?_of_ne _) nofun matched.life
    (fun _ => matched.attempts rfl) matched.disconnects (fun _ => ?_)
    (allows_held ⟨_, cbs, .inl rfl⟩)
  obtain ⟨notPolled, noRegister, noInput⟩ := matched.quiet rfl
  exact ⟨notPolled, noRegister, noInput_setStack noInput (forall_mem_cons.mpr ⟨rfl, cbs.noInput⟩)⟩

omit [DecidableEq ι] in
theorem Fits.starting (fits : (held t fr).Fits life)
    (isAttempting : fr.isAttempting = true) : life.state = .starting := by
  rcases attempting_cases isAttempting with rfl | ⟨reason, rfl⟩ | rfl <;> exact fits.1

theorem Matches.stop (matched : phase.Matches conn)
    (isNone : conn.core.life.stopReason = .none) (inTurn : conn.StopsInTurn)
    (inCallback : InCallback (conn.stack t)) :
    (held t (.life .stopStopping)).Matches ({ conn with
        core := { conn.core with
          life := { conn.core.life with
            stopReason := .userRequested } } }.setStack t
      (.life .stopStopping :: conn.stack t)) := by
  rcases matched.cases_of_stopsInTurn inTurn isNone with rfl | rfl | ⟨fr, isAttempting, rfl⟩
  case inl | inr.inl =>
    have cbs := (matched.threads t).callbacks rfl inCallback
    refine matched.replace (frame?_of_ne _) (fun _ => .inl rfl) ⟨?_, StopReason.noConfusion⟩
      nofun matched.disconnects nofun (allows_held ⟨_, cbs, .inl rfl⟩)
    first
    | exact .inl matched.life.1
    | exact .inr matched.life.1
  · have notHolder : t ≠ .callbackThread := by
      rintro rfl
      have allows := matched.threads .callbackThread
      rw [Allows, frame?_held] at allows
      obtain ⟨rest, _, isStack | ⟨rfl, _⟩⟩ := allows
      · obtain ⟨kind, rfl⟩ := inCallback fr (by rw [isStack]; rfl)
        cases isAttempting
      · cases isAttempting
    have cbs := (matched.threads t).callbacks (frame?_of_ne _ _ notHolder) inCallback
    -- The attempt of the callback thread goes on without the token.
    refine ⟨?_, nofun, ?_, nofun, fun o => ?_⟩
    · rw [core_setStack]
      exact ⟨.inl (matched.life.starting isAttempting), StopReason.noConfusion⟩
    · rw [core_setStack]
      exact matched.disconnects
    · rw [stack_setStack]
      split
      next same =>
        subst same
        exact allows_held ⟨_, cbs, .inl rfl⟩
      next differ =>
        rw [Allows, frame?_of_ne _ _ differ]
        by_cases isCallbackThread : o = .callbackThread
        · subst isCallbackThread
          have allows := matched.threads .callbackThread
          rw [Allows, frame?_held] at allows
          obtain ⟨rest, cbs, isStack | ⟨rfl, _⟩⟩ := allows
          · exact .inr ⟨rfl, rfl, fr, rest, isAttempting, cbs, isStack⟩
          · cases isAttempting
        · have allows := matched.threads o
          rw [Allows, frame?_of_ne _ _ isCallbackThread] at allows
          exact .inl (allows.resolve_right fun attempting => isCallbackThread attempting.1)

theorem Matches.frame?_of_idle {conn t}
    (matched : phase.Matches conn) (isIdle : conn.stack t = []) :
    phase.frame? t = none := by
  have allows := matched.threads t
  rw [isIdle] at allows
  cases isHeld : phase.frame? t with
  | none => rfl
  | some fr =>
    rw [Allows, isHeld] at allows
    obtain ⟨_, _, isStack | ⟨_, isStack⟩⟩ := allows <;> cases isStack

theorem Matches.connect (matched : phase.Matches conn)
    (isIdle : conn.callbackThread = []) (sameLife : core.life = conn.core.life)
    (attempts : core.commands.count .connect + core.retries + 1 =
      conn.core.commands.count .connect + conn.core.retries)
    (disconnects : core.commands.count .disconnect = conn.core.commands.count .disconnect)
    (registers : core.commands.count .register = conn.core.commands.count .register) :
    ∃ next : Phase ι, next.Matches
      ({ conn with core }.setStack .callbackThread [.life .connect]) := by
  cases mayAttempt : phase.mayAttempt with
  | true =>
    refine ⟨phase, matched.setPassive (matched.frame?_of_idle isIdle) sameLife
      (fun contradiction => ?_) disconnects registers (fun _ _ => ?_)
      (.inr ⟨rfl, mayAttempt, _, [], rfl, callbacks_nil, rfl⟩)⟩
    · cases mayAttempt.symm.trans contradiction
    · exact forall_mem_cons.mpr ⟨rfl, callbacks_nil.noInput⟩
  | false =>
    have isScheduled : phase = .scheduled := by
      have counted := matched.attempts mayAttempt
      cases phase with
      | scheduled => rfl
      | _ =>
        change _ = 0 at counted
        omega
    subst isScheduled
    have counted : _ = 1 := matched.attempts rfl
    obtain ⟨notPolled, noRegister, noInput⟩ := matched.quiet rfl
    refine ⟨.held .callbackThread (.life .connect), matched.replace (frame?_of_ne _)
      nofun ?_ (fun _ => ?_)
      (disconnects.trans matched.disconnects) (fun _ => ⟨?_, registers.trans noRegister,
        forall_mem_cons.mpr ⟨rfl, callbacks_nil.noInput⟩⟩)
      (allows_held ⟨[], callbacks_nil, .inl rfl⟩)⟩
    · rw [sameLife]
      exact matched.life
    · change _ = 0
      omega
    · rw [sameLife]
      exact notPolled

omit [DecidableEq ι] in
theorem Fits.setPolled (fits : phase.Fits life) (polled : Bool) :
    phase.Fits { life with polled } := by
  cases phase with
  | held t fr =>
    cases fr with
    | life fr => cases fr <;> exact fits
    | _ => exact fits
  | _ => exact fits

theorem Matches.command {cmd commands} (matched : phase.Matches conn)
    (isIdle : conn.callbackThread = [])
    (isAfter : s' = { conn with
      core := { conn.core with
        commands
        life := match cmd with
          | .register => { conn.core.life with polled := true }
          | _ => conn.core.life }
      callbackThread := commandFrames cmd })
    (isCommands : conn.core.commands = cmd :: commands) :
    (∃ next : Phase ι, next.Matches s') ∧ conn.core.life.state.Moves s'.core.life.state := by
  subst isAfter
  have notHeld : phase.frame? .callbackThread = none := matched.frame?_of_idle isIdle
  cases cmd with
  | connect =>
    refine ⟨matched.connect isIdle rfl ?_ ?_ ?_, .stays _⟩ <;> rw [isCommands]
    · simp only [count_cons_self]
      omega
    · rfl
    · rfl
  | register =>
    have notQuiet : phase.isQuiet = false := by
      cases isQuiet : phase.isQuiet with
      | false => rfl
      | true =>
        have noRegister := (matched.quiet isQuiet).2.1
        rw [isCommands, count_cons_self] at noRegister
        cases noRegister
    have polled : phase.Matches ({ conn with
        core := { conn.core with
          commands
          life := { conn.core.life with polled := true } } }.setStack
        .callbackThread []) := by
      refine matched.replace (fun _ _ => rfl) (fun mayAttempt => .inl mayAttempt)
        (matched.life.setPolled true) (fun noAttempt => ?_) ?_ (fun isQuiet => ?_)
        (allows_passive notHeld (.inl callbacks_nil))
      · rw [← matched.attempts noAttempt, isCommands]
        rfl
      · rw [← matched.disconnects, isCommands]
        rfl
      · cases notQuiet.symm.trans isQuiet
    exact ⟨⟨phase, polled⟩, .stays _⟩
  | disconnect =>
    have isCommanded : phase = .commanded := by
      have counted := matched.disconnects
      rw [isCommands, count_cons_self] at counted
      cases phase with
      | commanded => rfl
      | _ => cases counted
    subst isCommanded
    refine ⟨⟨.held .callbackThread (.switch .cleanUp), matched.replace
      (frame?_of_ne _) (fun _ => .inl rfl) matched.life
      nofun ?_
      nofun
      (allows_held ⟨[], callbacks_nil, .inl rfl⟩)⟩, .stays _⟩
    have counted := matched.disconnects
    rw [isCommands, count_cons_self] at counted
    exact Nat.succ.inj counted
  | asyncSend =>
    refine ⟨⟨phase, matched.setPassive notHeld rfl (fun _ => ?_) ?_ ?_ (fun _ _ => ?_)
      (.inl (.inr ⟨_, rfl, rfl⟩))⟩, .stays _⟩
    · rw [isCommands]
      rfl
    · rw [isCommands]
      rfl
    · rw [isCommands]
      rfl
    · exact forall_mem_cons.mpr ⟨rfl, callbacks_nil.noInput⟩

theorem Matches.step {label} (matched : phase.Matches conn)
    (inTurn : conn.InTurn label) (taken : conn.step cfg label = some s') :
    (∃ next : Phase ι, next.Matches s') ∧ conn.core.life.state.Moves s'.core.life.state := by
  -- The callback thread is free and polls the endpoint.
  have input : ∀ (core : Core) (frames : List Frame), conn.hasInput = true →
      core.life = conn.core.life → core.commands = conn.core.commands →
      core.retries = conn.core.retries → Passive (.callbackThread : Thread ι) frames →
      phase.Matches ({ conn with core }.setStack .callbackThread frames) := by
    intro core frames hasInput sameLife sameCommands sameRetries isPassive
    obtain ⟨isIdle, isPolled⟩ := and_eq_true_iff.mp hasInput
    refine matched.setPassive (matched.frame?_of_idle (of_decide_eq_true isIdle)) sameLife
      (fun _ => ?_) ?_ ?_ (fun isQuiet => ?_) (.inl isPassive)
    · rw [sameCommands, sameRetries]
    · rw [sameCommands]
    · rw [sameCommands]
    · cases (matched.quiet isQuiet).1.symm.trans isPolled
  cases takes_of_step taken with
  | stays => exact ⟨⟨phase, matched⟩, .stays _⟩
  | rejects _ =>
    exact ⟨⟨phase, { matched with }⟩, .stays _⟩
  | @begins user kind _ isIdle =>
    have begun : phase.Matches ({ conn with core := conn.core }.setStack
        (.user user) [.call (callFrame cfg ⟨conn.calls, kind⟩)]) :=
      matched.setPassive (matched.frame?_of_idle isIdle) rfl (fun _ => rfl) rfl rfl
        nofun (.inl (.inr ⟨_, rfl, rfl⟩))
    exact ⟨⟨phase, { begun with }⟩, .stays _⟩
  | @restarts _ t isRestart inCallback =>
    have mayRestart : conn.core.life.state = .stopped ∧ conn.NoRestart := by
      rcases isRestart with ⟨rfl, isStopped⟩ | ⟨user, rfl⟩
      · exact ⟨isStopped, inTurn isStopped⟩
      · exact inTurn
    refine ⟨⟨_, matched.restart mayRestart.1 mayRestart.2 inCallback⟩, ?_⟩
    cases t <;> exact .stays _
  | @stops t isNone inCallback =>
    refine ⟨⟨_, matched.stop isNone (inTurn isNone) inCallback⟩, ?_⟩
    cases t <;> exact .stays _
  | @runs t ans fr frames next core isStack mayRun ran =>
    rw [core_setStack]
    exact matched.run isStack mayRun (inTurn fr (by rw [isStack]; rfl)) ran
  | commands isIdle isCommands => exact matched.command isIdle rfl isCommands
  | retries isIdle isRetries =>
    refine ⟨matched.connect isIdle rfl ?_ rfl rfl, .stays _⟩
    rw [isRetries]
    rfl
  | replies hasInput _ _ =>
    exact ⟨⟨phase, input _ _ hasInput rfl rfl rfl (.inr ⟨_, rfl, rfl⟩)⟩, .stays _⟩
  | inputs hasInput isInput =>
    refine ⟨⟨phase, input _ _ hasInput rfl rfl rfl ?_⟩, .stays _⟩
    rcases isInput with rfl | ⟨reason, rfl, hasReason⟩
    · exact .inl (forall_mem_cons.mpr ⟨rfl, callbacks_nil⟩)
    · exact .inr ⟨.life (.inputStop reason), decide_eq_true hasReason, rfl⟩

end Phase

/-! ## Reachable states -/

namespace Phase

variable {ι : Type} [DecidableEq ι]

theorem Matches.isStopping {phase : Phase ι} {conn : ClientConnection ι} {t : Thread ι}
    {fr : SwitchFrame} (matched : phase.Matches conn)
    (mem : .switch fr ∈ conn.stack t) :
    conn.core.life.state = .stopping := by
  have top {top rest} (cbs : Callbacks rest) (mem : .switch fr ∈ top :: rest) :
      top = .switch fr := by
    refine ((mem_cons.mp mem).resolve_right fun isBelow => ?_).symm
    cases cbs _ isBelow
  have allows := matched.threads t
  cases isHeld : phase.frame? t with
  | none =>
    rw [Allows, isHeld] at allows
    rcases allows with (cbs | ⟨lone, isLone, isStack⟩) |
      ⟨_, _, attempting, rest, isAttempting, cbs, isStack⟩
    · cases cbs _ mem
    · rw [isStack] at mem
      cases mem_singleton.mp mem
      cases t <;> cases isLone
    · rw [isStack] at mem
      cases top cbs mem
      cases isAttempting
  | some holding =>
    rw [Allows, isHeld] at allows
    cases phase with
    | held holder held =>
      have isHolding : held = holding := some.inj (ite_none_right_eq_some.mp isHeld).2
      subst isHolding
      obtain ⟨rest, cbs, isStack | ⟨rfl, isStack⟩⟩ := allows
      · rw [isStack] at mem
        cases top cbs mem
        exact matched.life.1
      · rw [isStack] at mem
        cases top cbs ((mem_cons.mp mem).resolve_left nofun)
    | _ => cases isHeld

theorem matches_start (cfg : ClientConfig) : (resting : Phase ι).Matches (start ι cfg) where
  life := ⟨rfl, StopReason.noConfusion⟩
  attempts := fun _ => rfl
  disconnects := rfl
  quiet := fun _ => ⟨rfl, rfl, List.forall_mem_nil _⟩
  threads := by
    intro t
    refine allows_passive rfl (.inl fun _ mem => ?_)
    cases t <;> cases mem

end Phase

namespace ClientConnection

variable {ι : Type} [DecidableEq ι]

/-- The published states follow each other, and `SwitchToStopState` is only entered and
executed in the state `kStopping`. -/
theorem reachable_state_moves {config : ClientConfig} {connection after : ClientConnection ι}
    {label : ConnectionStep ι}
    (reachable : ((system ι config).restrict InTurn).Reachable connection)
    (inTurn : connection.InTurn label) (taken : connection.step config label = some after) :
    connection.core.life.state.Moves after.core.life.state ∧
      ∀ thread frame, .switch frame ∈ connection.stack thread →
        connection.core.life.state = .stopping := by
  obtain ⟨phase, matched⟩ : ∃ phase : Phase ι, phase.Matches connection := by
    refine reachable.invariant (fun connection => ∃ phase : Phase ι, phase.Matches connection) ?_ ?_
    · rintro _ rfl
      exact ⟨_, Phase.matches_start config⟩
    · rintro before label after ⟨phase, matched⟩ ⟨inTurn, taken⟩
      exact (matched.step inTurn taken).1
  exact ⟨(matched.step inTurn taken).2, fun _ _ => matched.isStopping⟩

instance [Fintype ι] (connection : ClientConnection ι) : Decidable connection.NoRestart :=
  inferInstanceAs (Decidable (_ ∧ _))

instance [Fintype ι] (connection : ClientConnection ι) : Decidable connection.StopsInTurn :=
  inferInstanceAs (Decidable (_ ∧ _))

instance [Fintype ι] (connection : ClientConnection ι) (opens : OpenResult)
    (frame : Frame) : Decidable (connection.FrameInTurn opens frame) := by
  unfold FrameInTurn
  split <;> infer_instance

instance [Fintype ι] (connection : ClientConnection ι) (label : ConnectionStep ι) :
    Decidable (connection.InTurn label) := by
  unfold InTurn
  split <;> infer_instance

theorem stopping_connection_stops : ∃ connection after : ClientConnection Unit, ∃ label,
      ((system Unit .ordered).restrict InTurn).Reachable connection ∧
      connection.InTurn label ∧ connection.step .ordered label = some after ∧
      connection.core.life.state = .stopping ∧ after.core.life.state = .stopped ∧
      connection.core.life.state.Moves after.core.life.state := by
  obtain ⟨connection, reachable, inTurn, isStopping, after, taken, isStopped⟩ : ∃ connection,
      ((system Unit .ordered).restrict InTurn).Reachable connection ∧
      connection.InTurn (.run .callbackThread ⟨true, .opened⟩) ∧
      connection.core.life.state = .stopping ∧
      ∃ after, connection.step .ordered (.run .callbackThread ⟨true, .opened⟩) =
        some after ∧ after.core.life.state = .stopped := by
    refine TransitionSystem.exists_restricted (becomesReady () (.start ()) ++ becomesStopped () 3)
      ⟨_, rfl, ?_, rfl, _, rfl, rfl⟩
    rintro frame ⟨⟩
    trivial
  exact ⟨connection, after, _, reachable, inTurn, taken, isStopping, isStopped,
    (reachable_state_moves reachable inTurn taken).1⟩

/-- `Stop` is called and publishes `kStopping` after an attempt to connect has succeeded
and before it publishes `kReady`. -/
def stopsWhileConnecting : List (ConnectionStep Unit) :=
  .start () :: List.replicate 4 (.run (.user ()) ⟨true, .opened⟩) ++
    [.command, .run .callbackThread ⟨true, .opened⟩, .stop (.user ()),
      .run (.user ()) ⟨true, .opened⟩, .run .callbackThread ⟨true, .opened⟩]

theorem ready_published_while_stopping : (∃ connection after : ClientConnection Unit,
      (system Unit .ordered).Reachable connection ∧
      connection.step .ordered (.run .callbackThread ⟨true, .opened⟩) = some after ∧
      connection.core.life.state = .stopping ∧ after.core.life.state = .ready) ∧
    ∃ connection : ClientConnection Unit, (system Unit .ordered).Reachable connection ∧
      connection.callbackThread = [.switch .cleanUp] ∧
      connection.core.life.state = .ready := by
  constructor
  · refine Exists.imp (fun _ => exists_and_left.mpr) ?_
    exact TransitionSystem.exists_reachable stopsWhileConnecting ⟨_, rfl, _, rfl, rfl, rfl⟩
  · exact TransitionSystem.exists_reachable (stopsWhileConnecting ++
      [.run .callbackThread ⟨true, .opened⟩, .run .callbackThread ⟨true, .opened⟩,
        .run (.user ()) ⟨true, .opened⟩, .command])
      ⟨_, rfl, rfl, rfl⟩

end ClientConnection

end ScoreIntegration.MessagePassing
