import Mathlib.Logic.Function.Basic
import ScoreIntegration.Concurrency.Transitions
import ScoreIntegration.MessagePassing.SendQueue

/-!
# A client connection

User threads call the functions of a connection; the callback thread of the engine
executes its commands and handles its input.  Each thread has a stack of frames that
say what it does next.  The reply callbacks of the user only call `Send` and
`SendWithCallback`, as any user thread may, so they have no frames of their own.
-/

namespace ScoreIntegration.MessagePassing

open Concurrency Option

inductive ConnectionState where
  | starting
  | ready
  | stopping
  | stopped
  deriving DecidableEq, Repr

inductive StopReason where
  | none
  | init
  | userRequested
  | permission
  | closedByPeer
  | ioError
  deriving DecidableEq, Repr

/-- What the connection shares without the mutex.  A session stands for the file
descriptor of one successful attempt to connect; `disconnect` says whether the
endpoint has a disconnect callback. -/
structure Life where
  state : ConnectionState
  stopReason : StopReason
  clientFd : Option Nat
  sessions : Nat
  polled : Bool
  disconnect : Bool
  deriving DecidableEq, Repr

/-- The session that is open or opens next. -/
def Life.current (life : Life) : Nat := life.clientFd.getD life.sessions

inductive Command where
  | connect
  | register
  | disconnect
  | asyncSend
  deriving DecidableEq, Repr

/-- The data of a connection; `retries` counts the timed attempts to connect. -/
structure Core where
  life : Life
  sends : Sends
  commands : List Command
  retries : Nat
  deriving DecidableEq, Repr

/-- The callbacks of the user that may stop or restart the connection. -/
inductive CallbackKind where
  | notify
  | starting
  | ready
  | stopped
  deriving DecidableEq, Repr

inductive LifeFrame where
  /-- Code of the user. -/
  | callback (kind : CallbackKind)
  /-- The input callback of the endpoint has to stop the connection. -/
  | inputStop (reason : StopReason)
  | inputStopping
  | unregister
  /-- `DoRestart`. -/
  | restart
  | restartStarting
  | restartConnect
  /-- `TryConnect`. -/
  | connect
  | connectFailed (reason : StopReason)
  | connectFailedStopping
  | connectRetry
  | connectRegister
  | connectReady
  /-- `Stop`, after it has set the reason. -/
  | stopStopping
  | stopSwitch
  deriving DecidableEq, Repr

inductive Frame where
  | call (frame : CallFrame)
  | queue (frame : QueueFrame)
  | life (frame : LifeFrame)
  | switch (frame : SwitchFrame)
  deriving DecidableEq, Repr

/-- What the attempt to open a connection yields. -/
inductive OpenResult where
  | opened
  /-- `EAGAIN`, `ECONNREFUSED` or `ENOENT`. -/
  | retry
  | permission
  | ioError
  deriving DecidableEq, Repr

/-- What the engine answers to a step: whether it takes a protocol message, and the
result of an attempt to connect. -/
structure EngineAnswer where
  takes : Bool
  opens : OpenResult
  deriving DecidableEq, Repr

def Life.trySetStopReason (life : Life) (reason : StopReason) : Option Life :=
  if life.stopReason = .none then some { life with stopReason := reason } else none

namespace LifeFrame

/-- The effect of one step: the data afterwards and the frames in place of the
executed one. -/
structure Step where
  life : Life
  commands : List Command
  retries : Nat
  frames : List Frame

def exec (config : ClientConfig) (onCallbackThread : Bool) (opens : OpenResult)
    (life : Life) (commands : List Command) (retries : Nat) : LifeFrame → Step
  | .callback _ => ⟨life, commands, retries, []⟩
  | .inputStop reason =>
    match life.trySetStopReason reason with
    | none => ⟨life, commands, retries, []⟩
    | some life => ⟨life, commands, retries, [.life .inputStopping]⟩
  | .inputStopping => ⟨{ life with state := .stopping }, commands, retries, [.life .unregister]⟩
  | .unregister =>
    ⟨{ life with polled := false }, commands, retries,
      if life.disconnect then [.switch .cleanUp] else []⟩
  | .restart => ⟨{ life with stopReason := .none }, commands, retries, [.life .restartStarting]⟩
  | .restartStarting =>
    ⟨{ life with state := .starting }, commands, retries,
      [.life (.callback .starting), .life .restartConnect]⟩
  | .restartConnect =>
    if config.syncFirstConnect then ⟨life, commands, retries, [.life .connect]⟩
    else ⟨life, commands ++ [.connect], retries, []⟩
  | .connect =>
    match opens with
    | .opened =>
      ⟨{ life with
        clientFd := some life.sessions
        sessions := life.sessions + 1
        disconnect := true }, commands, retries, [.life .connectRegister]⟩
    | .retry => ⟨life, commands, retries, [.life .connectRetry]⟩
    | .permission => ⟨life, commands, retries, [.life (.connectFailed .permission)]⟩
    | .ioError => ⟨life, commands, retries, [.life (.connectFailed .ioError)]⟩
  | .connectFailed reason =>
    match life.trySetStopReason reason with
    | none => ⟨life, commands, retries, []⟩
    | some life => ⟨life, commands, retries, [.life .connectFailedStopping]⟩
  | .connectFailedStopping =>
    ⟨{ life with state := .stopping }, commands, retries, [.switch .cleanUp]⟩
  | .connectRetry => ⟨life, commands, retries + 1, []⟩
  | .connectRegister =>
    if onCallbackThread then
      ⟨{ life with polled := true }, commands, retries, [.life .connectReady]⟩
    else ⟨life, commands ++ [.register], retries, [.life .connectReady]⟩
  | .connectReady => ⟨{ life with state := .ready }, commands, retries, [.life (.callback .ready)]⟩
  | .stopStopping => ⟨{ life with state := .stopping }, commands, retries, [.life .stopSwitch]⟩
  | .stopSwitch =>
    if onCallbackThread then ⟨life, commands, retries, [.switch .cleanUp]⟩
    else ⟨life, commands ++ [.disconnect], retries, []⟩

end LifeFrame

namespace Core

def session (core : Core) (answer : EngineAnswer) : Option Nat :=
  if answer.takes then core.life.clientFd else none

def execSwitch (core : Core) : SwitchFrame → Option (Core × List Frame)
  | .cleanUp =>
    some ({ core with
      life := { core.life with polled := false, disconnect := false }
      commands := []
      retries := 0 }, [.switch .close])
  | .close => some ({ core with life := { core.life with clientFd := none } }, [.switch .take])
  | .stopped =>
    some ({ core with life := { core.life with state := .stopped } }, [.life (.callback .stopped)])
  | frame =>
    (frame.execSends core.sends).map fun (sends, next) => ({ core with sends }, [.switch next])

def exec (config : ClientConfig) (onCallbackThread : Bool) (answer : EngineAnswer)
    (core : Core) : Frame → Option (Core × List Frame)
  | .call frame =>
    (frame.exec config core.life.current (core.session answer) core.sends).map fun step =>
      ({ core with
        sends := step.sends
        commands := if step.arms then core.commands ++ [.asyncSend]
          else core.commands }, (step.next.map Frame.call).toList)
  | .queue frame =>
    let step := frame.exec (core.session answer) core.sends
    some ({ core with sends := step.sends }, if step.fails then [.life (.inputStop .ioError)]
      else (step.next.map Frame.queue).toList)
  | .life frame =>
    let step := frame.exec config onCallbackThread answer.opens core.life core.commands core.retries
    some ({ core with
      life := step.life
      commands := step.commands
      retries := step.retries }, step.frames)
  | .switch frame => core.execSwitch frame

end Core

inductive Thread (ι : Type) where
  | callbackThread
  | user (index : ι)
  deriving DecidableEq

/-- A connection with the stacks of its threads; the next frame is the first one.
`calls` counts the calls of the send functions. -/
structure ClientConnection (ι : Type) where
  core : Core
  callbackThread : List Frame
  users : ι → List Frame
  calls : Nat

inductive ConnectionStep (ι : Type) where
  | call (user : ι) (kind : CallKind) (tooLarge : Bool)
  | start (user : ι)
  | restart (thread : Thread ι)
  | stop (thread : Thread ι)
  | run (thread : Thread ι) (answer : EngineAnswer)
  /-- The callback thread executes the next command. -/
  | command
  /-- The time of an attempt to connect has come. -/
  | retry
  | reply
  | notify
  | inputError (closed : Bool)

namespace ClientConnection

variable {ι : Type} [DecidableEq ι]

def start (ι : Type) (config : ClientConfig) : ClientConnection ι where
  core := {
    life := ⟨.stopped, .init, none, 0, false, false⟩
    sends := .start config
    commands := []
    retries := 0 }
  callbackThread := []
  users := fun _ => []
  calls := 0

def stack (connection : ClientConnection ι) : Thread ι → List Frame
  | .callbackThread => connection.callbackThread
  | .user index => connection.users index

def setStack (connection : ClientConnection ι) (thread : Thread ι)
    (frames : List Frame) : ClientConnection ι :=
  match thread with
  | .callbackThread => { connection with callbackThread := frames }
  | .user index => { connection with users := Function.update connection.users index frames }

section

variable (config : ClientConfig)

/-- The first frame of a send function, if its checks before the mutex pass. -/
def callFrame (call : Call) : CallFrame :=
  match call.kind with
  | .send =>
    if config.fullyOrdered || config.trulyAsync then .send call
    else .sendUnordered call
  | .waitReply => .waitReply call
  | .withCallback => .withCallback call

def beginCall (connection : ClientConnection ι) (user : ι)
    (kind : CallKind) (tooLarge : Bool) : Option (ClientConnection ι) :=
  if connection.users user = [] then
    let call : Call := ⟨connection.calls, kind⟩
    let counted := { connection with calls := connection.calls + 1 }
    let returned (error : SendError) : ClientConnection ι :=
      { counted with core := { connection.core with
          sends := connection.core.sends.finish call (some error) } }
    if tooLarge then some (returned .emsgsize)
    else if connection.core.life.state = .ready then
      some (counted.setStack (.user user) [.call (callFrame config call)])
    else some (returned .einval)
  else none

/-- `Stop` is called by user threads, and in some callbacks. -/
def mayStop : Thread ι → List Frame → Bool
  | .user _, [] => true
  | _, .life (.callback .notify) :: _ => true
  | _, .life (.callback .starting) :: _ => true
  | _, .life (.callback .ready) :: _ => true
  | _, _ => false

def mayRestart : Thread ι → List Frame → Bool
  | .user _, [] => true
  | _, .life (.callback .stopped) :: _ => true
  | _, _ => false

def stop (connection : ClientConnection ι) (thread : Thread ι) : Option (ClientConnection ι) :=
  if mayStop thread (connection.stack thread) then
    match connection.core.life.trySetStopReason .userRequested with
    | none => some connection
    | some life =>
      some ({ connection with core := { connection.core with life } }.setStack thread
        (.life .stopStopping :: connection.stack thread))
  else none

def restart (connection : ClientConnection ι) (thread : Thread ι) : Option (ClientConnection ι) :=
  if mayRestart thread (connection.stack thread) then
    if connection.core.life.state = .stopped then
      some (connection.setStack thread (.life .restart :: connection.stack thread))
    else some connection
  else none

variable (connection : ClientConnection ι)

/-- On a user thread `CleanUpOwner` waits until the callback thread has done the work,
between two of its commands. -/
def mayRun : Thread ι → Frame → Bool
  | .user _, .switch .cleanUp => connection.callbackThread = []
  | _, _ => true

def run (thread : Thread ι) (answer : EngineAnswer) : Option (ClientConnection ι) :=
  match connection.stack thread with
  | [] => none
  | frame :: frames =>
    if mayRun connection thread frame then
      match connection.core.exec config (thread = .callbackThread) answer frame with
      | none => none
      | some (core, next) => some ({ connection with core }.setStack thread (next ++ frames))
    else none

def commandFrames : Command → List Frame
  | .connect => [.life .connect]
  | .register => []
  | .disconnect => [.switch .cleanUp]
  | .asyncSend => [.queue .processQueue]

def executeCommand : Option (ClientConnection ι) :=
  match connection.callbackThread, connection.core.commands with
  | [], command :: commands =>
    some { connection with
      core := { connection.core with
        commands
        life := match command with
          | .register => { connection.core.life with polled := true }
          | _ => connection.core.life }
      callbackThread := commandFrames command }
  | _, _ => none

/-- Timed commands come after all immediate ones. -/
def executeRetry : Option (ClientConnection ι) :=
  match connection.callbackThread, connection.core.commands, connection.core.retries with
  | [], [], retries + 1 =>
    some { connection with
      core := { connection.core with retries }
      callbackThread := [.life .connect] }
  | _, _, _ => none

/-- The endpoint has input: the callback thread is free and polls it. -/
def hasInput : Bool := connection.callbackThread = [] && connection.core.life.polled

/-- The server answers the requests of a session in their order. -/
def receiveReply : Option (ClientConnection ι) :=
  if connection.hasInput then
    match connection.core.sends.unanswered.find?
        (fun request => connection.core.life.clientFd = some request.1) with
    | none => none
    | some request =>
      some { connection with
        core := { connection.core with
          sends := { connection.core.sends with
            unanswered := connection.core.sends.unanswered.erase request } }
        callbackThread := [.queue (.inputReply request.2)] }
  else none

def input (frame : LifeFrame) : Option (ClientConnection ι) :=
  if connection.hasInput then
    some { connection with callbackThread := [.life frame] }
  else none

def step : ConnectionStep ι → Option (ClientConnection ι)
  | .call user kind tooLarge => connection.beginCall config user kind tooLarge
  | .start user =>
    if connection.users user = [] then
      some (connection.setStack (.user user) [.life .restart])
    else none
  | .restart thread => connection.restart thread
  | .stop thread => connection.stop thread
  | .run thread answer => connection.run config thread answer
  | .command => connection.executeCommand
  | .retry => connection.executeRetry
  | .reply => connection.receiveReply
  | .notify => connection.input (.callback .notify)
  | .inputError closed => connection.input (.inputStop (if closed then .closedByPeer else .ioError))

end

variable (ι) in
def system (config : ClientConfig) : TransitionSystem (ClientConnection ι) (ConnectionStep ι) :=
  .ofStep (start ι config) (step config)

/-- The steps in which a user thread starts or restarts the connection and the
callback thread connects it. -/
def becomesReady (user : ι) (begins : ConnectionStep ι) : List (ConnectionStep ι) :=
  begins :: List.replicate 4 (.run (.user user) ⟨true, .opened⟩) ++
    .command :: List.replicate 4 (.run .callbackThread ⟨true, .opened⟩)

/-- The steps in which a user thread stops the connection; the callback thread takes
`steps` steps until the connection has stopped. -/
def becomesStopped (user : ι) (steps : Nat) : List (ConnectionStep ι) :=
  .stop (.user user) :: List.replicate 2 (.run (.user user) ⟨true, .opened⟩) ++
    .command :: List.replicate steps (.run .callbackThread ⟨true, .opened⟩)

/-- A call whose first step under the mutex follows at once. -/
def callsAndRuns (user : ι) (kind : CallKind) : List (ConnectionStep ι) :=
  [.call user kind false, .run (.user user) ⟨true, .opened⟩]

/-! ## What the steps do -/

/-- The user is in a callback of the connection or in none of its functions. -/
def InCallback (stack : List Frame) : Prop :=
  ∀ top ∈ stack.head?, ∃ kind, top = .life (.callback kind)

inductive Takes (config : ClientConfig) (connection : ClientConnection ι) :
    ConnectionStep ι → ClientConnection ι → Prop
  | stays {label : ConnectionStep ι} : Takes config connection label connection
  | rejects {user : ι} {kind : CallKind} {tooLarge : Bool} (error : SendError) :
    Takes config connection (.call user kind tooLarge) { connection with
      core := { connection.core with
        sends := connection.core.sends.finish ⟨connection.calls, kind⟩ (some error) }
      calls := connection.calls + 1 }
  | begins {user : ι} {kind : CallKind} {tooLarge : Bool} : connection.users user = [] →
    Takes config connection (.call user kind tooLarge) { connection with
      users := Function.update connection.users user
        [.call (callFrame config ⟨connection.calls, kind⟩)]
      calls := connection.calls + 1 }
  | restarts {label : ConnectionStep ι} {thread : Thread ι} :
    label = .restart thread ∧ connection.core.life.state = .stopped ∨
      (∃ user, label = .start user) → InCallback (connection.stack thread) →
    Takes config connection label
      (connection.setStack thread (.life .restart :: connection.stack thread))
  | stops {thread : Thread ι} : connection.core.life.stopReason = .none →
    InCallback (connection.stack thread) →
    Takes config connection (.stop thread) ({ connection with
      core := { connection.core with
        life := { connection.core.life with stopReason := .userRequested } } }.setStack thread
      (.life .stopStopping :: connection.stack thread))
  | runs {thread : Thread ι} {answer : EngineAnswer} {frame : Frame} {frames next : List Frame}
      {core : Core} : connection.stack thread = frame :: frames →
    mayRun connection thread frame = true →
    connection.core.exec config (thread = .callbackThread) answer frame = some (core, next) →
    Takes config connection (.run thread answer)
      ({ connection with core }.setStack thread (next ++ frames))
  | commands {command : Command} {commands : List Command} : connection.callbackThread = [] →
    connection.core.commands = command :: commands →
    Takes config connection .command { connection with
      core := { connection.core with
        commands
        life := match command with
          | .register => { connection.core.life with polled := true }
          | _ => connection.core.life }
      callbackThread := commandFrames command }
  | retries {retries : Nat} : connection.callbackThread = [] →
    connection.core.retries = retries + 1 →
    Takes config connection .retry { connection with
      core := { connection.core with retries }
      callbackThread := [.life .connect] }
  | replies {request : Nat × Call} : connection.hasInput = true →
    request ∈ connection.core.sends.unanswered →
    connection.core.life.clientFd = some request.1 →
    Takes config connection .reply { connection with
      core := { connection.core with
        sends := { connection.core.sends with
          unanswered := connection.core.sends.unanswered.erase request } }
      callbackThread := [.queue (.inputReply request.2)] }
  | inputs {label : ConnectionStep ι} {frame : LifeFrame} : connection.hasInput = true →
    frame = .callback .notify ∨ (∃ reason, frame = .inputStop reason ∧ reason ≠ .none) →
    Takes config connection label { connection with callbackThread := [.life frame] }

variable {conn s' : ClientConnection ι} {cfg : ClientConfig} {t : Thread ι}
  {stack : List Frame} {label : ConnectionStep ι}

omit [DecidableEq ι] in
theorem idle_of_hasInput (hasInput : conn.hasInput = true) : conn.callbackThread = [] :=
  of_decide_eq_true (Bool.and_eq_true_iff.mp hasInput).1

omit [DecidableEq ι] in
theorem inCallback_of_may (may : mayStop t stack = true ∨ mayRestart t stack = true) :
    InCallback stack := by
  cases stack with
  | nil => exact fun _ isTop => nomatch isTop
  | cons fr rest =>
    rintro _ ⟨⟩
    cases fr with
    | life fr =>
      cases fr with
      | callback kind => exact ⟨kind, rfl⟩
      | _ => cases t <;> rcases may with may | may <;> cases may
    | _ => cases t <;> rcases may with may | may <;> cases may

theorem takes_beginCall {user kind tooLarge}
    (taken : conn.beginCall cfg user kind tooLarge = some s') :
    Takes cfg conn (.call user kind tooLarge) s' := by
  obtain ⟨isIdle, taken⟩ := ite_none_right_eq_some.mp taken
  dsimp only at taken
  split at taken
  · cases taken
    exact .rejects _
  · split at taken
    · cases taken
      exact .begins isIdle
    · cases taken
      exact .rejects _

theorem takes_run {ans} (taken : conn.run cfg t ans = some s') :
    Takes cfg conn (.run t ans) s' := by
  unfold run at taken
  split at taken
  · cases taken
  next fr frames isStack =>
    obtain ⟨may, taken⟩ := ite_none_right_eq_some.mp taken
    split at taken
    · cases taken
    next core next ran =>
      cases taken
      exact .runs isStack may ran

theorem takes_of_step (taken : conn.step cfg label = some s') : Takes cfg conn label s' := by
  cases label with
  | call user kind tooLarge => exact takes_beginCall taken
  | start user =>
    obtain ⟨isIdle, taken⟩ := ite_none_right_eq_some.mp taken
    cases taken
    have isStack : conn.stack (.user user) = [] := isIdle
    have pushed : Takes cfg conn (.start user) (conn.setStack (.user user)
        (.life .restart :: conn.stack (.user user))) :=
      .restarts (.inr ⟨user, rfl⟩) (by rw [isStack]; nofun)
    rwa [isStack] at pushed
  | restart t =>
    obtain ⟨may, taken⟩ := ite_none_right_eq_some.mp taken
    split at taken
    next isStopped =>
      cases taken
      exact .restarts (.inl ⟨rfl, isStopped⟩) (inCallback_of_may (.inr may))
    · cases taken
      exact .stays
  | stop t =>
    obtain ⟨may, taken⟩ := ite_none_right_eq_some.mp taken
    unfold Life.trySetStopReason at taken
    by_cases isNone : conn.core.life.stopReason = .none
    · rw [if_pos isNone] at taken
      cases taken
      exact .stops isNone (inCallback_of_may (.inl may))
    · rw [if_neg isNone] at taken
      cases taken
      exact .stays
  | run t ans => exact takes_run taken
  | command =>
    simp only [step, executeCommand] at taken
    split at taken
    next isIdle isCmd =>
      cases taken
      exact .commands isIdle isCmd
    · cases taken
  | retry =>
    simp only [step, executeRetry] at taken
    split at taken
    next isIdle _ isRetry =>
      cases taken
      exact .retries isIdle isRetry
    · cases taken
  | reply =>
    obtain ⟨hasInput, taken⟩ := ite_none_right_eq_some.mp taken
    split at taken
    · cases taken
    next req found =>
      cases taken
      have ofS := List.find?_some found
      exact .replies hasInput (List.mem_of_find?_eq_some found) (of_decide_eq_true ofS)
  | notify =>
    obtain ⟨hasInput, taken⟩ := ite_none_right_eq_some.mp taken
    cases taken
    exact .inputs hasInput (.inl rfl)
  | inputError closed =>
    obtain ⟨hasInput, taken⟩ := ite_none_right_eq_some.mp taken
    cases taken
    exact .inputs hasInput (.inr ⟨_, rfl, by cases closed <;> exact nofun⟩)

end ClientConnection

theorem Core.session_cases (core : Core) (ans : EngineAnswer) :
    core.session ans = none ∨ core.session ans = core.life.clientFd := by
  unfold Core.session
  split
  · exact .inr rfl
  · exact .inl rfl

theorem Core.execSwitch_cases {core s' : Core} {fr : SwitchFrame} {next : List Frame}
    (ran : core.execSwitch fr = some (s', next)) :
    (fr = .cleanUp ∧ next = [.switch .close] ∧ s' = { core with
        life := { core.life with polled := false, disconnect := false }
        commands := []
        retries := 0 }) ∨
    (fr = .close ∧ next = [.switch .take] ∧
      s' = { core with life := { core.life with clientFd := none } }) ∨
    (fr = .stopped ∧ next = [.life (.callback .stopped)] ∧
      s' = { core with life := { core.life with state := .stopped } }) ∨
    ∃ sends tl, fr.execSends core.sends = some (sends, tl) ∧
      next = [.switch tl] ∧ s' = { core with sends } := by
  have ofSends : (fr.execSends core.sends).map
        (fun res => ({ core with sends := res.1 }, [Frame.switch res.2])) = some (s', next) →
      ∃ sends tl, fr.execSends core.sends = some (sends, tl) ∧
        next = [.switch tl] ∧ s' = { core with sends } := by
    intro mapped
    obtain ⟨⟨sends, tl⟩, ranSends, isAfter⟩ := map_eq_some_iff.mp mapped
    cases isAfter
    exact ⟨sends, tl, ranSends, rfl, rfl⟩
  cases fr with
  | cleanUp =>
    cases ran
    exact .inl ⟨rfl, rfl, rfl⟩
  | close =>
    cases ran
    exact .inr (.inl ⟨rfl, rfl, rfl⟩)
  | stopped =>
    cases ran
    exact .inr (.inr (.inl ⟨rfl, rfl, rfl⟩))
  | _ => exact .inr (.inr (.inr (ofSends ran)))

end ScoreIntegration.MessagePassing
