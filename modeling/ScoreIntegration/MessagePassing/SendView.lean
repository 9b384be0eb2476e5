import Mathlib.Data.Fintype.Basic
import ScoreIntegration.MessagePassing.CallHistory

/-!
# The part of a connection that sends messages

What happens to messages and callbacks depends on the data under the mutex, the open
session, the commands of `ArmSendQueueUnderLock` and the callback thread.  In orderly
runs the steps of a connection are steps of this view.  Orderly runs exclude that
`SwitchToStopState` meets a call between two of its sections under the mutex, and
that a session is opened over another one.
-/

namespace ScoreIntegration.MessagePassing

open Concurrency LifeFrame List Option

/-! ## Orderly runs -/

/-- `SwitchToStopState` has cleaned up the commands and has not yet emptied the
queue. -/
def SwitchFrame.isStopping : SwitchFrame → Bool
  | .close => true
  | .take => true
  | .callback _ => true
  | .drain => true
  | .drainCallback _ => true
  | _ => false

/-- The next step of a call arms the queue, if its message is not rejected. -/
def CallFrame.mayArm (config : ClientConfig) (sends : Sends) : CallFrame → Bool
  | .send _ => config.trulyAsync && sends.waitingForReply.isNone
  | .withCallback _ => config.trulyAsync && sends.waitingForReply.isNone
  | .waitReplyWritten _ false => !sends.sendQueue.isEmpty
  | _ => false

/-- `SendWaitReply` is writing its request, or has failed to. -/
def CallFrame.isUnwritten : CallFrame → Bool
  | .waitReplyWrite _ => true
  | .waitReplyWritten _ false => true
  | _ => false

def Frame.isUnwritten : Frame → Bool
  | .call callFrame => callFrame.isUnwritten
  | _ => false

namespace ClientConnection

variable {ι : Type} [DecidableEq ι]

/-- The callback thread is between the clean-up of `SwitchToStopState` and its end. -/
def isStopping (connection : ClientConnection ι) : Bool :=
  match connection.callbackThread with
  | .switch frame :: _ => frame.isStopping
  | _ => false

/-- No call of `SendWaitReply` has a request that is not written yet. -/
def NoUnwritten (connection : ClientConnection ι) : Prop :=
  ∀ user, ∀ frame ∈ connection.users user, frame.isUnwritten = false

/-- What an orderly step of a frame needs: the queue is not armed while the connection
stops, the pending reply is not taken from a call that has not written its request,
and sessions follow each other. -/
def FrameInOrder (config : ClientConfig) (connection : ClientConnection ι)
    (thread : Thread ι) (opens : OpenResult) : Frame → Prop
  | .call call => call.mayArm config connection.core.sends = true → connection.isStopping = false
  | .switch .take => connection.NoUnwritten
  | .life .connect =>
    -- `SwitchToStopState` does not run on a user thread.
    (thread = .callbackThread ∨ opens = .opened ∨ opens = .retry) ∧
      (opens = .opened → connection.core.life.clientFd = none ∧ connection.isStopping = false)
  | _ => True

instance [Fintype ι] (connection : ClientConnection ι) : Decidable connection.NoUnwritten :=
  inferInstanceAs (Decidable (∀ user, ∀ frame ∈ connection.users user, frame.isUnwritten = false))

instance [Fintype ι] (config : ClientConfig) (connection : ClientConnection ι)
    (thread : Thread ι) (opens : OpenResult) (frame : Frame) :
    Decidable (connection.FrameInOrder config thread opens frame) := by
  cases frame with
  | switch fr | life fr => cases fr <;> dsimp only [FrameInOrder] <;> infer_instance
  | call _ | queue _ =>
    dsimp only [FrameInOrder]
    infer_instance

def Orderly (config : ClientConfig) (connection : ClientConnection ι) : ConnectionStep ι → Prop
  | .run thread answer => ∀ frame ∈ (connection.stack thread).head?,
      connection.FrameInOrder config thread answer.opens frame
  | _ => True

instance [Fintype ι] (config : ClientConfig) (connection : ClientConnection ι)
    (label : ConnectionStep ι) : Decidable (Orderly config connection label) :=
  match label with
  | .run .. => Option.decidableForallMem _
  | .call .. | .start .. | .restart .. | .stop .. | .command | .retry | .reply
  | .notify | .inputError .. => .isTrue trivial

end ClientConnection

/-! ## The view -/

/-- What the callback thread does with the messages. -/
inductive Activity where
  | idle
  | queue (frame : QueueFrame)
  | switch (frame : SwitchFrame)

namespace Activity

def isStopping : Activity → Bool
  | .switch frame => frame.isStopping
  | _ => false

def ofFrame : Frame → Activity
  | .queue frame => .queue frame
  | .switch frame => .switch frame
  | _ => .idle

def ofStack : List Frame → Activity
  | [] => .idle
  | top :: _ => ofFrame top

variable {frames : List Frame}

theorem ofStack_of_life (life : ∀ fr ∈ frames, fr.isLife = true) : ofStack frames = .idle := by
  cases frames with
  | nil => rfl
  | cons top rest =>
    have isLife := life top (by simp)
    cases top with
    | life _ => rfl
    | _ => cases isLife

theorem ofStack_append {next} (life : ∀ fr ∈ frames, fr.isLife = true) :
    ofStack (next ++ frames) = ofStack next := by
  cases next with
  | nil => exact ofStack_of_life life
  | cons top rest => rfl

end Activity

structure SendView where
  sends : Sends
  /-- The commands of `ArmSendQueueUnderLock`. -/
  asyncSends : Nat
  clientFd : Option Nat
  sessions : Nat
  activity : Activity

def SendView.current (view : SendView) : Nat := view.clientFd.getD view.sessions

/-- The kinds of steps of the view in orderly runs; `allows` is what else is known
about the calls that are executed. -/
inductive SendView.Step (config : ClientConfig) (allows : Sends → CallFrame → Prop)
    (view : SendView) : SendView → Prop
  | stutters : Step config allows view view
  | rejects (call : Call) (error : SendError) :
      Step config allows view { view with sends := view.sends.finish call (some error) }
  | calls {frame : CallFrame} {session : Option Nat} {step : CallStep} :
      frame.Recorded view.sends → allows view.sends frame →
      session = none ∨ session = view.clientFd →
      frame.Runs config view.current session view.sends step →
      (step.arms = true → view.activity.isStopping = false) →
      Step config allows view { view with
        sends := step.sends
        asyncSends := view.asyncSends + step.arms.toNat }
  | queues {frame : QueueFrame} {session : Option Nat} {step : QueueStep} :
      view.activity = .queue frame →
      session = none ∨ session = view.clientFd →
      frame.Runs session view.sends step →
      Step config allows view { view with
        sends := step.sends
        activity := (step.next.map Activity.queue).getD .idle }
  | cleansUp : view.activity = .switch .cleanUp →
      Step config allows view { view with asyncSends := 0, activity := .switch .close }
  | closes : view.activity = .switch .close →
      Step config allows view { view with clientFd := none, activity := .switch .take }
  | hasStopped : view.activity = .switch .stopped →
      Step config allows view { view with activity := .idle }
  | switches {frame next : SwitchFrame} {sends : Sends} : view.activity = .switch frame →
      frame.Runs view.sends sends next →
      (frame = .take → view.sends.writers = [] ∧ view.sends.failedWriters = []) →
      Step config allows view { view with sends, activity := .switch next }
  | processes {asyncSends : Nat} : view.activity = .idle → view.asyncSends = asyncSends + 1 →
      Step config allows view { view with asyncSends, activity := .queue .processQueue }
  | replies {request : Nat × Call} : view.activity = .idle → request ∈ view.sends.unanswered →
      view.clientFd = some request.1 →
      Step config allows view { view with
        sends := { view.sends with
          unanswered := view.sends.unanswered.erase request }
        activity := .queue (.inputReply request.2) }
  | stops : view.activity = .idle →
      Step config allows view { view with activity := .switch .cleanUp }
  | opens : view.clientFd = none → view.activity.isStopping = false →
      Step config allows view { view with
        clientFd := some view.sessions
        sessions := view.sessions + 1 }

variable {cfg : ClientConfig}

theorem SendView.Step.of_eq {allows : Sends → CallFrame → Prop} {v s'}
    (same : s' = v) : Step cfg allows v s' :=
  same ▸ .stutters

/-! ## User threads in orderly runs -/

theorem CallFrame.Runs.mayArm {cur : Nat} {session sends} {fr : CallFrame} {step : CallStep}
    (runs : fr.Runs cfg cur session sends step) (arms : step.arms = true) :
    fr.mayArm cfg sends = true := by
  cases runs with
  | queuesAndArms isAsync isCb wait _ =>
    cases fr with
    | send call | withCallback call => simp [CallFrame.mayArm, isAsync, wait]
    | _ => cases isCb
  | cancelsAndArms isQueue => simp [CallFrame.mayArm, isQueue]
  | _ => cases arms

/-- A user thread does not handle input and does not run `SwitchToStopState`. -/
def LifeFrame.onUserThread : LifeFrame → Bool
  | .inputStop _ => false
  | .inputStopping => false
  | .unregister => false
  | .connectFailed _ => false
  | .connectFailedStopping => false
  | _ => true

def Frame.isOrderly : Frame → Bool
  | .call _ => true
  | .queue _ => false
  | .life frame => frame.onUserThread
  | .switch _ => false

theorem LifeFrame.orderly_exec {opens : OpenResult} {fr : LifeFrame}
    (isOrderly : fr.onUserThread = true)
    (connects : fr = .connect → opens = .opened ∨ opens = .retry) (life : Life)
    (commands : List Command) (n : Nat) :
    ∀ next ∈ (fr.exec cfg false opens life commands n).frames, next.isOrderly = true := by
  cases fr with
  | connect => rcases connects rfl with rfl | rfl <;> simp [exec, Frame.isOrderly, onUserThread]
  | restartConnect =>
    simp only [exec]
    split <;> simp [Frame.isOrderly, onUserThread]
  | inputStop _ | inputStopping | unregister | connectFailed _ | connectFailedStopping =>
    cases isOrderly
  | _ => simp [exec, Frame.isOrderly, onUserThread]

/-- A frame of the life cycle opens a session, lets the callback thread stop the
connection, or does nothing that concerns messages. -/
theorem LifeFrame.exec_cases (cfg : ClientConfig) (onCallbackThread : Bool)
    (opens : OpenResult) (life : Life) (commands : List Command) (n : Nat)
    (fr : LifeFrame) :
    let step := fr.exec cfg onCallbackThread opens life commands n
    step.commands.count .asyncSend = commands.count .asyncSend ∧
      ((fr = .connect ∧ opens = .opened ∧ step.life.clientFd = some life.sessions ∧
          step.life.sessions = life.sessions + 1 ∧
          Activity.ofStack step.frames = .idle) ∨
        (step.life.clientFd = life.clientFd ∧ step.life.sessions = life.sessions ∧
          (Activity.ofStack step.frames = .idle ∨
            Activity.ofStack step.frames = .switch .cleanUp))) := by
  cases fr with
  | connect => cases opens <;> simp [exec, Activity.ofStack, Activity.ofFrame]
  | inputStop reason | connectFailed reason =>
    simp only [exec, Life.trySetStopReason]
    split <;> simp_all [Activity.ofStack, Activity.ofFrame]
    grind
  | _ =>
    simp only [exec]
    try split
    all_goals simp [Activity.ofStack, Activity.ofFrame]

namespace ClientConnection

variable {ι : Type} [DecidableEq ι] {cfg : ClientConfig} {conn : ClientConnection ι}
  {allows : Sends → CallFrame → Prop} {s' : ClientConnection ι} {label : ConnectionStep ι}
  {ans : EngineAnswer} {fr : Frame} {frames next : List Frame} {core : Core}

def view (connection : ClientConnection ι) : SendView where
  sends := connection.core.sends
  asyncSends := connection.core.commands.count .asyncSend
  clientFd := connection.core.life.clientFd
  sessions := connection.core.life.sessions
  activity := .ofStack connection.callbackThread

/-- What holds in all states of orderly runs, whatever was sent. -/
structure InOrder (connection : ClientConnection ι) : Prop where
  stacked : connection.WellStacked
  calls : connection.CallsRecorded
  users : ∀ user, ∀ frame ∈ connection.users user, frame.isOrderly = true

omit [DecidableEq ι] in
theorem start_inOrder (cfg : ClientConfig) : (start ι cfg).InOrder :=
  ⟨⟨trivial, fun _ => trivial⟩, start_callsRecorded cfg, fun _ _ isFrame => by
    cases isFrame⟩

theorem InOrder.step (inOrder : conn.InOrder) (ok : Orderly cfg conn label)
    (taken : conn.step cfg label = some s') : s'.InOrder := by
  obtain ⟨stacked, calls, users⟩ := inOrder
  refine ⟨stacked.step taken, calls.step stacked taken,
    users_step users (fun _ => rfl) rfl rfl ?_ taken⟩
  rintro i ans fr core next rfl isTop ran tl isNext
  have isOrderly := users i fr (mem_of_mem_head? isTop)
  cases fr with
  | call fr =>
    obtain ⟨step, _, isAfter⟩ := map_eq_some_iff.mp ran
    cases isAfter
    cases isStep : step.next with
    | none =>
      rw [isStep] at isNext
      cases isNext
    | some call =>
      rw [isStep] at isNext
      cases mem_singleton.mp isNext
      rfl
  | life fr =>
    have frameInOrder := ok (.life fr) isTop
    cases ran
    refine orderly_exec isOrderly ?_ _ _ _ tl isNext
    rintro rfl
    rcases frameInOrder.1 with contradiction | connects
    · cases contradiction
    · exact connects
  | _ => cases isOrderly

/-! ## The steps of the view -/

omit [DecidableEq ι] in
theorem noWriters (calls : conn.CallsRecorded) (noUnwritten : conn.NoUnwritten) :
    conn.core.sends.writers = [] ∧ conn.core.sends.failedWriters = [] := by
  constructor
  · refine eq_nil_iff_forall_not_mem.mpr fun call isWriter => ?_
    obtain ⟨user, runs⟩ := calls.writerRuns call isWriter
    cases noUnwritten user _ (by rw [runs]; exact mem_singleton_self _)
  · refine eq_nil_iff_forall_not_mem.mpr fun call isFailed => ?_
    obtain ⟨user, runs⟩ := calls.failedRuns call isFailed
    cases noUnwritten user _ (by rw [runs]; exact mem_singleton_self _)

omit [DecidableEq ι] in
theorem view_run_callbackThread (inOrder : conn.InOrder)
    (ok : Orderly cfg conn (.run .callbackThread ans))
    (isStack : conn.callbackThread = fr :: frames)
    (ran : conn.core.exec cfg true ans fr = some (core, next)) :
    SendView.Step cfg allows conn.view
      { conn with core, callbackThread := next ++ frames }.view := by
  have isStacked := inOrder.stacked.callbackThread
  rw [isStack] at isStacked
  obtain ⟨onCallbackThread, lifeBelow, _⟩ := isStacked
  have frameInOrder := ok fr (by rw [show conn.stack .callbackThread = _ from isStack]; rfl)
  have act : conn.view.activity = .ofFrame fr := by
    rw [view, isStack]
    rfl
  have isAfter : { conn with core, callbackThread := next ++ frames }.view =
      { sends := core.sends
        asyncSends := core.commands.count .asyncSend
        clientFd := core.life.clientFd
        sessions := core.life.sessions
        activity := .ofStack next } := by
    rw [view, Activity.ofStack_append lifeBelow]
  rw [isAfter]
  cases fr with
  | call fr => cases onCallbackThread
  | queue fr =>
    have runs := QueueFrame.runs_exec (conn.core.session ans) conn.core.sends fr
    cases ran
    have isNext : Activity.ofStack (if (fr.exec (conn.core.session ans)
            conn.core.sends).fails = true then [.life (.inputStop .ioError)]
          else ((fr.exec (conn.core.session ans) conn.core.sends).next.map Frame.queue).toList) =
        ((fr.exec (conn.core.session ans) conn.core.sends).next.map Activity.queue).getD .idle := by
      split
      next fails =>
        rw [runs.next_of_fails fails]
        rfl
      · cases (fr.exec (conn.core.session ans) conn.core.sends).next <;> rfl
    rw [isNext]
    exact .queues act (conn.core.session_cases ans) runs
  | life fr =>
    have isLife := exec_cases cfg true ans.opens conn.core.life
      conn.core.commands conn.core.retries fr
    cases ran
    obtain ⟨sameCount, ⟨isConnect, opens, isFd, isSessions, isIdle⟩ |
      ⟨sameFd, sameSessions, isIdle | isSwitch⟩⟩ := isLife
    · subst isConnect
      obtain ⟨noSession, notStopping⟩ := frameInOrder.2 opens
      simp only [sameCount, isFd, isSessions, isIdle]
      rw [← show conn.view.activity = .idle from act]
      exact .opens noSession (by rw [act]; rfl)
    · simp only [sameCount, sameFd, sameSessions, isIdle]
      rw [← show conn.view.activity = .idle from act]
      exact .stutters
    · simp only [sameCount, sameFd, sameSessions, isSwitch]
      exact .stops act
  | switch fr =>
    rcases Core.execSwitch_cases ran with
      ⟨rfl, rfl, rfl⟩ | ⟨rfl, rfl, rfl⟩ | ⟨rfl, rfl, rfl⟩ | ⟨sends, following, ranSends, rfl, rfl⟩
    · exact .cleansUp act
    · exact .closes act
    · exact .hasStopped act
    · refine .switches act (SwitchFrame.runs_of_execSends ranSends) fun isTake => ?_
      subst isTake
      exact noWriters inOrder.calls frameInOrder

omit [DecidableEq ι] in
theorem view_isStopping (conn : ClientConnection ι) :
    conn.view.activity.isStopping = conn.isStopping := by
  unfold view isStopping
  cases conn.callbackThread with
  | nil => rfl
  | cons top rest => cases top <;> rfl

theorem view_run_user {i : ι} (inOrder : conn.InOrder) (ok : Orderly cfg conn (.run (.user i) ans))
    (meets : ∀ call, fr = .call call → allows conn.core.sends call)
    (isStack : conn.users i = fr :: frames)
    (ran : conn.core.exec cfg false ans fr = some (core, next)) :
    SendView.Step cfg allows conn.view { conn with
        core
        users := Function.update conn.users i (next ++ frames) }.view := by
  have isOrderly := inOrder.users i fr (by rw [isStack]; simp)
  have frameInOrder := ok fr (by rw [show conn.stack (.user i) = _ from isStack]; rfl)
  cases fr with
  | life fr =>
    have isLife := exec_cases cfg false ans.opens conn.core.life
      conn.core.commands conn.core.retries fr
    cases ran
    obtain ⟨sameCount, ⟨isConnect, opens, isFd, isSessions, _⟩ |
      ⟨sameFd, sameSessions, _⟩⟩ := isLife
    · subst isConnect
      obtain ⟨noSession, notStopping⟩ := frameInOrder.2 opens
      simp only [view, sameCount, isFd, isSessions]
      exact .opens noSession ((view_isStopping conn).trans notStopping)
    · simp only [view, sameCount, sameFd, sameSessions]
      exact .stutters
  | call fr =>
    obtain ⟨step, stepped, isAfter⟩ := map_eq_some_iff.mp ran
    cases isAfter
    have runs := CallFrame.runs_of_exec stepped
    have isStacked := inOrder.stacked.users i
    rw [isStack] at isStacked
    have isOnly : conn.users i = [.call fr] := by
      rw [isStack, isStacked.2.2 rfl]
    have isCount : (if step.arms = true then conn.core.commands ++ [.asyncSend]
        else conn.core.commands).count .asyncSend =
        conn.core.commands.count .asyncSend + step.arms.toNat := by
      cases step.arms <;> simp
    simp only [view, isCount]
    refine .calls (inOrder.calls.recorded i fr isOnly) (meets fr rfl)
      (conn.core.session_cases ans) runs fun isArmed => ?_
    exact (view_isStopping conn).trans (frameInOrder (runs.mayArm isArmed))
  | _ => cases isOrderly

theorem InOrder.view_step (inOrder : conn.InOrder) (ok : Orderly cfg conn label)
    (meets : ∀ t ans, label = .run t ans →
      ∀ call, (conn.stack t).head? = some (.call call) → allows conn.core.sends call)
    (taken : conn.step cfg label = some s') :
    SendView.Step cfg allows conn.view s'.view := by
  have push : ∀ (life : Life) (t : Thread ι) (fr : LifeFrame),
      life.clientFd = conn.core.life.clientFd →
      life.sessions = conn.core.life.sessions → InCallback (conn.stack t) →
      SendView.Step cfg allows conn.view
        ({ conn with core := { conn.core with life } }.setStack t
          (.life fr :: conn.stack t)).view := by
    intro life t fr sameFd sameSessions inCallback
    cases t with
    | callbackThread =>
      have isIdle : Activity.ofStack conn.callbackThread = .idle := by
        cases isStack : conn.callbackThread with
        | nil => rfl
        | cons top rest =>
          obtain ⟨kind, rfl⟩ := inCallback top (by rw [stack, isStack]; rfl)
          rfl
      simp only [setStack, view, sameFd, sameSessions, isIdle]
      exact .stutters
    | user i =>
      simp only [setStack, view, sameFd, sameSessions]
      exact .stutters
  -- Input and commands are only handled by an idle callback thread.
  have idle : conn.callbackThread = [] → conn.view.activity = .idle := by
    intro isIdle
    rw [view, isIdle]
    rfl
  cases takes_of_step taken with
  | stays | begins _ => exact .stutters
  | rejects error => exact .rejects _ _
  | restarts _ inCallback => exact push conn.core.life _ _ rfl rfl inCallback
  | stops _ inCallback => exact push _ _ _ rfl rfl inCallback
  | @runs t ans fr frames next core isStack _ ran =>
    cases t with
    | callbackThread => exact view_run_callbackThread inOrder ok isStack ran
    | user i =>
      refine view_run_user inOrder ok (fun call isCall => ?_) isStack ran
      exact meets _ _ rfl call (by rw [isStack, isCall]; rfl)
  | @commands cmd commands isIdle isCommands =>
    have act := idle isIdle
    cases cmd with
    | asyncSend =>
      refine .processes act ?_
      simp [view, isCommands]
    | disconnect =>
      simp only [view, isCommands]
      exact .stops act
    | connect =>
      refine .of_eq ?_
      simp [view, isCommands, isIdle, commandFrames, Activity.ofStack, Activity.ofFrame]
    | register =>
      refine .of_eq ?_
      simp [view, isCommands, isIdle, commandFrames, Activity.ofStack]
  | retries isIdle _ =>
    refine .of_eq ?_
    simp [view, isIdle, Activity.ofStack, Activity.ofFrame]
  | replies hasInput isUnanswered isSession =>
    exact .replies (idle (idle_of_hasInput hasInput)) isUnanswered isSession
  | inputs hasInput _ =>
    refine .of_eq ?_
    simp [view, idle_of_hasInput hasInput, Activity.ofStack, Activity.ofFrame]

/-- What holds initially and is preserved by the steps of the view, given the history
of the calls, holds in all orderly runs. -/
theorem view_invariant {cfg}
    {ok : ClientConnection ι → ConnectionStep ι → Prop} {allows : Sends → CallFrame → Prop}
    (orderly : ∀ conn label, ok conn label → Orderly cfg conn label)
    (meets : ∀ conn t ans call, ok conn (.run t ans) → (conn.stack t).head? = some (.call call) →
      allows conn.core.sends call)
    (inv : SendView → Prop) (base : inv (start ι cfg).view)
    (preserved : ∀ calls v s', v.sends.History calls → inv v →
      SendView.Step cfg allows v s' → inv s')
    {conn} (reach : ((system ι cfg).restrict ok).Reachable conn) :
    conn.InOrder ∧ inv conn.view := by
  refine reach.invariant (fun conn => conn.InOrder ∧ inv conn.view) ?_ ?_
  · rintro _ rfl
    exact ⟨start_inOrder cfg, base⟩
  · rintro pre label s' ⟨inOrder, holds⟩ ⟨isAllowed, taken⟩
    have isOrderly := orderly pre label isAllowed
    refine ⟨inOrder.step isOrderly taken, preserved _ _ _ inOrder.calls.history holds
        (inOrder.view_step isOrderly ?_ taken)⟩
    rintro t ans rfl call isCall
    exact meets pre t ans call isAllowed isCall

end ClientConnection

end ScoreIntegration.MessagePassing
