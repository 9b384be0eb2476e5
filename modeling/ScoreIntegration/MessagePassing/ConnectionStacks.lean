import ScoreIntegration.MessagePassing.ClientConnection

/-!
# The stacks of a connection

Send functions run on user threads and the queue is processed on the callback thread, each
as the only frame of its stack.  Below the top of a stack there are only frames of the life
cycle.
-/

namespace ScoreIntegration.MessagePassing

open Concurrency Function List

def Frame.isLife : Frame → Bool
  | .life _ => true
  | _ => false

def Frame.call? : Frame → Option CallFrame
  | .call frame => some frame
  | _ => none

/-- A send function or the processing of the queue. -/
def Frame.isAlone : Frame → Bool
  | .call _ => true
  | .queue _ => true
  | _ => false

def Frame.onCallbackThread : Frame → Bool
  | .call _ => false
  | _ => true

def Frame.onUserThread : Frame → Bool
  | .queue _ => false
  | _ => true

/-- The form of a stack; `allowed` says which frames its thread may execute. -/
def Stacked (allowed : Frame → Bool) : List Frame → Prop
  | [] => True
  | top :: rest =>
    allowed top = true ∧ (∀ frame ∈ rest, frame.isLife = true) ∧ (top.isAlone = true → rest = [])

variable {ok : Frame → Bool} {fr : Frame} {cfg : ClientConfig} {ans : EngineAnswer} {core s' : Core}

theorem Stacked.single (isAllowed : ok fr = true) : Stacked ok [fr] :=
  ⟨isAllowed, by simp, fun _ => rfl⟩

theorem Stacked.push {stack fr} (isAllowed : ok (.life fr) = true) (stacked : Stacked ok stack)
    (inCallback : ClientConnection.InCallback stack) : Stacked ok (.life fr :: stack) := by
  refine ⟨isAllowed, ?_, nofun⟩
  cases stack with
  | nil => simp
  | cons top rest =>
    intro below isBelow
    rcases mem_cons.mp isBelow with rfl | isBelow
    · obtain ⟨kind, rfl⟩ := inCallback below rfl
      rfl
    · exact stacked.2.1 below isBelow

theorem Core.exec_next_of_not_alone {onCallbackThread top rest} (notAlone : fr.isAlone = false)
    (ran : core.exec cfg onCallbackThread ans fr = some (s', top :: rest)) :
    top.isAlone = false ∧ ∀ fr ∈ rest, fr.isLife = true := by
  cases fr with
  | switch fr =>
    rcases Core.execSwitch_cases ran with
      ⟨_, isNext, _⟩ | ⟨_, isNext, _⟩ | ⟨_, isNext, _⟩ | ⟨_, _, _, isNext, _⟩
    all_goals
      cases isNext
      exact ⟨rfl, by simp⟩
  | life fr =>
    have isNext : (fr.exec cfg onCallbackThread ans.opens core.life
        core.commands core.retries).frames = top :: rest :=
      congrArg Prod.snd (Option.some.inj ran)
    have good : (fr.exec cfg onCallbackThread ans.opens core.life
          core.commands core.retries).frames.all (fun next => !next.isAlone) = true ∧
        (fr.exec cfg onCallbackThread ans.opens core.life
          core.commands core.retries).frames.tail.all Frame.isLife = true := by
      cases fr with
      | connect => cases ans.opens <;> exact ⟨rfl, rfl⟩
      | _ =>
        simp only [LifeFrame.exec]
        try split
        all_goals exact ⟨rfl, rfl⟩
    rw [isNext] at good
    simp only [all_cons, Bool.and_eq_true, Bool.not_eq_true', tail_cons, all_eq_true] at good
    exact ⟨good.1.1, good.2⟩
  | _ => cases notAlone

theorem Stacked.exec {onCallbackThread frames next}
    (allowsManaging : ∀ fr, fr.isAlone = false → ok fr = true)
    (allowsCall : ∀ fr tl, ok (.call fr) = ok (.call tl))
    (allowsQueue : ∀ fr tl, ok (.queue fr) = ok (.queue tl))
    (stacked : Stacked ok (fr :: frames))
    (ran : core.exec cfg onCallbackThread ans fr = some (s', next)) :
    Stacked ok (next ++ frames) := by
  obtain ⟨isAllowed, lifeBelow, isOnly⟩ := stacked
  have belowAlone : ∀ below ∈ frames, below.isAlone = false := by
    intro below isBelow
    have isLife := lifeBelow below isBelow
    cases below with
    | life _ => rfl
    | _ => cases isLife
  cases isAlone : fr.isAlone with
  | false =>
    cases next with
    | nil =>
      cases frames with
      | nil => trivial
      | cons first rest =>
        refine ⟨allowsManaging first (belowAlone first (by simp)),
          fun below isBelow => lifeBelow below (by simp [isBelow]), ?_⟩
        rw [belowAlone first (by simp)]
        nofun
    | cons top rest =>
      obtain ⟨topNotAlone, restLife⟩ := Core.exec_next_of_not_alone isAlone ran
      refine ⟨allowsManaging top topNotAlone, ?_, ?_⟩
      · intro below isBelow
        rcases mem_append.mp isBelow with isBelow | isBelow
        · exact restLife below isBelow
        · exact lifeBelow below isBelow
      · rw [topNotAlone]
        nofun
  | true =>
    rw [isOnly isAlone, append_nil]
    cases fr with
    | call fr =>
      obtain ⟨step, _, isAfter⟩ := Option.map_eq_some_iff.mp ran
      cases isAfter
      cases step.next with
      | none => trivial
      | some tl => exact .single ((allowsCall tl fr).trans isAllowed)
    | queue fr =>
      cases ran
      split
      · exact .single (allowsManaging _ rfl)
      · cases (fr.exec (core.session ans) core.sends).next with
        | none => trivial
        | some tl => exact .single ((allowsQueue tl fr).trans isAllowed)
    | _ => cases isAlone

namespace ClientConnection

variable {ι : Type} [DecidableEq ι] {conn : ClientConnection ι} {core : Core} {user : ι}
  {frames rest : List Frame} {t : Thread ι} {top : Frame} {cfg : ClientConfig}
  {s' : ClientConnection ι} {label : ConnectionStep ι} {holds : Frame → Prop}

structure WellStacked (connection : ClientConnection ι) : Prop where
  callbackThread : Stacked Frame.onCallbackThread connection.callbackThread
  users : ∀ user, Stacked Frame.onUserThread (connection.users user)

theorem WellStacked.setUser (stacked : conn.WellStacked) {calls}
    (isStacked : Stacked Frame.onUserThread frames) :
    WellStacked { conn with
      core
      users := update conn.users user frames
      calls } := by
  refine ⟨stacked.callbackThread, fun o => ?_⟩
  change Stacked _ (update conn.users user frames o)
  by_cases same : o = user
  · rw [same, update_self]
    exact isStacked
  · rw [update_of_ne same]
    exact stacked.users o

theorem WellStacked.push (stacked : conn.WellStacked) {fr}
    (inCallback : InCallback (conn.stack t)) :
    WellStacked ({ conn with core }.setStack t (.life fr :: conn.stack t)) := by
  cases t with
  | callbackThread => exact ⟨Stacked.push rfl stacked.callbackThread inCallback, stacked.users⟩
  | user i => exact stacked.setUser (Stacked.push rfl (stacked.users i) inCallback)

theorem WellStacked.step (stacked : conn.WellStacked)
    (taken : conn.step cfg label = some s') : s'.WellStacked := by
  cases takes_of_step taken with
  | stays => exact stacked
  | rejects error => exact ⟨stacked.callbackThread, stacked.users⟩
  | begins _ => exact stacked.setUser (.single rfl)
  | restarts _ inCallback | stops _ inCallback => exact stacked.push inCallback
  | @runs t _ _ _ _ _ isStack _ ran =>
    cases t with
    | callbackThread =>
      have isStacked := stacked.callbackThread
      rw [show conn.callbackThread = _ from isStack] at isStacked
      exact ⟨isStacked.exec (by rintro (_ | _ | _ | _) _ <;> trivial)
        (fun _ _ => rfl) (fun _ _ => rfl) ran, stacked.users⟩
    | user i =>
      have isStacked := stacked.users i
      rw [show conn.users i = _ from isStack] at isStacked
      exact stacked.setUser (isStacked.exec (by rintro (_ | _ | _ | _) _ <;> trivial)
        (fun _ _ => rfl) (fun _ _ => rfl) ran)
  | @commands cmd _ _ _ =>
    refine ⟨?_, stacked.users⟩
    cases cmd <;> first | exact .single rfl | trivial
  | _ => exact ⟨.single rfl, stacked.users⟩

/-! ## The frames of user threads -/

theorem users_update {users : ι → List Frame} (allHold : ∀ user, ∀ fr ∈ users user, holds fr)
    (newHold : ∀ fr ∈ frames, holds fr) :
    ∀ o, ∀ fr ∈ update users user frames o, holds fr := by
  intro o
  by_cases same : o = user
  · rw [same, update_self]
    exact newHold
  · rw [update_of_ne same]
    exact allHold o

theorem users_step (users : ∀ user, ∀ fr ∈ conn.users user, holds fr)
    (begins : ∀ call, holds (.call (callFrame cfg call))) (restarts : holds (.life .restart))
    (stops : holds (.life .stopStopping))
    (runs : ∀ user ans fr core next, label = .run (.user user) ans →
      (conn.users user).head? = some fr →
      conn.core.exec cfg false ans fr = some (core, next) →
      ∀ tl ∈ next, holds tl)
    (taken : conn.step cfg label = some s') :
    ∀ user, ∀ fr ∈ s'.users user, holds fr := by
  have push : ∀ (core : Core) (t : Thread ι) (fr : LifeFrame), holds (.life fr) →
      ∀ user, ∀ below ∈ ({ conn with core }.setStack t
        (.life fr :: conn.stack t)).users user, holds below := by
    intro core t fr frameHolds
    cases t with
    | callbackThread => exact users
    | user i => exact users_update users (forall_mem_cons.mpr ⟨frameHolds, users i⟩)
  cases takes_of_step taken with
  | begins _ => exact users_update users (by simpa using begins _)
  | restarts _ _ => exact push _ _ _ restarts
  | stops _ _ => exact push _ _ _ stops
  | @runs t ans fr frames next core isStack _ ran =>
    cases t with
    | callbackThread => exact users
    | user i =>
      have isUserStack : conn.users i = fr :: frames := isStack
      refine users_update users fun tl isFollowing => ?_
      rcases mem_append.mp isFollowing with isNext | isBelow
      · exact runs i ans fr core next rfl (by rw [isUserStack]; rfl) ran tl isNext
      · exact users i tl (by rw [isUserStack]; simp [isBelow])
  | _ => exact users

end ClientConnection

end ScoreIntegration.MessagePassing
