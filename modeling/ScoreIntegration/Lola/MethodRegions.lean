import ScoreIntegration.Concurrency.Transitions
import ScoreIntegration.Lola.MethodRegistrations

/-!
# Call handlers and the regions they work on

A call handler needs the region of its proxy instance.  Regions are dropped for a whole
application when another process of it subscribes, handlers only at the methods to which
that process subscribes.
-/

namespace ScoreIntegration.Lola

open Concurrency MethodResourceMap List Option Function MethodProvider ProxyMethodInstanceIdentifier
open AList
open TransitionSystem

namespace MethodProvider

/-- Handlers work on regions that are mapped, and were registered by the process to
which the regions of their application belong. -/
structure Coherent (provider : MethodProvider) : Prop where
  linked : provider.Linked
  known : ∀ key guard, provider.registrationGuards.lookup key = some guard →
    key.uniqueMethodIdentifier ∈ provider.skeletonMethods
  placed : ∀ key guard, provider.registrationGuards.lookup key = some guard →
    provider.methodResources.pid key.proxyInstanceIdentifier.applicationId = some guard.pid
  stored : ∀ level key handler, provider.callMethodHandlers level key = some handler →
    provider.methodResources.region key.proxyInstanceIdentifier = some handler.region

def LeftAt (provider : MethodProvider) (applicationId : UInt32) (pid : Nat)
    (key : ProxyMethodInstanceIdentifier) : Prop :=
  key.proxyInstanceIdentifier.applicationId = applicationId ∧
    ∃ guard, provider.registrationGuards.lookup key = some guard ∧ guard.pid ≠ pid

/-- While the methods of a region are subscribed: what another process has left is at
methods that are still to come, and is all there is of the application there. -/
structure Subscribing (proxy : ProxyInstanceIdentifier) (pid : Nat)
    (region : MethodRegion) (remaining : List UniqueMethodIdentifier)
    (provider : MethodProvider) : Prop where
  linked : provider.Linked
  known : ∀ key guard, provider.registrationGuards.lookup key = some guard →
    key.uniqueMethodIdentifier ∈ provider.skeletonMethods
  entered : provider.methodResources.region proxy = some region
  current : provider.methodResources.pid proxy.applicationId = some pid
  placed : ∀ key guard, provider.registrationGuards.lookup key = some guard →
    key.proxyInstanceIdentifier.applicationId ≠ proxy.applicationId →
    provider.methodResources.pid key.proxyInstanceIdentifier.applicationId = some guard.pid
  left : ∀ key, provider.LeftAt proxy.applicationId pid key →
    key.uniqueMethodIdentifier ∈ remaining ∧
      ∀ other guard, provider.registrationGuards.lookup other = some guard →
        ofApplication proxy.applicationId key.uniqueMethodIdentifier other = true →
        guard.pid ≠ pid
  stored : ∀ level key handler, provider.callMethodHandlers level key = some handler →
    ¬ provider.LeftAt proxy.applicationId pid key →
    provider.methodResources.region key.proxyInstanceIdentifier = some handler.region

variable {pid : Nat}

theorem Subscribing.coherent {px r p} (fin : Subscribing px pid r [] p) : p.Coherent := by
  have nothingLeft : ∀ k, ¬ p.LeftAt px.applicationId pid k := by
    intro k isLeft
    cases (fin.left k isLeft).1
  refine ⟨fin.linked, fin.known, ?_, ?_⟩
  · intro k guard found
    by_cases sameApp : k.proxyInstanceIdentifier.applicationId = px.applicationId
    · by_cases samePid : guard.pid = pid
      · rw [sameApp, fin.current, samePid]
      · exact absurd ⟨sameApp, guard, found, samePid⟩ (nothingLeft k)
    · exact fin.placed k guard found sameApp
  · intro level k handler found
    exact fin.stored level k handler found (nothingLeft k)

/-- The registrations that are not left by another process are kept. -/
def Keeps (applicationId : UInt32) (pid : Nat) (before after : MethodProvider) : Prop :=
  ∀ key guard, before.registrationGuards.lookup key = some guard →
    ¬ before.LeftAt applicationId pid key →
    after.registrationGuards.lookup key = some guard ∧
      ∀ level, after.callMethodHandlers level key = before.callMethodHandlers level key

theorem Keeps.trans {app pre mid s'} (first : Keeps app pid pre mid)
    (second : Keeps app pid mid s') : Keeps app pid pre s' := by
  intro k guard found notLeft
  obtain ⟨foundMiddle, sameHandlers⟩ := first k guard found notLeft
  have notLeftMiddle : ¬ mid.LeftAt app pid k := by
    rintro ⟨ofOne, o, foundOther, otherPid⟩
    rw [foundMiddle] at foundOther
    cases foundOther
    exact notLeft ⟨ofOne, guard, found, otherPid⟩
  obtain ⟨foundAfter, sameHandlersAfter⟩ := second k guard foundMiddle notLeftMiddle
  exact ⟨foundAfter, fun level => (sameHandlersAfter level).trans (sameHandlers level)⟩

section OneRegion

variable {registration : UniqueMethodIdentifier → MethodResult} {r : MethodRegion}
  {px : ProxyInstanceIdentifier} {proxyUid proxyPid : Nat} {asil : QualityType}
  {p s' : MethodProvider} {remaining : List UniqueMethodIdentifier}
  {queue : MethodCallQueue} {res : MethodResult} {o : ProxyInstanceIdentifier}
  {k : ProxyMethodInstanceIdentifier} {guard : RegistrationGuard} {pre : MethodProvider}
  {queues : List MethodCallQueue}

theorem Subscribing.cleanUp {cleaned method}
    (subscribing : Subscribing px proxyPid r (method :: remaining) p)
    (erased : Erased (p.Stale method px.applicationId proxyPid) p cleaned) :
    Subscribing px proxyPid r remaining cleaned ∧ Keeps px.applicationId proxyPid p cleaned := by
  have leftBefore : ∀ k, cleaned.LeftAt px.applicationId proxyPid k →
      p.LeftAt px.applicationId proxyPid k := by
    rintro k ⟨ofOne, guard, found, otherPid⟩
    exact ⟨ofOne, guard, (erased.guard_before found).1, otherPid⟩
  constructor
  · constructor
    · exact erased.linked subscribing.linked
    · intro k guard found
      rw [erased.surroundings.skeletonMethods]
      exact subscribing.known k guard (erased.guard_before found).1
    · rw [erased.surroundings.methodResources]
      exact subscribing.entered
    · rw [erased.surroundings.methodResources]
      exact subscribing.current
    · intro k guard found
      rw [erased.surroundings.methodResources]
      exact subscribing.placed k guard (erased.guard_before found).1
    · intro k isLeft
      obtain ⟨toCome, onlyLeft⟩ := subscribing.left k (leftBefore k isLeft)
      refine ⟨?_, fun o guard found => onlyLeft o guard (erased.guard_before found).1⟩
      rcases mem_cons.mp toCome with here | later
      · obtain ⟨ofOne, guard, found, _⟩ := isLeft
        subst here
        exact absurd ⟨ofApplication_iff.mpr ⟨ofOne, rfl⟩, onlyLeft⟩ (erased.guard_before found).2
      · exact later
    · intro level k handler found notLeft
      rw [erased.surroundings.methodResources]
      obtain ⟨foundBefore, notStale⟩ := erased.handler_before found
      refine subscribing.stored level k handler foundBefore ?_
      rintro ⟨ofOne, guard, foundGuard, otherPid⟩
      exact notLeft ⟨ofOne, guard, (erased.guards_kept k notStale).trans foundGuard, otherPid⟩
  · intro k guard found notLeft
    have notStale : ¬ p.Stale method px.applicationId proxyPid k := by
      rintro ⟨isOf, noneOfProcess⟩
      exact notLeft ⟨(ofApplication_iff.mp isOf).1, guard, found, noneOfProcess k guard found isOf⟩
    exact ⟨(erased.guards_kept k notStale).trans found, erased.handlers_kept k notStale⟩

theorem Subscribing.register (subscribing : Subscribing px proxyPid r remaining p)
    (offered : queue.uniqueMethodIdentifier ∈ p.skeletonMethods)
    (nothingLeft : ∀ k, p.LeftAt px.applicationId proxyPid k →
      k.uniqueMethodIdentifier ≠ queue.uniqueMethodIdentifier)
    (unguarded : p.registrationGuards.lookup ⟨px, queue.uniqueMethodIdentifier⟩ = none)
    (uid : Nat) (level : QualityType) :
    let s' :=
      p.withRegistration ⟨px, queue.uniqueMethodIdentifier⟩ ⟨proxyPid, level⟩ ⟨r, queue, uid⟩
    Subscribing px proxyPid r remaining s' ∧ Keeps px.applicationId proxyPid p s' := by
  intro s'
  set own : ProxyMethodInstanceIdentifier := ⟨px, queue.uniqueMethodIdentifier⟩
  have guardOwn : s'.registrationGuards.lookup own = some ⟨proxyPid, level⟩ := lookup_insert _
  have guardOther : ∀ k, k ≠ own → s'.registrationGuards.lookup k = p.registrationGuards.lookup k :=
    fun k differ => lookup_insert_ne differ
  have handlerOther : ∀ k, k ≠ own → ∀ atLevel,
      s'.callMethodHandlers atLevel k = p.callMethodHandlers atLevel k :=
    fun k differ atLevel => if_neg (fun both => differ both.2)
  have leftBefore : ∀ k, s'.LeftAt px.applicationId proxyPid k →
      k ≠ own ∧ p.LeftAt px.applicationId proxyPid k := by
    rintro k ⟨ofOne, guard, found, otherPid⟩
    have differ : k ≠ own := by
      rintro rfl
      rw [guardOwn] at found
      cases found
      exact otherPid rfl
    rw [guardOther k differ] at found
    exact ⟨differ, ofOne, guard, found, otherPid⟩
  constructor
  · constructor
    · exact withRegistration_linked subscribing.linked unguarded _ _
    · intro k guard found
      by_cases same : k = own
      · rw [same]
        exact offered
      · rw [guardOther k same] at found
        exact subscribing.known k guard found
    · exact subscribing.entered
    · exact subscribing.current
    · intro k guard found otherApplication
      have differ : k ≠ own := fun same => otherApplication (by rw [same])
      rw [guardOther k differ] at found
      exact subscribing.placed k guard found otherApplication
    · intro k isLeft
      obtain ⟨differ, isLeftBefore⟩ := leftBefore k isLeft
      obtain ⟨toCome, onlyLeft⟩ := subscribing.left k isLeftBefore
      refine ⟨toCome, fun o guard found isOf => ?_⟩
      have k' : o ≠ own := by
        rintro rfl
        exact nothingLeft k isLeftBefore (ofApplication_iff.mp isOf).2.symm
      rw [guardOther o k'] at found
      exact onlyLeft o guard found isOf
    · intro atLevel k handler found notLeft
      by_cases same : k = own
      · subst same
        by_cases sameLevel : atLevel = level
        · have isNew : s'.callMethodHandlers atLevel own = some ⟨r, queue, uid⟩ :=
            if_pos ⟨sameLevel, rfl⟩
          rw [isNew] at found
          cases found
          exact subscribing.entered
        · have asBefore : s'.callMethodHandlers atLevel own = p.callMethodHandlers atLevel own :=
            if_neg (fun both => sameLevel both.1)
          rw [asBefore, subscribing.linked.handler_eq_none unguarded] at found
          cases found
      · rw [handlerOther k same] at found
        refine subscribing.stored atLevel k handler found ?_
        rintro ⟨ofOne, guard, foundGuard, otherPid⟩
        refine notLeft ⟨ofOne, guard, ?_, otherPid⟩
        rw [guardOther k same]
        exact foundGuard
  · intro k guard found _
    have differ : k ≠ own := by
      rintro rfl
      rw [unguarded] at found
      cases found
    exact ⟨(guardOther k differ).trans found, handlerOther k differ⟩

/-- The methods of a region at which a handler is registered or fails to be. -/
def attempted (registration : UniqueMethodIdentifier → MethodResult) :
    List MethodCallQueue → List UniqueMethodIdentifier
  | [] => []
  | queue :: queues =>
    queue.uniqueMethodIdentifier :: match registration queue.uniqueMethodIdentifier with
      | .error _ => []
      | .ok () => attempted registration queues

def HasHandler (provider : MethodProvider) (proxy : ProxyInstanceIdentifier)
    (region : MethodRegion) (queue : MethodCallQueue) : Prop :=
  ∃ level handler, provider.callMethodHandlers level
      ⟨proxy, queue.uniqueMethodIdentifier⟩ = some handler ∧
    handler.region = region

theorem Subscribing.finishOne (subscribing : Subscribing px proxyPid r
      (queue.uniqueMethodIdentifier :: remaining) p)
    (offered : queue.uniqueMethodIdentifier ∈ p.skeletonMethods) {out}
    (fin : p.onProxyMethodSubscribeFinished out r queue px proxyUid proxyPid asil = .ok (res, s')) :
    Subscribing px proxyPid r remaining s' ∧ Keeps px.applicationId proxyPid p s' ∧
      SameSurroundings p s' ∧ res = out ∧
      (res = .ok () → s'.registrationGuards.lookup ⟨px, queue.uniqueMethodIdentifier⟩ =
          some ⟨proxyPid, asil⟩ ∧
        s'.HasHandler px r queue) := by
  obtain ⟨cleaned, erased, sameResult, failed | reg⟩ :=
    onProxyMethodSubscribeFinished_ok subscribing.linked fin
  · obtain ⟨error, isError, rfl⟩ := failed
    obtain ⟨stillSubscribing, keeps⟩ := subscribing.cleanUp erased
    refine ⟨stillSubscribing, keeps, erased.surroundings, sameResult, ?_⟩
    rw [sameResult, isError]
    nofun
  · obtain ⟨_, unguarded, rfl⟩ := reg
    obtain ⟨stillSubscribing, keeps⟩ := subscribing.cleanUp erased
    have nothingLeft : ∀ k, cleaned.LeftAt px.applicationId proxyPid k →
        k.uniqueMethodIdentifier ≠ queue.uniqueMethodIdentifier := by
      rintro k ⟨ofOne, guard, found, otherPid⟩ sameMethod
      obtain ⟨foundBefore, notStale⟩ := erased.guard_before found
      have onlyLeft := (subscribing.left k ⟨ofOne, guard, foundBefore, otherPid⟩).2
      rw [sameMethod] at onlyLeft
      exact notStale ⟨ofApplication_iff.mpr ⟨ofOne, sameMethod⟩, onlyLeft⟩
    rw [← erased.surroundings.skeletonMethods] at offered
    obtain ⟨entered, keepsEntering⟩ := stillSubscribing.register offered nothingLeft
      unguarded proxyUid asil
    refine ⟨entered, keeps.trans keepsEntering,
      erased.surroundings.trans ⟨rfl, rfl, rfl, rfl⟩, sameResult, fun _ => ⟨?_, ?_⟩⟩
    · exact lookup_insert _
    · exact ⟨asil, ⟨r, queue, proxyUid⟩, if_pos ⟨rfl, rfl⟩, rfl⟩

theorem Keeps.hasHandler (keeps : Keeps px.applicationId proxyPid pre s')
    (found : pre.registrationGuards.lookup ⟨o, queue.uniqueMethodIdentifier⟩ = some guard)
    (notLeft : ¬ pre.LeftAt px.applicationId proxyPid ⟨o, queue.uniqueMethodIdentifier⟩)
    (has : pre.HasHandler o r queue) : s'.HasHandler o r queue := by
  obtain ⟨level, handler, reg, sameRegion⟩ := has
  refine ⟨level, handler, ?_, sameRegion⟩
  rw [(keeps _ guard found notLeft).2 level]
  exact reg

theorem subscribeMethods_subscribing {subscribed toUnsubscribe}
    (subscribing : Subscribing px proxyPid r (attempted registration queues) p)
    (fin : subscribeMethods registration r px proxyUid proxyPid asil
      queues subscribed p = .ok ((res, toUnsubscribe), s')) :
    Subscribing px proxyPid r [] s' ∧ Keeps px.applicationId proxyPid p s' ∧ SameSurroundings p s' ∧
      (res = .ok () → ∀ queue ∈ queues, s'.HasHandler px r queue) := by
  induction queues generalizing subscribed p with
  | nil =>
    cases fin
    refine ⟨subscribing, fun k guard found _ => ⟨found, fun _ => rfl⟩, SameSurroundings.refl _, ?_⟩
    nofun
  | cons queue queues ih =>
    rw [subscribeMethods] at fin
    split at fin
    · cases fin
    rename_i isKnown
    have offered : queue.uniqueMethodIdentifier ∈ p.skeletonMethods := by
      simpa using isKnown
    split at fin
    · cases fin
    next error mid finishedOne =>
      cases fin
      obtain ⟨ends, keeps, same, isOutcome, _⟩ := subscribing.finishOne offered finishedOne
      rw [← isOutcome] at ends
      refine ⟨ends, keeps, same, ?_⟩
      nofun
    next mid finishedOne =>
      obtain ⟨ends, keeps, same, isOutcome, entered⟩ := subscribing.finishOne offered finishedOne
      rw [← isOutcome] at ends
      obtain ⟨guarded, has⟩ := entered rfl
      obtain ⟨endsRest, keepsRest, sameRest, hasRest⟩ := ih ends fin
      refine ⟨endsRest, keeps.trans keepsRest, same.trans sameRest, ?_⟩
      intro succeeded one mem
      rcases mem_cons.mp mem with rfl | later
      · refine keepsRest.hasHandler guarded ?_ has
        rintro ⟨_, o, found, otherPid⟩
        rw [guarded] at found
        cases found
        exact otherPid rfl
      · exact hasRest succeeded one later

theorem Coherent.erased {keys : ProxyMethodInstanceIdentifier → Prop} (coherent : pre.Coherent)
    (erased : Erased keys pre s') : s'.Coherent := by
  refine ⟨erased.linked coherent.linked, ?_, ?_, ?_⟩
  · intro k guard found
    rw [erased.surroundings.skeletonMethods]
    exact coherent.known k guard (erased.guard_before found).1
  · intro k guard found
    rw [erased.surroundings.methodResources]
    exact coherent.placed k guard (erased.guard_before found).1
  · intro level k handler found
    rw [erased.surroundings.methodResources]
    exact coherent.stored level k handler (erased.handler_before found).1

/-- What another process has left of the application is at methods that the opened
region lists before a registration fails. -/
def CleansUp (provider : MethodProvider) (proxy : ProxyInstanceIdentifier) (pid : Nat)
    (outcome : SubscriptionOutcome) : Prop :=
  ∀ key, provider.LeftAt proxy.applicationId pid key → key.uniqueMethodIdentifier ∈
      attempted outcome.registration (outcome.opened.getD [])

def Unconcerned (p : MethodProvider) (px : ProxyInstanceIdentifier) (pid : Nat)
    (o : ProxyInstanceIdentifier) : Prop :=
  o.applicationId ≠ px.applicationId ∨ p.methodResources.pid o.applicationId = some pid

theorem Unconcerned.cleanUp (unconcerned : p.Unconcerned px proxyPid o) :
    (p.methodResources.cleanUpOldRegions px proxyPid) o.applicationId =
      p.methodResources o.applicationId := by
  by_cases sameApp : o.applicationId = px.applicationId
  · have samePid := unconcerned.resolve_left (fun differ => differ sameApp)
    rw [sameApp] at samePid
    rw [cleanUpOldRegions_of_pid samePid]
  · exact cleanUpOldRegions_of_ne _ _ _ sameApp

theorem Coherent.unconcerned (coherent : p.Coherent)
    (found : p.registrationGuards.lookup k = some guard)
    (notLeft : ¬ p.LeftAt px.applicationId proxyPid k) :
    p.Unconcerned px proxyPid k.proxyInstanceIdentifier := by
  by_contra concerned
  obtain ⟨sameApp, differs⟩ := not_or.mp concerned
  refine notLeft ⟨not_not.mp sameApp, guard, found, ?_⟩
  rintro rfl
  exact differs (coherent.placed k guard found)

theorem Coherent.enter (coherent : p.Coherent)
    (absent : p.methodResources.contains px proxyPid = false)
    (cleansUp : ∀ k, p.LeftAt px.applicationId proxyPid k → k.uniqueMethodIdentifier ∈ remaining)
    (entered : MethodRegion) (mappings : Nat) :
    Subscribing px proxyPid entered remaining { p with
        methodResources := ((p.methodResources.cleanUpOldRegions px
          proxyPid).insert px proxyPid entered).2
        mappings := mappings } := by
  have missing := region_cleanUpOldRegions_self absent
  constructor
  · exact { coherent.linked with }
  · exact coherent.known
  · dsimp only
    rw [region_insert missing, if_pos rfl]
  · dsimp only
    rw [pid_insert missing, if_pos rfl]
  · intro k guard found otherApplication
    dsimp only at found ⊢
    rw [pid_insert missing, if_neg otherApplication, pid,
      cleanUpOldRegions_of_ne _ _ _ otherApplication]
    exact coherent.placed k guard found
  · intro k isLeft
    refine ⟨cleansUp k isLeft, fun o guard found isOf => ?_⟩
    -- All guards of an application were registered by one process.
    obtain ⟨ofOneLeft, guardLeft, foundLeft, otherPid⟩ := isLeft
    have first := coherent.placed k guardLeft foundLeft
    have second := coherent.placed o guard found
    rw [ofOneLeft] at first
    rw [(ofApplication_iff.mp isOf).1, first] at second
    rw [← some.inj second]
    exact otherPid
  · intro level k handler found notLeft
    dsimp only at found ⊢
    obtain ⟨guard, foundGuard, _⟩ := coherent.linked.guardOfHandler level k (by rw [found]; rfl)
    have st := coherent.stored level k handler found
    have sameRegions : (p.methodResources.cleanUpOldRegions px
        proxyPid).region k.proxyInstanceIdentifier = some handler.region :=
      (region_eq_of_eq (coherent.unconcerned foundGuard notLeft).cleanUp).trans st
    have otherProxy : k.proxyInstanceIdentifier ≠ px := by
      intro same
      rw [same, missing] at sameRegions
      cases sameRegions
    rw [region_insert missing, if_neg otherProxy]
    exact sameRegions

/-- What a subscription keeps of another proxy instance: its region and handlers, as
long as it is of another application or of the same process. -/
structure KeepsProxy (other : ProxyInstanceIdentifier) (before after : MethodProvider) : Prop where
  pid : after.methodResources.pid other.applicationId =
    before.methodResources.pid other.applicationId
  region : after.methodResources.region other = before.methodResources.region other
  handlers : ∀ region queue, before.HasHandler other region queue →
    after.HasHandler other region queue

theorem Coherent.keepsHandlers (coherent : p.Coherent)
    (keeps : Keeps px.applicationId proxyPid p s')
    (unconcerned : p.Unconcerned px proxyPid o)
    (has : p.HasHandler o r queue) : s'.HasHandler o r queue := by
  obtain ⟨level, handler, reg, sameRegion⟩ := has
  obtain ⟨guard, found, _⟩ := coherent.linked.guardOfHandler level
    ⟨o, queue.uniqueMethodIdentifier⟩ (by rw [reg]; rfl)
  refine keeps.hasHandler found ?_ ⟨level, handler, reg, sameRegion⟩
  rintro ⟨ofOne, left, foundLeft, otherPid⟩
  rcases unconcerned with otherApplication | samePid
  · exact otherApplication ofOne
  · cases samePid.symm.trans (coherent.placed _ left foundLeft)
    exact otherPid rfl

theorem Erased.hasHandler {keys} (erased : Erased keys pre s') (kept : ∀ method, ¬ keys ⟨o, method⟩)
    (has : pre.HasHandler o r queue) : s'.HasHandler o r queue := by
  obtain ⟨level, handler, reg, sameRegion⟩ := has
  refine ⟨level, handler, ?_, sameRegion⟩
  rw [erased.handlers_kept _ (kept _)]
  exact reg

theorem Coherent.subscribeOpened (coherent : p.Coherent)
    (absent : p.methodResources.contains px proxyPid = false)
    (cleansUp : ∀ k, p.LeftAt px.applicationId proxyPid k →
      k.uniqueMethodIdentifier ∈ attempted registration queues)
    (fin : MethodProvider.subscribeOpened registration queues px proxyUid asil proxyPid
      { p with
        methodResources := p.methodResources.cleanUpOldRegions px proxyPid } =
      .ok (res, s')) :
    s'.Coherent ∧ (∀ o, o ≠ px → p.Unconcerned px proxyPid o → KeepsProxy o p s') ∧
      (res = .ok () → s'.methodResources.pid px.applicationId = some proxyPid ∧
        ∃ r, s'.methodResources.region px = some r ∧
          ∀ queue ∈ r.methodCallQueues, s'.HasHandler px r queue) := by
  have missing := region_cleanUpOldRegions_self absent
  have entering := coherent.enter absent cleansUp ⟨p.mappings, proxyUid, queues⟩ (p.mappings + 1)
  rw [MethodProvider.subscribeOpened] at fin
  dsimp only at fin
  have newRegion : (((p.methodResources.cleanUpOldRegions px
      proxyPid).insert px proxyPid ⟨p.mappings, proxyUid, queues⟩).1) =
      ⟨p.mappings, proxyUid, queues⟩ := by
    rw [insert_of_missing missing]
  rw [newRegion] at fin
  dsimp only at fin
  have keptRegions : ∀ mid : MethodProvider,
      mid.methodResources = ((p.methodResources.cleanUpOldRegions px
        proxyPid).insert px proxyPid ⟨p.mappings, proxyUid, queues⟩).2 →
      ∀ o, o ≠ px → p.Unconcerned px proxyPid o →
        mid.methodResources.pid o.applicationId = p.methodResources.pid o.applicationId ∧
          mid.methodResources.region o = p.methodResources.region o := by
    intro mid isInserted o differ unconcerned
    rw [isInserted, region_insert missing, if_neg differ,
      region_eq_of_eq unconcerned.cleanUp,
      pid_insert missing]
    refine ⟨?_, rfl⟩
    by_cases sameApp : o.applicationId = px.applicationId
    · rw [if_pos sameApp]
      exact (unconcerned.resolve_left fun apart => apart sameApp).symm
    · rw [if_neg sameApp, pid, unconcerned.cleanUp, pid]
  split at fin
  · cases fin
  next error toUnsubscribe mid subscribed =>
    obtain ⟨ends, keeps, same, _⟩ := subscribeMethods_subscribing entering subscribed
    cases undone : unsubscribeMethods px toUnsubscribe mid with
    | error violation =>
      rw [undone] at fin
      cases fin
    | ok final =>
      rw [undone] at fin
      cases fin
      have erased := unsubscribeMethods_spec ends.coherent.linked undone
      refine ⟨ends.coherent.erased erased, ?_, by simp⟩
      intro o differ unconcerned
      have regions := keptRegions s'
        (erased.surroundings.methodResources.trans same.methodResources) o
        differ unconcerned
      refine ⟨regions.1, regions.2, ?_⟩
      intro r queue has
      refine erased.hasHandler ?_ (coherent.keepsHandlers keeps unconcerned has)
      rintro _ ⟨method, _, sameKey⟩
      exact differ (congrArg proxyInstanceIdentifier sameKey)
  next mid subscribed =>
    cases fin
    obtain ⟨ends, keeps, same, handled⟩ := subscribeMethods_subscribing entering subscribed
    refine ⟨ends.coherent, ?_, fun _ => ⟨ends.current, _, ends.entered, handled rfl⟩⟩
    intro o differ unconcerned
    have regions := keptRegions s' same.methodResources o differ unconcerned
    exact ⟨regions.1, regions.2, fun r queue has => coherent.keepsHandlers keeps unconcerned has⟩

theorem Coherent.subscribed (coherent : p.Coherent) {out}
    (cleansUp : p.methodResources.contains px proxyPid = false → p.CleansUp px proxyPid out)
    (fin : onServiceMethodsSubscribed out px proxyUid asil proxyPid p = .ok (res, s')) :
    s'.Coherent ∧ (∀ o, o ≠ px → p.Unconcerned px proxyPid o → KeepsProxy o p s') ∧
      (p.methodResources.contains px proxyPid = true ∧ s' = p ∨
        (res = .ok () → s'.methodResources.pid px.applicationId = some proxyPid ∧
          ∃ r, s'.methodResources.region px = some r ∧
            ∀ queue ∈ r.methodCallQueues, s'.HasHandler px r queue)) := by
  rw [onServiceMethodsSubscribed] at fin
  split at fin
  next present =>
    cases fin
    exact ⟨coherent, fun _ _ _ => ⟨rfl, rfl, fun _ _ has => has⟩, .inl ⟨present, rfl⟩⟩
  next notPresent =>
    have absent := Bool.eq_false_iff.mpr notPresent
    have listed := cleansUp absent
    rw [CleansUp] at listed
    cases opened : out.opened with
    | none =>
      simp only [opened] at fin
      cases fin
      rw [opened] at listed
      have nothingLeft : ∀ k, ¬ p.LeftAt px.applicationId proxyPid k := by
        intro k isLeft
        cases listed k isLeft
      refine ⟨⟨{ coherent.linked with },
        coherent.known, ?_, ?_⟩, ?_, .inr nofun⟩
      · intro k guard found
        dsimp only at found ⊢
        rw [pid, (coherent.unconcerned found (nothingLeft k)).cleanUp]
        exact coherent.placed k guard found
      · intro level k handler found
        dsimp only at found ⊢
        obtain ⟨guard, foundGuard, _⟩ := coherent.linked.guardOfHandler level k
          (isSome_iff_exists.mpr ⟨handler, found⟩)
        rw [region_eq_of_eq (coherent.unconcerned foundGuard (nothingLeft k)).cleanUp]
        exact coherent.stored level k handler found
      · intro o _ unconcerned
        refine ⟨?_, ?_, fun _ _ has => has⟩
        · dsimp only
          rw [pid, unconcerned.cleanUp]
          rfl
        · exact region_eq_of_eq unconcerned.cleanUp
    | some queues =>
      simp only [opened] at fin
      rw [opened] at listed
      obtain ⟨stays, keeps, handled⟩ := coherent.subscribeOpened absent listed fin
      exact ⟨stays, keeps, .inr handled⟩

theorem Coherent.unsubscribed (coherent : p.Coherent)
    (fin : onServiceMethodsUnsubscribed px p = .ok (res, s')) :
    s'.Coherent ∧ ∀ o, o ≠ px → (p.methodResources.region o).isSome = true → KeepsProxy o p s' := by
  obtain ⟨final, done, erased⟩ := eraseGuards_spec (p.skeletonMethods.map (⟨px, ·⟩))
    ({ coherent.linked with } : Linked { p with
        methodResources := p.methodResources.remove px })
  rw [onServiceMethodsUnsubscribed, done] at fin
  cases fin
  have resources : s'.methodResources = p.methodResources.remove px :=
    erased.surroundings.methodResources
  have regionKept : ∀ o, o ≠ px → s'.methodResources.region o = p.methodResources.region o := by
    intro o differ
    rw [resources, region_remove, if_neg differ]
  have pidKept : ∀ o, o ≠ px → (p.methodResources.region o).isSome = true →
      s'.methodResources.pid o.applicationId = p.methodResources.pid o.applicationId := by
    intro o differ present
    rw [resources]
    refine pid_remove ?_
    rw [region_remove, if_neg differ]
    exact present
  -- A registration that is still there is of another proxy instance.
  have guardBefore : ∀ k guard, s'.registrationGuards.lookup k = some guard →
      p.registrationGuards.lookup k = some guard ∧ k.proxyInstanceIdentifier ≠ px := by
    intro k guard found
    obtain ⟨foundBefore, notMember⟩ := erased.guard_before found
    refine ⟨foundBefore, ?_⟩
    rintro rfl
    exact notMember (mem_map.mpr
      ⟨k.uniqueMethodIdentifier, coherent.known k guard foundBefore, rfl⟩)
  have linkedAfter : s'.Linked :=
    erased.linked { coherent.linked with }
  refine ⟨⟨linkedAfter, ?_, ?_, ?_⟩, ?_⟩
  · intro k guard found
    rw [erased.surroundings.skeletonMethods]
    exact coherent.known k guard (guardBefore k guard found).1
  · intro k guard found
    obtain ⟨foundBefore, otherProxy⟩ := guardBefore k guard found
    obtain ⟨handler, reg⟩ := isSome_iff_exists.mp
      (coherent.linked.handlerOfGuard k guard foundBefore)
    have st := coherent.stored _ k handler reg
    rw [pidKept _ otherProxy (by rw [st]; rfl)]
    exact coherent.placed k guard foundBefore
  · intro level k handler found
    obtain ⟨guard, foundGuard, _⟩ := linkedAfter.guardOfHandler level k
      (isSome_iff_exists.mpr ⟨handler, found⟩)
    rw [regionKept _ (guardBefore k guard foundGuard).2]
    exact coherent.stored level k handler (erased.handler_before found).1
  · intro o differ present
    refine ⟨pidKept o differ present, regionKept o differ, ?_⟩
    refine fun r queue => erased.hasHandler fun method mem => ?_
    obtain ⟨_, _, sameKey⟩ := mem_map.mp mem
    exact differ (congrArg proxyInstanceIdentifier sameKey).symm

end OneRegion

end MethodProvider

/-! ## Runs of subscriptions -/

/-- A provider and, for each proxy instance, the process whose successful request to subscribe
was not followed by an unsubscription or by another process of the application. -/
structure MethodSubscriptions where
  provider : MethodProvider
  standing : ProxyInstanceIdentifier → Option Nat

inductive SubscriptionRequest where
  | subscribe (proxy : ProxyInstanceIdentifier) (proxyUid proxyPid : Nat)
      (asilLevel : QualityType) (outcome : MethodProvider.SubscriptionOutcome)
  | unsubscribe (proxy : ProxyInstanceIdentifier)

namespace MethodSubscriptions

def start (skeletonMethods : List UniqueMethodIdentifier)
    (hasCallback : UniqueMethodIdentifier → Bool) : MethodSubscriptions :=
  ⟨.start skeletonMethods hasCallback, fun _ => none⟩

def standAfter (standing : ProxyInstanceIdentifier → Option Nat)
    (proxy : ProxyInstanceIdentifier) (pid : Nat) (result : MethodResult)
    (other : ProxyInstanceIdentifier) : Option Nat :=
  if other = proxy then
    match result with
    | .ok () => some pid
    | .error _ => none
  else if other.applicationId = proxy.applicationId ∧ standing other ≠ some pid then none
  else standing other

def step (state : MethodSubscriptions) : SubscriptionRequest → Option MethodSubscriptions
  | .subscribe proxy proxyUid proxyPid asilLevel outcome =>
    match MethodProvider.onServiceMethodsSubscribed outcome proxy proxyUid asilLevel
        proxyPid state.provider with
    | .error _ => none
    | .ok (result, after) => some ⟨after, standAfter state.standing proxy proxyPid result⟩
  | .unsubscribe proxy =>
    match MethodProvider.onServiceMethodsUnsubscribed proxy state.provider with
    | .error _ => none
    | .ok (_, after) => some ⟨after, Function.update state.standing proxy none⟩

def subscriptions (skeletonMethods : List UniqueMethodIdentifier)
    (hasCallback : UniqueMethodIdentifier → Bool) :
    TransitionSystem MethodSubscriptions SubscriptionRequest :=
  TransitionSystem.ofStep (start skeletonMethods hasCallback) step

/-- A subscription is repeated only while it stands, and one that enters a region
reaches every method at which another process of the application has left a
handler. -/
def Orderly (state : MethodSubscriptions) : SubscriptionRequest → Prop
  | .subscribe proxy _ proxyPid _ outcome =>
    if state.provider.methodResources.contains proxy proxyPid then
      state.standing proxy = some proxyPid
    else state.provider.CleansUp proxy proxyPid outcome
  | .unsubscribe _ => True

/-- The region of a standing subscription is mapped and each of its methods has a
handler that works on it. -/
def Served (provider : MethodProvider) (proxy : ProxyInstanceIdentifier) (pid : Nat) : Prop :=
  provider.methodResources.pid proxy.applicationId = some pid ∧
    ∃ region, provider.methodResources.region proxy = some region ∧
      ∀ queue ∈ region.methodCallQueues, provider.HasHandler proxy region queue

structure Invariant (state : MethodSubscriptions) : Prop where
  coherent : state.provider.Coherent
  served : ∀ proxy pid, state.standing proxy = some pid → Served state.provider proxy pid

variable {s' : MethodProvider} {proxy : ProxyInstanceIdentifier} {state : MethodSubscriptions}
  {res : MethodResult}

theorem Served.kept {pre pid} (served : Served pre proxy pid)
    (keeps : MethodProvider.KeepsProxy proxy pre s') : Served s' proxy pid := by
  obtain ⟨samePid, r, mapped, handled⟩ := served
  refine ⟨keeps.pid.trans samePid, r, keeps.region.trans mapped, ?_⟩
  intro queue mem
  exact keeps.handlers r queue (handled queue mem)

theorem invariant_subscribe (inv : state.Invariant) {uid proxyPid asil out}
    (orderly : state.Orderly (.subscribe proxy uid proxyPid asil out))
    (fin : onServiceMethodsSubscribed out proxy uid
      asil proxyPid state.provider = .ok (res, s')) :
    Invariant ⟨s', standAfter state.standing proxy proxyPid res⟩ := by
  rw [Orderly] at orderly
  have cleansUp : state.provider.methodResources.contains proxy proxyPid = false →
      state.provider.CleansUp proxy proxyPid out := by
    intro absent
    rw [absent, if_neg Bool.false_ne_true] at orderly
    exact orderly
  obtain ⟨coherent, keeps, own⟩ := inv.coherent.subscribed cleansUp fin
  refine ⟨coherent, ?_⟩
  intro o pid stands
  dsimp only [standAfter] at stands
  by_cases same : o = proxy
  · rw [if_pos same] at stands
    cases res with
    | error error => cases stands
    | ok success =>
      cases stands
      subst same
      rcases own with ⟨present, rfl⟩ | handled
      · rw [if_pos present] at orderly
        exact inv.served o proxyPid orderly
      · exact handled rfl
  · rw [if_neg same] at stands
    split at stands
    · cases stands
    next unconcerned =>
      have served := inv.served o pid stands
      refine served.kept (keeps o same ?_)
      by_cases sameApp : o.applicationId = proxy.applicationId
      · right
        have stillStands : state.standing o = some proxyPid := by
          by_contra dropped
          exact unconcerned ⟨sameApp, dropped⟩
        rw [stands] at stillStands
        rw [served.1, stillStands]
      · exact .inl sameApp

theorem invariant_step {pre s' : MethodSubscriptions} {req : SubscriptionRequest}
    (inv : pre.Invariant) (orderly : pre.Orderly req)
    (taken : pre.step req = some s') : s'.Invariant := by
  cases req with
  | subscribe proxy uid pid asil out =>
    rw [step] at taken
    split at taken
    · cases taken
    next fin =>
      cases taken
      exact invariant_subscribe inv orderly fin
  | unsubscribe proxy =>
    rw [step] at taken
    split at taken
    · cases taken
    next fin =>
      cases taken
      obtain ⟨coherent, keeps⟩ := inv.coherent.unsubscribed fin
      refine ⟨coherent, ?_⟩
      intro o pid stands
      dsimp only at stands
      by_cases same : o = proxy
      · rw [same, update_self] at stands
        cases stands
      · rw [update_of_ne same] at stands
        have served := inv.served o pid stands
        obtain ⟨_, r, mapped, _⟩ := served
        exact (inv.served o pid stands).kept (keeps o same (by rw [mapped]; rfl))

/-- In every run of orderly requests each registered handler works on the region that
is mapped for its proxy instance, and a standing subscription has a handler for each
method that its region lists. -/
theorem reachable_handlers_with_regions (skeletonMethods : List UniqueMethodIdentifier)
    (hasCallback : UniqueMethodIdentifier → Bool) {state : MethodSubscriptions}
    (reachable : ((subscriptions skeletonMethods hasCallback).restrict Orderly).Reachable state) :
    (∀ level key handler, state.provider.callMethodHandlers level key = some handler →
      state.provider.methodResources.region key.proxyInstanceIdentifier = some handler.region) ∧
    (∀ proxy pid, state.standing proxy = some pid →
      ∃ region, state.provider.methodResources.region proxy = some region ∧
        ∀ queue ∈ region.methodCallQueues, ∃ level handler, state.provider.callMethodHandlers level
              ⟨proxy, queue.uniqueMethodIdentifier⟩ = some handler ∧
            handler.region = region) := by
  have invariant : state.Invariant :=
    reachable.preserves ⟨⟨MethodProvider.Linked.start skeletonMethods hasCallback, nofun, nofun,
      nofun⟩, nofun⟩ invariant_step
  refine ⟨invariant.coherent.stored, ?_⟩
  intro proxy pid stands
  obtain ⟨_, region, mapped, handled⟩ := invariant.served proxy pid stands
  exact ⟨region, mapped, handled⟩

/-! A skeleton with two methods and the proxy instance 0 of the application 5. -/

def firstMethod : UniqueMethodIdentifier := ⟨1, 1⟩

def secondMethod : UniqueMethodIdentifier := ⟨2, 1⟩

def instanceZero : ProxyInstanceIdentifier := ⟨5, 0⟩

def subscribeTo (method : UniqueMethodIdentifier) (pid : Nat)
    (registration : MethodResult) : SubscriptionRequest :=
  .subscribe instanceZero 100 pid .asilQm ⟨some [⟨method⟩], fun _ => registration⟩

def twoMethods : MethodSubscriptions := start [firstMethod, secondMethod] fun _ => true

/-- A process and the one that follows it subscribe to the same method. -/
theorem restarted_handlers_with_regions : ∃ state, run step twoMethods
        [subscribeTo firstMethod 10 (.ok ()), subscribeTo firstMethod 11 (.ok ())] = some state ∧
      state.standing instanceZero = some 11 ∧
      ∃ region, state.provider.methodResources.region instanceZero = some region ∧
        ∀ queue ∈ region.methodCallQueues, ∃ level handler, state.provider.callMethodHandlers level
              ⟨instanceZero, queue.uniqueMethodIdentifier⟩ = some handler ∧
            handler.region = region := by
  refine ⟨_, rfl, rfl, ?_⟩
  refine (reachable_handlers_with_regions [firstMethod, secondMethod] (fun _ => true)
    (.allowedStep (.allowedStep (.initial rfl) (subscribeTo firstMethod 10 (.ok ()))
      ?_ rfl) (subscribeTo firstMethod 11 (.ok ())) ?_ rfl)).2 instanceZero 11 rfl
  · rintro key ⟨_, guard, impossible, _⟩
    cases impossible
  · rintro key ⟨_, guard, found, _⟩
    have onlyFirst : key = ⟨instanceZero, firstMethod⟩ := by
      by_contra different
      have absent : ((∅ : AList fun _ : ProxyMethodInstanceIdentifier =>
          RegistrationGuard).insert ⟨instanceZero, firstMethod⟩ ⟨10, .asilQm⟩).lookup key = none :=
        (lookup_insert_ne different).trans (lookup_empty key)
      cases absent.symm.trans found
    rw [onlyFirst]
    exact .head _

/-- The handler of a process stays, without its region, when the next process subscribes to
another method; and a repeated subscription reports success without a handler. -/
theorem handlers_without_regions : (∃ state region, run step twoMethods
        [subscribeTo firstMethod 10 (.ok ()), subscribeTo secondMethod 11 (.ok ())] = some state ∧
      state.provider.callMethodHandlers .asilQm ⟨instanceZero, firstMethod⟩ =
        some ⟨region, ⟨firstMethod⟩, 100⟩ ∧
      state.provider.methodResources.region instanceZero ≠ some region) ∧
    (∃ state region, run step twoMethods
        [subscribeTo firstMethod 10 (.error bindingFailure),
          subscribeTo firstMethod 10 (.ok ())] = some state ∧
      state.standing instanceZero = some 10 ∧
      state.provider.methodResources.region instanceZero = some region ∧
      region.methodCallQueues = [⟨firstMethod⟩] ∧
      state.provider.callMethodHandlers .asilQm ⟨instanceZero, firstMethod⟩ = none ∧
      state.provider.callMethodHandlers .asilB ⟨instanceZero, firstMethod⟩ = none) := by
  refine ⟨⟨_, _, rfl, rfl, ?_⟩, ⟨_, _, rfl, rfl, rfl, rfl, rfl, rfl⟩⟩
  decide

end MethodSubscriptions

end ScoreIntegration.Lola
