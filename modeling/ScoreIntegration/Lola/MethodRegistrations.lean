import ScoreIntegration.Lola.MethodResources

/-!
# Guards and handlers

Every registered call handler has a guard and every guard a handler.  While this is so,
erasing guards never fails.
-/

namespace ScoreIntegration.Lola

open List Option AList

namespace MethodProvider

structure Linked (provider : MethodProvider) : Prop where
  handlerOfGuard : ∀ identifier guard, provider.registrationGuards.lookup identifier = some guard →
    (provider.callMethodHandlers guard.asilLevel identifier).isSome = true
  guardOfHandler : ∀ asilLevel identifier,
    (provider.callMethodHandlers asilLevel identifier).isSome = true →
    ∃ guard, provider.registrationGuards.lookup identifier = some guard ∧
      guard.asilLevel = asilLevel

theorem Linked.start (skeletonMethods : List UniqueMethodIdentifier)
    (hasCb : UniqueMethodIdentifier → Bool) :
    Linked (MethodProvider.start skeletonMethods hasCb) where
  handlerOfGuard := by
    nofun
  guardOfHandler := by
    nofun

variable {p pre s' : MethodProvider} {ident : ProxyMethodInstanceIdentifier}
  {keys : ProxyMethodInstanceIdentifier → Prop} {guard : RegistrationGuard}
  {asil : QualityType} {mid : MethodProvider} {k : ProxyMethodInstanceIdentifier}
  {queue : MethodCallQueue} {px : ProxyInstanceIdentifier} {pid : Nat}

theorem Linked.handler_eq_none (linked : p.Linked)
    (unguarded : p.registrationGuards.lookup ident = none) (asil : QualityType) :
    p.callMethodHandlers asil ident = none := by
  by_contra registered
  obtain ⟨guard, found, _⟩ := linked.guardOfHandler asil ident (isSome_iff_ne_none.mpr registered)
  rw [unguarded] at found
  cases found

structure SameSurroundings (before after : MethodProvider) : Prop where
  skeletonMethods : after.skeletonMethods = before.skeletonMethods
  hasCallback : after.hasCallback = before.hasCallback
  methodResources : after.methodResources = before.methodResources
  mappings : after.mappings = before.mappings

theorem SameSurroundings.refl (p : MethodProvider) : SameSurroundings p p :=
  ⟨rfl, rfl, rfl, rfl⟩

theorem SameSurroundings.trans (first : SameSurroundings pre mid)
    (second : SameSurroundings mid s') : SameSurroundings pre s' :=
  ⟨second.skeletonMethods.trans first.skeletonMethods, second.hasCallback.trans first.hasCallback,
    second.methodResources.trans first.methodResources, second.mappings.trans first.mappings⟩

/-- The registrations of some keys are gone and all others are as before. -/
structure Erased (keys : ProxyMethodInstanceIdentifier → Prop)
    (before after : MethodProvider) : Prop where
  guards_erased : ∀ key, keys key → after.registrationGuards.lookup key = none
  guards_kept : ∀ key, ¬ keys key →
    after.registrationGuards.lookup key = before.registrationGuards.lookup key
  handlers_erased : ∀ key, keys key → ∀ level, after.callMethodHandlers level key = none
  handlers_kept : ∀ key, ¬ keys key → ∀ level,
    after.callMethodHandlers level key = before.callMethodHandlers level key
  surroundings : SameSurroundings before after

theorem Erased.congr {others : ProxyMethodInstanceIdentifier → Prop}
    (erased : Erased keys pre s') (same : ∀ k, others k ↔ keys k) :
    Erased others pre s' := by
  have sameKeys : others = keys := funext fun k => propext (same k)
  rw [sameKeys]
  exact erased

theorem Erased.trans {first second : ProxyMethodInstanceIdentifier → Prop}
    (erasedFirst : Erased first pre mid) (erasedSecond : Erased second mid s') :
    Erased (fun k => first k ∨ second k) pre s' where
  guards_erased := by
    intro k isErased
    by_cases inSecond : second k
    · exact erasedSecond.guards_erased k inSecond
    · rw [erasedSecond.guards_kept k inSecond]
      exact erasedFirst.guards_erased k (isErased.resolve_right inSecond)
  guards_kept := by
    intro k isKept
    rw [erasedSecond.guards_kept k (fun inSecond => isKept (.inr inSecond)),
      erasedFirst.guards_kept k (fun inFirst => isKept (.inl inFirst))]
  handlers_erased := by
    intro k isErased level
    by_cases inSecond : second k
    · exact erasedSecond.handlers_erased k inSecond level
    · rw [erasedSecond.handlers_kept k inSecond]
      exact erasedFirst.handlers_erased k (isErased.resolve_right inSecond) level
  handlers_kept := by
    intro k isKept level
    rw [erasedSecond.handlers_kept k (fun inSecond => isKept (.inr inSecond)),
      erasedFirst.handlers_kept k (fun inFirst => isKept (.inl inFirst))]
  surroundings := erasedFirst.surroundings.trans erasedSecond.surroundings

theorem Erased.of_absent (linked : p.Linked)
    (absent : ∀ k, keys k → p.registrationGuards.lookup k = none) :
    Erased keys p p where
  guards_erased := absent
  guards_kept _ _ := rfl
  handlers_erased k isErased level := linked.handler_eq_none (absent k isErased) level
  handlers_kept _ _ _ := rfl
  surroundings := SameSurroundings.refl p

section

variable (erased : Erased keys pre s')
include erased

theorem Erased.guard_before (found : s'.registrationGuards.lookup k = some guard) :
    pre.registrationGuards.lookup k = some guard ∧ ¬ keys k := by
  by_cases isErased : keys k
  · rw [erased.guards_erased k isErased] at found
    cases found
  · rw [erased.guards_kept k isErased] at found
    exact ⟨found, isErased⟩

theorem Erased.handler_before {level handler}
    (found : s'.callMethodHandlers level k = some handler) :
    pre.callMethodHandlers level k = some handler ∧ ¬ keys k := by
  by_cases isErased : keys k
  · rw [erased.handlers_erased k isErased] at found
    cases found
  · rw [erased.handlers_kept k isErased] at found
    exact ⟨found, isErased⟩

theorem Erased.linked (linked : pre.Linked) : s'.Linked where
  handlerOfGuard := by
    intro ident guard found
    obtain ⟨foundBefore, isKept⟩ := erased.guard_before found
    rw [erased.handlers_kept ident isKept]
    exact linked.handlerOfGuard ident guard foundBefore
  guardOfHandler := by
    intro asil ident found
    obtain ⟨handler, isFound⟩ := isSome_iff_exists.mp found
    obtain ⟨foundBefore, isKept⟩ := erased.handler_before isFound
    rw [erased.guards_kept ident isKept]
    exact linked.guardOfHandler asil ident (isSome_iff_exists.mpr ⟨_, foundBefore⟩)

end

theorem onProxyMethodUnsubscribe_spec (linked : p.Linked) (ident : ProxyMethodInstanceIdentifier) :
    ∃ s', p.onProxyMethodUnsubscribe ident = .ok ((p.registrationGuards.lookup ident).isSome, s') ∧
      Erased (· = ident) p s' := by
  rw [onProxyMethodUnsubscribe]
  cases found : p.registrationGuards.lookup ident with
  | none =>
    refine ⟨p, rfl, Erased.of_absent linked ?_⟩
    rintro k rfl
    exact found
  | some guard =>
    have reg := linked.handlerOfGuard ident guard found
    have present : ¬ (p.callMethodHandlers guard.asilLevel ident).isNone = true := by
      rw [isNone_iff_eq_none]
      exact isSome_iff_ne_none.mp reg
    simp only [unregisterMethodCallHandler, if_neg present, Except.map, isSome_some]
    refine ⟨_, rfl, ?_, ?_, ?_, ?_, ?_⟩
    · rintro k rfl
      exact lookup_erase k _
    · intro k differ
      exact lookup_erase_ne differ
    · rintro k rfl level
      simp only [setCallHandler]
      split
      · rfl
      · by_contra o
        obtain ⟨other, foundOther, sameLevel⟩ :=
          linked.guardOfHandler level k (isSome_iff_ne_none.mpr o)
        simp_all
    · intro k differ level
      exact if_neg (fun both => differ both.2)
    · exact ⟨rfl, rfl, rfl, rfl⟩

theorem eraseGuards_spec (idents : List ProxyMethodInstanceIdentifier) (linked : p.Linked) :
    ∃ s', eraseGuards idents p = .ok s' ∧ Erased (· ∈ idents) p s' := by
  induction idents generalizing p with
  | nil =>
    refine ⟨p, rfl, Erased.of_absent linked ?_⟩
    nofun
  | cons ident idents ih =>
    obtain ⟨mid, erasedOne, erasedFirst⟩ := onProxyMethodUnsubscribe_spec linked ident
    obtain ⟨s', erasedOthers, erasedRest⟩ := ih (erasedFirst.linked linked)
    refine ⟨s', ?_, (erasedFirst.trans erasedRest).congr fun k => mem_cons⟩
    rw [eraseGuards, erasedOne]
    exact erasedOthers

theorem unsubscribeMethods_spec {methods} (linked : p.Linked)
    (fin : unsubscribeMethods px methods p = .ok s') :
    Erased (fun k => ∃ method ∈ methods, k = ⟨px, method⟩) p s' := by
  induction methods generalizing p with
  | nil =>
    cases fin
    refine Erased.of_absent linked ?_
    rintro k ⟨method, bad, _⟩
    cases bad
  | cons method methods ih =>
    obtain ⟨mid, erasedOne, erased⟩ := onProxyMethodUnsubscribe_spec linked ⟨px, method⟩
    rw [unsubscribeMethods, erasedOne] at fin
    dsimp only at fin
    split at fin
    · cases fin
    have rest := ih (erased.linked linked) fin
    refine (erased.trans rest).congr fun k => ?_
    simp only [mem_cons, exists_eq_or_imp]

/-- The keys that `CleanUpOldHandlers` erases: those of the application at the method,
unless the process has registered there already. -/
def Stale (provider : MethodProvider) (method : UniqueMethodIdentifier)
    (applicationId : UInt32) (proxyPid : Nat) (key : ProxyMethodInstanceIdentifier) : Prop :=
  ofApplication applicationId method key = true ∧
    ∀ other guard, provider.registrationGuards.lookup other = some guard →
      ofApplication applicationId method other = true → guard.pid ≠ proxyPid

theorem ofApplication_iff {app method} : ofApplication app method k = true ↔
      k.proxyInstanceIdentifier.applicationId = app ∧ k.uniqueMethodIdentifier = method := by
  simp [ofApplication]

theorem cleanUpOldHandlers_spec (linked : p.Linked) (method : UniqueMethodIdentifier)
    (app : UInt32) (pid : Nat) :
    ∃ s', p.cleanUpOldHandlers method app pid = .ok s' ∧ Erased (p.Stale method app pid) p s' := by
  rw [cleanUpOldHandlers]
  split
  next alreadyRegistered =>
    refine ⟨p, rfl, Erased.of_absent linked ?_⟩
    rintro k ⟨_, noneOfProcess⟩
    obtain ⟨⟨o, guard⟩, mem, reg⟩ := any_eq_true.mp alreadyRegistered
    rw [Bool.and_eq_true, beq_iff_eq] at reg
    have found : p.registrationGuards.lookup o = some guard := mem_lookup_iff.mpr mem
    exact absurd reg.2 (noneOfProcess o guard found reg.1)
  next notRegistered =>
    obtain ⟨s', done, erased⟩ := eraseGuards_spec
      (p.registrationGuards.keys.filter (ofApplication app method))
      linked
    have noneOfProcess : ∀ o guard, p.registrationGuards.lookup o = some guard →
        ofApplication app method o = true → guard.pid ≠ pid := by
      intro o guard found isOf samePid
      refine notRegistered (any_eq_true.mpr ⟨⟨o, guard⟩, ?_, ?_⟩)
      · exact mem_lookup_iff.mp found
      · rw [isOf, samePid, beq_self_eq_true, Bool.and_true]
    -- Keys without a guard may be counted as erased or not.
    have absentErased : Erased (fun k => ofApplication app method k = true ∧
        p.registrationGuards.lookup k = none) s' s' := by
      refine Erased.of_absent (erased.linked linked) ?_
      rintro k ⟨_, absent⟩
      rw [erased.guards_kept k, absent]
      intro mem
      have present := mem_keys.mpr (mem_filter.mp mem).1
      exact (lookup_eq_none.mp absent) present
    refine ⟨s', done, (erased.trans absentErased).congr fun k => ?_⟩
    constructor
    · rintro ⟨isOf, _⟩
      cases found : p.registrationGuards.lookup k with
      | none => exact .inr ⟨isOf, rfl⟩
      | some guard =>
        have present : k ∈ p.registrationGuards := by
          rw [← lookup_isSome, found]
          rfl
        exact .inl (mem_filter.mpr ⟨mem_keys.mp present, isOf⟩)
    · rintro (mem | ⟨isOf, _⟩)
      · exact ⟨(mem_filter.mp mem).2, noneOfProcess⟩
      · exact ⟨isOf, noneOfProcess⟩

def withRegistration (provider : MethodProvider)
    (identifier : ProxyMethodInstanceIdentifier) (guard : RegistrationGuard)
    (handler : MethodCallHandler) : MethodProvider :=
  { provider.setCallHandler guard.asilLevel identifier (some handler) with
    registrationGuards := provider.registrationGuards.insert identifier guard }

theorem withRegistration_linked (linked : p.Linked)
    (unguarded : p.registrationGuards.lookup ident = none) (guard : RegistrationGuard)
    (handler : MethodCallHandler) :
    (p.withRegistration ident guard handler).Linked where
  handlerOfGuard := by
    intro k found foundGuard
    dsimp only [withRegistration, setCallHandler] at foundGuard ⊢
    by_cases same : k = ident
    · subst same
      rw [lookup_insert] at foundGuard
      cases foundGuard
      rw [if_pos ⟨rfl, rfl⟩]
      rfl
    · rw [lookup_insert_ne same] at foundGuard
      rw [if_neg (fun both => same both.2)]
      exact linked.handlerOfGuard k found foundGuard
  guardOfHandler := by
    intro asil k reg
    dsimp only [withRegistration, setCallHandler] at reg ⊢
    by_cases same : k = ident
    · subst same
      by_cases sameLevel : asil = guard.asilLevel
      · exact ⟨guard, lookup_insert _, sameLevel.symm⟩
      · rw [if_neg (fun both => sameLevel both.1), linked.handler_eq_none unguarded] at reg
        cases reg
    · rw [if_neg (fun both => same both.2)] at reg
      rw [lookup_insert_ne same]
      exact linked.guardOfHandler asil k reg

theorem onProxyMethodSubscribeFinished_ok (linked : p.Linked) {registration res r uid}
    (fin : p.onProxyMethodSubscribeFinished registration r queue px uid pid asil = .ok (res, s')) :
    ∃ cleaned, Erased (p.Stale queue.uniqueMethodIdentifier px.applicationId pid) p cleaned ∧
      res = registration ∧
      ((∃ error, registration = .error error ∧ s' = cleaned) ∨ (registration = .ok () ∧
          cleaned.registrationGuards.lookup ⟨px, queue.uniqueMethodIdentifier⟩ = none ∧
          s' = cleaned.withRegistration ⟨px, queue.uniqueMethodIdentifier⟩
            ⟨pid, asil⟩ ⟨r, queue, uid⟩)) := by
  obtain ⟨cleaned, cleans, erased⟩ := cleanUpOldHandlers_spec linked
    queue.uniqueMethodIdentifier px.applicationId pid
  rw [onProxyMethodSubscribeFinished] at fin
  split at fin
  · cases fin
  rw [cleans] at fin
  dsimp only at fin
  cases registration with
  | error error =>
    cases fin
    exact ⟨s', erased, rfl, .inl ⟨error, rfl, rfl⟩⟩
  | ok success =>
    rw [registerMethodCallHandler] at fin
    dsimp only at fin
    by_cases present : (cleaned.callMethodHandlers asil
        ⟨px, queue.uniqueMethodIdentifier⟩).isSome = true
    · rw [if_pos present] at fin
      cases fin
    rw [if_neg present] at fin
    dsimp only at fin
    split at fin
    · cases fin
    rename_i unguarded
    cases fin
    refine ⟨cleaned, erased, rfl, .inr ⟨rfl, ?_, rfl⟩⟩
    exact not_isSome_iff_eq_none.mp unguarded

end MethodProvider

end ScoreIntegration.Lola
