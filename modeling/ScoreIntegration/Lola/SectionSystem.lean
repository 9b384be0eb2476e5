import ScoreIntegration.Lola.ProviderBook

/-!
# One control section

A provider allocates, publishes and discards slots of one section while consumers take and
give back references.  The local state of a participant is the list of its slots.
-/

namespace ScoreIntegration.Lola

open Concurrency ProviderEventDataControlLocalView TransactionLogLocalView Shared
open Concurrency.Footprint

variable {ι : Type} [Fintype ι] [DecidableEq ι]

inductive SectionCall (quality : QualityType) (slots : Nat) :
    Participant ι → List SlotIndex → Control ι (List SlotIndex) → Prop
  | allocateNextSlot (owned : List SlotIndex) :
      SectionCall quality slots .provider owned (do
        let slot ← ProviderEventDataControlLocalView.allocateNextSlot ⟨quality, slots⟩
        pure (slot.toList ++ owned))
  | eventReady {owned : List SlotIndex} {slot : SlotIndex}
      (timeStamp : EventTimeStamp) : slot ∈ owned →
      SectionCall quality slots .provider owned (do
        ProviderEventDataControlLocalView.eventReady ⟨quality, slots⟩ slot timeStamp
        pure (owned.erase slot))
  | discard {owned : List SlotIndex} {slot : SlotIndex} : slot ∈ owned →
      SectionCall quality slots .provider owned (do
        ProviderEventDataControlLocalView.discard ⟨quality, slots⟩ slot
        pure (owned.erase slot))
  | referenceNextEvent (log : ι) (held : List SlotIndex)
      (lastSearchTime upperLimit : EventTimeStamp) :
      SectionCall quality slots (.consumer quality log) held (do
        let slot ←
          TransactionLogLocalView.referenceNextEvent ⟨quality, log, slots⟩ lastSearchTime upperLimit
        pure (slot.toList ++ held))
  | dereferenceEvent (log : ι) {held : List SlotIndex} {slot : SlotIndex} : slot ∈ held →
      SectionCall quality slots (.consumer quality log) held (do
        TransactionLogLocalView.dereferenceEvent ⟨quality, log, slots⟩ slot
        pure (held.erase slot))

namespace SectionCall

variable {q : QualityType} {slots : Nat} {owned : List SlotIndex}
  {prog : Control ι (List SlotIndex)}

theorem provider_runs {cfg : Setting ι} {b : Book} (call : SectionCall q slots .provider owned prog)
    (trust : cfg.trusted q = true)
    (relaxed : ¬ cfg.strict) (unordered : ¬ cfg.ordered)
    (writes : b.Writes q slots owned) :
    cfg.Runs b prog (fun owned cur => cur.Writes q slots owned) fun _ => True := by
  cases call with
  | allocateNextSlot =>
    refine (runs_allocateNextSlot trust fun isStrict => absurd isStrict relaxed).bind
      fun i cur allocated => Runs.done ?_
    cases i with
    | none => exact writes.of_sameSlots allocated.1
    | some i => exact (writes.cons trust allocated.1.1 allocated.1.2.1).of_sameSlots allocated.1.2.2
  | eventReady ts mem =>
    obtain ⟨lt, writing, -⟩ := writes.2 _ mem
    refine (runs_eventReady lt (fun _ => writing) (fun isStrict => absurd isStrict relaxed)
      fun isOrdered => absurd isOrdered unordered).bind
      fun _ cur st => Runs.done ?_
    subst st
    exact ((writes.erase _).enter_of_notMem (writes.notMem_erase _) q _ _).of_sameSlots ⟨rfl, rfl⟩
  | discard mem =>
    obtain ⟨lt, writing, -⟩ := writes.2 _ mem
    refine (runs_discard lt (fun _ => writing) fun isStrict => absurd isStrict relaxed).bind
      fun _ cur st => Runs.done ?_
    rcases st with rfl | ⟨untrusted, -⟩
    · exact ((writes.erase _).enter_of_notMem (writes.notMem_erase _) q _ _).of_sameSlots ⟨rfl, rfl⟩
    · exact absurd (trust.symm.trans untrusted) (by decide)

theorem consumer_runs {Thread : Type} {admissible : ControlOp ι → Shared ι → Shared ι → Prop}
    {rules : Rules (controlMachine ι admissible) Thread}
    {limits : EventSubscriptionControl} {t : Thread} {log : ι}
    {access : LogAccess rules limits t q log} {acc : Account} {fail : Failure → Prop}
    (call : SectionCall q slots (.consumer q log) owned prog)
    (lenient : ∀ err, err.OfReference → fail err) (holds : acc.Holds owned) :
    access.Runs acc prog (fun owned cur => cur.Holds owned ∧
        cur.maxSampleCount = acc.maxSampleCount) fail := by
  cases call with
  | referenceNextEvent log owned lastSearchTime lim =>
    refine Runs.bind (runs_referenceNextEvent ⟨q, log, slots⟩
        lenient lastSearchTime lim)
      fun i cur referenced => Runs.done ⟨referenced.holds holds, ?_⟩
    cases i with
    | none => rw [show cur = acc from referenced]
    | some i =>
      obtain ⟨-, -, ts, -, -, rfl⟩ := referenced
      rfl
  | dereferenceEvent log mem =>
    refine Runs.bind (runs_dereferenceEvent ⟨q, log, slots⟩ lenient _)
      fun _ cur dereferenced => Runs.done ?_
    obtain ⟨-, -, rfl⟩ := dereferenced
    exact ⟨holds.erase, rfl⟩

end SectionCall

/-- The circumstances: every participant keeps to its operations, and the
reference counters do not run over. -/
def sectionSetting (ι : Type) [Fintype ι] : Setting ι where
  limits := ⟨0#16, 0#8, false⟩
  trusted _ := true
  strict := False
  ordered := False
  admissible _ _ after := after.FewReferences

def sectionSystem (ι : Type) [Fintype ι] [DecidableEq ι] (quality : QualityType) (slots : Nat) :
    System (controlMachine ι (sectionSetting ι).admissible) Failure
      (List SlotIndex) (Participant ι) where
  initial config := config.shared = Shared.empty ∧ ∀ thread, config.threads thread = .done []
  launch thread current _ program :=
    ∃ owned, current = .done owned ∧ SectionCall quality slots thread owned program

namespace SectionSystem

variable {quality : QualityType} {slots : Nat} {prog : Control ι (List SlotIndex)}
  {s : Shared ι} {log : ι} {config : ControlConfig ι (List SlotIndex)} {thread : Participant ι}
  {slot : SlotIndex}

/-! ## Every call is safe -/

def access (quality : QualityType) (log : ι) :
    LogAccess (sectionSetting ι).rules (sectionSetting ι).limits
      (.consumer quality log) quality log :=
  (sectionSetting ι).consumerAccess (fun _ _ _ few => few) rfl log

def post (quality : QualityType) (slots : Nat) (thread : Participant ι)
    (owned : List SlotIndex) : Shared ι → Prop :=
  match thread with
  | .provider =>
    (sectionSetting ι).providerFootprint.Owns fun book => book.Writes quality slots owned
  | .consumer quality' log =>
    (access quality' log).footprint.Owns fun account => account.Holds owned
  | .adversary => fun _ => True

theorem launchesSafe : System.LaunchesSafe (sectionSetting ι).rules
      (sectionSystem ι quality slots) (post quality slots)
      (fun _ _ _ => True) := by
  intro thread cur s prog launched holds safe
  obtain ⟨owned, rfl, call⟩ := launched
  have idle := safe s ((sectionSetting ι).rules.rely_refl thread s) holds
  cases thread with
  | provider =>
    have runs : (sectionSetting ι).Runs _ prog _ _ :=
      call.provider_runs rfl False.elim False.elim idle.2
    exact runs.safe holds trivial
  | consumer quality' log =>
    have same : quality' = quality := by
      cases call <;> rfl
    subst same
    have runs : (access quality' log).Runs _ prog _ fun _ => True :=
      (call.consumer_runs (fun _ _ => trivial) idle.2).post fun _ _ reached => reached.1
    exact runs.safe holds trivial
  | adversary => cases call

/-! ## Reachable states -/

theorem sound (reach : (sectionSystem ι quality slots).Reachable config) :
    System.Sound (sectionSetting ι).rules (post quality slots) (fun _ _ _ => True) config := by
  refine System.Reachable.sound ?_ launchesSafe reach
  rintro config ⟨empty, idle⟩
  refine ⟨?_, fun thread => ?_⟩
  · rw [empty]
    exact ⟨fun quality _ => sectionOk_empty _ quality, False.elim, False.elim⟩
  · rw [idle thread]
    intro later _ _
    cases thread with
    | adversary => trivial
    | _ => exact ⟨trivial, List.nodup_nil, by simp⟩

/-- What the words of the section say in a state of a run. -/
structure ReferencesSafe (quality : QualityType)
    (config : ControlConfig ι (List SlotIndex)) : Prop where
  /-- A referenced slot is not being written and keeps its time stamp. -/
  held : ∀ log slot timeStamp, config.shared.references quality log slot = some timeStamp →
      config.shared.stateSlots quality slot ≠ .inWriting ∧
      (config.shared.stateSlots quality slot).getTimeStamp = timeStamp
  /-- The reference count is the number of references. -/
  counted : ∀ slot, config.shared.stateSlots quality slot ≠ .inWriting →
    (config.shared.stateSlots quality slot).getReferenceCount.toNat =
      config.shared.referenceCount quality slot
  /-- A slot that `ReferenceNextEvent` returned is referenced. -/
  returned : ∀ log slots, config.threads (.consumer quality log) = .done slots →
    ∀ slot ∈ slots, (config.shared.references quality log slot).isSome
  /-- A slot that is claimed is being written and has no reference. -/
  allocated : ∀ slot, config.shared.allocated quality slot = true →
    config.shared.stateSlots quality slot = .inWriting ∧
      ∀ log, config.shared.references quality log slot = none
  /-- A slot that `AllocateNextSlot` returned is claimed. -/
  owned : ∀ slots, config.threads .provider = .done slots →
    ∀ slot ∈ slots, config.shared.allocated quality slot = true

theorem eq_consumer_of_dropped {pre s'}
    (guaranteed : (sectionSetting ι).rules.guarantee thread pre s')
    (booked : (pre.references quality log slot).isSome)
    (dropped : s'.references quality log slot = none) : thread = .consumer quality log := by
  have changed : s'.account quality log ≠ pre.account quality log := by
    intro same
    have references := congrArg (fun acc => acc.references slot) same
    simp only [account, dropped] at references
    rw [← references] at booked
    cases booked
  cases thread with
  | consumer quality' log' =>
    by_contra different
    apply changed
    apply guaranteed.otherAccount
    rintro ⟨rfl, rfl⟩
    exact different rfl
  | _ => exact absurd (guaranteed.1 quality log) changed

/-- In every run the references are safe; a reference ends with a `fetch_sub`
of its holder, and a claim only with a step of the provider. -/
theorem reachable_references_safe {config : ControlConfig ι (List SlotIndex)}
    (reachable : (sectionSystem ι quality slots).Reachable config) :
    ReferencesSafe quality config ∧
    ∀ thread config', (sectionSystem ι quality slots).Step config thread config' →
      (∀ log slot, (config.shared.references quality log slot).isSome →
        config'.shared.references quality log slot = none →
          thread = .consumer quality log ∧ ∃ amount next, config.threads thread =
              .perform (.fetchSubSlot quality log slot amount) next) ∧
      (∀ slot, config.shared.allocated quality slot = true →
        config'.shared.allocated quality slot = false → thread = .provider) := by
  have system := sound reachable
  have ok := system.1.1 quality rfl
  refine ⟨⟨?_, ?_, ?_, ?_, ?_⟩, ?_⟩
  · intro log slot timeStamp held
    exact ⟨(ok.slot slot).ne_inWriting_of_reference held,
      ((ok.slot slot).stamped log timeStamp held).1⟩
  · intro slot notWriting
    exact (ok.slot slot).counted notWriting
  · intro log slots' idle slot member
    exact (system.post_of_idle idle).2.2 slot member
  · intro slot allocated
    have writing := (ok.slot slot).writing allocated
    exact ⟨writing, (ok.slot slot).unreferenced writing⟩
  · intro slots' idle slot member
    exact ((system.post_of_idle idle).2.2 slot member).2.2
  · intro thread config' step
    obtain ⟨-, unchanged | guaranteed⟩ := step.sound launchesSafe system
    · rw [unchanged]
      refine ⟨fun log slot booked dropped => ?_, fun slot marked cleared => ?_⟩
      · rw [dropped] at booked
        cases booked
      · rw [marked] at cleared
        cases cleared
    · refine ⟨fun log slot booked dropped => ?_, fun slot marked cleared => ?_⟩
      · refine ⟨eq_consumer_of_dropped guaranteed booked dropped, ?_⟩
        cases step with
        | launch _ =>
          rw [show config.shared.references quality log slot = none from dropped] at booked
          cases booked
        | perform fault programEq _ =>
          obtain ⟨amount, rfl⟩ := ControlOp.eq_fetchSubSlot_of_dropped booked dropped
          exact ⟨amount, _, programEq⟩
      · cases thread with
        | provider => rfl
        | consumer quality' log =>
          rw [guaranteed.allocated, marked] at cleared
          cases cleared
        | adversary =>
          have same := congrArg (fun book => book.allocated quality slot) guaranteed.2
          simp only [book, sectionSetting, marked, cleared] at same
          cases same

def idleConfig : ControlConfig (Fin 1) (List SlotIndex) := ⟨Shared.empty, fun _ => .done []⟩

/-- A run on one slot: the provider allocates it and publishes a sample with
time stamp 7, then the consumer takes a reference. -/
def referencedConfig : ControlConfig (Fin 1) (List SlotIndex) :=
  ((idleConfig.call ControlOp.exec .provider (do
      let slot ← ProviderEventDataControlLocalView.allocateNextSlot ⟨.asilQm, 1⟩
      pure (slot.toList ++ [])) 2).call ControlOp.exec .provider (do
      ProviderEventDataControlLocalView.eventReady ⟨.asilQm, 1⟩ 0 7#32
      pure ([0].erase 0)) 1).call ControlOp.exec (.consumer .asilQm (Fin.last 0)) (do
      let slot ← TransactionLogLocalView.referenceNextEvent ⟨.asilQm, Fin.last 0, 1⟩ 0#32
          EventSlotStatus.TIMESTAMP_MAX
      pure (slot.toList ++ [])) 8

theorem reachable_referencedConfig :
    (sectionSystem (Fin 1) .asilQm 1).Reachable referencedConfig := by
  have always : ∀ (op : ControlOp (Fin 1)) (pre s' : Shared (Fin 1)),
      (sectionSetting (Fin 1)).admissible op pre s' :=
    fun _ _ => fewReferences_of_card (by decide)
  have first : (sectionSystem (Fin 1) .asilQm 1).Reachable idleConfig :=
    System.Reachable.initial ⟨rfl, fun _ => rfl⟩
  exact ((first.call always ⟨[], rfl, .allocateNextSlot []⟩ rfl 2).call always
    ⟨[0], rfl, .eventReady 7#32 (List.mem_singleton_self 0)⟩
    rfl 1).call always
    ⟨[], rfl, .referenceNextEvent 0 [] 0#32 EventSlotStatus.TIMESTAMP_MAX⟩
    rfl 8

theorem referencedConfig_references_safe :
    referencedConfig.shared.references .asilQm 0 0 = some 7#32 ∧
    ReferencesSafe .asilQm referencedConfig :=
  ⟨rfl, (reachable_references_safe reachable_referencedConfig).1⟩

end SectionSystem

end ScoreIntegration.Lola
