import ScoreIntegration.Lola.CompositeSystem

/-!
# Safety of events with two sections

Without crashes and foreign writes the two sections stay in step.  A provider that is
started again over memory in which they are not, or whose QM section is written by others,
may run into the assertion of `GetNextFreeMultiSlot`.
-/

namespace ScoreIntegration.Lola

open Concurrency EventSlotStatus System.Reachable Shared Program

namespace CompositeSystem

variable {ι : Type}

/-! ## Where the assertion holds -/

/-- The words of a slot agree wherever the assertion compares them if the
ASIL-B section publishes nothing that the QM section does not publish. -/
theorem not_mismatch {cfg : Setting ι} {b : Book} {i : SlotIndex}
    (bTrust : cfg.trusted .asilB = true)
    (published : ∀ slotQm ts, cfg.Readable b .asilQm i slotQm → slotQm.isUsed = false →
      b.contents .asilB i = .sample ts → slotQm.content = .sample ts) :
    ¬ EventDataControlComposite.Mismatch cfg b i := by
  rintro ⟨slotQm, slotB, readableQm, readableB, unusedQm, unusedB, valid, differ⟩
  have contentB := readableB.content bTrust
  apply differ
  cases contents : b.contents .asilB i with
  | inWriting =>
    rw [contents] at contentB
    have writing := content_eq_inWriting_iff.mp contentB.symm
    exact absurd writing (isUsed_eq_false_iff.mp unusedB).2
  | invalid =>
    rw [contents] at contentB
    have zero := content_eq_invalid_iff.mp contentB.symm
    rw [valid zero, zero]
  | sample ts =>
    refine eq_of_content_eq_of_unused ?_ unusedQm unusedB
    rw [published slotQm ts readableQm unusedQm contents, ← contentB, contents]

/-! ## Without crashes and foreign writes -/

/-- Every participant keeps to its operations, and the reference counters do
not run over. -/
def regularSetting (ι : Type) [Fintype ι] : Setting ι where
  limits := ⟨0#16, 0#8, false⟩
  trusted _ := true
  strict := True
  ordered := False
  admissible _ _ after := after.FewReferences

variable [Fintype ι] [DecidableEq ι] {slots : Nat}

def regularSystem (ι : Type) [Fintype ι] [DecidableEq ι] (slots : Nat) :=
  compositeSystem (regularSetting ι) slots (fun _ => False) False

omit [DecidableEq ι] in
theorem regular_lawful : Lawful (regularSetting ι) slots Eq (fun _ => False) False
      (fun _ => False) where
  few _ _ _ few := few
  asilBTrusted := rfl
  unordered := not_false
  refl _ := rfl
  assertion := by
    intro b same i lt
    refine not_mismatch rfl fun slotQm ts readable _ contents => ?_
    rw [← contents, ← same rfl i lt]
    exact (readable.content rfl).symm
  restarted _ := False.elim
  corrupted := False.elim

omit [Fintype ι] [DecidableEq ι] in
theorem eq_done_of_launch {trusted : QualityType → Bool} {hostile : Prop}
    {cur prog : Control ι CompositeLocal} {s : Shared ι}
    (launched : CompositeLaunch trusted slots (fun _ => False) hostile .provider
      cur s prog) : ∃ comp owned, cur = .done (.provider comp owned) := by
  cases launched with
  | allocateNextSlot comp owned => exact ⟨comp, owned, rfl⟩
  | eventReady comp ts _ mem | discard comp _ mem => exact ⟨comp, _, rfl⟩
  | restart _ never => exact never.elim

/-- While the QM section is connected both sections are in step whenever the provider is idle,
and a claim whose ASIL-B half fails is undone before a reference can be taken. -/
theorem reachable_sections_in_step {config : ControlConfig ι CompositeLocal}
    (reachable : (regularSystem ι slots).Reachable config) :
    (∀ composite owned, config.threads .provider = .done (.provider composite owned) →
      composite.ignoreQmControl = false → (∀ slot < slots,
          let slotQm := config.shared.stateSlots .asilQm slot
          let slotB := config.shared.stateSlots .asilB slot
          slotQm.isInWriting = slotB.isInWriting ∧ slotQm.isInvalid = slotB.isInvalid ∧
            slotQm.getTimeStamp = slotB.getTimeStamp) ∧
        ∀ slot ∈ owned, ∀ quality, config.shared.stateSlots quality slot = .inWriting ∧
            ∀ log, config.shared.references quality log slot = none) ∧
    (∀ thread config', (regularSystem ι slots).Step config thread config' → ∀ slot word,
        (config'.shared.claimed = some (slot, word) → config.shared.claimed = some (slot, word) ∨
            config.shared.stateSlots .asilQm slot = word) ∧
        (config'.shared.failedClaim = some (slot, word) →
          config.shared.failedClaim = some (slot, word) ∨
            config.shared.claimed = some (slot, word))) ∧
    ∀ slot word, (config.shared.claimed = some (slot, word) ∨
        config.shared.failedClaim = some (slot, word) →
          config.shared.stateSlots .asilQm slot = .inWriting ∧
            ∀ log, config.shared.references .asilQm log slot = none) ∧
      (config.shared.failedClaim = some (slot, word) →
        ∀ config', (regularSystem ι slots).Step config .provider config' →
          config'.shared.stateSlots .asilQm slot = word) := by
  have system := sound regular_lawful reachable
  have unreferenced {quality slot} (writing : config.shared.stateSlots quality slot = .inWriting) :
      ∀ log, config.shared.references quality log slot = none :=
    ((system.1.1 quality rfl).slot slot).unreferenced writing
  refine ⟨?_, ?_, ?_⟩
  · intro composite owned idle connected
    have providerIdle : ProviderIdle _ slots Eq composite owned _ := system.post_of_idle idle
    refine ⟨fun slot inRange => ?_, fun slot member quality => ?_⟩
    · exact flags_eq_of_content_eq (providerIdle.agrees rfl connected slot inRange)
    · have used : quality ∈ composite.sections := by
        cases quality <;> simp [EventDataControlComposite.sections, providerIdle.asilB, connected]
      have writing := ((providerIdle.writes quality used rfl).2 slot member).2.1
      have inWriting : config.shared.stateSlots quality slot = .inWriting :=
        content_eq_inWriting_iff.mp writing
      exact ⟨inWriting, unreferenced inWriting⟩
  · intro thread config' step slot word
    cases step with
    | launch _ => exact ⟨Or.inl, Or.inl⟩
    | perform fault _ _ => exact ⟨ControlOp.claimed_eq_some, ControlOp.failedClaim_eq_some⟩
  · intro slot word
    refine ⟨fun claim => ?_, fun failed config' step => ?_⟩
    · have writing := system.1.2.1 trivial slot word claim
      exact ⟨writing, unreferenced writing⟩
    · cases step with
      | launch launched =>
        obtain ⟨composite, owned, idle⟩ := eq_done_of_launch launched
        have providerIdle : ProviderIdle _ slots Eq composite owned _ := system.post_of_idle idle
        have settled : config.shared.failedClaim = none := (providerIdle.settled trivial).2
        rw [settled] at failed
        cases failed
      | perform fault programEq admissible =>
        obtain ⟨-, ⟨-, restores⟩, -⟩ := system.perform programEq admissible
        exact restores trivial slot word failed

def allocatedConfig : ControlConfig (Fin 1) CompositeLocal :=
  (compositeIdle (Fin 1) 1).call ControlOp.exec .provider
    (CompositeLocal.allocateNextSlot (freshComposite 1) []) 4

def publishedConfig : ControlConfig (Fin 1) CompositeLocal :=
  allocatedConfig.call ControlOp.exec .provider
    (CompositeLocal.eventReady (freshComposite 1) [0] 0 7#32) 2

def claimingConfig : ControlConfig (Fin 1) CompositeLocal :=
  publishedConfig.call ControlOp.exec .provider
    (CompositeLocal.allocateNextSlot (freshComposite 1) []) 3

/-- A consumer of the ASIL-B section has taken a reference in between, so that
the second half of the claim fails. -/
def failedClaimConfig : ControlConfig (Fin 1) CompositeLocal :=
  (claimingConfig.call ControlOp.exec (.consumer .asilB 0)
    (CompositeLocal.referenceNextEvent ⟨.asilB, 0, 1⟩ [] 0#32
      EventSlotStatus.TIMESTAMP_MAX) 8).advance ControlOp.exec .provider false

section Runs

variable {cfg : Setting (Fin 1)} (always : ∀ op before after, cfg.admissible op before after)

variable (restart : Shared (Fin 1) → Prop) (hostile : Prop)
include always

theorem reachable_allocatedConfig :
    (compositeSystem cfg 1 restart hostile).Reachable allocatedConfig := by
  have first : (compositeSystem cfg 1 restart hostile).Reachable
      (compositeIdle (Fin 1) 1) := initial rfl
  exact first.call always (.allocateNextSlot (freshComposite 1) [] _) rfl 4

theorem reachable_publishedConfig :
    (compositeSystem cfg 1 restart hostile).Reachable publishedConfig := by
  have owned : (0 : SlotIndex) ∈ [0] := List.mem_singleton_self 0
  have idle : (allocatedConfig.threads .provider).result? =
      some (.provider (freshComposite 1) [0]) := rfl
  exact (reachable_allocatedConfig always restart hostile).call always
    (.eventReady (freshComposite 1) 7#32 _ owned) idle 2

end Runs

theorem reachable_failedClaimConfig : (regularSystem (Fin 1) 1).Reachable failedClaimConfig := by
  have always : ∀ (op : ControlOp (Fin 1)) (pre s' : Shared (Fin 1)),
      (regularSetting (Fin 1)).admissible op pre s' :=
    fun _ _ => fewReferences_of_card (by decide)
  have claiming : (regularSystem (Fin 1) 1).Reachable claimingConfig :=
    (reachable_publishedConfig always (fun _ => False) False).call always
      (.allocateNextSlot (freshComposite 1) [] _) rfl 3
  exact (claiming.call always (.referenceNextEvent .asilB 0 [] 0#32
    EventSlotStatus.TIMESTAMP_MAX _ rfl) rfl 8).advance always .provider false

theorem failedClaimConfig_sections_in_step : failedClaimConfig.shared.failedClaim =
      some (0, make 7#32 0#32) ∧
    failedClaimConfig.shared.stateSlots .asilQm 0 = .inWriting ∧
    ∀ config', (regularSystem (Fin 1) 1).Step failedClaimConfig .provider
      config' → config'.shared.stateSlots .asilQm 0 = make 7#32 0#32 := by
  have failed : failedClaimConfig.shared.failedClaim = some (0, make 7#32 0#32) := rfl
  obtain ⟨open', restored⟩ := (reachable_sections_in_step reachable_failedClaimConfig).2.2 0 _
  exact ⟨failed, (open' (Or.inr failed)).1, restored failed⟩

/-! ## Crashes of the provider -/

/-- The provider may crash in the middle of a claim. -/
def crashSetting (ι : Type) [Fintype ι] : Setting ι where
  limits := ⟨0#16, 0#8, false⟩
  trusted _ := true
  strict := False
  ordered := False
  admissible _ _ after := after.FewReferences

/-- Every sample that the ASIL-B section publishes is published by the QM
section as well. -/
def Recoverable (slots : Nat) (state : Shared ι) : Prop :=
  ∀ slot < slots, ∀ timeStamp, (state.stateSlots .asilB slot).content = .sample timeStamp →
      (state.stateSlots .asilQm slot).content = .sample timeStamp

/-- A crashed provider may be started again in the states of `restart`. -/
def crashSystem (ι : Type) [Fintype ι] [DecidableEq ι] (slots : Nat) (restart : Shared ι → Prop) :=
  compositeSystem (crashSetting ι) slots restart False

/-- What the QM section says about a slot, and what the ASIL-B section may say
if the assertion is to hold. -/
def Covers (contentQm contentB : EventSlotStatus.Content) : Prop :=
  ∀ timeStamp, contentB = .sample timeStamp → contentQm = .sample timeStamp

omit [DecidableEq ι] in
theorem crash_lawful : Lawful (crashSetting ι) slots Covers (Recoverable slots) False
      (fun _ => False) where
  few _ _ _ few := few
  asilBTrusted := rfl
  unordered := not_false
  refl _ _ same := same
  assertion := by
    intro b covers i lt
    refine not_mismatch rfl fun slotQm ts readable _ contents => ?_
    rw [← readable.content rfl]
    exact covers rfl i lt ts contents
  restarted := by
    intro s recoverable
    refine ⟨fun _ => rfl, not_false, fun i lt ts cleanedB => ?_⟩
    cases contents : (s.stateSlots .asilB i).content with
    | sample timeStamp' =>
      rw [contents] at cleanedB
      rw [recoverable i lt timeStamp' contents]
      exact cleanedB
    | _ =>
      rw [contents] at cleanedB
      cases cleanedB
  corrupted := False.elim

/-- If a crashed provider is started again only where the QM section publishes
all that the ASIL-B section publishes, then no provider ever fails. -/
theorem reachable_provider_not_aborted {config : ControlConfig ι CompositeLocal}
    (reachable : (crashSystem ι slots (Recoverable slots)).Reachable config)
    (failure : Failure) : config.threads .provider ≠ .abort failure :=
  fun aborted => (sound crash_lawful reachable).fail_of_aborted aborted

theorem crash_always (op : ControlOp (Fin 1)) (pre s' : Shared (Fin 1)) :
    (crashSetting (Fin 1)).admissible op pre s' :=
  fewReferences_of_card (by decide) s'

/-- The provider crashes in the first half of a claim and is started again. -/
def recoveredConfig : ControlConfig (Fin 1) CompositeLocal :=
  ((compositeIdle (Fin 1) 1).call ControlOp.exec .provider
    (CompositeLocal.allocateNextSlot (freshComposite 1) []) 3).call
    ControlOp.exec .provider (CompositeLocal.restart 1) 3

theorem reachable_recoveredConfig :
    (crashSystem (Fin 1) 1 (Recoverable 1)).Reachable recoveredConfig := by
  have first : (crashSystem (Fin 1) 1 (Recoverable 1)).Reachable
      (compositeIdle (Fin 1) 1) := initial rfl
  have claiming := first.call crash_always (.allocateNextSlot (freshComposite 1) [] _) rfl 3
  refine (claiming.start .provider _ (.restart _ ?_)).advanceN crash_always .provider 3
  intro i lt ts published
  obtain rfl : i = 0 := by omega
  cases published

theorem recoveredConfig_provider_not_aborted : (recoveredConfig.threads .provider).result? =
      some (.provider (freshComposite 1) []) ∧
    recoveredConfig.threads .provider ≠ .abort .multiSlotMismatch :=
  ⟨rfl, reachable_provider_not_aborted reachable_recoveredConfig .multiSlotMismatch⟩

/-- The provider has published a sample in the ASIL-B section only. -/
def halfPublishedConfig : ControlConfig (Fin 1) CompositeLocal :=
  allocatedConfig.call ControlOp.exec .provider
    (CompositeLocal.eventReady (freshComposite 1) [0] 0 7#32) 1

def restartedConfig : ControlConfig (Fin 1) CompositeLocal :=
  halfPublishedConfig.call ControlOp.exec .provider (CompositeLocal.restart 1) 3

/-- The crash between the two stores of `EventReady` makes the next allocation
fail. -/
theorem crash_in_eventReady_aborts :
    ∃ config, (crashSystem (Fin 1) 1 fun _ => True).Reachable config ∧
      config.threads .provider = .abort .multiSlotMismatch := by
  have owned : (0 : SlotIndex) ∈ [0] := List.mem_singleton_self 0
  have idle : (allocatedConfig.threads .provider).result? =
      some (.provider (freshComposite 1) [0]) := rfl
  have half : (crashSystem (Fin 1) 1 fun _ => True).Reachable halfPublishedConfig :=
    (reachable_allocatedConfig crash_always _ _).call crash_always
      (.eventReady (freshComposite 1) 7#32 _ owned) idle 1
  have restarted : (crashSystem (Fin 1) 1 fun _ => True).Reachable restartedConfig :=
    (half.start .provider _ (.restart _ trivial)).advanceN crash_always .provider 3
  exact ⟨_, restarted.call crash_always
    (.allocateNextSlot (freshComposite 1) [] _) rfl 2, eq_abort_of_failure? rfl⟩

/-! ## Foreign writes to the QM section -/

/-- Only the ASIL-B section is written by its participants alone; `assumed`
restricts the states in which operations are performed. -/
def interferenceSetting (ι : Type) [Fintype ι]
    (assumed : ControlOp ι → Shared ι → Prop) : Setting ι where
  limits := ⟨0#16, 0#8, false⟩
  trusted quality := quality = .asilB
  strict := False
  ordered := False
  admissible op before after := after.FewReferences ∧ assumed op before

def interferenceSystem (ι : Type) [Fintype ι] [DecidableEq ι] (slots : Nat)
    (assumed : ControlOp ι → Shared ι → Prop) :=
  compositeSystem (interferenceSetting ι assumed) slots (fun _ => False) True

/-- A QM word that is read as unused does not hide a sample that the ASIL-B
section publishes in the slot. -/
def ReadsTrueWords : ControlOp ι → Shared ι → Prop
  | .loadSlot .asilQm slot, state =>
    (state.stateSlots .asilQm slot).isUsed = false → ∀ timeStamp,
      (state.stateSlots .asilB slot).content = .sample timeStamp →
        (state.stateSlots .asilQm slot).content = .sample timeStamp
  | _, _ => True

omit [DecidableEq ι] in
theorem interference_lawful (assumed : ControlOp ι → Shared ι → Prop) (fail : Failure → Prop)
    (assertion : ∀ b : Book, ∀ i, EventDataControlComposite.Mismatch
      (interferenceSetting ι assumed) b i → fail .multiSlotMismatch) :
    Lawful (interferenceSetting ι assumed) slots Eq (fun _ => False) True fail where
  few _ _ _ admissible := admissible.1
  asilBTrusted := rfl
  unordered := not_false
  refl _ := rfl
  assertion b _ i _ := assertion b i
  restarted _ := False.elim
  corrupted _ := ⟨rfl, not_false⟩

omit [DecidableEq ι] in
theorem not_mismatch_of_readsTrueWords (b : Book) (i : SlotIndex) :
    ¬ EventDataControlComposite.Mismatch (interferenceSetting ι ReadsTrueWords) b i := by
  refine not_mismatch rfl fun slotQm ts readable unused contents => ?_
  obtain ⟨s, ⟨-, readsTrue⟩, rfl, rfl⟩ := readable
  exact readsTrue unused ts contents

/-- Whatever is written to the QM section, the slots that the provider got are its own in the
ASIL-B section, and nothing but the comparison of the sections can fail. -/
theorem reachable_interference_free {config : ControlConfig ι CompositeLocal} :
    ((interferenceSystem ι slots fun _ _ => True).Reachable config → (∀ composite owned,
        config.threads .provider = .done (.provider composite owned) →
        ∀ slot ∈ owned, config.shared.stateSlots .asilB slot = .inWriting ∧
            ∀ log, config.shared.references .asilB log slot = none) ∧
      ∀ failure, config.threads .provider = .abort failure → failure = .multiSlotMismatch) ∧
    ((interferenceSystem ι slots ReadsTrueWords).Reachable config →
      ∀ failure, config.threads .provider ≠ .abort failure) := by
  refine ⟨fun reachable => ?_, fun reachable failure aborted => ?_⟩
  · have system := sound (interference_lawful (fun _ _ => True)
      (fun failure => failure = .multiSlotMismatch) fun _ _ _ => rfl) reachable
    refine ⟨fun composite owned idle slot member => ?_, fun failure aborted =>
      system.fail_of_aborted aborted⟩
    have providerIdle : ProviderIdle _ slots Eq composite owned _ := system.post_of_idle idle
    have writing := ((providerIdle.asilBWrites rfl).2 slot member).2.1
    have inWriting : config.shared.stateSlots .asilB slot = .inWriting :=
      content_eq_inWriting_iff.mp writing
    exact ⟨inWriting, ((system.1.1 .asilB rfl).slot slot).unreferenced inWriting⟩
  · exact (sound (interference_lawful ReadsTrueWords (fun _ => False)
      not_mismatch_of_readsTrueWords) reachable).fail_of_aborted aborted

theorem interference_always (op : ControlOp (Fin 1)) (pre s' : Shared (Fin 1)) :
    (interferenceSetting (Fin 1) fun _ _ => True).admissible op pre s' :=
  ⟨fewReferences_of_card (by decide) s', trivial⟩

theorem advance_true {config} (t)
    (reach : (interferenceSystem (Fin 1) 1 ReadsTrueWords).Reachable config)
    (readsTrue : ∀ op next, config.threads t = .perform op next →
      ReadsTrueWords op config.shared := by rintro _ _ ⟨⟩; trivial) :
    (interferenceSystem (Fin 1) 1 ReadsTrueWords).Reachable
      (config.advance ControlOp.exec t false) :=
  reach.advance_of_admissible fun op next isNext =>
    ⟨fewReferences_of_card (by decide) _, readsTrue op next isNext⟩

/-- The word of a free slot is overwritten and put back while the provider allocates the slot. -/
theorem overwritten_slot_allocated : ∃ config,
    (interferenceSystem (Fin 1) 1 ReadsTrueWords).Reachable config ∧
      (config.threads .provider).result? = some (.provider (freshComposite 1) [0]) := by
  have first : (interferenceSystem (Fin 1) 1 ReadsTrueWords).Reachable
      (compositeIdle (Fin 1) 1) := initial rfl
  have writing := first.start .adversary _ (.corruptSlot _ _ 0 (make 9#32 0#32) trivial)
  have allocating := (advance_true .adversary writing).start .provider _
    (.allocateNextSlot (freshComposite 1) [] _)
  have loaded := advance_true .provider allocating (by rintro _ _ ⟨⟩ _ _ ⟨⟩)
  have restoring := (advance_true .provider loaded).start .adversary _
    (.corruptSlot _ _ 0 .invalid trivial)
  have restored := advance_true .adversary restoring
  have loadedAgain := advance_true .provider restored (by rintro _ _ ⟨⟩ _ _ ⟨⟩)
  have claiming := advance_true .provider (advance_true .provider loadedAgain)
  exact ⟨_, advance_true .provider claiming, rfl⟩

theorem overwritten_interference_free :
    allocatedConfig.shared.stateSlots .asilB 0 = .inWriting ∧ ∃ config,
      (interferenceSystem (Fin 1) 1 ReadsTrueWords).Reachable config ∧
      (config.threads .provider).result? = some (.provider (freshComposite 1) [0]) ∧
      ∀ failure, config.threads .provider ≠ .abort failure := by
  have owned : (0 : SlotIndex) ∈ [0] := List.mem_singleton_self 0
  have idle : allocatedConfig.threads .provider = .done (.provider (freshComposite 1) [0]) :=
    eq_done_of_result? rfl
  have allocated : (interferenceSystem (Fin 1) 1 fun _ _ => True).Reachable
      allocatedConfig := reachable_allocatedConfig interference_always _ _
  obtain ⟨config, reachable, isAllocated⟩ := overwritten_slot_allocated
  exact ⟨((reachable_interference_free.1 allocated).1 _ _ idle 0 owned).1,
    config, reachable, isAllocated, reachable_interference_free.2 reachable⟩

/-- A published slot looks free in the QM section, with another time stamp. -/
def hiddenSampleConfig : ControlConfig (Fin 1) CompositeLocal :=
  publishedConfig.call ControlOp.exec .adversary
    (CompositeLocal.corruptSlot 0 (EventSlotStatus.make 9#32 0#32)) 1

/-- One foreign write makes the next allocation fail. -/
theorem foreign_write_aborts :
    ∃ config, (interferenceSystem (Fin 1) 1 fun _ _ => True).Reachable config ∧
      config.threads .provider = .abort .multiSlotMismatch := by
  have hidden : (interferenceSystem (Fin 1) 1 fun _ _ => True).Reachable hiddenSampleConfig :=
    ((reachable_publishedConfig interference_always _ _).start .adversary _
      (.corruptSlot _ _ 0 (make 9#32 0#32) trivial)).advanceN interference_always .adversary 1
  exact ⟨_, hidden.call interference_always
    (.allocateNextSlot (freshComposite 1) [] _) rfl 2, eq_abort_of_failure? rfl⟩

end CompositeSystem

end ScoreIntegration.Lola
