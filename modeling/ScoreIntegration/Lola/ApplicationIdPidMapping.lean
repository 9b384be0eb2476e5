import Mathlib.Data.List.FinRange
import Mathlib.Logic.Function.Basic
import ScoreIntegration.Concurrency.Transitions

/-!
# Process identifiers of applications

Proxies register the identifier of their process under that of their application.  An
entry is claimed with a compare-exchange of its key, filled, and published with a store
of its key; one that a dead process left behind is taken over.
-/

namespace ScoreIntegration.Lola

open Concurrency Function List

/-! ## Entries -/

namespace MappingEntryStatus

def unused : BitVec 16 := 0

def used : BitVec 16 := 1

def updating : BitVec 16 := 2

end MappingEntryStatus

section

variable (status : BitVec 16) (applicationId : BitVec 32)

/-- The status in the upper and the application identifier in the lower half. -/
def createKey : BitVec 64 := status.setWidth 64 <<< 32 ||| applicationId.setWidth 64

def statusPart (key : BitVec 64) : BitVec 16 := (key >>> 32).setWidth 16

def applicationIdPart (key : BitVec 64) : BitVec 32 := key.setWidth 32

theorem statusPart_createKey : statusPart (createKey status applicationId) = status := by
  apply BitVec.eq_of_getLsbD_eq
  intro pos lt
  have inUpperHalf : 32 + pos < 64 := by omega
  have inKey : pos < 64 := by omega
  simp [statusPart, createKey, lt, inUpperHalf, inKey]

theorem applicationIdPart_createKey :
    applicationIdPart (createKey status applicationId) = applicationId := by
  apply BitVec.eq_of_getLsbD_eq
  intro pos lt
  simp [applicationIdPart, createKey, lt]

end

structure ApplicationIdPidMappingEntry where
  key : BitVec 64
  pid : Nat

namespace ApplicationIdPidMappingEntry

def Has (entry : ApplicationIdPidMappingEntry) (status : BitVec 16)
    (applicationId : BitVec 32) : Prop :=
  statusPart entry.key = status ∧ applicationIdPart entry.key = applicationId

instance (entry : ApplicationIdPidMappingEntry) (status : BitVec 16)
    (applicationId : BitVec 32) : Decidable (entry.Has status applicationId) :=
  inferInstanceAs (Decidable (_ ∧ _))

def Carries (entry : ApplicationIdPidMappingEntry) (applicationId : BitVec 32) : Prop :=
  entry.Has MappingEntryStatus.used applicationId ∨
    entry.Has MappingEntryStatus.updating applicationId

variable {entry : ApplicationIdPidMappingEntry}

theorem Carries.unique {first second} (carriesFirst : entry.Carries first)
    (carriesSecond : entry.Carries second) : first = second := by
  have isFirst : applicationIdPart entry.key = first := by
    rcases carriesFirst with has | has
    · exact has.2
    · exact has.2
  have isSecond : applicationIdPart entry.key = second := by
    rcases carriesSecond with has | has
    · exact has.2
    · exact has.2
  exact isFirst.symm.trans isSecond

theorem not_used_of_updating {applicationId}
    (has : entry.Has MappingEntryStatus.updating applicationId) :
    ¬ entry.Has MappingEntryStatus.used applicationId :=
  fun isUsed => absurd (isUsed.1.symm.trans has.1) (by decide)

theorem not_carries_of_unused (isUnused : statusPart entry.key = MappingEntryStatus.unused)
    (applicationId : BitVec 32) : ¬ entry.Carries applicationId := by
  rintro (has | has)
  · exact absurd (isUnused.symm.trans has.1) (by decide)
  · exact absurd (isUnused.symm.trans has.1) (by decide)

variable (entry : ApplicationIdPidMappingEntry) (status : BitVec 16) (applicationId : BitVec 32)

/-- `SetStatusAndApplicationIdAtomic`, or a compare-exchange that succeeds. -/
def setKey : ApplicationIdPidMappingEntry := { entry with key := createKey status applicationId }

theorem has_setKey : (entry.setKey status applicationId).Has status applicationId :=
  ⟨statusPart_createKey status applicationId, applicationIdPart_createKey status applicationId⟩

end ApplicationIdPidMappingEntry

/-! ## Registrations -/

/-- A call of `RegisterPid`; `previous` is what was registered when it began, by the results of
the calls before it and not by the entries. -/
structure PidRegistration where
  applicationId : BitVec 32
  pid : Nat
  previous : Option Nat

inductive RegisterPidPhase (capacity : Nat) where
  | idle
  | searching (call : PidRegistration) (index : Nat)
  | replacing (call : PidRegistration) (index : Fin capacity)
  | storing (call : PidRegistration) (index : Fin capacity) (oldPid : Nat)
  | claiming (call : PidRegistration) (retryCount index : Nat)
  | exchanging (call : PidRegistration) (retryCount : Nat) (index : Fin capacity)
      (currentEntryKey : BitVec 64)
  | writing (call : PidRegistration) (index : Fin capacity)
  | publishing (call : PidRegistration) (index : Fin capacity)
  | dead

def RegisterPidPhase.call? {capacity : Nat} : RegisterPidPhase capacity → Option PidRegistration
  | .idle => none
  | .searching call _ => some call
  | .replacing call _ => some call
  | .storing call _ _ => some call
  | .claiming call _ _ => some call
  | .exchanging call _ _ _ => some call
  | .writing call _ => some call
  | .publishing call _ => some call
  | .dead => none

structure PidRegistrationResult where
  call : PidRegistration
  result : Option Nat

structure ApplicationIdPidMapping (capacity : Nat) where
  entries : Fin capacity → ApplicationIdPidMappingEntry
  processes : Nat → RegisterPidPhase capacity
  results : List PidRegistrationResult

inductive RegisterPidStep where
  | registerPid (process : Nat) (applicationId : BitVec 32) (pid : Nat)
  /-- The next step of a process; a weak compare-exchange may fail without reason. -/
  | advance (process : Nat) (failsSpuriously : Bool)
  | die (process : Nat)

def RegisterPidStep.process : RegisterPidStep → Nat
  | .registerPid process _ _ => process
  | .advance process _ => process
  | .die process => process

namespace ApplicationIdPidMapping

variable {capacity : Nat} {index : Fin capacity} {mapping after : ApplicationIdPidMapping capacity}
  {applicationId : BitVec 32}

def start (capacity : Nat) : ApplicationIdPidMapping capacity where
  entries := fun _ => ⟨createKey MappingEntryStatus.unused 0, 0⟩
  processes := fun _ => .idle
  results := []

section

variable (mapping : ApplicationIdPidMapping capacity)

/-- The process identifier of the last call for the application that succeeded. -/
def registeredPid (applicationId : BitVec 32) : Option Nat :=
  (mapping.results.find? fun finished =>
    finished.call.applicationId = applicationId && finished.result.isSome).map
    fun finished => finished.call.pid

def setProcess (process : Nat)
    (phase : RegisterPidPhase capacity) : ApplicationIdPidMapping capacity :=
  { mapping with processes := Function.update mapping.processes process phase }

variable (index : Fin capacity) (entry : ApplicationIdPidMappingEntry)

def setEntry : ApplicationIdPidMapping capacity :=
  { mapping with entries := Function.update mapping.entries index entry }

theorem entries_setEntry_self : (mapping.setEntry index entry).entries index = entry :=
  update_self _ _ _

end

section

variable (mapping : ApplicationIdPidMapping capacity)

theorem entries_setEntry_of_ne {other} (differ : other ≠ index)
    (entry : ApplicationIdPidMappingEntry) :
    (mapping.setEntry index entry).entries other = mapping.entries other :=
  update_of_ne differ _ _

def setPid (index : Fin capacity) (pid : Nat) : ApplicationIdPidMapping capacity :=
  mapping.setEntry index { mapping.entries index with pid }

def finish (process : Nat)
    (call : PidRegistration) (result : Option Nat) : ApplicationIdPidMapping capacity :=
  { mapping.setProcess process .idle with results := ⟨call, result⟩ :: mapping.results }

def maxRetries : Nat := 50

def search (call : PidRegistration) (index : Nat) : RegisterPidPhase capacity :=
  if inRange : index < capacity then
    let entry := mapping.entries ⟨index, inRange⟩
    if entry.Has MappingEntryStatus.used call.applicationId then
      .replacing call ⟨index, inRange⟩
    else if entry.Has MappingEntryStatus.updating call.applicationId then
      .writing call ⟨index, inRange⟩
    else .searching call (index + 1)
  else .claiming call 0 0

def claim (process : Nat)
    (call : PidRegistration) (retryCount index : Nat) : ApplicationIdPidMapping capacity :=
  if inRange : index < capacity then
    let key := (mapping.entries ⟨index, inRange⟩).key
    if statusPart key = MappingEntryStatus.unused then
      mapping.setProcess process (.exchanging call retryCount ⟨index, inRange⟩
        (createKey (statusPart key) (applicationIdPart key)))
    else mapping.setProcess process (.claiming call retryCount (index + 1))
  else if retryCount + 1 < maxRetries then
    mapping.setProcess process (.claiming call (retryCount + 1) 0)
  else mapping.finish process call none

def advance (process : Nat) (failsSpuriously : Bool) : Option (ApplicationIdPidMapping capacity) :=
  match mapping.processes process with
  | .idle => none
  | .dead => none
  | .searching call index => some (mapping.setProcess process (mapping.search call index))
  | .replacing call index =>
    some (mapping.setProcess process (.storing call index (mapping.entries index).pid))
  | .storing call index oldPid =>
    some ((mapping.setPid index call.pid).finish process call (some oldPid))
  | .claiming call retryCount index => some (mapping.claim process call retryCount index)
  | .exchanging call retryCount index currentEntryKey =>
    if (mapping.entries index).key = currentEntryKey ∧ failsSpuriously = false then
      some ((mapping.setEntry index ((mapping.entries index).setKey
        MappingEntryStatus.updating call.applicationId)).setProcess process
        (.writing call index))
    else some (mapping.setProcess process (.claiming call retryCount (index + 1)))
  | .writing call index =>
    some ((mapping.setPid index call.pid).setProcess process (.publishing call index))
  | .publishing call index =>
    some ((mapping.setEntry index ((mapping.entries index).setKey
      MappingEntryStatus.used call.applicationId)).finish process call (some call.pid))

def step : RegisterPidStep → Option (ApplicationIdPidMapping capacity)
  | .registerPid process applicationId pid =>
    match mapping.processes process with
    | .idle =>
      some (mapping.setProcess process
        (.searching ⟨applicationId, pid, mapping.registeredPid applicationId⟩ 0))
    | _ => none
  | .advance process failsSpuriously => mapping.advance process failsSpuriously
  | .die process => some (mapping.setProcess process .dead)

def system (capacity : Nat) : TransitionSystem (ApplicationIdPidMapping capacity) RegisterPidStep :=
  .ofStep (start capacity) step

/-- A call begins only while no other process is in a call for its application. -/
def Exclusive : RegisterPidStep → Prop
  | .registerPid process applicationId _ =>
    ∀ other, other ≠ process → ∀ call ∈ (mapping.processes other).call?,
      call.applicationId ≠ applicationId
  | _ => True

/-! ## Invariant -/

def StillRegistered (call : PidRegistration) : Prop :=
  match call.previous with
  | none => ∀ index, ¬ (mapping.entries index).Has MappingEntryStatus.used call.applicationId
  | some pid => ∃ index, (mapping.entries index).Has MappingEntryStatus.used call.applicationId ∧
        (mapping.entries index).pid = pid

def PhaseOk : RegisterPidPhase capacity → Prop
  | .idle => True
  | .dead => True
  | .searching call index =>
    mapping.StillRegistered call ∧ ∀ earlier : Fin capacity, earlier.val < index →
        ¬ (mapping.entries earlier).Carries call.applicationId
  | .replacing call index =>
    (mapping.entries index).Has MappingEntryStatus.used call.applicationId ∧
      call.previous = some (mapping.entries index).pid
  | .storing call index oldPid =>
    (mapping.entries index).Has MappingEntryStatus.used call.applicationId ∧
      call.previous = some oldPid
  | .claiming call _ _ =>
    call.previous = none ∧ ∀ index, ¬ (mapping.entries index).Carries call.applicationId
  | .exchanging call _ _ currentEntryKey =>
    (call.previous = none ∧ ∀ index, ¬ (mapping.entries index).Carries call.applicationId) ∧
      statusPart currentEntryKey = MappingEntryStatus.unused
  | .writing call index =>
    (mapping.entries index).Has MappingEntryStatus.updating call.applicationId ∧
      call.previous = none
  | .publishing call index =>
    ((mapping.entries index).Has MappingEntryStatus.updating call.applicationId ∧
      call.previous = none) ∧ (mapping.entries index).pid = call.pid

end

structure Invariant (mapping : ApplicationIdPidMapping capacity) : Prop where
  /-- An application has at most one entry. -/
  single : ∀ first second applicationId, (mapping.entries first).Carries applicationId →
    (mapping.entries second).Carries applicationId → first = second
  /-- An application has at most one process in a call. -/
  exclusive : ∀ first second, first ≠ second →
    ∀ call ∈ (mapping.processes first).call?, ∀ other ∈ (mapping.processes second).call?,
      call.applicationId ≠ other.applicationId
  phases : ∀ process, mapping.PhaseOk (mapping.processes process)
  /-- The entries hold what the results say. -/
  registered : ∀ call : PidRegistration, call.previous = mapping.registeredPid call.applicationId →
    mapping.StillRegistered call
  results : ∀ finished ∈ mapping.results, ∀ returned ∈ finished.result,
    returned = finished.call.previous.getD finished.call.pid

def KeptFor (mapping after : ApplicationIdPidMapping capacity) (applicationId : BitVec 32) : Prop :=
  ∀ index, after.entries index = mapping.entries index ∨
    ¬ (mapping.entries index).Carries applicationId ∧ ¬ (after.entries index).Carries applicationId

theorem KeptFor.has (kept : mapping.KeptFor after applicationId)
    (carries : (mapping.entries index).Carries applicationId) :
    after.entries index = mapping.entries index := by
  rcases kept index with same | ⟨doesNotCarry, _⟩
  · exact same
  · exact absurd carries doesNotCarry

theorem KeptFor.not_carries (kept : mapping.KeptFor after applicationId)
    (doesNotCarry : ¬ (mapping.entries index).Carries applicationId) :
    ¬ (after.entries index).Carries applicationId := by
  rcases kept index with same | ⟨_, doesNotCarryAfter⟩
  · rw [same]
    exact doesNotCarry
  · exact doesNotCarryAfter

variable {call : PidRegistration} {process : Nat} {phase : RegisterPidPhase capacity}
  {entry : ApplicationIdPidMappingEntry} {label : RegisterPidStep}

theorem StillRegistered.mono (reg : mapping.StillRegistered call)
    (kept : ∀ index, after.entries index = mapping.entries index ∨
      ¬ (mapping.entries index).Has MappingEntryStatus.used call.applicationId ∧
        ¬ (after.entries index).Has MappingEntryStatus.used call.applicationId) :
    after.StillRegistered call := by
  rw [StillRegistered] at reg ⊢
  split at reg
  · intro index has
    rcases kept index with same | ⟨_, isNot⟩
    · rw [same] at has
      exact reg index has
    · exact isNot has
  · obtain ⟨index, has, isPid⟩ := reg
    rcases kept index with same | ⟨isNot, _⟩
    · rw [← same] at has isPid
      exact ⟨index, has, isPid⟩
    · exact absurd has isNot

theorem KeptFor.used (kept : mapping.KeptFor after applicationId) (index : Fin capacity) :
    after.entries index = mapping.entries index ∨
      ¬ (mapping.entries index).Has MappingEntryStatus.used applicationId ∧
        ¬ (after.entries index).Has MappingEntryStatus.used applicationId :=
  (kept index).imp_right fun isNot => ⟨isNot.1 ∘ .inl, isNot.2 ∘ .inl⟩

theorem PhaseOk.mono (ok : mapping.PhaseOk phase)
    (kept : ∀ call ∈ phase.call?, mapping.KeptFor after call.applicationId) :
    after.PhaseOk phase := by
  cases phase with
  | idle | dead => trivial
  | searching call index =>
    have kept := kept call rfl
    exact ⟨ok.1.mono kept.used, fun old isEarlier => kept.not_carries (ok.2 old isEarlier)⟩
  | replacing call index | storing call index oldPid =>
    rw [PhaseOk, (kept call rfl).has (.inl ok.1)]
    exact ok
  | claiming call n index => exact ⟨ok.1, fun o => (kept call rfl).not_carries (ok.2 o)⟩
  | exchanging call n index currentEntryKey =>
    exact ⟨⟨ok.1.1, fun o => (kept call rfl).not_carries (ok.1.2 o)⟩, ok.2⟩
  | writing call index =>
    rw [PhaseOk, (kept call rfl).has (.inr ok.1)]
    exact ok
  | publishing call index =>
    rw [PhaseOk, (kept call rfl).has (.inr ok.1.1)]
    exact ok

structure Moved (mapping : ApplicationIdPidMapping capacity) (process : Nat)
    (after : ApplicationIdPidMapping capacity) : Prop where
  invariant : Invariant after
  keptForOthers : ∀ applicationId,
    (∀ call ∈ (mapping.processes process).call?, call.applicationId ≠ applicationId) →
    mapping.KeptFor after applicationId

theorem Invariant.move (inv : Invariant mapping) (phase : RegisterPidPhase capacity)
    (processes : after.processes = update mapping.processes process phase)
    (sameCall : ∀ call ∈ phase.call?, call ∈ (mapping.processes process).call?)
    (keptForOthers : ∀ applicationId,
      (∀ call ∈ (mapping.processes process).call?, call.applicationId ≠ applicationId) →
      mapping.KeptFor after applicationId)
    (single : ∀ first second applicationId, (after.entries first).Carries applicationId →
      (after.entries second).Carries applicationId → first = second)
    (ok : after.PhaseOk phase)
    (registered : ∀ call : PidRegistration, call.previous = after.registeredPid call.applicationId →
      after.StillRegistered call)
    (results : ∀ fin ∈ after.results, ∀ returned ∈ fin.result,
      returned = fin.call.previous.getD fin.call.pid) : mapping.Moved process after := by
  have callOf : ∀ o, ∀ call ∈ (after.processes o).call?, call ∈ (mapping.processes o).call? := by
    intro o call isCall
    rw [processes] at isCall
    by_cases same : o = process
    · rw [same, update_self] at isCall
      rw [same]
      exact sameCall call isCall
    · rw [update_of_ne same] at isCall
      exact isCall
  refine ⟨⟨single, ?_, ?_, registered, results⟩, keptForOthers⟩
  · intro first second differ call isCall o isOther
    exact inv.exclusive first second differ call (callOf first call isCall) o
      (callOf second o isOther)
  · intro o
    rw [processes]
    by_cases same : o = process
    · rw [same, update_self]
      exact ok
    · rw [update_of_ne same]
      refine (inv.phases o).mono ?_
      intro call isCall
      refine keptForOthers call.applicationId ?_
      intro own isOwn
      exact inv.exclusive process o (Ne.symm same) own isOwn call isCall

theorem Invariant.setProcess (inv : Invariant mapping)
    (sameCall : ∀ call ∈ phase.call?, call ∈ (mapping.processes process).call?)
    (ok : mapping.PhaseOk phase) : mapping.Moved process (mapping.setProcess process phase) :=
  inv.move phase rfl sameCall (fun _ _ _ => .inl rfl) inv.single
    (ok.mono fun _ _ _ => .inl rfl)
    (fun call isPrevious => (inv.registered call isPrevious).mono fun _ => .inl rfl) inv.results

theorem keptFor_setEntry (before : ¬ (mapping.entries index).Carries applicationId)
    (after : ¬ entry.Carries applicationId) :
    mapping.KeptFor (mapping.setEntry index entry) applicationId := by
  intro other
  by_cases same : other = index
  · rw [same, entries_setEntry_self]
    exact .inr ⟨before, after⟩
  · exact .inl (mapping.entries_setEntry_of_ne same entry)

section

variable (inv : Invariant mapping)
include inv

theorem Invariant.single_setEntry {own} (carries : entry.Carries own)
    (elsewhere : ∀ other, other ≠ index → ¬ (mapping.entries other).Carries own)
    (first second : Fin capacity) (applicationId : BitVec 32)
    (carriesFirst : ((mapping.setEntry index entry).entries first).Carries applicationId)
    (carriesSecond : ((mapping.setEntry index entry).entries second).Carries applicationId) :
    first = second := by
  by_cases isFirst : first = index
  · by_cases isSecond : second = index
    · rw [isFirst, isSecond]
    · rw [isFirst, entries_setEntry_self] at carriesFirst
      rw [mapping.entries_setEntry_of_ne isSecond, ← carries.unique carriesFirst] at carriesSecond
      exact absurd carriesSecond (elsewhere second isSecond)
  · rw [mapping.entries_setEntry_of_ne isFirst] at carriesFirst
    by_cases isSecond : second = index
    · rw [isSecond, entries_setEntry_self] at carriesSecond
      rw [← carries.unique carriesSecond] at carriesFirst
      exact absurd carriesFirst (elsewhere first isFirst)
    · rw [mapping.entries_setEntry_of_ne isSecond] at carriesSecond
      exact inv.single first second applicationId carriesFirst carriesSecond

/-! ## Steps -/

/-- The entry changes before it is published, or with the call that succeeds. -/
theorem Invariant.changeEntry (isCall : (mapping.processes process).call? = some call)
    (ownOrNone : ∀ applicationId, call.applicationId ≠ applicationId →
      ¬ (mapping.entries index).Carries applicationId)
    (elsewhere : ∀ other, other ≠ index → ¬ (mapping.entries other).Carries call.applicationId)
    (entry : ApplicationIdPidMappingEntry) (carries : entry.Carries call.applicationId)
    (phase : RegisterPidPhase capacity) (sameCall : ∀ other ∈ phase.call?, other = call)
    (ok : (mapping.setEntry index entry).PhaseOk phase) {results}
    (published : results = mapping.results ∧
        ¬ (mapping.entries index).Has MappingEntryStatus.used call.applicationId ∧
        ¬ entry.Has MappingEntryStatus.used call.applicationId ∨
      (∃ returned, results = ⟨call, some returned⟩ :: mapping.results) ∧
        entry.Has MappingEntryStatus.used call.applicationId ∧ entry.pid = call.pid)
    (resultsOk : ∀ fin ∈ results, ∀ returned ∈ fin.result,
      returned = fin.call.previous.getD fin.call.pid) :
    mapping.Moved process
      { (mapping.setEntry index entry).setProcess process phase with results } := by
  have keptForOthers : ∀ applicationId, call.applicationId ≠ applicationId →
      mapping.KeptFor (mapping.setEntry index entry) applicationId := fun applicationId differs =>
    keptFor_setEntry (ownOrNone applicationId differs)
      (fun carriesOther => differs (carries.unique carriesOther))
  refine inv.move phase rfl ?_ (fun applicationId differ => keptForOthers _ (differ call isCall))
    (inv.single_setEntry carries elsewhere) (ok.mono fun _ _ _ => .inl rfl) ?_ resultsOk
  · intro other isOther
    rw [sameCall other isOther, isCall]
    rfl
  · intro asked isPrevious
    by_cases own : call.applicationId = asked.applicationId
    · rcases published with ⟨rfl, wasNot, isNot⟩ | ⟨⟨returned, rfl⟩, has, isPid⟩
      · rw [own] at wasNot isNot
        refine (inv.registered asked isPrevious).mono fun other => ?_
        by_cases same : other = index
        · rw [same]
          exact .inr ⟨wasNot, (entries_setEntry_self mapping index entry).symm ▸ isNot⟩
        · exact .inl (mapping.entries_setEntry_of_ne same entry)
      · have isOwn : asked.previous = some call.pid := by
          rw [isPrevious]
          simp [registeredPid, own]
        rw [StillRegistered, isOwn]
        refine ⟨index, ?_⟩
        rw [← own]
        exact (entries_setEntry_self mapping index entry).symm ▸ ⟨has, isPid⟩
    · have sameBefore : asked.previous = mapping.registeredPid asked.applicationId := by
        rw [isPrevious]
        rcases published with ⟨rfl, _⟩ | ⟨⟨returned, rfl⟩, _⟩
        · rfl
        · simp [registeredPid, own]
      exact (inv.registered asked sameBefore).mono (keptForOthers _ own).used

theorem Invariant.results_cons {res}
    (isRight : ∀ returned ∈ res, returned = call.previous.getD call.pid) :
    ∀ fin ∈ ⟨call, res⟩ :: mapping.results, ∀ returned ∈ fin.result,
      returned = fin.call.previous.getD fin.call.pid :=
  forall_mem_cons.mpr ⟨isRight, inv.results⟩

theorem Invariant.elsewhere (carries : (mapping.entries index).Carries applicationId)
    (o : Fin capacity) (differ : o ≠ index) :
    ¬ (mapping.entries o).Carries applicationId :=
  fun carriesToo => differ (inv.single o index applicationId carriesToo carries)

theorem phaseOk_search {index} (ok : mapping.PhaseOk (.searching call index)) :
    mapping.PhaseOk (mapping.search call index) := by
  obtain ⟨reg, notEarlier⟩ := ok
  rw [search]
  split
  next lt =>
    dsimp only
    split
    · -- A used entry is the one that was found when the call began.
      rename_i has
      refine ⟨has, ?_⟩
      rw [StillRegistered] at reg
      split at reg
      · exact absurd has (reg _)
      next pid isPrevious =>
        obtain ⟨found, hasToo, isPid⟩ := reg
        have same := inv.single found ⟨index, lt⟩ _ (.inl hasToo) (.inl has)
        rw [isPrevious, ← isPid, same]
    next notUsed =>
      split
      · -- An entry left behind was never published.
        rename_i has
        refine ⟨has, ?_⟩
        rw [StillRegistered] at reg
        split at reg
        next isPrevious => exact isPrevious
        · obtain ⟨found, hasToo, _⟩ := reg
          have same := inv.single found ⟨index, lt⟩ _ (.inl hasToo) (.inr has)
          rw [same] at hasToo
          exact absurd hasToo notUsed
      next notUpdating =>
        refine ⟨reg, ?_⟩
        intro old isEarlier
        by_cases isLast : old.val = index
        · have same : old = ⟨index, lt⟩ := Fin.ext isLast
          rw [same]
          rintro (has | has)
          · exact notUsed has
          · exact notUpdating has
        · exact notEarlier old (by omega)
  next outOfRange =>
    have nowhere : ∀ o, ¬ (mapping.entries o).Carries call.applicationId := by
      intro o
      exact notEarlier o (by omega)
    refine ⟨?_, nowhere⟩
    rw [StillRegistered] at reg
    split at reg
    next isPrevious => exact isPrevious
    · obtain ⟨found, has, _⟩ := reg
      exact absurd (.inl has) (nowhere found)

end

theorem call_search (mapping : ApplicationIdPidMapping capacity) (call : PidRegistration)
    (index : Nat) : (mapping.search call index).call? = some call := by
  rw [search]
  split
  · dsimp only
    split
    · rfl
    · split
      · rfl
      · rfl
  · rfl

section

variable (inv : Invariant mapping)
include inv

theorem Invariant.claim {n index}
    (isClaiming : mapping.processes process = .claiming call n index) :
    mapping.Moved process (mapping.claim process call n index) := by
  have ok := inv.phases process
  rw [isClaiming] at ok
  have sameCall : ∀ phase : RegisterPidPhase capacity, phase.call? = some call →
      ∀ o ∈ phase.call?, o ∈ (mapping.processes process).call? := by
    intro phase isCall o isOther
    rw [isClaiming]
    rw [isCall] at isOther
    exact isOther
  rw [ApplicationIdPidMapping.claim]
  split
  · dsimp only
    split
    next isUnused =>
      refine inv.setProcess (sameCall _ rfl) ⟨ok, ?_⟩
      rw [statusPart_createKey]
      exact isUnused
    · exact inv.setProcess (sameCall _ rfl) ok
  · split
    · exact inv.setProcess (sameCall _ rfl) ok
    · refine inv.move .idle rfl nofun (fun _ _ _ => .inl rfl)
        inv.single trivial (fun asked isPrevious => ?_) (inv.results_cons nofun)
      have sameBefore : asked.previous = mapping.registeredPid asked.applicationId := by
        rw [isPrevious]
        simp [registeredPid, finish]
      exact (inv.registered asked sameBefore).mono fun _ => .inl rfl

theorem Invariant.advance {failsSpuriously}
    (taken : mapping.advance process failsSpuriously = some after) :
    mapping.Moved process after := by
  have ok := inv.phases process
  rw [ApplicationIdPidMapping.advance] at taken
  split at taken
  · cases taken
  · cases taken
  next call index isSearching =>
    rw [isSearching] at ok
    cases taken
    refine inv.setProcess ?_ (phaseOk_search inv ok)
    intro other isOther
    rw [call_search] at isOther
    rw [isSearching]
    exact isOther
  next call index isReplacing =>
    rw [isReplacing] at ok
    cases taken
    refine inv.setProcess ?_ ok
    intro other isOther
    rw [isReplacing]
    exact isOther
  next call index oldPid isStoring =>
    rw [isStoring] at ok
    obtain ⟨has, isPrevious⟩ := ok
    have isCall := congrArg RegisterPidPhase.call? isStoring
    cases taken
    refine inv.changeEntry isCall ?_ (inv.elsewhere (.inl has))
      { mapping.entries index with pid := call.pid } (.inl has) .idle nofun
      trivial (.inr ⟨⟨oldPid, rfl⟩, has, rfl⟩) (inv.results_cons ?_)
    · intro applicationId differ carries
      exact differ (ApplicationIdPidMappingEntry.Carries.unique (.inl has) carries)
    · rintro returned ⟨⟩
      rw [isPrevious]
      rfl
  next call retries index isClaiming =>
    cases taken
    exact inv.claim isClaiming
  next call retries index currentEntryKey isExchanging =>
    rw [isExchanging] at ok
    obtain ⟨⟨noPrevious, nowhere⟩, expectsUnused⟩ := ok
    have isCall := congrArg RegisterPidPhase.call? isExchanging
    split at taken
    next exchanged =>
      cases taken
      have isUnused : statusPart (mapping.entries index).key = MappingEntryStatus.unused := by
        rw [exchanged.1]
        exact expectsUnused
      have has := (mapping.entries index).has_setKey MappingEntryStatus.updating call.applicationId
      refine inv.changeEntry isCall ?_ (fun other _ => nowhere other) _ (.inr has)
        (.writing call index) ?_ ⟨?_, noPrevious⟩ (.inl ⟨rfl, ?_, ?_⟩) inv.results
      · intro applicationId _
        exact ApplicationIdPidMappingEntry.not_carries_of_unused isUnused applicationId
      · rintro _ ⟨⟩
        rfl
      · rw [entries_setEntry_self]
        exact has
      · exact nowhere index ∘ .inl
      · exact ApplicationIdPidMappingEntry.not_used_of_updating has
    · cases taken
      refine inv.setProcess ?_ ⟨noPrevious, nowhere⟩
      intro other isOther
      rw [isCall]
      exact isOther
  next call index isWriting =>
    rw [isWriting] at ok
    obtain ⟨has, noPrevious⟩ := ok
    have isCall := congrArg RegisterPidPhase.call? isWriting
    cases taken
    refine inv.changeEntry isCall ?_ (inv.elsewhere (.inr has))
      { mapping.entries index with pid := call.pid } (.inr has) (.publishing call index) ?_
      ⟨⟨?_, noPrevious⟩, ?_⟩ (.inl ⟨rfl, ?_, ?_⟩) inv.results
    · intro applicationId differ carries
      exact differ (ApplicationIdPidMappingEntry.Carries.unique (.inr has) carries)
    · rintro _ ⟨⟩
      rfl
    · rw [entries_setEntry_self]
      exact has
    · rw [entries_setEntry_self]
    · exact ApplicationIdPidMappingEntry.not_used_of_updating has
    · exact ApplicationIdPidMappingEntry.not_used_of_updating has
  next call index isPublishing =>
    rw [isPublishing] at ok
    obtain ⟨⟨has, noPrevious⟩, isPid⟩ := ok
    have isCall := congrArg RegisterPidPhase.call? isPublishing
    cases taken
    refine inv.changeEntry isCall ?_ (inv.elsewhere (.inr has)) _
      (.inl ((mapping.entries index).has_setKey MappingEntryStatus.used
        call.applicationId)) .idle nofun trivial (.inr ⟨⟨call.pid, rfl⟩, ?_, isPid⟩)
      (inv.results_cons ?_)
    · intro applicationId differ carries
      exact differ (ApplicationIdPidMappingEntry.Carries.unique (.inr has) carries)
    · exact (mapping.entries index).has_setKey MappingEntryStatus.used call.applicationId
    · rintro returned ⟨⟩
      rw [noPrevious]
      rfl

theorem Invariant.register
    (exclusive : ∀ o, o ≠ process → ∀ call ∈ (mapping.processes o).call?,
      call.applicationId ≠ applicationId)
    (pid : Nat) :
    Invariant (mapping.setProcess process
      (.searching ⟨applicationId, pid, mapping.registeredPid applicationId⟩ 0)) := by
  have processOf : ∀ o, o ≠ process → (mapping.setProcess process
        (.searching ⟨applicationId, pid, mapping.registeredPid applicationId⟩ 0)).processes
          o = mapping.processes o :=
    fun o differ => update_of_ne differ _ _
  have processSelf : (mapping.setProcess process
        (.searching ⟨applicationId, pid, mapping.registeredPid applicationId⟩ 0)).processes
          process =
        .searching ⟨applicationId, pid, mapping.registeredPid applicationId⟩ 0 :=
    update_self _ _ _
  refine ⟨inv.single, ?_, ?_, fun asked isPrevious =>
    (inv.registered asked isPrevious).mono fun _ => .inl rfl, inv.results⟩
  · intro first second differ call isCall o isOther
    by_cases isFirst : first = process
    · have isSecond : second ≠ process := fun same => differ (isFirst.trans same.symm)
      rw [isFirst, processSelf] at isCall
      rw [processOf second isSecond] at isOther
      cases isCall
      exact (exclusive second isSecond o isOther).symm
    · rw [processOf first isFirst] at isCall
      by_cases isSecond : second = process
      · rw [isSecond, processSelf] at isOther
        cases isOther
        exact exclusive first isFirst call isCall
      · rw [processOf second isSecond] at isOther
        exact inv.exclusive first second differ call isCall o isOther
  · intro o
    by_cases same : o = process
    · rw [same, processSelf]
      exact ⟨(inv.registered _ rfl).mono fun _ => .inl rfl,
        fun old bad => absurd bad (Nat.not_lt_zero _)⟩
    · rw [processOf o same]
      exact (inv.phases o).mono fun _ _ _ => .inl rfl

theorem invariant_step (exclusive : mapping.Exclusive label)
    (taken : mapping.step label = some after) : Invariant after := by
  cases label with
  | registerPid process applicationId pid =>
    rw [step] at taken
    split at taken
    · cases taken
      exact inv.register exclusive pid
    · cases taken
  | advance process failsSpuriously => exact (inv.advance taken).invariant
  | die process =>
    cases taken
    have moved : mapping.Moved process (mapping.setProcess process .dead) :=
      inv.setProcess nofun trivial
    exact moved.invariant

end

theorem invariant_start (capacity : Nat) : Invariant (start capacity) := by
  have nowhere : ∀ index applicationId,
      ¬ ((start capacity).entries index).Carries applicationId := by
    intro index applicationId
    refine ApplicationIdPidMappingEntry.not_carries_of_unused ?_ applicationId
    rw [start]
    exact statusPart_createKey _ _
  refine ⟨?_, nofun, fun _ => trivial, ?_, nofun⟩
  · intro first second applicationId carries
    exact absurd carries (nowhere first applicationId)
  · intro asked isPrevious
    have isNone : asked.previous = none := isPrevious
    rw [StillRegistered, isNone]
    exact fun index has => nowhere index asked.applicationId (.inl has)

/-- If no two calls for one application overlap, an application has at most one used entry, no
call changes the entry of another application, and a call that succeeds returns what was
registered for its application when it began, or else its own process identifier. -/
theorem reachable_applications_registered_once {mapping : ApplicationIdPidMapping capacity}
    (reachable : ((system capacity).restrict Exclusive).Reachable mapping) :
    (∀ first second applicationId,
        (mapping.entries first).Has MappingEntryStatus.used applicationId →
        (mapping.entries second).Has MappingEntryStatus.used applicationId →
        first = second) ∧
      (∀ label after, mapping.step label = some after → ∀ index applicationId,
          (mapping.entries index).Has MappingEntryStatus.used applicationId →
          (∀ call ∈ (mapping.processes label.process).call?, call.applicationId ≠ applicationId) →
          after.entries index = mapping.entries index) ∧
      (∀ finished ∈ mapping.results, ∀ returned ∈ finished.result,
        returned = finished.call.previous.getD finished.call.pid) := by
  have invariant : Invariant mapping :=
    reachable.preserves (invariant_start capacity) invariant_step
  refine ⟨?_, ?_, invariant.results⟩
  · intro first second applicationId hasFirst hasSecond
    exact invariant.single first second applicationId (.inl hasFirst) (.inl hasSecond)
  · intro label after taken index applicationId has foreign
    have kept : mapping.KeptFor after applicationId := by
      cases label with
      | registerPid process ownId pid =>
        rw [step] at taken
        split at taken
        · cases taken
          exact fun _ => .inl rfl
        · cases taken
      | die process =>
        cases taken
        exact fun _ => .inl rfl
      | advance process failsSpuriously =>
        exact (invariant.advance taken).keptForOthers applicationId foreign
    exact kept.has (.inl has)

/-- The first process of an application is given its own identifier, and one that restarts it
that of the first. -/
theorem first_registered_once : ∃ mapping : ApplicationIdPidMapping 1,
      ((system 1).restrict Exclusive).Reachable mapping ∧
        mapping.results = [⟨⟨7, 20, some 10⟩, some 10⟩, ⟨⟨7, 10, none⟩, some 10⟩] ∧
        (∀ finished ∈ mapping.results, ∀ returned ∈ finished.result,
          returned = finished.call.previous.getD finished.call.pid) := by
  have idle : ((system 1).restrict Exclusive).Reachable (start 1) := .initial rfl
  have called := idle.allowedStep (.registerPid 0 7 10) nofun rfl
  have published := called.allowedSteps (.advance 0 false) 6 (fun _ => trivial) rfl
  have restarted := published.allowedStep (.registerPid 1 7 20) (by
    rintro (_ | other) differ call isCall <;> cases isCall) rfl
  have replaced := restarted.allowedSteps (.advance 1 false) 3 (fun _ => trivial) rfl
  exact ⟨_, replaced, rfl, (reachable_applications_registered_once replaced).2.2⟩

end ApplicationIdPidMapping

end ScoreIntegration.Lola
