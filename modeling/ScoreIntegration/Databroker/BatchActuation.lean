import Mathlib.Data.List.Perm.Basic
import ScoreIntegration.Databroker.Providers

/-!
# Batch actuation

All changes of a batch are checked before the first is forwarded; the provider of a signal is
looked up later.
-/

namespace ScoreIntegration.Databroker

open List List.Nodup ProviderSubscription

structure ActuationChange where
  id : Int
  dataValue : DataValue

inductive ActuationError where
  | notFound | wrongType | outOfBounds | unsupportedType | permissionDenied | permissionExpired
  | providerNotAvailable | providerAlreadyExists | transmissionFailure

def ActuationError.ofRead : ReadError → ActuationError
  | .notFound => .notFound
  | .permissionDenied => .permissionDenied
  | .permissionExpired => .permissionExpired

def ActuationError.ofUpdate : UpdateError → ActuationError
  | .notFound => .notFound
  | .wrongType => .wrongType
  | .outOfBoundsAllowed | .outOfBoundsMinMax | .outOfBoundsType => .outOfBounds
  | .unsupportedType => .unsupportedType
  | .permissionDenied => .permissionDenied
  | .permissionExpired => .permissionExpired

/-- The error of a batch, and whether the databroker or a provider has raised it. -/
inductive BatchError where
  | refused (error : ActuationError)
  | ofProvider (error : ActuationError)

/-- What a call finds.  The entry types belong to the metadata and are read here only. -/
structure ActuationBroker where
  database : Database
  entryType : Int → EntryType
  subscriptions : List ProviderSubscription
  isAvailable : Nat → Bool
  actuate : Nat → List ActuationChange → Except ActuationError Unit

abbrev Forwarded := List (Nat × List ActuationChange)

def mapActuationChangesByVssId (changes : List ActuationChange) (id : Int) : List ActuationChange :=
  changes.filter fun change => change.id = id

namespace ActuationBroker

variable (broker : ActuationBroker) (permissions : Permissions) (now : Nat)

def validateActuatorUpdate (change : ActuationChange) : Except ActuationError Unit :=
  match broker.database.getEntryById permissions now change.id with
  | .error error => .error (.ofRead error)
  | .ok entry =>
    if broker.entryType change.id ≠ .actuator then .error .wrongType
    else (entry.validateStored change.dataValue).mapError .ofUpdate

def check (change : ActuationChange) : Except ActuationError Unit := do
  (broker.database.canWriteActuatorTarget permissions now change.id).mapError .ofRead
  broker.validateActuatorUpdate permissions now change

def registered (id : Int) : Option ProviderSubscription :=
  broker.subscriptions.find? fun subscription => id ∈ subscription.vssIds

def providerOf (id : Int) : Except ActuationError Nat :=
  match broker.registered id with
  | none => .error .providerNotAvailable
  | some subscription =>
    if subscription.permissions.isExpired now then .error .permissionExpired
    else if broker.isAvailable subscription.provider then .ok subscription.provider
    else .error .providerNotAvailable

variable (changes : List ActuationChange)

def forward : List Int → Forwarded × Except BatchError Unit
  | [] => ([], .ok ())
  | id :: ids =>
    match broker.providerOf now id with
    | .error error => ([], .error (.refused error))
    | .ok provider =>
      match broker.actuate provider (mapActuationChangesByVssId changes id) with
      | .error error =>
        ([(provider, mapActuationChangesByVssId changes id)], .error (.ofProvider error))
      | .ok () =>
        ((provider, mapActuationChangesByVssId changes id) :: (forward ids).1, (forward ids).2)

/-- The order is the one in which the map of the changes by signal is iterated. -/
def batchActuate (order : List Int) : Forwarded × Except BatchError Unit :=
  match changes.forM (broker.check permissions now) with
  | .error error => ([], .error (.refused error))
  | .ok () => broker.forward now changes order

def IsOrder (order : List Int) : Prop :=
  order.Nodup ∧ ∀ id, id ∈ order ↔ ∃ change ∈ changes, change.id = id

def handed (forwarded : Forwarded) : List (Option Nat × ActuationChange) :=
  forwarded.flatMap fun (provider, changes) => changes.map (some provider, ·)

/-- Nothing is forwarded by a batch that is refused, and by one that succeeds every change
once, to the provider registered for its signal. -/
def AllOrNothing (outcome : Forwarded × Except BatchError Unit) : Prop :=
  (∀ error, outcome.2 = .error (.refused error) → outcome.1 = []) ∧
    (outcome.2 = .ok () → (handed outcome.1).Perm (changes.map fun change =>
      ((broker.registered change.id).map ProviderSubscription.provider, change)))

def Accepts (id : Int) : Prop :=
  ∃ provider, broker.providerOf now id = .ok provider ∧
    broker.actuate provider (mapActuationChangesByVssId changes id) = .ok ()

variable {broker permissions now changes} {id : Int} {order : List Int}

theorem registered_of_providerOf {p} (found : broker.providerOf now id = .ok p) :
    (broker.registered id).map provider = some p := by
  unfold providerOf at found
  split at found
  · cases found
  next sub isRegistered =>
    split at found
    · cases found
    · split at found
      · cases found
        rw [isRegistered, Option.map_some]
      · cases found

theorem flatMap_filter_perm {α κ : Type} [DecidableEq κ] (k : α → κ) {keys : List κ}
    (nodup : keys.Nodup) {items : List α} (covered : ∀ item ∈ items, k item ∈ keys) :
    (keys.flatMap fun one => items.filter fun item => k item = one).Perm items := by
  induction keys generalizing items with
  | nil =>
    cases items with
    | nil => exact .refl _
    | cons item rest => exact absurd (covered item mem_cons_self) not_mem_nil
  | cons one keys ih =>
    obtain ⟨fresh, nodupRest⟩ := nodup_cons.mp nodup
    have coveredRest : ∀ item ∈ items.filter fun item => k item ≠ one, k item ∈ keys := by
      intro item mem
      obtain ⟨isItem, differs⟩ := mem_filter.mp mem
      exact (mem_cons.mp (covered item isItem)).resolve_left (of_decide_eq_true differs)
    have rest := ih nodupRest coveredRest
    have sameRest : (keys.flatMap fun o => (items.filter fun item => k item ≠ one).filter
        fun item => k item = o) =
        keys.flatMap fun o => items.filter fun item => k item = o := by
      refine flatMap_congr fun o mem => ?_
      rw [filter_filter]
      refine filter_congr fun item _ => ?_
      have differs : o ≠ one := fun same => fresh (same ▸ mem)
      grind
    rw [sameRest] at rest
    refine (rest.append_left _).trans ?_
    simpa using filter_append_perm (fun item => decide (k item = one)) items

theorem handed_forward (succeeds : (broker.forward now changes order).2 = .ok ()) :
    handed (broker.forward now changes order).1 =
      (order.flatMap (mapActuationChangesByVssId changes)).map fun change =>
        ((broker.registered change.id).map provider, change) := by
  induction order with
  | nil => rfl
  | cons id ids ih =>
    unfold forward at succeeds ⊢
    split at succeeds
    · cases succeeds
    next p found =>
      split at succeeds
      · cases succeeds
      next accepted =>
        rw [handed, flatMap_cons, flatMap_cons, map_append]
        refine congr (congrArg _ (map_congr_left fun change mem => ?_)) (ih succeeds)
        have sameId := of_decide_eq_true (mem_filter.mp mem).2
        rw [sameId, registered_of_providerOf found]

theorem forward_not_refused (served : ∀ id ∈ order, ∃ p, broker.providerOf now id = .ok p)
    (error : ActuationError) : (broker.forward now changes order).2 ≠ .error (.refused error) := by
  induction order with
  | nil => exact nofun
  | cons id ids ih =>
    obtain ⟨p, found⟩ := served id mem_cons_self
    unfold forward
    simp only [found]
    split
    · exact nofun
    · exact ih fun o mem => served o (mem_cons_of_mem _ mem)

theorem forward_nothing (declined : ∀ id ∈ order, ¬broker.Accepts now changes id) {error}
    (refused : (broker.forward now changes order).2 = .error (.refused error)) :
    (broker.forward now changes order).1 = [] := by
  cases order with
  | nil => rfl
  | cons id ids =>
    unfold forward at refused ⊢
    split at refused
    · rfl
    next p found =>
      split at refused
      · cases refused
      next accepted => exact absurd ⟨p, found, accepted⟩ (declined id mem_cons_self)

theorem exists_order {first second} (isFirst : first ∈ changes)
    (isSecond : second ∈ changes) (differ : first.id ≠ second.id) :
    ∃ rest, IsOrder changes (first.id :: second.id :: rest) := by
  refine ⟨((changes.map ActuationChange.id).dedup.erase first.id).erase second.id, ?_, fun id => ?_⟩
  · have nodup := ((changes.map ActuationChange.id).nodup_dedup.erase first.id).erase second.id
    grind [mem_erase_iff, nodup_dedup, erase]
  · grind [mem_erase_iff, nodup_dedup, erase, mem_dedup]

/-- In every order a batch is forwarded as a whole or not at all, exactly if a check refuses it,
every signal has a provider, or no provider accepts anything. -/
theorem batchActuate_allOrNothing_iff :
    (∀ order, IsOrder changes order →
      broker.AllOrNothing changes (broker.batchActuate permissions now changes order)) ↔
    changes.forM (broker.check permissions now) ≠ .ok () ∨
      (∀ change ∈ changes, ∃ provider, broker.providerOf now change.id = .ok provider) ∨
      ∀ change ∈ changes, ¬broker.Accepts now changes change.id := by
  unfold batchActuate
  cases checked : changes.forM (broker.check permissions now) with
  | error error => exact ⟨fun _ => .inl nofun, fun _ _ _ => ⟨fun _ _ => rfl, nofun⟩⟩
  | ok passed =>
    simp only [ne_eq, not_true_eq_false, false_or]
    constructor
    · intro holds
      by_contra both
      simp only [not_or, not_forall, not_exists, not_not] at both
      obtain ⟨⟨second, isSecond, missing⟩, first, isFirst, provider, found, accepted⟩ := both
      have differ : first.id ≠ second.id := fun same => missing provider (same ▸ found)
      obtain ⟨rest, isOrder⟩ := exists_order isFirst isSecond differ
      cases refuses : broker.providerOf now second.id with
      | ok other => exact missing other refuses
      | error error =>
        have nothing := (holds _ isOrder).1 error
        simp [forward, found, accepted, refuses] at nothing
    · rintro holds order ⟨nodup, members⟩
      refine ⟨fun error refused => ?_, fun succeeds => ?_⟩
      · rcases holds with served | declined
        · refine absurd refused (forward_not_refused (fun id member => ?_) error)
          obtain ⟨change, isChange, rfl⟩ := (members id).mp member
          exact served change isChange
        · refine forward_nothing (fun id member => ?_) refused
          obtain ⟨change, isChange, rfl⟩ := (members id).mp member
          exact declined change isChange
      · rw [handed_forward succeeds]
        exact (flatMap_filter_perm _ nodup fun change isChange =>
          (members change.id).mpr ⟨change, isChange, rfl⟩).map _

/-- The first of two gears has a provider, the second has none. -/
def halfProvided : ActuationBroker where
  database := { entries := fun _ => some Entry.gear }
  entryType := fun _ => .actuator
  subscriptions := [⟨0, [0], Database.everything⟩]
  isAvailable := fun _ => true
  actuate := fun _ _ => .ok ()

theorem first_gear_forwarded_by_refused_batch :
    IsOrder [⟨0, .int32 ⟨1, by decide⟩⟩, ⟨1, .int32 ⟨1, by decide⟩⟩] [0, 1] ∧
    halfProvided.batchActuate Database.everything 0
        [⟨0, .int32 ⟨1, by decide⟩⟩, ⟨1, .int32 ⟨1, by decide⟩⟩] [0, 1] =
      ([(0, [⟨0, .int32 ⟨1, by decide⟩⟩])], .error (.refused .providerNotAvailable)) := by
  refine ⟨⟨by decide, fun id => ?_⟩, rfl⟩
  simp [eq_comm]

end ActuationBroker

end ScoreIntegration.Databroker
