import Mathlib.Algebra.Group.Nat.Defs
import ScoreIntegration.Concurrency.Transitions
import ScoreIntegration.Containers.OptionMap
import ScoreIntegration.Databroker.EntryValidation

/-!
# Write access to the database

An update is checked against the permissions field by field, and only then applied.  The
allowed values are changed without any permission.
-/

namespace ScoreIntegration.Databroker

open Concurrency Containers TransitionSystem Entry Permissions Option

/-- The ids are those of an `i32`. -/
structure Database where
  nextId : Int := 0
  pathToId : String → Option Int := fun _ => none
  entries : Int → Option Entry := fun _ => none

def UpdateError.ofPermission : PermissionError → UpdateError
  | .denied => .permissionDenied
  | .expired => .permissionExpired

def Permissions.checkUpdate (permissions : Permissions) (now : Nat) (entry : Entry)
    (update : EntryUpdate) : Except UpdateError Unit := do
  (if update.path.isSome ∨ update.entryType.isSome ∨ update.dataType.isSome ∨
      update.description.isSome then .error .permissionDenied else .ok ())
  (if update.datapoint.isSome then
    (permissions.canWriteDatapoint now entry.metadata.path).mapError .ofPermission
  else .ok ())
  (if update.actuatorTarget.isSome then
    (permissions.canWriteActuatorTarget now entry.metadata.path).mapError .ofPermission
  else .ok ())
  entry.validate (entry.diff update)

variable {permissions : Permissions} {now : Nat}

@[simp]
theorem Permissions.check_eq_ok {granted} : permissions.check now granted = .ok () ↔
      permissions.isExpired now = false ∧ granted = true := by
  unfold check
  split <;> simp_all

theorem Permissions.granted_of_checkUpdate {e update}
    (checked : permissions.checkUpdate now e update = .ok ()) :
    (update.datapoint.isSome = true → permissions.isExpired now = false ∧
        permissions.provide.isMatch e.metadata.path = true) ∧
      (update.actuatorTarget.isSome = true → permissions.isExpired now = false ∧
        permissions.actuate.isMatch e.metadata.path = true) ∧
      e.validate (e.diff update) = .ok () := by
  have mapped {check : Except PermissionError Unit}
      (passes : check.mapError UpdateError.ofPermission = .ok ()) : check = .ok () := by
    cases check with
    | ok => rfl
    | error => cases passes
  simp only [checkUpdate, bind_eq_ok_unit] at checked
  obtain ⟨-, ofDatapoint, ofTarget, valid⟩ := checked
  refine ⟨fun isSet => ?_, fun isSet => ?_, valid⟩
  · rw [if_pos isSet] at ofDatapoint
    exact check_eq_ok.mp (mapped ofDatapoint)
  · rw [if_pos isSet] at ofTarget
    exact check_eq_ok.mp (mapped ofTarget)

namespace Entry

section

variable (entry : Entry) (update : EntryUpdate)

theorem diff_eq : entry.diff update = update ∨
      entry.diff update = { update with datapoint := none } := by
  unfold diff
  split
  · split
    · exact .inr rfl
    · exact .inl rfl
  · exact .inl rfl

@[simp]
theorem diff_allowed : (entry.diff update).allowed = update.allowed := by
  rcases entry.diff_eq update with same | dropped <;> simp [*]

@[simp]
theorem diff_actuatorTarget : (entry.diff update).actuatorTarget = update.actuatorTarget := by
  rcases entry.diff_eq update with same | dropped <;> simp [*]

def Replaces (allowed : Option DataValue) : Prop :=
  update.allowed = some allowed ∧ (allowed != entry.metadata.allowed) = true

end

variable {e : Entry}

theorem apply_metadata_of_replaces {update allowed} (replaces : e.Replaces update allowed) :
    (e.apply (e.diff update)).1.metadata = { e.metadata with allowed } := by
  simp [apply, replaces.1, replaces.2]

theorem apply_metadata_of_not_replaces {update} (keeps : ∀ ok, ¬e.Replaces update ok) :
    (e.apply (e.diff update)).1.metadata = e.metadata := by
  cases isSet : update.allowed with
  | none => simp [apply, isSet]
  | some ok =>
    have same : (ok != e.metadata.allowed) = false :=
      Bool.eq_false_iff.mpr fun differs => keeps ok ⟨isSet, differs⟩
    simp [apply, isSet, same]

theorem changed_of_apply {update}
    (differs : ((e.apply (e.diff update)).1.datapoint, (e.apply (e.diff update)).1.lagDatapoint,
        (e.apply (e.diff update)).1.metadata) ≠
      (e.datapoint, e.lagDatapoint, e.metadata)) :
    update.datapoint.isSome = true ∨
      ∃ allowed, e.Replaces update allowed ∧ allowed ≠ e.metadata.allowed := by
  cases isSet : update.datapoint with
  | some datapoint => exact .inl rfl
  | none =>
    refine .inr (by_contra fun keeps => differs ?_)
    have sameMetadata : (e.apply (e.diff update)).1.metadata = e.metadata := by
      by_cases replaced : ∃ allowed, e.Replaces update allowed
      · obtain ⟨allowed, replaces⟩ := replaced
        have same : allowed = e.metadata.allowed :=
          by_contra fun isOther => keeps ⟨allowed, replaces, isOther⟩
        rw [apply_metadata_of_replaces replaces, same]
      · exact apply_metadata_of_not_replaces (not_exists.mp replaced)
    rw [sameMetadata]
    simp [apply, diff, isSet]

end Entry

inductive RegistrationError where
  | validationError | permissionDenied | permissionExpired
  deriving DecidableEq

namespace Database

def update (database : Database) (permissions : Permissions) (now : Nat) (id : Int)
    (update : EntryUpdate) : Database × Except UpdateError (Finset Field) :=
  match database.entries id with
  | none => (database, .error .notFound)
  | some entry =>
    match permissions.checkUpdate now entry update with
    | .error error => (database, .error error)
    | .ok () =>
      ({ database with
        entries := Function.update database.entries id (some (entry.apply (entry.diff update)).1) },
        .ok (entry.apply (entry.diff update)).2)

def newEntry (now : Nat) (metadata : Metadata) (datapoint : Option Datapoint) : Entry where
  datapoint := datapoint.getD ⟨now, none, .notAvailable⟩
  lagDatapoint := datapoint.getD ⟨now, none, .notAvailable⟩
  actuatorTarget := none
  metadata := metadata

/-- A path that exists keeps its entry; the metadata comes without an id. -/
def add (isValidPath : String → Bool) (database : Database) (permissions : Permissions)
    (now : Nat) (metadata : Metadata) (datapoint : Option Datapoint) :
    Database × Except RegistrationError Int :=
  if isValidPath metadata.path = false then (database, .error .validationError)
  else match permissions.canCreate now metadata.path with
  | .error .denied => (database, .error .permissionDenied)
  | .error .expired => (database, .error .permissionExpired)
  | .ok () =>
    match database.pathToId metadata.path with
    | some id => (database, .ok id)
    | none =>
      match (newEntry now metadata datapoint).validateAllowedType metadata.allowed with
      | .error _ => (database, .error .validationError)
      | .ok () =>
        ({ nextId := (database.nextId + 1).bmod (2 ^ 32)
           pathToId := Function.update database.pathToId metadata.path database.nextId
           entries := Function.update database.entries database.nextId
            (newEntry now { metadata with id := database.nextId } datapoint) },
          .ok database.nextId)

theorem update_cases (db : Database) (permissions : Permissions) (now : Nat)
    (id : Int) (update : EntryUpdate) :
    (∃ error, db.update permissions now id update = (db, .error error)) ∨
      ∃ e, db.entries id = some e ∧ permissions.checkUpdate now e update = .ok () ∧
        db.update permissions now id update =
          ({ db with
            entries := Function.update db.entries id (some (e.apply (e.diff update)).1) },
            .ok (e.apply (e.diff update)).2) := by
  unfold Database.update
  cases st : db.entries id with
  | none => exact .inl ⟨_, rfl⟩
  | some e =>
    cases checked : permissions.checkUpdate now e update with
    | error error => exact .inl ⟨error, by simp [checked]⟩
    | ok => exact .inr ⟨e, rfl, checked, by simp [checked]⟩

/-! ## Permissions -/

/-- An update changes what the permissions cover, and a refused one nothing. -/
def Authorized (database : Database) (permissions : Permissions) (now : Nat) (id : Int)
    (update : EntryUpdate) : Prop :=
  (∀ other entry after, database.entries other = some entry →
      (database.update permissions now id update).1.entries other = some after →
      ((after.datapoint, after.lagDatapoint, after.metadata) ≠
          (entry.datapoint, entry.lagDatapoint, entry.metadata) →
        permissions.isExpired now = false ∧
          permissions.provide.isMatch entry.metadata.path = true) ∧
      (after.actuatorTarget ≠ entry.actuatorTarget → permissions.isExpired now = false ∧
          permissions.actuate.isMatch entry.metadata.path = true)) ∧
    ∀ error, (database.update permissions now id update).2 = .error error →
      (database.update permissions now id update).1 = database

/-- Only a change of the allowed values is not covered by the checks. -/
theorem authorized_iff (database : Database) (permissions : Permissions) (now : Nat)
    (id : Int) (update : EntryUpdate) :
    database.Authorized permissions now id update ↔
      ∀ entry allowed, database.entries id = some entry →
        permissions.checkUpdate now entry update = .ok () →
        entry.Replaces update allowed → allowed ≠ entry.metadata.allowed →
        permissions.isExpired now = false ∧
          permissions.provide.isMatch entry.metadata.path = true := by
  constructor
  · intro authorized entry allowed stored checked replaces differs
    have applied : (database.update permissions now id update).1.entries id =
        some (entry.apply (entry.diff update)).1 := by
      simp [Database.update, stored, checked]
    refine (authorized.1 id entry _ stored applied).1 fun same => differs ?_
    rw [apply_metadata_of_replaces replaces] at same
    exact congrArg (fun fields => fields.2.2.allowed) same
  · intro covered
    rcases database.update_cases permissions now id update with ⟨error, refused⟩ |
      ⟨found, isStored, checked, applied⟩
    · simp only [Authorized, refused, implies_true, and_true]
      intro other entry after stored isAfter
      cases stored.symm.trans isAfter
      exact ⟨fun differs => absurd rfl differs, fun differs => absurd rfl differs⟩
    · obtain ⟨ofDatapoint, ofTarget, -⟩ := granted_of_checkUpdate checked
      simp only [Authorized, applied, reduceCtorEq, false_imp_iff, implies_true, and_true]
      intro other entry after stored isAfter
      by_cases isUpdated : other = id
      · subst isUpdated
        cases stored.symm.trans isStored
        rw [Function.update_self, some.injEq] at isAfter
        subst isAfter
        refine ⟨fun differs => ?_, fun differs => ofTarget ?_⟩
        · rcases changed_of_apply differs with isSet | ⟨allowed, replaces, isOther⟩
          · exact ofDatapoint isSet
          · exact covered found allowed stored checked replaces isOther
        · cases isSet : update.actuatorTarget with
          | none => simp [apply, isSet] at differs
          | some target => rfl
      · rw [Function.update_of_ne isUpdated] at isAfter
        cases stored.symm.trans isAfter
        exact ⟨fun differs => absurd rfl differs, fun differs => absurd rfl differs⟩

/-- Whoever has no permission at all may allow any gear. -/
theorem nobody_replaces_allowed : ∃ after, (update { entries := fun _ => some gear }
        ⟨none, .nothing, .nothing, .nothing, .nothing⟩ 0 0
        { allowed := some none }).1.entries 0 = some after ∧
      after.metadata.allowed = none ∧ gear.metadata.allowed ≠ none ∧
      ¬Database.Authorized { entries := fun _ => some gear }
        ⟨none, .nothing, .nothing, .nothing, .nothing⟩ 0 0 { allowed := some none } := by
  refine ⟨_, rfl, rfl, nofun, fun authorized => ?_⟩
  have granted := (authorized.1 0 gear _ rfl rfl).1 fun same => by
    cases congrArg (fun fields => fields.2.2.allowed) same
  cases granted.2

end Database

/-! ## Stored values -/

namespace Entry

def Admits (entry : Entry) (value : DataValue) : Prop :=
  value = .notAvailable ∨ entry.validateStored value = .ok ()

/-- Floating point numbers have no other meaning of the bounds than the checks, which compare
them with the tolerance of the broker. -/
def Conforms (entry : Entry) (value : DataValue) : Prop :=
  entry.Admits value ∧ (entry.metadata.dataType.isFloating = false → entry.metadata.Accepts value)

structure Sound (entry : Entry) : Prop where
  typed : entry.validateAllowedType entry.metadata.allowed = .ok ()
  datapoint : entry.Admits entry.datapoint.value
  actuatorTarget : ∀ target, entry.actuatorTarget = some target → entry.Admits target.value

variable {e o : Entry} {value : DataValue}

theorem Sound.conforms (sound : e.Sound) (admits : e.Admits value) : e.Conforms value := by
  refine ⟨admits, fun notFloating => ?_⟩
  rcases admits with isNone | ok
  · exact .inl isNone
  · by_cases available : value = .notAvailable
    · exact .inl available
    · exact (validateStored_eq_ok notFloating sound.typed available).mp ok

theorem Admits.of_metadata (same : o.metadata = e.metadata) (admits : e.Admits value) :
    o.Admits value := by
  obtain ⟨_, _, _, metadata⟩ := o
  cases same
  exact admits

theorem valid_of_validate {update} (valid : e.validate update = .ok ()) :
    (∀ datapoint, update.datapoint = some datapoint → e.Admits datapoint.value) ∧
      (∀ target, update.actuatorTarget = some (some target) → e.Admits target.value) ∧
      ∀ ok, e.Replaces update ok → e.validateAllowedType ok = .ok () := by
  simp only [validate, bind_eq_ok_unit] at valid
  obtain ⟨ofDatapoint, ofTarget, ofAllowed⟩ := valid
  refine ⟨fun datapoint isSet => .inr ?_, fun target isSet => .inr ?_, fun ok replaces => ?_⟩
  · simpa [isSet] using ofDatapoint
  · simpa [isSet] using ofTarget
  · cases ok with
    | none => rfl
    | some ok => simpa [replaces.1, replaces.2] using ofAllowed

theorem validateAllowedType_of_metadata {ok} (same : o.metadata.dataType = e.metadata.dataType)
    (typed : e.validateAllowedType ok = .ok ()) :
    o.validateAllowedType ok = .ok () := by
  unfold validateAllowedType at typed ⊢
  rw [same]
  exact typed

def withAllowed (entry : Entry) (allowed : Option DataValue) : Entry :=
  { entry with metadata := { entry.metadata with allowed } }

def Leaves (entry : Entry) (update : EntryUpdate) (point : Datapoint) : Prop :=
  point = (entry.diff update).datapoint.getD entry.datapoint ∨
    some point = update.actuatorTarget.getD entry.actuatorTarget

theorem Sound.apply {update} (sound : e.Sound) (valid : e.validate (e.diff update) = .ok ())
    (keepsAllowed : ∀ allowed, e.Replaces update allowed → ∀ point, e.Leaves update point →
        (e.withAllowed allowed).Admits point.value) :
    (e.apply (e.diff update)).1.Sound := by
  obtain ⟨ofDatapoint, ofTarget, ofAllowed⟩ := valid_of_validate valid
  have admits : ∀ point, e.Leaves update point →
      (e.apply (e.diff update)).1.Admits point.value := by
    intro point isLeft
    by_cases replaced : ∃ allowed, e.Replaces update allowed
    · obtain ⟨allowed, replaces⟩ := replaced
      have same : (e.apply (e.diff update)).1.metadata =
          (e.withAllowed allowed).metadata := apply_metadata_of_replaces replaces
      exact (keepsAllowed allowed replaces point isLeft).of_metadata same
    · refine .of_metadata (apply_metadata_of_not_replaces (not_exists.mp replaced)) ?_
      rcases isLeft with rfl | isTarget
      · cases isSet : (e.diff update).datapoint with
        | none => exact sound.datapoint
        | some datapoint => exact ofDatapoint datapoint isSet
      · cases isSet : update.actuatorTarget with
        | none => exact sound.actuatorTarget point (by simpa [isSet] using isTarget.symm)
        | some target =>
          refine ofTarget point ?_
          rw [diff_actuatorTarget, isSet]
          simpa [isSet] using isTarget.symm
  refine ⟨?_, admits _ (.inl rfl), fun target isTarget => admits target (.inr ?_)⟩
  · by_cases replaced : ∃ allowed, e.Replaces update allowed
    · obtain ⟨allowed, replaces⟩ := replaced
      rw [apply_metadata_of_replaces replaces]
      refine validateAllowedType_of_metadata ?_ (ofAllowed allowed ?_)
      · rw [apply_metadata_of_replaces replaces]
      · exact ⟨(diff_allowed e update).trans replaces.1, replaces.2⟩
    · have same := apply_metadata_of_not_replaces (not_exists.mp replaced)
      rw [same]
      exact validateAllowedType_of_metadata (congrArg Metadata.dataType same) sound.typed
  · rw [← isTarget]
    simp [Entry.apply]

end Entry

namespace Database

inductive WriteCall where
  | add (permissions : Permissions) (now : Nat) (metadata : Metadata) (datapoint : Option Datapoint)
  | update (permissions : Permissions) (now : Nat) (id : Int) (update : EntryUpdate)

def call (isValidPath : String → Bool) (database : Database) : WriteCall → Option Database
  | .add permissions now metadata datapoint =>
    some (database.add isValidPath permissions now metadata datapoint).1
  | .update permissions now id update => some (database.update permissions now id update).1

/-- A new entry starts with a value it admits, and allowed values are not taken away from
the values an entry holds. -/
def KeepsAdmitted (database : Database) : WriteCall → Prop
  | .add _ now metadata datapoint =>
    (newEntry now metadata datapoint).Admits (newEntry now metadata datapoint).datapoint.value
  | .update _ _ id update => ∀ entry allowed, database.entries id = some entry →
    entry.Replaces update allowed → ∀ point, entry.Leaves update point →
      (entry.withAllowed allowed).Admits point.value

theorem sound_of_call {isValidPath : String → Bool} {db s' : Database}
    {writes : WriteCall} (sound : ∀ id e, db.entries id = some e → e.Sound)
    (keeps : db.KeepsAdmitted writes)
    (taken : db.call isValidPath writes = some s') (id : Int) (e : Entry)
    (st : s'.entries id = some e) : e.Sound := by
  cases writes with
  | add permissions now metadata datapoint =>
    obtain rfl := some.inj taken
    unfold add at st
    split at st
    · exact sound id e st
    · split at st
      · exact sound id e st
      · exact sound id e st
      · split at st
        · exact sound id e st
        · split at st
          · exact sound id e st
          next typed =>
            refine of_update_some Entry.Sound ⟨?_, ?_, ?_⟩ (sound id e) st
            · exact validateAllowedType_of_metadata rfl typed
            · exact keeps
            · intro target isTarget
              cases isTarget
  | update permissions now target update =>
    obtain rfl := some.inj taken
    rcases db.update_cases permissions now target update with ⟨error, refused⟩ |
      ⟨found, isStored, checked, applied⟩
    · rw [refused] at st
      exact sound id e st
    · rw [applied] at st
      refine of_update_some Entry.Sound ?_ (sound id e) st
      exact (sound target found isStored).apply (granted_of_checkUpdate checked).2.2
        fun ok => keeps found ok isStored

/-- The value and the target of every entry conform to its type, its bounds and its allowed
values. -/
theorem reachable_values_conform (isValidPath : String → Bool) {database : Database}
    (reachable : ((ofStep {} (call isValidPath)).restrict
      KeepsAdmitted).Reachable database)
    {id : Int} {entry : Entry} (stored : database.entries id = some entry) :
    entry.Conforms entry.datapoint.value ∧
      ∀ target, entry.actuatorTarget = some target → entry.Conforms target.value := by
  have sound : entry.Sound := by
    refine reachable.invariant (fun database => ∀ id entry,
      database.entries id = some entry → entry.Sound) ?_ ?_ id entry stored
    · rintro _ rfl id entry ⟨⟩
    · intro before writes after sound step
      exact sound_of_call sound step.1 step.2
  exact ⟨sound.conforms sound.datapoint,
    fun target isTarget => sound.conforms (sound.actuatorTarget target isTarget)⟩

def everything : Permissions := ⟨none, .everything, .everything, .everything, .everything⟩

theorem first_gear_conforms :
    ∃ database entry, ((ofStep {} (call fun _ => true)).restrict
        KeepsAdmitted).Reachable database ∧
      database.entries 0 = some entry ∧ entry.datapoint.ts = 1 ∧
      entry.Conforms entry.datapoint.value := by
  have added := (.initial rfl : ((ofStep {} (call fun _ => true)).restrict
    KeepsAdmitted).Reachable {}).allowedStep (.add everything 0 gear.metadata none)
    (.inl rfl) rfl
  have updated := added.allowedStep (.update everything 1 0
    { datapoint := some ⟨1, none, .int32 ⟨1, by decide⟩⟩ }) (fun _ _ _ => nofun) rfl
  have stored : ∃ database, ((ofStep {} (call fun _ => true)).restrict
      KeepsAdmitted).Reachable database ∧
      ∃ entry, database.entries 0 = some entry ∧ entry.datapoint.ts = 1 :=
    ⟨_, updated, _, rfl, rfl⟩
  obtain ⟨database, reachable, entry, isStored, isLatest⟩ := stored
  exact ⟨database, entry, reachable, isStored, isLatest,
    (reachable_values_conform (fun _ => true) reachable isStored).1⟩

/-- A value stays although it is no longer allowed, and a first value is not checked. -/
theorem forbidden_gear_stays : ∃ database narrowed added,
      (ofStep {} (call fun _ => true)).Reachable database ∧
      database.entries 0 = some narrowed ∧ ¬narrowed.Conforms narrowed.datapoint.value ∧
      database.entries 1 = some added ∧ ¬added.Conforms added.datapoint.value := by
  have ends : ∃ database narrowed added, run (call fun _ => true) {}
        [.add everything 0 gear.metadata none,
          .update everything 1 0 { datapoint := some ⟨1, none, .int32 ⟨1, by decide⟩⟩ },
          .update everything 2 0 { allowed := some (some (.int32Array [])) },
          .add everything 3 { gear.metadata with path := "Vehicle.Other" }
            (some ⟨3, none, .int32 ⟨300, by decide⟩⟩)] = some database ∧
      database.entries 0 = some narrowed ∧ database.entries 1 = some added ∧
      narrowed.validateStored narrowed.datapoint.value = .error .outOfBoundsAllowed ∧
      added.validateStored added.datapoint.value = .error .outOfBoundsMinMax ∧
      narrowed.datapoint.value = .int32 ⟨1, by decide⟩ ∧
      added.datapoint.value = .int32 ⟨300, by decide⟩ :=
    ⟨_, _, _, rfl, rfl, rfl, rfl, rfl, rfl, rfl⟩
  obtain ⟨database, narrowed, added, ends, isNarrowed, isAdded, refused, alsoRefused, isFirst,
    isOther⟩ := ends
  refine ⟨database, narrowed, added, .run (.initial rfl) ends, isNarrowed, ?_, isAdded, ?_⟩
  · rintro ⟨isNone | ok, -⟩
    · cases isFirst.symm.trans isNone
    · cases refused.symm.trans ok
  · rintro ⟨isNone | ok, -⟩
    · cases isOther.symm.trans isNone
    · cases alsoRefused.symm.trans ok

/-! ## The index -/

/-- The index leads to the entries of its paths, which have the ids given so far. -/
structure Indexed (database : Database) : Prop where
  agrees : ∀ path id, database.pathToId path = some id ↔
    ∃ entry, database.entries id = some entry ∧ path = entry.metadata.path
  identified : ∀ id entry, database.entries id = some entry →
    entry.metadata.id = id ∧ id < database.nextId
  counts : 0 ≤ database.nextId

/-- The counter of the ids has not reached its last value, and so does not wrap around. -/
def IdsLeft (database : Database) (_ : WriteCall) : Prop := database.nextId < 2 ^ 31 - 1

instance (database : Database) (writes : WriteCall) : Decidable (database.IdsLeft writes) :=
  Int.decLt _ _

theorem Indexed.call {isValidPath : String → Bool} {db s' : Database} {writes : WriteCall}
    (indexed : db.Indexed) (idsLeft : db.IdsLeft writes)
    (taken : db.call isValidPath writes = some s') : s'.Indexed := by
  cases writes with
  | add permissions now metadata datapoint =>
    obtain rfl := some.inj taken
    unfold add
    split
    · exact indexed
    split
    · exact indexed
    · exact indexed
    split
    · exact indexed
    next isNew =>
    split
    · exact indexed
    have unknown : ∀ id, ¬ ∃ e, db.entries id = some e ∧ metadata.path = e.metadata.path := by
      intro id known
      cases isNew.symm.trans ((indexed.agrees _ id).mpr known)
    have fresh : ∀ e, db.entries db.nextId ≠ some e := fun e st =>
      lt_irrefl _ (indexed.identified _ e st).2
    have counts := indexed.counts
    have next : (db.nextId + 1).bmod (2 ^ 32) = db.nextId + 1 := by
      rw [IdsLeft] at idsLeft
      exact Int.bmod_eq_of_le (by omega) (by omega)
    rw [next]
    refine ⟨fun path id => ?_, (Function.forall_update_iff _ fun id (stored : Option Entry) =>
      ∀ e, stored = some e → e.metadata.id = id ∧ id < db.nextId + 1).mpr ⟨?_, ?_⟩,
      Int.le_add_one counts⟩
    · rw [exists_update_some]
      dsimp only
      rw [Function.update_apply]
      split_ifs with isPath isId isId
      · simp [isPath, isId, newEntry]
      · simp [isPath, unknown, Ne.symm isId]
      · simp [isId, newEntry, isPath, indexed.agrees, fresh]
      · exact indexed.agrees path id
    · rintro _ ⟨⟩
      exact ⟨rfl, Int.lt_succ _⟩
    · intro id _ e st
      obtain ⟨isId, isGiven⟩ := indexed.identified id e st
      exact ⟨isId, isGiven.trans (Int.lt_succ _)⟩
  | update permissions now target update =>
    obtain rfl := some.inj taken
    rcases db.update_cases permissions now target update with ⟨error, refused⟩ |
      ⟨e, isStored, -, applied⟩
    · rw [refused]
      exact indexed
    rw [applied]
    have same : (e.apply (e.diff update)).1.metadata.id = e.metadata.id ∧
        (e.apply (e.diff update)).1.metadata.path = e.metadata.path := by
      by_cases replaced : ∃ allowed, e.Replaces update allowed
      · obtain ⟨allowed, replaces⟩ := replaced
        rw [apply_metadata_of_replaces replaces]
        exact ⟨rfl, rfl⟩
      · rw [apply_metadata_of_not_replaces (not_exists.mp replaced)]
        exact ⟨rfl, rfl⟩
    refine ⟨fun path id => (indexed.agrees path id).trans ?_, (Function.forall_update_iff _
      fun id (stored : Option Entry) => ∀ e, stored = some e → e.metadata.id = id ∧
        id < db.nextId).mpr ⟨?_, fun id _ => indexed.identified id⟩, indexed.counts⟩
    · refine (exists_update_some_iff isStored ?_).symm
      rw [same.2]
    · rintro _ ⟨⟩
      rw [same.1]
      exact indexed.identified target e isStored

/-- Every entry is found by its path, carries its id, and shares its path with no other. -/
theorem reachable_index_agrees {isValidPath : String → Bool} {database : Database}
    (reachable : ((ofStep {} (call isValidPath)).restrict IdsLeft).Reachable database) :
    (∀ path id, database.pathToId path = some id ↔
      ∃ entry, database.entries id = some entry ∧ path = entry.metadata.path) ∧
    ∀ id entry, database.entries id = some entry → entry.metadata.id = id ∧
      ∀ other second, database.entries other = some second →
        second.metadata.path = entry.metadata.path → other = id := by
  have indexed : database.Indexed := reachable.preserves ⟨by simp, by simp, le_refl _⟩ Indexed.call
  refine ⟨indexed.agrees, fun id entry stored => ⟨(indexed.identified id entry stored).1, ?_⟩⟩
  intro other second alsoStored samePath
  have found := (indexed.agrees entry.metadata.path id).mpr ⟨entry, stored, rfl⟩
  have foundOther := (indexed.agrees entry.metadata.path other).mpr
    ⟨second, alsoStored, samePath.symm⟩
  exact some.inj (foundOther.symm.trans found)

/-- The second of two entries; a path that is added again keeps its entry. -/
theorem added_gear_found : ∃ database : Database,
    ((ofStep {} (call fun _ => true)).restrict IdsLeft).Reachable database ∧
    (∃ entry, database.entries 1 = some entry ∧ "Vehicle.Gear" = entry.metadata.path ∧
      entry.metadata.id = 1) ∧ database.nextId = 2 := by
  have added : ∃ database : Database,
      ((ofStep {} (call fun _ => true)).restrict IdsLeft).Reachable database ∧
      database.pathToId "Vehicle.Gear" = some 1 ∧ database.nextId = 2 :=
    exists_restricted [.add everything 0 { gear.metadata with path := "Vehicle.Other" } none,
      .add everything 1 gear.metadata none, .add everything 2 gear.metadata none] ⟨_, rfl, rfl, rfl⟩
  obtain ⟨database, reachable, found, isNext⟩ := added
  obtain ⟨agrees, identified⟩ := reachable_index_agrees reachable
  obtain ⟨entry, stored, isPath⟩ := (agrees "Vehicle.Gear" 1).mp found
  exact ⟨database, reachable, ⟨entry, stored, isPath, (identified 1 entry stored).1⟩, isNext⟩

end Database

end ScoreIntegration.Databroker
