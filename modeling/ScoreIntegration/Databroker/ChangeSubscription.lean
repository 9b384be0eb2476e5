import ScoreIntegration.Databroker.WriteAccess

/-!
# Change subscriptions

A subscription names fields of entries.  Its first notification tells all of them, a later
one what a call of `update_entries` has changed, as far as the subscriber may read it.
-/

namespace ScoreIntegration.Databroker

inductive ReadError where
  | notFound | permissionDenied | permissionExpired
  deriving DecidableEq

def ReadError.ofPermission : PermissionError → ReadError
  | .denied => .permissionDenied
  | .expired => .permissionExpired

namespace Database

variable (database : Database) (permissions : Permissions) (now : Nat)

def getEntryById (id : Int) : Except ReadError Entry :=
  match database.entries id with
  | none => .error .notFound
  | some entry =>
    match permissions.canRead now entry.metadata.path with
    | .ok () => .ok entry
    | .error error => .error (.ofPermission error)

/-- The subscriptions see the database as the whole call has left it. -/
structure Written where
  database : Database
  changed : Int → Finset Field := fun _ => ∅
  errors : List (Int × UpdateError) := []

/-- An id without changed fields is not in the map of the changed ones. -/
def Written.next (written : Written) (item : Int × EntryUpdate) : Written :=
  match written.database.update permissions now item.1 item.2 with
  | (database, .ok fields) =>
    { written with
      database
      changed := if fields = ∅ then written.changed
        else Function.update written.changed item.1 fields }
  | (database, .error error) =>
    { written with database, errors := written.errors ++ [(item.1, error)] }

def updateEntries (updates : List (Int × EntryUpdate)) : Written :=
  updates.foldl (Written.next permissions now) { database }

end Database

structure ChangeNotification where
  id : Int
  update : EntryUpdate
  fields : Finset Field
  providerFeedback : Bool

def Entry.notification (entry : Entry) (id : Int) (fields : Finset Field) (unit : Option String)
    (providerFeedback : Bool) : ChangeNotification where
  id := id
  update := {
    path := some entry.metadata.path
    datapoint := if .datapoint ∈ fields then some entry.datapoint else none
    actuatorTarget := if .actuatorTarget ∈ fields then some entry.actuatorTarget else none
    unit := unit }
  fields := fields ∩ {.datapoint, .actuatorTarget}
  providerFeedback := providerFeedback

/-- The hash map of the entries has no order; its list is in the order of an iteration. -/
structure ChangeSubscription where
  entries : List (Int × Finset Field)
  permissions : Permissions
  intervalDuration : Option Nat := none
  lastEmitted : Nat := 0
  sent : List (List ChangeNotification) := []

namespace ChangeSubscription

variable (subscription : ChangeSubscription) (database : Database) (now : Nat)

/-- There is no notification at all once the permissions have expired. -/
def collect (changed : Int → Finset Field) (providerFeedback : Bool) :
    List (Int × Finset Field) → Option (List ChangeNotification)
  | [] => some []
  | (id, fields) :: entries =>
    if Disjoint fields (changed id) then collect changed providerFeedback entries
    else match database.getEntryById subscription.permissions now id with
    | .ok entry => (collect changed providerFeedback entries).map
        (entry.notification id (fields ∩ changed id) entry.metadata.unit providerFeedback :: ·)
    | .error .permissionExpired => none
    | .error _ => collect changed providerFeedback entries

def send (updates : List ChangeNotification) : ChangeSubscription :=
  { subscription with lastEmitted := now, sent := subscription.sent ++ [updates] }

def notify (changed : Int → Finset Field) (providerFeedback : Bool) : ChangeSubscription :=
  if subscription.intervalDuration.any fun duration =>
      decide (now - subscription.lastEmitted < duration) then subscription
  else match subscription.collect database now changed providerFeedback subscription.entries with
  | none | some [] => subscription
  | some updates => subscription.send now updates

def notifyInitial : ChangeSubscription :=
  subscription.send now (subscription.entries.filterMap fun item =>
    (database.getEntryById subscription.permissions now item.1).toOption.map
      (·.notification item.1 item.2 none false))

def Subscribes (id : Int) (field : Field) : Prop :=
  ∃ fields, (id, fields) ∈ subscription.entries ∧ field ∈ fields

/-- The entries that are there may be read. -/
def MayRead : Prop :=
  ∀ id fields entry, (id, fields) ∈ subscription.entries → database.entries id = some entry →
    subscription.permissions.canRead now entry.metadata.path = .ok ()

end ChangeSubscription

structure Broker where
  database : Database
  changeSubscriptions : Nat → Option ChangeSubscription

def Broker.updateEntries (broker : Broker) (permissions : Permissions) (now : Nat)
    (updates : List (Int × EntryUpdate)) (providerFeedback : Bool) :
    Broker × Except (List (Int × UpdateError)) Unit :=
  let written := broker.database.updateEntries permissions now updates
  ({ database := written.database
     changeSubscriptions := fun uuid => (broker.changeSubscriptions uuid).map
      (·.notify written.database now written.changed providerFeedback) },
    if written.errors = [] then .ok () else .error written.errors)

/-! ## One entry -/

namespace Entry

variable (permissions : Permissions) (now : Nat)

def update (entry : Entry) (update : EntryUpdate) : Entry × Except UpdateError (Finset Field) :=
  match permissions.checkUpdate now entry update with
  | .error error => (entry, .error error)
  | .ok () => ((entry.apply (entry.diff update)).1, .ok (entry.apply (entry.diff update)).2)

def changes (entry : Entry) : List EntryUpdate → Entry × List (Finset Field)
  | [] => (entry, [])
  | update :: updates =>
    let rest := changes (entry.update permissions now update).1 updates
    match (entry.update permissions now update).2 with
    | .ok fields => (rest.1, if fields = ∅ then rest.2 else fields :: rest.2)
    | .error _ => rest

def stored (entry : Entry) : Field → Option (Option Datapoint)
  | .datapoint => some (some entry.datapoint)
  | .actuatorTarget => some entry.actuatorTarget
  | .metadataUnit => none

end Entry

def EntryUpdate.told (update : EntryUpdate) : Field → Option (Option Datapoint)
  | .datapoint => update.datapoint.map some
  | .actuatorTarget => update.actuatorTarget
  | .metadataUnit => none

theorem Entry.told_notification (e : Entry) (id : Int) (fields : Finset Field)
    (unit : Option String) (providerFeedback : Bool) (field : Field) :
    (e.notification id fields unit providerFeedback).update.told field =
      if field ∈ fields then e.stored field else none := by
  cases field with
  | datapoint => simp only [notification, EntryUpdate.told, stored]; split <;> rfl
  | actuatorTarget => rfl
  | metadataUnit => simp [EntryUpdate.told, stored]

@[simp]
theorem Entry.update_path (perms : Permissions) (now : Nat) (e : Entry) (update : EntryUpdate) :
    (e.update perms now update).1.metadata.path = e.metadata.path := by
  unfold Entry.update
  split
  · rfl
  · simp only [apply]
    split
    · split <;> rfl
    · rfl

@[simp]
theorem Entry.changes_path (perms : Permissions) (now : Nat) (e : Entry)
    (updates : List EntryUpdate) :
    (e.changes perms now updates).1.metadata.path = e.metadata.path := by
  induction updates generalizing e with
  | nil => rfl
  | cons update updates ih =>
    rw [changes]
    split <;> simp [ih]

def updatesOf (id : Int) (updates : List (Int × EntryUpdate)) : List EntryUpdate :=
  (updates.filter (·.1 = id)).map Prod.snd

namespace Database

variable (database : Database) (perms : Permissions) (now : Nat)

theorem update_eq (id : Int) (update : EntryUpdate) : database.update perms now id update =
      match database.entries id with
      | none => (database, .error .notFound)
      | some e =>
        ({ database with
          entries := Function.update database.entries id (some (e.update perms now update).1) },
          (e.update perms now update).2) := by
  unfold Database.update Entry.update
  cases st : database.entries id with
  | none => rfl
  | some e =>
    cases checked : perms.checkUpdate now e update with
    | ok => simp [checked]
    | error error => simp [checked, ← st]

theorem updateEntries_spec (updates : List (Int × EntryUpdate)) (id : Int) :
    (database.updateEntries perms now updates).database.entries id = (database.entries id).map
          (fun e => (e.changes perms now (updatesOf id updates)).1) ∧
      (database.updateEntries perms now updates).changed id = (database.entries id).elim ∅
          (fun e => (e.changes perms now (updatesOf id updates)).2.getLastD ∅) := by
  have spec : ∀ written : Written,
      (updates.foldl (Written.next perms now) written).database.entries id =
          (written.database.entries id).map
            (fun e => (e.changes perms now (updatesOf id updates)).1) ∧
        (updates.foldl (Written.next perms now) written).changed id =
          (written.database.entries id).elim (written.changed id)
            (fun e => (e.changes perms now (updatesOf id updates)).2.getLastD
              (written.changed id)) := by
    induction updates with
    | nil =>
      intro written
      cases st : written.database.entries id <;> simp [updatesOf, Entry.changes, st]
    | cons item updates ih =>
      intro written
      rw [List.foldl_cons, (ih _).1, (ih _).2]
      by_cases isId : item.1 = id
      · subst isId
        cases st : written.database.entries item.1 with
        | none => simp [Written.next, update_eq, st]
        | some e =>
          cases res : (e.update perms now item.2).2 with
          | error => simp [Written.next, update_eq, st, res, updatesOf, Entry.changes]
          | ok fields =>
            by_cases isEmpty : fields = ∅ <;>
              simp [Written.next, update_eq, st, res, updatesOf, Entry.changes, isEmpty,
                List.getLast?_cons]
      · have others : updatesOf id (item :: updates) = updatesOf id updates := by
          simp [updatesOf, isId]
        rw [others]
        cases st : written.database.entries item.1 with
        | none => simp [Written.next, update_eq, st]
        | some e =>
          cases res : (e.update perms now item.2).2 with
          | error => simp [Written.next, update_eq, st, res, Ne.symm isId]
          | ok fields =>
            by_cases isEmpty : fields = ∅ <;>
              simp [Written.next, update_eq, st, res, isEmpty, Ne.symm isId]
  exact spec { database }

end Database

end ScoreIntegration.Databroker
