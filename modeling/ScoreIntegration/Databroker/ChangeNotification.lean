import ScoreIntegration.Databroker.ChangeSubscription

/-!
# What a change notification tells

The map of the changed fields keeps, for each id, the fields of the last update that set any.
A subscription is told all changes of a call if those include the earlier ones.
-/

namespace ScoreIntegration.Databroker

open List Entry ChangeSubscription Database Finset Option

namespace ChangeSubscription

variable (subscription : ChangeSubscription) (database : Database) (now : Nat)
  (changed : Int → Finset Field) (providerFeedback : Bool)

def itemOf (item : Int × Finset Field) : Option ChangeNotification :=
  if Disjoint item.2 (changed item.1) then none
  else (database.getEntryById subscription.permissions now item.1).toOption.map fun entry =>
    entry.notification item.1 (item.2 ∩ changed item.1) entry.metadata.unit providerFeedback

variable {subscription database now}

theorem collect_eq {entries}
    (unexpired : ∀ item ∈ entries, database.getEntryById subscription.permissions now item.1 ≠
      .error .permissionExpired) :
    subscription.collect database now changed providerFeedback entries =
      some (entries.filterMap (subscription.itemOf database now changed providerFeedback)) := by
  induction entries with
  | nil => rfl
  | cons item entries ih =>
    obtain ⟨isUnexpired, rest⟩ := forall_mem_cons.mp unexpired
    rw [collect, ih rest, filterMap_cons, itemOf]
    split
    · rfl
    · cases read : database.getEntryById subscription.permissions now item.1 with
      | ok e => rfl
      | error error =>
        cases error with
        | permissionExpired => exact absurd read isUnexpired
        | _ => rfl

theorem notify_sent (noInterval : subscription.intervalDuration = none)
    (unexpired : ∀ item ∈ subscription.entries,
      database.getEntryById subscription.permissions now item.1 ≠ .error .permissionExpired) :
    (subscription.notify database now changed providerFeedback).sent =
      subscription.sent ++ [subscription.entries.filterMap
        (subscription.itemOf database now changed providerFeedback)].filter (· ≠ []) := by
  rw [notify, noInterval, collect_eq changed providerFeedback unexpired]
  cases subscription.entries.filterMap
    (subscription.itemOf database now changed providerFeedback) with
  | nil => simp
  | cons first rest => simp [send]

theorem MayRead.getEntryById (mayRead : subscription.MayRead database now)
    {id fields} (isIn : (id, fields) ∈ subscription.entries) :
    (database.getEntryById subscription.permissions now id).toOption = database.entries id ∧
      database.getEntryById subscription.permissions now id ≠ .error .permissionExpired := by
  unfold Database.getEntryById
  cases st : database.entries id with
  | none => exact ⟨rfl, nofun⟩
  | some e =>
    simp only [mayRead id fields e isIn st]
    exact ⟨rfl, nofun⟩

theorem mem_items (mayRead : subscription.MayRead database now) {item} :
    item ∈ subscription.entries.filterMap
        (subscription.itemOf database now changed providerFeedback) ↔
      ∃ id fields e, (id, fields) ∈ subscription.entries ∧ ¬Disjoint fields (changed id) ∧
        database.entries id = some e ∧
        e.notification id (fields ∩ changed id) e.metadata.unit providerFeedback = item := by
  simp only [List.mem_filterMap, Prod.exists, itemOf]
  refine exists_congr fun id => exists_congr fun fields => ?_
  rw [exists_and_left]
  refine and_congr_right fun isIn => ?_
  rw [(mayRead.getEntryById isIn).1]
  simp

end ChangeSubscription

def EntryUpdate.sets (update : EntryUpdate) : Field → Bool
  | .datapoint => update.datapoint.isSome
  | .actuatorTarget => update.actuatorTarget.isSome
  | .metadataUnit => false

def EntryUpdate.setsAny (update : EntryUpdate) : Bool :=
  update.sets .datapoint || update.sets .actuatorTarget

namespace Entry

variable (permissions : Permissions) (now : Nat)

/-- The accepted updates, as far as they differ from the entry that each of them meets. -/
def accepted (entry : Entry) : List EntryUpdate → List (Entry × EntryUpdate)
  | [] => []
  | update :: updates =>
    match permissions.checkUpdate now entry update with
    | .error _ => accepted entry updates
    | .ok () => (entry, entry.diff update) :: accepted (entry.apply (entry.diff update)).1 updates

theorem mem_apply_iff (e : Entry) (update : EntryUpdate) (field : Field) :
    field ∈ (e.apply update).2 ↔ update.sets field = true := by
  cases datapoint : update.datapoint.isSome <;> cases target : update.actuatorTarget.isSome <;>
    cases field <;> simp [apply, EntryUpdate.sets, datapoint, target]

theorem apply_eq_empty_iff (e : Entry) (update : EntryUpdate) :
    (e.apply update).2 = ∅ ↔ update.setsAny = false := by
  cases datapoint : update.datapoint.isSome <;> cases target : update.actuatorTarget.isSome <;>
    simp only [apply, EntryUpdate.setsAny, EntryUpdate.sets, datapoint, target] <;> decide

theorem changes_eq (e : Entry) (list : List EntryUpdate) :
    (e.changes permissions now list).2 = ((e.accepted permissions now list).filter
      (·.2.setsAny)).map fun accepted => (accepted.1.apply accepted.2).2 := by
  induction list generalizing e with
  | nil => rfl
  | cons update rest ih =>
    cases checked : permissions.checkUpdate now e update with
    | error error => simp [changes, Entry.update, accepted, checked, ih]
    | ok =>
      simp only [changes, Entry.update, accepted, checked, ih, apply_eq_empty_iff,
        List.filter_cons]
      cases (e.diff update).setsAny <;> rfl

end Entry

namespace Broker

variable (broker : Broker) (permissions : Permissions) (now : Nat)
  (updates : List (Int × EntryUpdate))

/-- An accepted update of the call stores another value of the field. -/
def Changed (id : Int) (field : Field) : Prop :=
  ∃ entry accepted, broker.database.entries id = some entry ∧
    accepted ∈ entry.accepted permissions now (updatesOf id updates) ∧
    (accepted.1.apply accepted.2).1.stored field ≠ accepted.1.stored field

/-- The last accepted update of an id that sets anything sets the field. -/
def SetLast (id : Int) (field : Field) : Prop :=
  ∃ entry accepted, broker.database.entries id = some entry ∧
    accepted ∈ ((entry.accepted permissions now (updatesOf id updates)).filter
      (·.2.setsAny)).getLast? ∧
    accepted.2.sets field = true

def IsSubscribed (uuid : Nat) (subscription : ChangeSubscription) : Prop :=
  broker.changeSubscriptions uuid = some subscription ∧ subscription.intervalDuration = none ∧
    subscription.MayRead broker.database now

def Notifies (providerFeedback : Bool) : Prop :=
  ∀ uuid subscription, broker.IsSubscribed now uuid subscription →
    (∃ id field, subscription.Subscribes id field ∧
      broker.Changed permissions now updates id field) →
    ∃ after notification,
      (broker.updateEntries permissions now updates providerFeedback).1.changeSubscriptions uuid =
        some after ∧
      after.sent = subscription.sent ++ [notification] ∧
      ∀ id field, subscription.Subscribes id field →
        broker.Changed permissions now updates id field →
        ∃ item ∈ notification, ∃ entry,
          (broker.updateEntries permissions now updates providerFeedback).1.database.entries id =
            some entry ∧
          item.id = id ∧ field ∈ item.fields ∧ item.update.told field = entry.stored field

variable {broker permissions now updates}

theorem setLast_iff {id field} : broker.SetLast permissions now updates id field ↔
      field ∈ (broker.database.updateEntries permissions now updates).changed id := by
  rw [(broker.database.updateEntries_spec permissions now updates id).2, SetLast]
  cases broker.database.entries id with
  | none => simp
  | some e =>
    rw [elim_some, changes_eq, getLastD_eq_getLast?, getLast?_map]
    generalize isLast : ((e.accepted permissions now (updatesOf id updates)).filter
      (·.2.setsAny)).getLast? = last
    rcases last with _ | ⟨_, _⟩ <;> simp [mem_apply_iff, -getLast?_filter, isLast]

theorem IsSubscribed.sent {uuid sub}
    (subscribed : broker.IsSubscribed now uuid sub) (permissions : Permissions)
    (updates : List (Int × EntryUpdate)) (providerFeedback : Bool) :
    ∃ s' items,
      (broker.updateEntries permissions now updates providerFeedback).1.changeSubscriptions uuid =
        some s' ∧
      s'.sent = sub.sent ++ [items].filter (· ≠ []) ∧
      ∀ item, item ∈ items ↔ ∃ id fields e, (id, fields) ∈ sub.entries ∧
        ¬Disjoint fields ((broker.database.updateEntries permissions now updates).changed id) ∧
        (broker.database.updateEntries permissions now updates).database.entries id = some e ∧
        e.notification id
            (fields ∩ (broker.database.updateEntries permissions now updates).changed id)
            e.metadata.unit providerFeedback = item := by
  have mayRead :
      sub.MayRead (broker.database.updateEntries permissions now updates).database now := by
    intro id fields e isIn st
    rw [(broker.database.updateEntries_spec permissions now updates id).1] at st
    obtain ⟨pre, isBefore, rfl⟩ := map_eq_some_iff.mp st
    rw [changes_path]
    exact subscribed.2.2 id fields pre isIn isBefore
  refine ⟨_, _, congrArg (Option.map _) subscribed.1, notify_sent _ _
    subscribed.2.1 fun item isIn => (mayRead.getEntryById isIn).2, fun item => ?_⟩
  exact mem_items _ _ mayRead

/-- The subscribers are told what has changed exactly if no change of theirs is followed by
another update of the same id that sets something else only. -/
theorem notifies_iff (broker : Broker) (permissions : Permissions) (now : Nat)
    (updates : List (Int × EntryUpdate)) (providerFeedback : Bool) :
    broker.Notifies permissions now updates providerFeedback ↔
      ∀ uuid subscription, broker.IsSubscribed now uuid subscription →
        ∀ id field, subscription.Subscribes id field →
          broker.Changed permissions now updates id field →
          broker.SetLast permissions now updates id field := by
  constructor
  · intro notifies uuid subscription subscribed id field subscribes changed
    obtain ⟨after, items, isAfter, sent, mem⟩ :=
      subscribed.sent permissions updates providerFeedback
    obtain ⟨_, notification, isAfter', sent', tells⟩ :=
      notifies uuid subscription subscribed ⟨id, field, subscribes, changed⟩
    cases isAfter.symm.trans isAfter'
    obtain ⟨item, isIn, entry, -, isId, told, -⟩ := tells id field subscribes changed
    have isItem : item ∈ items := by
      have same := List.append_cancel_left (sent.symm.trans sent')
      have member : notification ∈ [items].filter (· ≠ []) := by
        rw [same]
        exact List.mem_singleton_self _
      rw [List.mem_singleton.mp (List.mem_of_mem_filter member)] at isIn
      exact isIn
    obtain ⟨other, fields, stored, -, -, -, rfl⟩ := (mem item).mp isItem
    obtain rfl : other = id := isId
    rw [setLast_iff]
    exact (mem_inter.mp (mem_inter.mp told).1).2
  · intro keeps uuid subscription subscribed ⟨id, field, subscribes, changed⟩
    obtain ⟨after, items, isAfter, sent, mem⟩ :=
      subscribed.sent permissions updates providerFeedback
    have tells : ∀ id field, subscription.Subscribes id field →
        broker.Changed permissions now updates id field →
        ∃ item ∈ items, ∃ entry,
          (broker.updateEntries permissions now updates providerFeedback).1.database.entries id =
            some entry ∧
          item.id = id ∧ field ∈ item.fields ∧ item.update.told field = entry.stored field := by
      rintro id field ⟨fields, isIn, isField⟩ changed
      have isLast := setLast_iff.mp
        (keeps uuid subscription subscribed id field ⟨fields, isIn, isField⟩ changed)
      obtain ⟨entry, accepted, stored, -, differs⟩ := changed
      have isStored : field ∈ ({.datapoint, .actuatorTarget} : Finset Field) := by
        cases field with
        | metadataUnit => exact absurd rfl differs
        | _ => decide
      have both := mem_inter.mpr ⟨isField, isLast⟩
      have isAfterwards := (broker.database.updateEntries_spec permissions now updates id).1
      rw [stored, map_some] at isAfterwards
      have overlap := not_disjoint_iff.mpr ⟨field, isField, isLast⟩
      refine ⟨_, (mem _).mpr ⟨id, fields, _, isIn, overlap, isAfterwards, rfl⟩, _, isAfterwards,
        rfl, ?_, ?_⟩
      · exact mem_inter.mpr ⟨both, isStored⟩
      · rw [told_notification, if_pos both]
    obtain ⟨item, isIn, -⟩ := tells id field subscribes changed
    refine ⟨after, items, isAfter, ?_, tells⟩
    rw [sent, List.filter_cons_of_pos]
    · rfl
    · simpa using List.ne_nil_of_mem isIn

/-- A gear that is measured and then requested in one call is not told as measured. -/
theorem measured_gear_not_told : ¬Notifies ⟨{ entries := fun _ => some gear },
        fun _ => some ⟨[(0, {.datapoint})], everything, none, 0, []⟩⟩
      everything 0
      [(0, { datapoint := some ⟨1, none, .int32 ⟨1, by decide⟩⟩ }),
        (0, { actuatorTarget := some (some ⟨1, none, .int32 ⟨1, by decide⟩⟩) })] false := by
  intro notifies
  have mayRead : ChangeSubscription.MayRead ⟨[(0, {.datapoint})], everything, none, 0, []⟩
      { entries := fun _ => some gear } 0 := fun _ _ _ _ _ => rfl
  obtain ⟨after, notification, isAfter, sent, -⟩ := notifies 0 _ ⟨rfl, rfl, mayRead⟩
    ⟨0, .datapoint, ⟨_, .head _, by decide⟩, gear, _, rfl, .head _, nofun⟩
  cases isAfter
  cases sent

end Broker

end ScoreIntegration.Databroker
