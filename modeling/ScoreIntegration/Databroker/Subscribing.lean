import ScoreIntegration.Databroker.ChangeNotification

/-!
# Subscribing while entries are updated

`update_entries` writes under the lock of the database, keeps it for reading and notifies
the registered subscriptions.  `subscribe` sends what it reads and registers its
subscription later.
-/

namespace ScoreIntegration.Databroker

open Concurrency Containers Function List Option Finset TransitionSystem Database Entry

theorem Entry.stored_of_update (perms : Permissions) (now : Nat) (e : Entry)
    (update : EntryUpdate) (field : Field) :
    (e.update perms now update).1.stored field = e.stored field ∨
      ∃ fields, (e.update perms now update).2 = .ok fields ∧ field ∈ fields := by
  unfold Entry.update
  split
  · exact .inl rfl
  · cases field with
    | datapoint =>
      cases isSet : (e.diff update).datapoint with
      | none => simp [stored, apply, isSet]
      | some => exact .inr ⟨_, rfl, by simp [apply, isSet]⟩
    | actuatorTarget =>
      cases isSet : update.actuatorTarget with
      | none => simp [stored, apply, isSet]
      | some => exact .inr ⟨_, rfl, by simp [apply, isSet]⟩
    | metadataUnit => exact .inl rfl

theorem Database.stored_of_updateEntries {db : Database} {perms : Permissions}
    {now : Nat} {updates : List (Int × EntryUpdate)} {id : Int} {e : Entry} {field : Field}
    (atMostOne : (updatesOf id updates).length ≤ 1)
    (isAfter : (db.updateEntries perms now updates).database.entries id = some e) :
    ∃ pre, db.entries id = some pre ∧ (e.stored field = pre.stored field ∨
      field ∈ (db.updateEntries perms now updates).changed id) := by
  obtain ⟨isEntry, isChanged⟩ := db.updateEntries_spec perms now updates id
  obtain ⟨pre, st, rfl⟩ := map_eq_some_iff.mp (isEntry.symm.trans isAfter)
  refine ⟨pre, st, ?_⟩
  rw [isChanged, st, elim_some]
  rcases isUpdates : updatesOf id updates with _ | ⟨update, _ | ⟨second, rest⟩⟩
  · exact .inl rfl
  · rcases pre.stored_of_update perms now update field with same | ⟨fields, ok, isIn⟩
    · left
      simp only [changes]
      split <;> exact same
    · right
      simp [changes, ok, ne_empty_of_mem isIn, isIn]
  · simp [isUpdates] at atMostOne

namespace ChangeSubscription

def lastTold (subscription : ChangeSubscription) (id : Int) (field : Field) :
    Option (Option Datapoint) :=
  (subscription.sent.flatten.filterMap fun item =>
    if item.id = id then item.update.told field else none).getLast?

def Current (items : List ChangeNotification) (database : Database) : Prop :=
  ∀ item ∈ items, ∃ entry, database.entries item.id = some entry ∧
    ∀ field, item.update.told field = none ∨ item.update.told field = entry.stored field

variable {subscription s' : ChangeSubscription} {database : Database} {id : Int} {field : Field}
  {items : List ChangeNotification} {e : Entry}

theorem lastTold_of_current (sent : s'.sent.flatten = subscription.sent.flatten ++ items)
    (cur : Current items database) (st : database.entries id = some e)
    (told : subscription.lastTold id field = e.stored field ∨
      ∃ item ∈ items, item.id = id ∧ item.update.told field = e.stored field ∧
        (e.stored field).isSome) : s'.lastTold id field = e.stored field := by
  have values : ∀ value ∈ items.filterMap fun item =>
      if item.id = id then item.update.told field else none, e.stored field = some value := by
    intro value isIn
    obtain ⟨item, isItem, isValue⟩ := mem_filterMap.mp isIn
    obtain ⟨rfl, isTold⟩ := ite_none_right_eq_some.mp isValue
    obtain ⟨found, isFound, ofField⟩ := cur item isItem
    cases st.symm.trans isFound
    rcases ofField field with isNone | same
    · cases isNone.symm.trans isTold
    · exact same.symm.trans isTold
  rw [lastTold, sent, filterMap_append, getLast?_append]
  cases isLast : (items.filterMap fun item =>
      if item.id = id then item.update.told field else none).getLast? with
  | some value => exact (values value (mem_of_getLast? isLast)).symm
  | none =>
    rcases told with told | ⟨item, isItem, isId, told, isStored⟩
    · exact told
    · obtain ⟨value, isValue⟩ := isSome_iff_exists.mp isStored
      have isIn : value ∈ items.filterMap fun item =>
          if item.id = id then item.update.told field else none :=
        mem_filterMap.mpr ⟨item, isItem, by rw [if_pos isId, told, isValue]⟩
      rw [getLast?_eq_none_iff.mp isLast] at isIn
      cases isIn

variable (subscription database) in
def UpToDate (pending : Int → Finset Field) : Prop :=
  ∀ id field entry, subscription.Subscribes id field → database.entries id = some entry →
    subscription.lastTold id field = entry.stored field ∨ field ∈ pending id

variable (subscription) in
def OfValues : Prop :=
  subscription.intervalDuration = none ∧
    ∀ id field, subscription.Subscribes id field → field ≠ .metadataUnit

theorem isSome_stored (isValue : field ≠ .metadataUnit) : (e.stored field).isSome = true := by
  cases field with
  | metadataUnit => exact absurd rfl isValue
  | _ => rfl

variable {now : Nat} {changed : Int → Finset Field}

theorem UpToDate.notify (upToDate : subscription.UpToDate database changed)
    (ofValues : subscription.OfValues) (mayRead : subscription.MayRead database now)
    (providerFeedback : Bool) :
    (subscription.notify database now changed providerFeedback).OfValues ∧
      (subscription.notify database now changed providerFeedback).UpToDate database fun _ => ∅ := by
  obtain ⟨sameEntries, sameInterval⟩ :
      (subscription.notify database now changed providerFeedback).entries = subscription.entries ∧
      (subscription.notify database now changed providerFeedback).intervalDuration =
        subscription.intervalDuration := by
    unfold ChangeSubscription.notify
    split
    · exact ⟨rfl, rfl⟩
    · split <;> exact ⟨rfl, rfl⟩
  have sent := notify_sent changed providerFeedback ofValues.1
    fun item isIn => (mayRead.getEntryById isIn).2
  set items := subscription.entries.filterMap
    (subscription.itemOf database now changed providerFeedback) with isItems
  have flattened : (subscription.notify database now changed providerFeedback).sent.flatten =
      subscription.sent.flatten ++ items := by
    rw [sent]
    cases items <;> simp
  have cur : Current items database := by
    intro item isIn
    obtain ⟨id, fields, e, -, -, st, rfl⟩ := (mem_items changed providerFeedback mayRead).mp isIn
    refine ⟨e, st, fun field => ?_⟩
    rw [told_notification]
    split
    · exact .inr rfl
    · exact .inl rfl
  simp only [OfValues, UpToDate, Subscribes, sameEntries, sameInterval]
  refine ⟨ofValues, fun id field e subscribes st => .inl ?_⟩
  refine lastTold_of_current flattened cur st ?_
  refine (upToDate id field e subscribes st).imp_right fun isChanged => ?_
  obtain ⟨fields, isIn, isField⟩ := subscribes
  refine ⟨_, (mem_items changed providerFeedback mayRead).mpr ⟨id, fields, e, isIn,
    not_disjoint_iff.mpr ⟨field, isField, isChanged⟩, st, rfl⟩, rfl, ?_,
    isSome_stored (ofValues.2 id field ⟨fields, isIn, isField⟩)⟩
  rw [told_notification, if_pos (mem_inter.mpr ⟨isField, isChanged⟩)]

theorem upToDate_notifyInitial (ofValues : subscription.OfValues)
    (mayRead : subscription.MayRead database now) :
    (subscription.notifyInitial database now).OfValues ∧
      (subscription.notifyInitial database now).UpToDate database fun _ => ∅ := by
  have flattened : (subscription.notifyInitial database now).sent.flatten =
      subscription.sent.flatten ++ subscription.entries.filterMap fun item =>
        (database.getEntryById subscription.permissions now item.1).toOption.map
          (·.notification item.1 item.2 none false) := by
    simp [notifyInitial, send]
  refine ⟨ofValues, fun id field e subscribes st => .inl ?_⟩
  refine lastTold_of_current flattened (fun item isIn => ?_) st (.inr ?_)
  · obtain ⟨told, isEntry, isItem⟩ := mem_filterMap.mp isIn
    rw [(mayRead.getEntryById isEntry).1] at isItem
    obtain ⟨e, st, rfl⟩ := map_eq_some_iff.mp isItem
    refine ⟨e, st, fun field => ?_⟩
    rw [told_notification]
    split
    · exact .inr rfl
    · exact .inl rfl
  · obtain ⟨fields, isIn, isField⟩ := subscribes
    refine ⟨e.notification id fields none false, mem_filterMap.mpr ⟨_, isIn, ?_⟩, rfl, ?_,
      isSome_stored (ofValues.2 id field ⟨fields, isIn, isField⟩)⟩
    · rw [(mayRead.getEntryById isIn).1, st]
      rfl
    · rw [told_notification, if_pos isField]

end ChangeSubscription

structure SubscribingBroker where
  database : Database
  /-- What the writer that still reads the database has to notify. -/
  notifying : Option ((Int → Finset Field) × Bool) := none
  subscribing : Nat → Option ChangeSubscription := fun _ => none
  registered : Nat → Option ChangeSubscription := fun _ => none

inductive CriticalSection where
  | write (permissions : Permissions) (now : Nat) (updates : List (Int × EntryUpdate))
      (providerFeedback : Bool)
  | notify (now : Nat)
  | snapshot (client : Nat) (entries : List (Int × Finset Field)) (permissions : Permissions)
      (now : Nat)
  | register (client : Nat)

namespace SubscribingBroker

def step (broker : SubscribingBroker) : CriticalSection → Option SubscribingBroker
  | .write permissions now updates providerFeedback =>
    match broker.notifying with
    | some _ => none
    | none =>
      let written := broker.database.updateEntries permissions now updates
      some { broker with
        database := written.database
        notifying := some (written.changed, providerFeedback) }
  | .notify now =>
    match broker.notifying with
    | none => none
    | some (changed, providerFeedback) =>
      some { broker with
        notifying := none
        registered := fun client => (broker.registered client).map
          (·.notify broker.database now changed providerFeedback) }
  | .snapshot client entries permissions now =>
    if entries = [] ∨ broker.subscribing client ≠ none ∨ broker.registered client ≠ none then none
    else
      some { broker with
        subscribing := Function.update broker.subscribing client
          (ChangeSubscription.notifyInitial { entries, permissions } broker.database now) }
  | .register client =>
    match broker.subscribing client with
    | none => none
    | some subscription =>
      some { broker with
        subscribing := Function.update broker.subscribing client none
        registered := Function.update broker.registered client (some subscription) }

/-- No update is written while a subscription is not yet registered, no id is updated twice
in a call, and the subscribers may read the values they subscribed to. -/
def InTurn (broker : SubscribingBroker) : CriticalSection → Prop
  | .write _ _ updates _ => (∀ client, broker.subscribing client = none) ∧
    ∀ id, (updatesOf id updates).length ≤ 1
  | .notify now => ∀ client subscription, broker.registered client = some subscription →
    subscription.MayRead broker.database now
  | .snapshot _ entries permissions now => ChangeSubscription.OfValues { entries, permissions } ∧
    ChangeSubscription.MayRead { entries, permissions } broker.database now
  | .register _ => True

def pending (broker : SubscribingBroker) : Int → Finset Field :=
  broker.notifying.elim (fun _ => ∅) Prod.fst

structure Consistent (broker : SubscribingBroker) : Prop where
  subscribing : ∀ client subscription, broker.subscribing client = some subscription →
    subscription.OfValues ∧ subscription.UpToDate broker.database fun _ => ∅
  registered : ∀ client subscription, broker.registered client = some subscription →
    subscription.OfValues ∧ subscription.UpToDate broker.database broker.pending

theorem Consistent.step {broker s' : SubscribingBroker} {taking : CriticalSection}
    (consistent : broker.Consistent) (inTurn : broker.InTurn taking)
    (taken : broker.step taking = some s') : s'.Consistent := by
  cases taking with
  | write perms now updates providerFeedback =>
    cases isFree : broker.notifying with
    | some _ => simp [SubscribingBroker.step, isFree] at taken
    | none =>
      simp only [SubscribingBroker.step, isFree, some.injEq] at taken
      subst taken
      refine ⟨fun c sub isIn => ?_, fun c sub isIn => ?_⟩
      · cases (inTurn.1 c).symm.trans isIn
      · obtain ⟨ofValues, upToDate⟩ := consistent.registered c sub isIn
        refine ⟨ofValues, fun id field e subscribes st => ?_⟩
        obtain ⟨pre, isBefore, same | changed⟩ := stored_of_updateEntries (inTurn.2 id) st
        · rw [same]
          refine .inl ((upToDate id field pre subscribes isBefore).resolve_right ?_)
          simp [pending, isFree]
        · exact .inr changed
  | notify now =>
    cases isNotifying : broker.notifying with
    | none => simp [SubscribingBroker.step, isNotifying] at taken
    | some changes =>
      simp only [SubscribingBroker.step, isNotifying, some.injEq] at taken
      subst taken
      refine ⟨consistent.subscribing, fun c sub isIn => ?_⟩
      obtain ⟨pre, isBefore, rfl⟩ := map_eq_some_iff.mp isIn
      obtain ⟨ofValues, upToDate⟩ := consistent.registered c pre isBefore
      simp only [pending, isNotifying] at upToDate
      exact upToDate.notify ofValues (inTurn c pre isBefore) _
  | snapshot c entries perms now =>
    obtain ⟨-, taken⟩ := ite_none_left_eq_some.mp taken
    cases taken
    refine ⟨fun o sub isIn => ?_, consistent.registered⟩
    exact of_update_some (fun sub : ChangeSubscription =>
        sub.OfValues ∧ sub.UpToDate broker.database fun _ => ∅)
      (ChangeSubscription.upToDate_notifyInitial inTurn.1 inTurn.2)
      (consistent.subscribing o sub) isIn
  | register c =>
    cases isIn : broker.subscribing c with
    | none => simp [SubscribingBroker.step, isIn] at taken
    | some sub =>
      simp only [SubscribingBroker.step, isIn, some.injEq] at taken
      subst taken
      refine ⟨fun o found isFound => ?_, fun o found isFound => ?_⟩
      · exact consistent.subscribing o found (of_update_none isFound)
      · obtain ⟨ofValues, upToDate⟩ := consistent.subscribing c sub isIn
        refine of_update_some (fun sub : ChangeSubscription =>
            sub.OfValues ∧ sub.UpToDate broker.database broker.pending)
          ⟨ofValues, fun id field e subscribes st => .inl ?_⟩
          (consistent.registered o found) isFound
        exact (upToDate id field e subscribes st).resolve_right (notMem_empty _)

def Finished (broker : SubscribingBroker) : Prop :=
  broker.notifying = none ∧ ∀ client, broker.subscribing client = none

/-- When no call is in progress, a subscriber has last been told the stored value. -/
theorem reachable_told_stored (database : Database) {broker : SubscribingBroker}
    (reachable : ((ofStep { database } step).restrict InTurn).Reachable broker)
    (finished : broker.Finished) {client : Nat} {subscription : ChangeSubscription}
    (registered : broker.registered client = some subscription) {id : Int} {field : Field}
    {entry : Entry} (subscribes : subscription.Subscribes id field)
    (stored : broker.database.entries id = some entry) :
    subscription.lastTold id field = entry.stored field := by
  have consistent : broker.Consistent := reachable.preserves
    ⟨fun _ _ isIn => (nomatch isIn), fun _ _ isIn => (nomatch isIn)⟩ Consistent.step
  have upToDate := (consistent.registered client subscription registered).2
  refine (upToDate id field entry subscribes stored).resolve_right ?_
  simp [pending, finished.1]

/-- The run of a subscriber to the gear and of one update of it. -/
def gear : Database := { entries := fun id => if id = 0 then some Entry.gear else none }

theorem firstGear_inRange : -2 ^ 31 ≤ (1 : Int) ∧ (1 : Int) ≤ 2 ^ 31 - 1 := by decide

def shift : CriticalSection :=
  .write Database.everything 1
    [(0, { datapoint := some ⟨1, none, .int32 ⟨1, firstGear_inRange⟩⟩ })] false

theorem registered_gear_told : ∃ broker subscription entry,
    ((ofStep { database := gear } step).restrict InTurn).Reachable broker ∧
      broker.registered 0 = some subscription ∧ broker.database.entries 0 = some entry ∧
      entry.datapoint.ts = 1 ∧
      subscription.lastTold 0 .datapoint = entry.stored .datapoint := by
  have mayRead : ∀ database now subscription, subscription.permissions = everything →
      ChangeSubscription.MayRead subscription database now := by
    intro database now subscription isEverything id fields entry isIn stored
    rw [isEverything]
    rfl
  have snapshot := (.initial rfl : ((ofStep { database := gear } step).restrict
    InTurn).Reachable { database := gear }).allowedStep
      (.snapshot 0 [(0, {.datapoint})] everything 0)
      ⟨⟨rfl, by simp [ChangeSubscription.Subscribes]⟩, mayRead _ _ _ rfl⟩ rfl
  have registered := snapshot.allowedStep (.register 0) trivial rfl
  have noneSubscribing : ∀ (first : Option ChangeSubscription) (client : Nat),
      update (update (fun _ => none) 0 first) 0 none client = none := by
    intro first client
    rw [update_idem]
    exact congrFun (update_eq_self 0 _) client
  have written := registered.allowedStep shift
    ⟨noneSubscribing _, fun id => (List.length_map _).trans_le (List.length_filter_le _ _)⟩ rfl
  have notified := written.allowedStep (.notify 1) (fun client subscription isIn => mayRead _ _ _
    (of_update_some (fun subscription : ChangeSubscription =>
      subscription.permissions = everything) rfl (by simp) isIn)) rfl
  have ends : ∃ broker,
      ((ofStep { database := gear } step).restrict InTurn).Reachable broker ∧
      broker.Finished ∧ ∃ subscription, broker.registered 0 = some subscription ∧
      subscription.Subscribes 0 .datapoint ∧
      ∃ entry, broker.database.entries 0 = some entry ∧ entry.datapoint.ts = 1 :=
    ⟨_, notified, ⟨rfl, noneSubscribing _⟩, _, rfl, ⟨_, .head _, by decide⟩, _, rfl, rfl⟩
  obtain ⟨broker, reachable, finished, subscription, isRegistered, subscribes, entry, stored,
    isLatest⟩ := ends
  exact ⟨broker, subscription, entry, reachable, isRegistered, stored, isLatest,
    reachable_told_stored gear reachable finished isRegistered subscribes stored⟩

/-- An update between the snapshot and the registration is lost. -/
theorem shift_while_subscribing_lost : ∃ broker subscription entry,
    (ofStep { database := gear } step).Reachable broker ∧ broker.Finished ∧
      broker.registered 0 = some subscription ∧ subscription.Subscribes 0 .datapoint ∧
      broker.database.entries 0 = some entry ∧
      subscription.lastTold 0 .datapoint ≠ entry.stored .datapoint := by
  have ends : ∃ broker, run step { database := gear }
        [.snapshot 0 [(0, {.datapoint})] everything 0, shift, .notify 1, .register 0] =
          some broker ∧ broker.notifying = none ∧
        broker.subscribing = update (update (fun _ => none) 0 _) 0 none ∧
        ∃ subscription entry, broker.registered 0 = some subscription ∧
        subscription.Subscribes 0 .datapoint ∧ broker.database.entries 0 = some entry ∧
        subscription.lastTold 0 .datapoint = some (some ⟨0, none, .notAvailable⟩) ∧
        entry.stored .datapoint = some (some ⟨1, none, .int32 ⟨1, by decide⟩⟩) :=
    ⟨_, rfl, rfl, rfl, _, _, rfl, ⟨_, .head _, by decide⟩, rfl, rfl, rfl⟩
  obtain ⟨broker, ends, isFree, isSubscribing, subscription, entry, isRegistered, subscribes,
    isStored, told, stored⟩ := ends
  refine ⟨broker, subscription, entry, .run (.initial rfl) ends, ⟨isFree, fun client => ?_⟩,
    isRegistered, subscribes, isStored, ?_⟩
  · rw [isSubscribing, update_idem]
    exact congrFun (update_eq_self 0 _) client
  · rw [told, stored]
    simp

end SubscribingBroker

end ScoreIntegration.Databroker
