import ScoreIntegration.Memory.RegionMapSafety

/-!
# Capacity of the map of known regions

A version can be overwritten if its count is zero or the initial one.  A reader that fails
to acquire a marked version leaves its increment behind, which stays if the update is
rejected.
-/

namespace ScoreIntegration.Memory

open Concurrency ReaderPhase Function TransitionSystem

/-- The version that the writer has acquired and not yet released. -/
def WriterPhase.owned : WriterPhase → Option Version
  | .copying _ version => some version
  | .changing _ version => some version
  | .releasing version => some version
  | _ => none

/-- The process of the reader terminates, or is about to. -/
def ReaderPhase.Fatal : ReaderPhase → Prop
  | .checking _ _ _ _ previousRefcount =>
    previousRefcount = invalidRefCountIntervalStart - 1 ∨
      previousRefcount = invalidRefCountIntervalEnd
  | .terminated => True
  | _ => False

/-- The count of a version, the readers that hold it, and whether the writer owns it.
Only a version that is owned counts readers that have failed. -/
structure Tally (refcount holders : Nat) (owned : Prop) : Prop where
  valid : refcount < invalidRefCountIntervalStart → refcount = holders
  marked : invalidRefCountIntervalStart ≤ refcount →
    holders = 0 ∧ refcount ≤ invalidRefCountIntervalEnd
  raised : invalidRefCountIntervalStart < refcount → owned
  owned : owned → invalidRefCountIntervalStart ≤ refcount

namespace Tally

variable {refcount holders later : Nat} {before owned : Prop}

theorem unowned (tally : Tally refcount holders before) (was : ¬ before) (is : ¬ owned) :
    Tally refcount holders owned :=
  ⟨tally.valid, tally.marked, fun above => absurd (tally.raised above) was,
    fun isOwned => absurd isOwned is⟩

theorem mark (tally : Tally 0 holders before) (isOwned : owned) :
    Tally invalidRefCountIntervalStart holders owned :=
  ⟨fun below => absurd below (Nat.lt_irrefl _),
    fun _ => ⟨(tally.valid (by decide)).symm, by decide⟩, fun _ => isOwned,
    fun _ => Nat.le_refl _⟩

theorem release (tally : Tally refcount holders before) (was : before) (is : ¬ owned) :
    Tally 0 holders owned :=
  ⟨fun _ => (tally.marked (tally.owned was)).1.symm, fun above => absurd above (by decide),
    fun above => absurd above (by decide), fun isOwned => absurd isOwned is⟩

theorem increment (tally : Tally refcount holders owned)
    (notLast : refcount ≠ invalidRefCountIntervalStart - 1 ∧ refcount ≠ invalidRefCountIntervalEnd)
    (isOwned : invalidRefCountIntervalStart ≤ refcount → owned)
    (held : later = holders + if refcount < invalidRefCountIntervalStart - 1 then 1 else 0) :
    Tally ((refcount + 1) % 2 ^ 32) later owned := by
  have startIs : invalidRefCountIntervalStart = 2 ^ 31 - 1 := by decide
  have endIs : invalidRefCountIntervalEnd = 2 ^ 32 - 1 := by decide
  obtain ⟨valid, marked, raised, owned⟩ := tally
  constructor <;> grind

theorem leave (tally : Tally refcount holders owned) (held : later + 1 = holders) :
    Tally ((refcount + (2 ^ 32 - 1)) % 2 ^ 32) later owned := by
  have startIs : invalidRefCountIntervalStart = 2 ^ 31 - 1 := by decide
  obtain ⟨valid, marked, raised, owned⟩ := tally
  constructor <;> grind

end Tally

namespace MemoryRegionMap

variable {readerCount : Nat} {map s' : MemoryRegionMap readerCount} {reader : Fin readerCount}
  {version : Version}

def Available (map : MemoryRegionMap readerCount) (version : Version) : Prop :=
  map.refcounts version = 0 ∨ map.refcounts version = initialRefCountValue

/-- An update that is called now acquires the version behind the latest one. -/
def Acquires (map : MemoryRegionMap readerCount) (update : RegionUpdate) : Prop :=
  ∃ steps after, TransitionSystem.run step map
      (.call update :: List.replicate steps (.write false)) = some after ∧
    after.writer = acquired update (versionIdx map.latest 1)

/-- No update is rejected after a reader has tried its version, and no reader tries a
marked version that the writer does not work on. -/
def Undisturbed (map : MemoryRegionMap readerCount) : RegionMapStep readerCount → Prop
  | .write _ => ∀ region version iterator,
      map.writer = .changing (.updateKnownRegion region) version →
      insertRegion (map.knownRegionsVersions version) region = some iterator →
      doesRegionIteratorOverlap iterator → map.refcounts version = invalidRefCountIntervalStart
  | .read reader => ∀ address since retryCount version,
      map.readers reader = .incrementing address since retryCount version →
      invalidRefCountIntervalStart ≤ map.refcounts version → map.writer.owned = some version
  | _ => True

def Accounted (map : MemoryRegionMap readerCount) (version : Version) : Prop :=
  Tally (map.refcounts version) (map.count (·.holds version)) (map.writer.owned = some version)

theorem owned_acquired (update : RegionUpdate) :
    (acquired update version).owned = some version := by
  cases update <;> rfl

theorem owned_nextRound (update : RegionUpdate) (n loopIdx : Nat) :
    (nextRound update n loopIdx).owned = none := by
  unfold nextRound
  split_ifs <;> rfl

theorem accounted_of_update {changed refcount}
    (refcounts : s'.refcounts = update map.refcounts changed refcount)
    (here : version = changed → Tally refcount (s'.count (·.holds version))
      (s'.writer.owned = some version))
    (elsewhere : version ≠ changed → Tally (map.refcounts version) (s'.count (·.holds version))
      (s'.writer.owned = some version)) : s'.Accounted version := by
  rw [Accounted, refcounts, update_apply]
  split
  next same => exact here same
  next differ => exact elsewhere differ

theorem Accounted.change (accounted : map.Accounted version) {update changed failsSpuriously}
    (isChanging : map.writer = .changing update changed)
    (undisturbed : map.Undisturbed (.write failsSpuriously)) :
    (map.change changed update).writer = .terminated ∨
      (map.change changed update).Accounted version := by
  unfold Accounted at accounted
  rw [isChanging] at accounted
  cases update with
  | updateKnownRegion r =>
    rw [MemoryRegionMap.change]
    split
    · exact .inl rfl
    next iterator inserted =>
      refine .inr ?_
      split
      next overlaps =>
        have untouched := undisturbed r changed iterator isChanging inserted overlaps
        refine ⟨accounted.valid, accounted.marked, fun above => ?_, (by cases ·)⟩
        cases accounted.raised above
        exact absurd untouched above.ne'
      next => exact accounted
  | removeKnownRegion startAddress =>
    rw [MemoryRegionMap.change]
    split
    · exact .inl rfl
    · exact .inr accounted
  | clearKnownRegions => exact .inr accounted

theorem Accounted.write (accounted : map.Accounted version) {failsSpuriously}
    (undisturbed : map.Undisturbed (.write failsSpuriously))
    (taken : map.write failsSpuriously = some s') :
    s'.writer = .terminated ∨ s'.Accounted version := by
  have limits : 0 < invalidRefCountIntervalStart ∧
    invalidRefCountIntervalStart ≤ invalidRefCountIntervalEnd := by decide
  have tally := accounted
  unfold Accounted at tally
  unfold MemoryRegionMap.write at taken
  split at taken
  · cases taken
  · cases taken
  next update n loopIdx isScanning =>
    rw [isScanning] at tally
    dsimp only at taken
    split_ifs at taken with unused initial <;> cases taken <;> refine .inr ?_
    · exact tally
    · refine ⟨tally.valid, tally.marked, fun above => absurd (tally.raised above) nofun,
        fun isOwned => ?_⟩
      cases (owned_acquired update).symm.trans isOwned
      exact initial.ge
    · rw [Accounted, owned_nextRound]
      exact tally
  next update n loopIdx exchanged isExchanging =>
    rw [isExchanging] at tally
    split_ifs at taken with unused <;> cases taken
    · refine .inr (accounted_of_update rfl (fun same => ?_) fun differ => ?_)
      · rw [same, unused.1] at tally
        exact same ▸ tally.mark (owned_acquired update)
      · refine tally.unowned nofun fun isOwned => differ ?_
        exact Option.some.inj (isOwned.symm.trans (owned_acquired update))
    · rw [Accounted, owned_nextRound]
      exact .inr tally
  next update copied isCopying =>
    cases taken
    rw [isCopying] at tally
    exact .inr tally
  next update changed isChanging =>
    cases taken
    exact accounted.change isChanging undisturbed
  next released isReleasing =>
    cases taken
    rw [isReleasing] at tally
    refine .inr (accounted_of_update rfl (fun same => ?_) fun differ => ?_)
    · exact tally.release (congrArg some same.symm) nofun
    · exact tally.unowned (fun isOwned => differ (Option.some.inj isOwned).symm) nofun
  next published isPublishing =>
    cases taken
    rw [isPublishing] at tally
    exact .inr tally

theorem Accounted.setReader {phase} (accounted : map.Accounted version)
    (sameHolds : phase.holds version = (map.readers reader).holds version) :
    (map.setReader reader phase).Accounted version := by
  have held := map.count_setReader reader phase (·.holds version)
  rw [sameHolds] at held
  rw [Accounted, Nat.add_right_cancel held]
  exact accounted

theorem Accounted.read (accounted : map.Accounted version)
    (undisturbed : map.Undisturbed (.read reader)) (taken : map.read reader = some s') :
    (s'.readers reader).Fatal ∨ s'.Accounted version := by
  unfold MemoryRegionMap.read at taken
  split at taken
  · cases taken
  · cases taken
  next addr since n isLoading =>
    cases taken
    exact .inr (accounted.setReader (isLoading ▸ rfl))
  next addr since n counted isIncrementing =>
    cases taken
    by_cases fatal : (checking addr since n counted (map.refcounts counted)).Fatal
    · exact .inl (by simpa [MemoryRegionMap.setReader] using fatal)
    refine .inr (accounted_of_update rfl (fun same => ?_) fun differ => ?_)
    · subst same
      have held := map.count_setReader reader
        (.checking addr since n version (map.refcounts version)) (·.holds version)
      simp only [isIncrementing, holds_incrementing, holds_checking, beq_self_eq_true,
        Bool.true_and, decide_eq_true_eq, Bool.false_eq_true, if_false] at held
      exact Tally.increment accounted (not_or.mp fatal) (undisturbed _ _ _ _ isIncrementing) held
    · refine accounted.setReader ?_
      simp [isIncrementing, Ne.symm differ]
  next addr since n counted previousRefcount isChecking =>
    cases taken
    exact .inr (accounted.setReader (isChecking ▸ holds_checkRefcount ..))
  next addr since counted isHolding =>
    split at taken <;> cases taken
    · exact .inl (by simp [MemoryRegionMap.setReader, Fatal])
    · exact .inr (accounted.setReader (isHolding ▸ rfl))
  next addr since counted ans isLeaving =>
    cases taken
    refine .inr (accounted_of_update rfl (fun same => ?_) fun differ => ?_)
    · subst same
      have held := map.count_setReader reader .idle (·.holds version)
      simp only [isLeaving, holds_leaving, holds_idle, beq_self_eq_true, Bool.false_eq_true,
        if_true, if_false] at held
      exact Tally.leave accounted held
    · refine accounted.setReader ?_
      simp [isLeaving, Ne.symm differ]

/-! ## Runs -/

def Ended (map : MemoryRegionMap readerCount) : Prop :=
  map.writer = .terminated ∨ ∃ reader, (map.readers reader).Fatal

theorem fatal_setReader {o phase} (fatal : (map.readers reader).Fatal)
    (moved : (map.readers o).Fatal → phase.Fatal) :
    ((map.setReader o phase).readers reader).Fatal := by
  change (update map.readers o phase reader).Fatal
  rw [update_apply]
  split
  next same => exact moved (same ▸ fatal)
  · exact fatal

theorem Ended.step {label} (ended : map.Ended) (taken : map.step label = some s') : s'.Ended := by
  rcases ended with terminated | ⟨reader, fatal⟩
  · refine .inl ?_
    cases label with
    | call update => simp [MemoryRegionMap.step, terminated] at taken
    | write failsSpuriously =>
      simp [MemoryRegionMap.step, MemoryRegionMap.write, terminated] at taken
    | getBoundsFromAddress reader addr => grind [MemoryRegionMap.step, MemoryRegionMap.setReader]
    | read reader =>
      rw [MemoryRegionMap.step, MemoryRegionMap.read] at taken
      grind [MemoryRegionMap.setReader]
  · refine .inr ⟨reader, ?_⟩
    cases label with
    | call update => grind [MemoryRegionMap.step]
    | write failsSpuriously =>
      rw [MemoryRegionMap.step, MemoryRegionMap.write] at taken
      unfold MemoryRegionMap.change at taken
      grind [setRegions]
    | getBoundsFromAddress o addr =>
      rw [MemoryRegionMap.step] at taken
      split at taken
      next isIdle =>
        cases taken
        exact fatal_setReader fatal (isIdle ▸ False.elim)
      · cases taken
    | read o =>
      rw [MemoryRegionMap.step, MemoryRegionMap.read] at taken
      split at taken
      · cases taken
      · cases taken
      next isLoading =>
        cases taken
        exact fatal_setReader fatal (isLoading ▸ False.elim)
      next isIncrementing =>
        cases taken
        exact fatal_setReader fatal (isIncrementing ▸ False.elim)
      next isChecking =>
        cases taken
        refine fatal_setReader fatal (isChecking ▸ fun isFatal => ?_)
        unfold Fatal at isFatal
        rw [checkRefcount, if_pos isFatal]
        trivial
      next isHolding =>
        split at taken <;> cases taken
        · exact fatal_setReader fatal (isHolding ▸ False.elim)
        · exact fatal_setReader fatal (isHolding ▸ False.elim)
      next isLeaving =>
        cases taken
        exact fatal_setReader fatal (isLeaving ▸ False.elim)

def Kept (map : MemoryRegionMap readerCount) : Prop := map.Ended ∨ ∀ version, map.Accounted version

theorem Kept.step {label} (kept : map.Kept) (undisturbed : map.Undisturbed label)
    (taken : map.step label = some s') : s'.Kept := by
  rcases kept with ended | accounted
  · exact .inl (ended.step taken)
  refine or_iff_not_imp_left.mpr fun running version => ?_
  have accounted := accounted version
  cases label with
  | call update =>
    simp only [MemoryRegionMap.step] at taken
    split at taken
    next isIdle =>
      cases taken
      rw [Accounted, isIdle] at accounted
      exact accounted
    · cases taken
  | write failsSpuriously =>
    exact (accounted.write undisturbed taken).resolve_left fun ends => running (.inl ends)
  | getBoundsFromAddress reader addr =>
    simp only [MemoryRegionMap.step] at taken
    split at taken
    next isIdle =>
      cases taken
      exact accounted.setReader (isIdle ▸ rfl)
    · cases taken
  | read reader =>
    exact (accounted.read undisturbed taken).resolve_left fun fatal =>
      running (.inr ⟨reader, fatal⟩)

theorem kept_start (readerCount : Nat) : (start readerCount).Kept := by
  refine .inr fun version => ?_
  have nobody : (start readerCount).count (·.holds version) = 0 :=
    (count_eq_zero_iff ..).mpr fun _ => rfl
  rw [Accounted, nobody, start]
  dsimp only
  split
  · exact ⟨fun _ => rfl, by decide, fun above => absurd above (by decide), (by cases ·)⟩
  · exact ⟨by decide, by decide, fun above => absurd above (by decide), (by cases ·)⟩

/-- In a run in which nobody disturbs a version that stays marked, every version can be
overwritten whenever no operation is in progress, and the next update acquires one. -/
theorem reachable_available {map : MemoryRegionMap readerCount}
    (reachable : ((system readerCount).restrict Undisturbed).Reachable map)
    (writerIdle : map.writer = .idle) (readersIdle : ∀ reader, map.readers reader = .idle) :
    (∀ version ≠ map.latest, map.Available version) ∧ ∀ update, map.Acquires update := by
  have kept : map.Kept := reachable.preserves (kept_start readerCount) Kept.step
  have available : ∀ version, map.Available version := by
    intro version
    rcases kept with (terminated | ⟨reader, fatal⟩) | accounted
    · cases writerIdle.symm.trans terminated
    · rw [readersIdle] at fatal
      cases fatal
    have nobody : map.count (·.holds version) = 0 :=
      (count_eq_zero_iff ..).mpr fun reader => readersIdle reader ▸ rfl
    rcases Nat.lt_trichotomy (map.refcounts version) invalidRefCountIntervalStart with
      valid | isStart | above
    · exact .inl (((accounted version).valid valid).trans nobody)
    · exact .inr isStart
    · have busy := (accounted version).raised above
      rw [writerIdle] at busy
      cases busy
  refine ⟨fun version _ => available version, fun update => ?_⟩
  rcases available (versionIdx map.latest 1) with unused | initial
  · refine ⟨2, { map with
        refcounts :=
          Function.update map.refcounts (versionIdx map.latest 1) invalidRefCountIntervalStart
        writer := acquired update (versionIdx map.latest 1) }, ?_, rfl⟩
    simp [run, step, writerIdle, write, unused]
  · refine ⟨1, { map with writer := acquired update (versionIdx map.latest 1) }, ?_, rfl⟩
    have nonzero : initialRefCountValue ≠ 0 := by decide
    simp [run, step, writerIdle, write, initial, nonzero]

/-- A region is published, looked up, and then an overlapping one is rejected. -/
theorem available_after_rejection : ∃ map : MemoryRegionMap 1,
    ((system 1).restrict Undisturbed).Reachable map ∧
      map.published = [[], [⟨16, 24⟩]] ∧ map.answers = [⟨20, 1, 2, some ⟨16, 24⟩⟩] ∧
      map.knownRegionsVersions 2 = [⟨16, 24⟩, ⟨20, 28⟩] ∧
      (∀ version ≠ map.latest, map.Available version) ∧ ∀ update, map.Acquires update := by
  have idle : ((system 1).restrict Undisturbed).Reachable (start 1) := .initial rfl
  have called := idle.allowedStep (.call (.updateKnownRegion ⟨16, 24⟩)) trivial rfl
  have acquired := called.allowedStep (.write false) (fun _ _ _ => nofun) rfl
  have copied := acquired.allowedStep (.write false) (fun _ _ _ => nofun) rfl
  have inserted := copied.allowedStep (.write false) (by
    rintro _ _ _ ⟨⟩ _ _
    rfl) rfl
  have released := inserted.allowedStep (.write false) (fun _ _ _ => nofun) rfl
  have published := released.allowedStep (.write false) (fun _ _ _ => nofun) rfl
  have looking := published.allowedStep (.getBoundsFromAddress 0 20) trivial rfl
  have loaded := looking.allowedStep (.read 0) (fun _ _ _ _ => nofun) rfl
  have counted := loaded.allowedStep (.read 0) (by
    rintro _ _ _ _ ⟨⟩ marked
    exact absurd marked (by decide)) rfl
  have holding := counted.allowedStep (.read 0) (fun _ _ _ _ => nofun) rfl
  have found := holding.allowedStep (.read 0) (fun _ _ _ _ => nofun) rfl
  have answered := found.allowedStep (.read 0) (fun _ _ _ _ => nofun) rfl
  have calledAgain := answered.allowedStep (.call (.updateKnownRegion ⟨20, 28⟩)) trivial rfl
  have acquiredNext := calledAgain.allowedStep (.write false) (fun _ _ _ => nofun) rfl
  have copiedNext := acquiredNext.allowedStep (.write false) (fun _ _ _ => nofun) rfl
  have rejected := copiedNext.allowedStep (.write false) (by
    rintro _ _ _ ⟨⟩ _ _
    rfl) rfl
  exact ⟨_, rejected, rfl, rfl, rfl, reachable_available rejected rfl fun reader => by
    rw [Subsingleton.elim reader 0]
    rfl⟩

/-- A reader has loaded the first version.  Nine updates later that version is acquired,
and the update is rejected after the reader has tried the version. -/
def rejectedUpdate : List (RegionMapStep 1) :=
  [.getBoundsFromAddress (Fin.last 0) 20, .read (Fin.last 0)] ++
    (List.range 9).flatMap (fun round => updateOnce ⟨16 * (round + 1), 16 * (round + 1) + 8⟩) ++
    [.call (.updateKnownRegion ⟨20, 24⟩), .write false, .write false, .read (Fin.last 0),
      .write false, .write false] ++ List.replicate 6 (.read (Fin.last 0))

theorem rejectedUpdate_leaks_version : ∃ map : MemoryRegionMap 1, (system 1).Reachable map ∧
    map.writer = .idle ∧ (∀ reader, map.readers reader = .idle) ∧
      0 ≠ map.latest ∧ ¬ map.Available 0 := by
  refine exists_reachable rejectedUpdate ⟨_, rfl, rfl, ?_, ?_, ?_⟩
  · intro reader
    rw [Subsingleton.elim reader 0]
    rfl
  · decide
  · unfold Available
    decide

end MemoryRegionMap

end ScoreIntegration.Memory
