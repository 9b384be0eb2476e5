import Mathlib.Data.Fintype.BigOperators
import ScoreIntegration.Memory.MemoryRegionMap

/-!
# Safety of the map of known regions

The count of an unmarked version is the number of readers that hold it, and nobody holds
a marked one.  A reader whose version was overwritten retries or holds what was published
last, unless it comes between the two stores that publish the version.
-/

namespace ScoreIntegration.Memory

open Concurrency ReaderPhase Function List Bool Nat
open Function (update_self)

theorem card_filter_update {ι α : Type} [Fintype ι] [DecidableEq ι] (members : ι → α)
    (test : α → Bool) (mem : ι) (changed : α) :
    (Finset.univ.filter fun o =>
        test (update members mem changed o)).card +
        (if test (members mem) then 1 else 0) =
      (Finset.univ.filter fun o => test (members o)).card + if test changed then 1 else 0 := by
  have asSum : ∀ assigned : ι → α, (Finset.univ.filter fun o => test (assigned o)).card =
        ∑ o, if test (assigned o) then 1 else 0 := by
    intro assigned
    rw [Finset.card_filter]
  have moved : (fun o => if test (update members mem changed o) then 1 else 0) =
      update (fun o => if test (members o) then 1 else 0) mem (if test changed then 1 else 0) := by
    funext o
    by_cases same : o = mem
    · rw [same, update_self, update_self]
    · rw [update_of_ne same, update_of_ne same]
  have others := Finset.sum_erase_add Finset.univ
    (fun o => if test (members o) then 1 else 0) (Finset.mem_univ mem)
  rw [asSum, asSum, moved, Finset.sum_update_of_mem (Finset.mem_univ mem),
    Finset.sdiff_singleton_eq_erase, ← others]
  omega

def ReaderPhase.holds (phase : ReaderPhase) (version : Version) : Bool :=
  match phase with
  | .checking _ _ _ counted previousRefcount =>
    counted == version && decide (previousRefcount < invalidRefCountIntervalStart - 1)
  | .holding _ _ counted => counted == version
  | .leaving _ _ counted _ => counted == version
  | _ => false

def ReaderPhase.hasLoaded (phase : ReaderPhase) (version : Version) : Bool :=
  match phase with
  | .incrementing _ _ _ loaded => loaded == version
  | _ => false

@[simp]
theorem ReaderPhase.holds_checking (addr since n : Nat) (counted : Version) (previousRefcount : Nat)
    (v : Version) :
    (checking addr since n counted previousRefcount).holds v =
      (counted == v && decide (previousRefcount < invalidRefCountIntervalStart - 1)) := rfl

@[simp]
theorem ReaderPhase.holds_incrementing (addr since n : Nat) (loaded v : Version) :
    (incrementing addr since n loaded).holds v = false := rfl

@[simp]
theorem ReaderPhase.holds_leaving
    (addr since : Nat) (counted : Version) (ans : Option MemoryRegion) (v : Version) :
    (leaving addr since counted ans).holds v = (counted == v) := rfl

@[simp]
theorem ReaderPhase.hasLoaded_checking
    (addr since n : Nat) (counted : Version) (previousRefcount : Nat)
    (v : Version) :
    (checking addr since n counted previousRefcount).hasLoaded v = false := rfl

@[simp]
theorem ReaderPhase.hasLoaded_incrementing (addr since n : Nat) (loaded v : Version) :
    (incrementing addr since n loaded).hasLoaded v = (loaded == v) := rfl

@[simp]
theorem ReaderPhase.hasLoaded_leaving
    (addr since : Nat) (counted : Version) (ans : Option MemoryRegion) (v : Version) :
    (leaving addr since counted ans).hasLoaded v = false := rfl

@[simp]
theorem ReaderPhase.holds_idle (v : Version) : idle.holds v = false := rfl

@[simp]
theorem ReaderPhase.hasLoaded_idle (v : Version) : idle.hasLoaded v = false := rfl

def WriterPhase.Modifies (phase : WriterPhase) (version : Version) : Prop :=
  match phase with
  | .copying _ overwritten => overwritten = version
  | .changing _ overwritten => overwritten = version
  | _ => False

def RegionUpdate.Proper : RegionUpdate → Prop
  | .updateKnownRegion region => region.Proper
  | _ => True

namespace MemoryRegionMap

variable {readerCount : Nat} {reader : Fin readerCount} {s' : MemoryRegionMap readerCount}
  {since address : Nat} {version : Version} {map : MemoryRegionMap readerCount}
  {more : List (List MemoryRegion)} {phase : ReaderPhase} {update : RegionUpdate}
  {answer : Option MemoryRegion} {refcount n : Nat}

section

variable (map : MemoryRegionMap readerCount)

def count (test : ReaderPhase → Bool) : Nat :=
  (Finset.univ.filter fun reader => test (map.readers reader)).card

/-- The version was the latest one at some time since. -/
def Fresh (since : Nat) (version : Version) : Prop :=
  ∃ index, since ≤ index ∧ map.published[index]? = some (map.knownRegionsVersions version)

def Answered (address since : Nat) (answer : Option MemoryRegion) : Prop :=
  ∃ index regions, since ≤ index ∧ map.published[index]? = some regions ∧
    boundsFromAddress regions address = some answer

/-- The version can be acquired and has been published. -/
def Settled (version : Version) : Prop :=
  map.refcounts version < invalidRefCountIntervalStart ∧ map.writer ≠ .publishing version

def ReaderOk : ReaderPhase → Prop
  | .idle => True
  | .terminated => True
  | .loading _ since _ => since < map.published.length
  | .incrementing _ since _ version =>
    since < map.published.length ∧ (map.Settled version → map.Fresh since version)
  | .checking _ since _ version previousRefcount =>
    since < map.published.length ∧
      (previousRefcount < invalidRefCountIntervalStart - 1 → map.Fresh since version)
  | .holding _ since version => map.Fresh since version
  | .leaving address since _ answer => map.Answered address since answer

def WriterOk : WriterPhase → Prop
  | .idle => True
  | .terminated => True
  | .scanning update _ loopIdx => update.Proper ∧ 0 < loopIdx ∧ loopIdx < versionCount
  | .exchanging update _ loopIdx version =>
    update.Proper ∧ 0 < loopIdx ∧ loopIdx < versionCount ∧ version ≠ map.latest
  | .copying update version => update.Proper ∧ invalidRefCountIntervalStart ≤ map.refcounts version
  | .changing update version =>
    update.Proper ∧ invalidRefCountIntervalStart ≤ map.refcounts version ∧
      (update ≠ .clearKnownRegions → WellFormed (map.knownRegionsVersions version))
  | .releasing version =>
    invalidRefCountIntervalStart ≤ map.refcounts version ∧
      WellFormed (map.knownRegionsVersions version)
  | .publishing version =>
    map.refcounts version < invalidRefCountIntervalStart ∧
      WellFormed (map.knownRegionsVersions version)

end

/-- What is known of the count of a version.  Readers that fail to acquire a version that
is marked leave their increments behind, each at most one. -/
structure CountOk (map : MemoryRegionMap readerCount) (version : Version)
    (refcount : Nat) : Prop where
  valid : refcount < invalidRefCountIntervalStart → refcount = map.count (·.holds version)
  invalid : invalidRefCountIntervalStart ≤ refcount → map.count (·.holds version) = 0 ∧
      refcount + map.count (·.hasLoaded version) ≤ invalidRefCountIntervalStart + readerCount

structure Counted (map : MemoryRegionMap readerCount) : Prop where
  latest : map.refcounts map.latest < invalidRefCountIntervalStart
  each : ∀ version, map.CountOk version (map.refcounts version)

structure Invariant (map : MemoryRegionMap readerCount) : Prop where
  counted : Counted map
  writer : map.WriterOk map.writer
  readers : ∀ reader, map.ReaderOk (map.readers reader)
  wellFormed : ∀ regions ∈ map.published, WellFormed regions
  current : map.published.getLast? = some (map.knownRegionsVersions map.latest)
  answers : ∀ lookup ∈ map.answers, ∃ index regions,
    lookup.since ≤ index ∧ index < lookup.ended ∧ map.published[index]? = some regions ∧
      boundsFromAddress regions lookup.address = some lookup.answer

section

variable (map : MemoryRegionMap readerCount)

theorem count_eq_zero_iff (test : ReaderPhase → Bool) :
    map.count test = 0 ↔ ∀ reader, test (map.readers reader) = false := by
  simp [count, Finset.filter_eq_empty_iff]

theorem count_le (test : ReaderPhase → Bool) : map.count test ≤ readerCount := by
  simpa [count] using Finset.card_filter_le Finset.univ
    fun reader => test (map.readers reader) = true

theorem count_lt {test : ReaderPhase → Bool} (fails : test (map.readers reader) = false) :
    map.count test < readerCount := by
  have smaller : (Finset.univ.filter fun o => test (map.readers o)) ⊂ Finset.univ := by
    refine Finset.filter_ssubset.mpr ⟨reader, Finset.mem_univ reader, ?_⟩
    simp [fails]
  simpa [count] using Finset.card_lt_card smaller

theorem count_setReader (reader : Fin readerCount)
    (phase : ReaderPhase) (test : ReaderPhase → Bool) :
    (map.setReader reader phase).count test + (if test (map.readers reader) then 1 else 0) =
      map.count test + if test phase then 1 else 0 :=
  card_filter_update map.readers test reader phase

end

/-! ## History -/

theorem Fresh.mono (fresh : map.Fresh since version) (grown : s'.published = map.published ++ more)
    (kept : s'.knownRegionsVersions version = map.knownRegionsVersions version) :
    s'.Fresh since version := by
  obtain ⟨i, sinceLe, isPublished⟩ := fresh
  obtain ⟨lt, _⟩ := List.getElem?_eq_some_iff.mp isPublished
  refine ⟨i, sinceLe, ?_⟩
  rw [grown, kept, List.getElem?_append_left lt, isPublished]

theorem Answered.mono (answered : map.Answered address since answer)
    (grown : s'.published = map.published ++ more) : s'.Answered address since answer := by
  obtain ⟨i, regions, sinceLe, isPublished, answers⟩ := answered
  obtain ⟨lt, _⟩ := List.getElem?_eq_some_iff.mp isPublished
  refine ⟨i, regions, sinceLe, ?_, answers⟩
  rw [grown, List.getElem?_append_left lt, isPublished]

/-- What the readers know survives a step of the writer that changes no version that is
held, and settles only versions that were settled or are published by it. -/
theorem ReaderOk.mono (ok : map.ReaderOk phase) (grown : s'.published = map.published ++ more)
    (heldKept : ∀ version, phase.holds version = true →
      s'.knownRegionsVersions version = map.knownRegionsVersions version)
    (settled : ∀ version, s'.Settled version → (map.Settled version ∧
          s'.knownRegionsVersions version = map.knownRegionsVersions version) ∨
        s'.published[map.published.length]? =
          some (s'.knownRegionsVersions version)) : s'.ReaderOk phase := by
  have longer : map.published.length ≤ s'.published.length := by
    rw [grown, length_append]
    exact le_add_right _ _
  cases phase with
  | idle | terminated => trivial
  | loading address since n => exact lt_of_lt_of_le ok longer
  | incrementing address since n version =>
    obtain ⟨lt, fresh⟩ := ok
    refine ⟨lt_of_lt_of_le lt longer, fun settledAfter => ?_⟩
    rcases settled version settledAfter with ⟨settledBefore, kept⟩ | isPublished
    · exact (fresh settledBefore).mono grown kept
    · exact ⟨map.published.length, le_of_lt lt, isPublished⟩
  | checking address since n version previousRefcount =>
    obtain ⟨lt, fresh⟩ := ok
    refine ⟨lt_of_lt_of_le lt longer, fun counted => ?_⟩
    refine (fresh counted).mono grown (heldKept version ?_)
    simp [holds, counted]
  | holding address since version => exact Fresh.mono ok grown (heldKept version (by simp [holds]))
  | leaving address since version answer => exact Answered.mono ok grown

theorem Invariant.wellFormed_latest (inv : Invariant map) :
    WellFormed (map.knownRegionsVersions map.latest) :=
  inv.wellFormed _ (mem_of_getLast? inv.current)

theorem Invariant.not_holds (inv : Invariant map)
    (marked : invalidRefCountIntervalStart ≤ map.refcounts version) (reader : Fin readerCount) :
    (map.readers reader).holds version = false :=
  (map.count_eq_zero_iff _).mp ((inv.counted.each version).invalid marked).1 reader

theorem Invariant.ne_latest (inv : Invariant map)
    (marked : invalidRefCountIntervalStart ≤ map.refcounts version) : version ≠ map.latest := by
  rintro rfl
  exact absurd inv.counted.latest (not_lt.mpr marked)

/-! ## Steps of the writer -/

theorem writer_ne_publishing {phase} (isPhase : map.writer = phase)
    (elsewhere : ∀ version, phase ≠ .publishing version) (version : Version) :
    map.writer ≠ .publishing version := by
  rw [isPhase]
  exact elsewhere version

theorem Invariant.setWriter (inv : Invariant map)
    (unpublished : ∀ version, map.writer ≠ .publishing version) {phase} (ok : map.WriterOk phase) :
    Invariant { map with writer := phase } := by
  refine { inv with
    counted := ⟨inv.counted.latest, fun version => { inv.counted.each version with }⟩
    writer := by cases phase <;> exact ok
    readers := fun reader => ?_ }
  refine ReaderOk.mono (inv.readers reader) (append_nil _).symm (fun _ _ => rfl) ?_
  intro version settled
  exact .inl ⟨⟨settled.1, unpublished version⟩, rfl⟩

theorem versionIdx_ne_latest (latest : Version) {loopIdx} (positive : 0 < loopIdx)
    (bounded : loopIdx < versionCount) : versionIdx latest loopIdx ≠ latest := by
  intro same
  have values : (loopIdx + latest.val) % 10 = latest.val := congrArg Fin.val same
  have latestBound : latest.val < 10 := latest.isLt
  have loopBound : loopIdx < 10 := bounded
  omega

theorem writerOk_nextRound (map : MemoryRegionMap readerCount) (proper : update.Proper)
    (n loopIdx : Nat) : map.WriterOk (nextRound update n loopIdx) := by
  rw [nextRound]
  split
  next bounded => exact ⟨proper, succ_pos _, bounded⟩
  · split
    · exact ⟨proper, by decide, by decide⟩
    · trivial

theorem writerOk_acquired (proper : update.Proper)
    (marked : invalidRefCountIntervalStart ≤ map.refcounts version) :
    map.WriterOk (acquired update version) := by
  cases update with
  | clearKnownRegions => exact ⟨proper, marked, fun notClear => absurd rfl notClear⟩
  | _ => exact ⟨proper, marked⟩

section

variable (inv : Invariant map)
include inv

theorem Invariant.setRefcount (unpublished : ∀ version, map.writer ≠ .publishing version)
    (notLatest : version ≠ map.latest) (ok : map.CountOk version refcount) {phase} :
    let s' := { map with
      refcounts := Function.update map.refcounts version refcount
      writer := phase }
    s'.WriterOk phase → (refcount < invalidRefCountIntervalStart → phase = .publishing version) →
      Invariant s' := by
  intro s' writer unsettled
  refine { inv with counted := ⟨?_, fun o => ?_⟩, writer := writer, readers := fun reader => ?_ }
  · dsimp only [s']
    rw [update_of_ne notLatest.symm]
    exact inv.counted.latest
  · dsimp only [s']
    by_cases same : o = version
    · rw [same, update_self]
      exact { ok with }
    · rw [update_of_ne same]
      exact { inv.counted.each o with }
  · refine ReaderOk.mono (inv.readers reader) (append_nil _).symm (fun _ _ => rfl) ?_
    rintro o ⟨valid, notPublishing⟩
    dsimp only [s'] at valid notPublishing
    by_cases same : o = version
    · rw [same, update_self] at valid
      exact absurd (same ▸ unsettled valid) notPublishing
    · rw [update_of_ne same] at valid
      exact .inl ⟨⟨valid, unpublished o⟩, rfl⟩

theorem Invariant.mark
    (unpublished : ∀ version, map.writer ≠ .publishing version) (proper : update.Proper)
    (notLatest : version ≠ map.latest) (unused : map.refcounts version = 0) :
    Invariant { map with
        refcounts := Function.update map.refcounts version invalidRefCountIntervalStart
        writer := acquired update version } := by
  have positive : 0 < invalidRefCountIntervalStart := by decide
  have nobody : map.count (·.holds version) = 0 := by
    rw [← (inv.counted.each version).valid (by omega), unused]
  have marked : map.CountOk version invalidRefCountIntervalStart :=
    ⟨fun bad => absurd bad (Nat.lt_irrefl _),
      fun _ => ⟨nobody, Nat.add_le_add_left (map.count_le _) _⟩⟩
  refine inv.setRefcount unpublished notLatest marked (writerOk_acquired proper ?_)
    fun bad => absurd bad (Nat.lt_irrefl _)
  dsimp only
  rw [update_self]

theorem Invariant.setRegions (unpublished : ∀ version, map.writer ≠ .publishing version)
    (marked : invalidRefCountIntervalStart ≤ map.refcounts version) (regions : List MemoryRegion)
    {phase} (ok : (map.setRegions version regions phase).WriterOk phase) :
    Invariant (map.setRegions version regions phase) := by
  have notLatest := inv.ne_latest marked
  have keptOther : ∀ o, o ≠ version →
      (map.setRegions version regions phase).knownRegionsVersions o = map.knownRegionsVersions o :=
    fun o differ => update_of_ne differ _ _
  refine { inv with
    counted := ⟨inv.counted.latest, fun o => { inv.counted.each o with }⟩
    writer := ok, readers := ?_, current := ?_ }
  · intro reader
    refine ReaderOk.mono (inv.readers reader) (append_nil _).symm ?_ ?_
    · intro o holds
      refine keptOther o ?_
      rintro rfl
      have notHolds := inv.not_holds marked reader
      exact absurd (notHolds.symm.trans holds) (by decide)
    · rintro o ⟨valid, _⟩
      have differ : o ≠ version := by
        rintro rfl
        exact absurd valid (not_lt.mpr marked)
      exact .inl ⟨⟨valid, unpublished o⟩, keptOther o differ⟩
  · refine inv.current.trans (congrArg some ?_)
    exact (keptOther _ notLatest.symm).symm

theorem Invariant.change (isChanging : map.writer = .changing update version) :
    Invariant (map.change version update) := by
  have unpublished := writer_ne_publishing isChanging nofun
  have ok := inv.writer
  rw [isChanging] at ok
  obtain ⟨proper, marked, wellFormed⟩ := ok
  cases update with
  | updateKnownRegion r =>
    have wellFormed := wellFormed nofun
    rw [change]
    split
    · exact inv.setWriter unpublished trivial
    next iterator inserted =>
      refine inv.setRegions unpublished marked _ ?_
      split
      · trivial
      next apart =>
        refine ⟨marked, ?_⟩
        rw [knownRegionsVersions_setRegions_self]
        exact wellFormed.insertRegion proper inserted (eq_false_iff.mpr apart)
  | removeKnownRegion startAddress =>
    have wellFormed := wellFormed nofun
    rw [change]
    split
    · exact inv.setWriter unpublished trivial
    next remaining erased =>
      refine inv.setRegions unpublished marked _ ⟨marked, ?_⟩
      rw [knownRegionsVersions_setRegions_self]
      exact wellFormed.eraseRegion erased
  | clearKnownRegions =>
    refine inv.setRegions unpublished marked _ ⟨marked, ?_⟩
    rw [knownRegionsVersions_setRegions_self]
    exact wellFormed_nil

theorem Invariant.release (isReleasing : map.writer = .releasing version) :
    Invariant { map with
        refcounts := Function.update map.refcounts version 0
        writer := .publishing version } := by
  have ok := inv.writer
  rw [isReleasing] at ok
  obtain ⟨marked, wellFormed⟩ := ok
  have positive : 0 < invalidRefCountIntervalStart := by decide
  have unmarked : map.CountOk version 0 :=
    ⟨fun _ => ((inv.counted.each version).invalid marked).1.symm,
      fun bad => absurd positive (not_lt.mpr bad)⟩
  refine inv.setRefcount (writer_ne_publishing isReleasing nofun) (inv.ne_latest marked) unmarked
    ⟨?_, wellFormed⟩ fun _ => rfl
  dsimp only
  rw [update_self]
  exact positive

theorem Invariant.publish (isPublishing : map.writer = .publishing version) :
    Invariant { map with
        latest := version
        writer := .idle
        published := map.published ++ [map.knownRegionsVersions version] } := by
  have ok := inv.writer
  rw [isPublishing] at ok
  obtain ⟨valid, wellFormed⟩ := ok
  refine ⟨⟨valid, fun o => { inv.counted.each o with }⟩, trivial, ?_, ?_, List.getLast?_concat, ?_⟩
  · intro reader
    refine ReaderOk.mono (inv.readers reader) rfl (fun _ _ => rfl) ?_
    rintro o ⟨validOther, _⟩
    by_cases same : o = version
    · rw [same]
      exact .inr List.getElem?_concat_length
    · refine .inl ⟨⟨validOther, ?_⟩, rfl⟩
      rw [isPublishing]
      rintro ⟨⟩
      exact same rfl
  · intro regions mem
    rcases List.mem_append.mp mem with old | isNew
    · exact inv.wellFormed regions old
    · rw [List.mem_singleton.mp isNew]
      exact wellFormed
  · intro lookup mem
    obtain ⟨i, regions, sinceLe, ended, isPublished, answers⟩ := inv.answers lookup mem
    obtain ⟨lt, _⟩ := List.getElem?_eq_some_iff.mp isPublished
    refine ⟨i, regions, sinceLe, ended, ?_, answers⟩
    dsimp only
    rw [List.getElem?_append_left lt, isPublished]

theorem Invariant.write {failsSpuriously}
    (taken : map.write failsSpuriously = some s') : Invariant s' := by
  have ok := inv.writer
  rw [MemoryRegionMap.write] at taken
  split at taken
  · cases taken
  · cases taken
  next update n loopIdx isScanning =>
    rw [isScanning] at ok
    obtain ⟨proper, positive, bounded⟩ := ok
    have unpublished := writer_ne_publishing isScanning nofun
    dsimp only at taken
    split at taken
    · cases taken
      exact inv.setWriter unpublished
        ⟨proper, positive, bounded, versionIdx_ne_latest _ positive bounded⟩
    · split at taken
      next isInitial =>
        cases taken
        exact inv.setWriter unpublished (writerOk_acquired proper (le_of_eq isInitial.symm))
      · cases taken
        exact inv.setWriter unpublished (map.writerOk_nextRound proper _ _)
  next update n loopIdx version isExchanging =>
    rw [isExchanging] at ok
    obtain ⟨proper, positive, bounded, notLatest⟩ := ok
    have unpublished := writer_ne_publishing isExchanging nofun
    split at taken
    next exchanged =>
      cases taken
      exact inv.mark unpublished proper notLatest exchanged.1
    · cases taken
      exact inv.setWriter unpublished (map.writerOk_nextRound proper _ _)
  next update version isCopying =>
    rw [isCopying] at ok
    obtain ⟨proper, marked⟩ := ok
    have unpublished := writer_ne_publishing isCopying nofun
    cases taken
    refine inv.setRegions unpublished marked _ ⟨proper, marked, fun _ => ?_⟩
    rw [knownRegionsVersions_setRegions_self]
    exact inv.wellFormed_latest
  next update version isChanging =>
    cases taken
    exact inv.change isChanging
  next version isReleasing =>
    cases taken
    exact inv.release isReleasing
  next version isPublishing =>
    cases taken
    exact inv.publish isPublishing

end

/-! ## Steps of the readers -/

theorem WriterOk.mono {phase} (ok : map.WriterOk phase)
    (sameVersions : s'.knownRegionsVersions = map.knownRegionsVersions)
    (sameLatest : s'.latest = map.latest)
    (sameMarks : ∀ version, invalidRefCountIntervalStart ≤ s'.refcounts version ↔
      invalidRefCountIntervalStart ≤ map.refcounts version) : s'.WriterOk phase := by
  cases phase with
  | idle | terminated => trivial
  | scanning update n loopIdx => exact ok
  | exchanging update n loopIdx version =>
    rw [WriterOk, sameLatest]
    exact ok
  | copying update version => exact ⟨ok.1, (sameMarks version).mpr ok.2⟩
  | changing update version =>
    rw [WriterOk, sameVersions]
    exact ⟨ok.1, (sameMarks version).mpr ok.2.1, ok.2.2⟩
  | releasing version =>
    rw [WriterOk, sameVersions]
    exact ⟨(sameMarks version).mpr ok.1, ok.2⟩
  | publishing version =>
    rw [WriterOk, sameVersions]
    exact ⟨not_le.mp (mt (sameMarks version).mp (not_le.mpr ok.1)), ok.2⟩

section

variable (inv : Invariant map)
include inv

theorem Invariant.readerMoves (sameVersions : s'.knownRegionsVersions = map.knownRegionsVersions)
    (sameLatest : s'.latest = map.latest) (sameWriter : s'.writer = map.writer)
    (samePublished : s'.published = map.published)
    (sameMarks : ∀ version, invalidRefCountIntervalStart ≤ s'.refcounts version ↔
      invalidRefCountIntervalStart ≤ map.refcounts version)
    (counted : ∀ version, s'.CountOk version (s'.refcounts version))
    (readers : ∀ reader, map.ReaderOk (s'.readers reader))
    (answers : ∀ lookup ∈ s'.answers, ∃ i regions,
      lookup.since ≤ i ∧ i < lookup.ended ∧ map.published[i]? = some regions ∧
        boundsFromAddress regions lookup.address = some lookup.answer) : Invariant s' := by
  refine ⟨⟨?_, counted⟩, ?_, ?_, ?_, ?_, ?_⟩
  · rw [sameLatest]
    exact not_le.mp (mt (sameMarks _).mp (not_le.mpr inv.counted.latest))
  · rw [sameWriter]
    exact inv.writer.mono sameVersions sameLatest sameMarks
  · intro reader
    have grown : s'.published = map.published ++ [] := by
      rw [samePublished, append_nil]
    refine ReaderOk.mono (readers reader) grown (fun version _ => by rw [sameVersions]) ?_
    rintro version ⟨valid, unpublished⟩
    rw [sameWriter] at unpublished
    exact .inl ⟨⟨not_le.mp (mt (sameMarks version).mpr (not_le.mpr valid)),
      unpublished⟩, by rw [sameVersions]⟩
  · rw [samePublished]
    exact inv.wellFormed
  · rw [samePublished, sameVersions, sameLatest]
    exact inv.current
  · rw [samePublished]
    exact answers

theorem readerOk_update (reader : Fin readerCount) (ok : map.ReaderOk phase) (o : Fin readerCount) :
    map.ReaderOk (Function.update map.readers reader phase o) := by
  by_cases same : o = reader
  · rw [same, update_self]
    exact ok
  · rw [update_of_ne same]
    exact inv.readers o

theorem Invariant.setReader (reader : Fin readerCount)
    (sameHolds : ∀ version, phase.holds version = (map.readers reader).holds version)
    (loadsLatest : ∀ version, phase.hasLoaded version = true → version = map.latest)
    (ok : map.ReaderOk phase) : Invariant (map.setReader reader phase) := by
  refine inv.readerMoves rfl rfl rfl rfl (fun _ => Iff.rfl) ?_
    (readerOk_update inv reader ok) inv.answers
  intro version
  have held := map.count_setReader reader phase (·.holds version)
  rw [sameHolds version] at held
  have sameHeld := add_right_cancel held
  constructor
  · intro valid
    rw [sameHeld]
    exact (inv.counted.each version).valid valid
  · intro marked
    rw [sameHeld]
    obtain ⟨nobody, few⟩ := (inv.counted.each version).invalid marked
    have notLoaded : phase.hasLoaded version = false := by
      rw [eq_false_iff]
      exact mt (loadsLatest version) (inv.ne_latest marked)
    have loaded := map.count_setReader reader phase (·.hasLoaded version)
    simp only [notLoaded, false_eq_true, if_false] at loaded
    refine ⟨nobody, ?_⟩
    change map.refcounts version + _ ≤ _
    omega

theorem Invariant.setReaderAndCount (reader : Fin readerCount) (version : Version)
    (elsewhere : ∀ o, o ≠ version → phase.holds o = (map.readers reader).holds o ∧
        phase.hasLoaded o = (map.readers reader).hasLoaded o)
    (sameMark : invalidRefCountIntervalStart ≤ refcount ↔
      invalidRefCountIntervalStart ≤ map.refcounts version)
    (countOk : (map.setReader reader phase).CountOk version refcount) (ok : map.ReaderOk phase)
    {answers}
    (answersOk : ∀ lookup ∈ answers, ∃ i regions, lookup.since ≤ i ∧ i < lookup.ended ∧
        map.published[i]? = some regions ∧
        boundsFromAddress regions lookup.address = some lookup.answer) :
    Invariant { map.setReader reader phase with
        refcounts := Function.update map.refcounts version refcount
        answers } := by
  refine inv.readerMoves rfl rfl rfl rfl ?_ ?_ (readerOk_update inv reader ok) answersOk
  · intro o
    dsimp only
    by_cases same : o = version
    · rw [same, update_self]
      exact sameMark
    · rw [update_of_ne same]
  · intro o
    dsimp only
    by_cases same : o = version
    · rw [same, update_self]
      exact { countOk with }
    · rw [update_of_ne same]
      obtain ⟨sameHolds, sameLoaded⟩ := elsewhere o same
      have held := map.count_setReader reader phase (·.holds o)
      have loaded := map.count_setReader reader phase (·.hasLoaded o)
      rw [sameHolds] at held
      rw [sameLoaded] at loaded
      have keep : (map.setReader reader phase).CountOk o (map.refcounts o) := by
        have countOk := inv.counted.each o
        constructor
        · rw [add_right_cancel held]
          exact countOk.valid
        · rw [add_right_cancel held, add_right_cancel loaded]
          exact countOk.invalid
      exact { keep with }

end

section

variable (inv : Invariant map) (few : readerCount < invalidRefCountIntervalStart)
  (isIncrementing : map.readers reader = .incrementing address since n version)
include inv few isIncrementing

theorem Invariant.refcount_bounds : map.refcounts version + 1 < 2 ^ 32 ∧
      map.refcounts version ≠ invalidRefCountIntervalStart - 1 := by
  have startIs : invalidRefCountIntervalStart = 2 ^ 31 - 1 := by decide
  have countOk := inv.counted.each version
  by_cases valid : map.refcounts version < invalidRefCountIntervalStart
  · have isCount := countOk.valid valid
    have notHolds : (map.readers reader).holds version = false := by
      rw [isIncrementing]
      rfl
    have less : map.count (·.holds version) < readerCount := map.count_lt notHolds
    omega
  · obtain ⟨_, fewLoaded⟩ := countOk.invalid (not_lt.mp valid)
    omega

theorem Invariant.increment (unpublished : map.writer ≠ .publishing version) :
    Invariant { map.setReader reader
          (.checking address since n version (map.refcounts version)) with
        refcounts := Function.update map.refcounts version
          ((map.refcounts version + 1) % 2 ^ 32) } := by
  have ok := inv.readers reader
  rw [isIncrementing] at ok
  obtain ⟨lt, fresh⟩ := ok
  obtain ⟨noOverflow, notLast⟩ := inv.refcount_bounds few isIncrementing
  rw [mod_eq_of_lt noOverflow]
  have ok : map.ReaderOk (.checking address since n version (map.refcounts version)) :=
    ⟨lt, fun counts => fresh ⟨by omega, unpublished⟩⟩
  refine inv.setReaderAndCount reader version ?_ (by omega) ?_ ok inv.answers
  · intro o differ
    have elsewhere : (version == o) = false := beq_eq_false_iff_ne.mpr differ.symm
    rw [isIncrementing]
    simp [elsewhere]
  · have held := map.count_setReader reader
      (.checking address since n version (map.refcounts version)) (·.holds version)
    have loaded := map.count_setReader reader
      (.checking address since n version (map.refcounts version))
      (·.hasLoaded version)
    rw [isIncrementing] at held loaded
    simp only [holds_incrementing, holds_checking,
      hasLoaded_incrementing, hasLoaded_checking, beq_self_eq_true,
      Bool.true_and, decide_eq_true_eq, Bool.false_eq_true, if_false, if_true,
      add_zero] at held loaded
    have countOk := inv.counted.each version
    constructor
    · intro valid
      have isCount := countOk.valid (by omega)
      rw [if_pos (by omega)] at held
      omega
    · intro marked
      obtain ⟨nobody, fewLoaded⟩ := countOk.invalid (by omega)
      rw [if_neg (by omega)] at held
      omega

end

theorem Invariant.leave (inv : Invariant map)
    (isLeaving : map.readers reader = .leaving address since version answer) :
    Invariant { map.setReader reader .idle with
        refcounts := Function.update map.refcounts version
          ((map.refcounts version + (2 ^ 32 - 1)) % 2 ^ 32)
        answers := ⟨address, since, map.published.length, answer⟩ :: map.answers } := by
  have startIs : invalidRefCountIntervalStart = 2 ^ 31 - 1 := by decide
  have holds : (map.readers reader).holds version = true := by
    rw [isLeaving]
    simp
  have valid : map.refcounts version < invalidRefCountIntervalStart := by
    rw [← not_le]
    intro marked
    rw [inv.not_holds marked reader] at holds
    cases holds
  have isCount := (inv.counted.each version).valid valid
  have held := map.count_setReader reader .idle (·.holds version)
  rw [isLeaving] at held
  simp only [holds_leaving, holds_idle, beq_self_eq_true,
    false_eq_true, if_true, if_false, add_zero] at held
  have decremented : (map.refcounts version + (2 ^ 32 - 1)) % 2 ^ 32 =
      map.refcounts version - 1 := by
    have regroup : map.refcounts version + (2 ^ 32 - 1) =
        map.refcounts version - 1 + 2 ^ 32 := by omega
    rw [regroup, add_mod_right, mod_eq_of_lt (by omega)]
  rw [decremented]
  have idleOk : map.ReaderOk .idle := trivial
  refine inv.setReaderAndCount reader version ?_ (by omega) ⟨?_, ?_⟩ idleOk ?_
  · intro o differ
    have elsewhere : (version == o) = false := beq_eq_false_iff_ne.mpr differ.symm
    rw [isLeaving]
    simp [elsewhere]
  · intro _
    omega
  · intro bad
    omega
  · intro lookup mem
    rcases List.mem_cons.mp mem with rfl | old
    · have ok := inv.readers reader
      rw [isLeaving] at ok
      obtain ⟨i, regions, sinceLe, isPublished, answers⟩ := ok
      obtain ⟨lt, _⟩ := List.getElem?_eq_some_iff.mp isPublished
      exact ⟨i, regions, sinceLe, lt, isPublished, answers⟩
    · exact inv.answers lookup old

theorem readerOk_checkRefcount {previousRefcount}
    (ok : map.ReaderOk (.checking address since n version previousRefcount)) :
    map.ReaderOk (checkRefcount address since n version previousRefcount) := by
  obtain ⟨lt, fresh⟩ := ok
  rw [checkRefcount]
  split
  · trivial
  · split
    next counts => exact fresh counts
    · split
      · exact lt
      · trivial

section

variable (addr since n : Nat) (v : Version) (previousRefcount : Nat) (o : Version)

theorem holds_checkRefcount : (checkRefcount addr since n v previousRefcount).holds o =
      (checking addr since n v previousRefcount).holds o := by
  have startLeEnd : invalidRefCountIntervalStart ≤ invalidRefCountIntervalEnd := by decide
  rw [holds_checking, checkRefcount]
  split
  next overflow =>
    have notLess : ¬ previousRefcount < invalidRefCountIntervalStart - 1 := by omega
    simp [notLess, holds]
  · split
    next counts => simp [counts, holds]
    next notLess => split <;> simp [notLess, holds]

theorem hasLoaded_checkRefcount : (checkRefcount addr since n v previousRefcount).hasLoaded o =
      false := by
  rw [checkRefcount]
  split
  · rfl
  · split
    · rfl
    · split <;> rfl

end

theorem Invariant.fresh_latest (inv : Invariant map)
    (lt : since < map.published.length) : map.Fresh since map.latest := by
  refine ⟨map.published.length - 1, by omega, ?_⟩
  rw [← getLast?_eq_getElem?]
  exact inv.current

/-- A lookup does not come between the two stores that publish the version that it has
loaded, and an update inserts a proper region. -/
def Orderly (map : MemoryRegionMap readerCount) : RegionMapStep readerCount → Prop
  | .call update => update.Proper
  | .read reader =>
    ∀ address since retryCount version,
      map.readers reader = .incrementing address since retryCount version →
      map.writer ≠ .publishing version
  | _ => True

theorem Invariant.read (inv : Invariant map)
    (few : readerCount < invalidRefCountIntervalStart) (orderly : map.Orderly (.read reader))
    (taken : map.read reader = some s') : Invariant s' := by
  have ok := inv.readers reader
  rw [MemoryRegionMap.read] at taken
  split at taken
  · cases taken
  · cases taken
  next address since n isLoading =>
    rw [isLoading] at ok
    cases taken
    refine inv.setReader reader ?_ ?_ ⟨ok, fun _ => inv.fresh_latest ok⟩
    · intro version
      rw [isLoading]
      rfl
    · intro version loaded
      exact (eq_of_beq loaded).symm
  next address since n version isIncrementing =>
    cases taken
    exact inv.increment few isIncrementing (orderly address since n version isIncrementing)
  next address since n version previousRefcount isChecking =>
    rw [isChecking] at ok
    cases taken
    refine inv.setReader reader ?_ ?_ (readerOk_checkRefcount ok)
    · intro o
      rw [isChecking, holds_checkRefcount]
    · intro o loaded
      rw [hasLoaded_checkRefcount] at loaded
      cases loaded
  next address since version isHolding =>
    rw [isHolding] at ok
    obtain ⟨i, sinceLe, isPublished⟩ := ok
    have wellFormed := inv.wellFormed _ (mem_of_getElem? isPublished)
    obtain ⟨answer, answers, _⟩ := wellFormed.boundsFromAddress address
    rw [answers] at taken
    cases taken
    refine inv.setReader reader ?_ ?_ ⟨i, _, sinceLe, isPublished, answers⟩
    · intro o
      rw [isHolding]
      rfl
    · nofun
  next address since version answer isLeaving =>
    cases taken
    exact inv.leave isLeaving

theorem invariant_step (few : readerCount < invalidRefCountIntervalStart)
    {label} (inv : Invariant map) (orderly : map.Orderly label)
    (taken : map.step label = some s') : Invariant s' := by
  cases label with
  | call update =>
    rw [step] at taken
    split at taken
    next isIdle =>
      cases taken
      exact inv.setWriter (writer_ne_publishing isIdle nofun) ⟨orderly, by decide, by decide⟩
    · cases taken
  | write failsSpuriously => exact inv.write taken
  | getBoundsFromAddress reader address =>
    rw [step] at taken
    split at taken
    next isIdle =>
      cases taken
      refine inv.setReader reader ?_ ?_ ?_
      · intro version
        rw [isIdle]
        rfl
      · nofun
      · have notEmpty : map.published ≠ [] := ne_nil_of_mem (mem_of_getLast? inv.current)
        exact sub_lt (length_pos_iff.mpr notEmpty) (by decide)
    · cases taken
  | read reader => exact inv.read few orderly taken

theorem invariant_start (readerCount : Nat) : Invariant (start readerCount) := by
  have nobody : ∀ test : ReaderPhase → Bool, test .idle = false →
      (start readerCount).count test = 0 := by
    intro test idleFails
    rw [count_eq_zero_iff]
    exact fun _ => idleFails
  have firstValid : (0 : Nat) < invalidRefCountIntervalStart := by decide
  refine ⟨⟨firstValid, ?_⟩, trivial, fun _ => trivial, ?_, rfl, ?_⟩
  · intro version
    constructor
    · intro valid
      rw [nobody _ rfl]
      rw [start] at valid ⊢
      dsimp only at valid ⊢
      split at valid
      next isFirst => rw [if_pos isFirst]
      · exact absurd valid (lt_irrefl _)
    · intro _
      rw [nobody _ rfl, nobody _ rfl]
      refine ⟨rfl, ?_⟩
      rw [start]
      dsimp only
      split
      · exact zero_le _
      · exact le_add_right _ _
  · intro regions mem
    rw [mem_singleton.mp mem]
    exact wellFormed_nil
  · nofun

/-- Unless a lookup comes between the two stores that publish its version, no version is
overwritten while a reader holds it, every lookup answers by a version that was the latest
one during the lookup, and published versions consist of regions that are apart. -/
theorem reachable_lookups_answer_by_latest (few : readerCount < invalidRefCountIntervalStart)
    {map : MemoryRegionMap readerCount}
    (reachable : ((system readerCount).restrict Orderly).Reachable map) :
    (∀ version, map.writer.Modifies version →
        ∀ reader, (map.readers reader).holds version = false) ∧
      (∀ lookup ∈ map.answers, ∃ index regions, lookup.since ≤ index ∧ index < lookup.ended ∧
          map.published[index]? = some regions ∧
          boundsFromAddress regions lookup.address = some lookup.answer) ∧
      (∀ regions ∈ map.published, regions.Pairwise MemoryRegion.Before ∧
          ∀ address, ∃ answer, boundsFromAddress regions address = some answer ∧
            AnswersFor regions address answer) := by
  have invariant : Invariant map :=
    reachable.preserves (invariant_start readerCount) (invariant_step few)
  refine ⟨?_, invariant.answers, ?_⟩
  · intro version modifies reader
    refine invariant.not_holds ?_ reader
    have ok := invariant.writer
    cases phase : map.writer with
    | copying update overwritten =>
      rw [phase] at ok modifies
      cases modifies
      exact ok.2
    | changing update overwritten =>
      rw [phase] at ok modifies
      cases modifies
      exact ok.2.1
    | _ =>
      rw [phase] at modifies
      cases modifies
  · intro regions member
    have wellFormed := invariant.wellFormed regions member
    exact ⟨wellFormed.apart, wellFormed.boundsFromAddress⟩

/-- A lookup after one update finds the region. -/
theorem updated_lookup_answers_by_latest :
    ∃ map : MemoryRegionMap 1, ((system 1).restrict Orderly).Reachable map ∧
      map.answers = [⟨20, 1, 2, some ⟨16, 24⟩⟩] ∧
      (∀ lookup ∈ map.answers, ∃ index regions, lookup.since ≤ index ∧ index < lookup.ended ∧
          map.published[index]? = some regions ∧
          boundsFromAddress regions lookup.address = some lookup.answer) := by
  have begun : ((system 1).restrict Orderly).Reachable (start 1) := .initial rfl
  have called := begun.allowedStep (.call (.updateKnownRegion ⟨16, 24⟩)) ⟨by decide, by decide⟩ rfl
  have published := called.allowedSteps (.write false) 5 (fun _ => trivial) rfl
  have asked := published.allowedStep (.getBoundsFromAddress 0 20) trivial rfl
  have loaded := asked.allowedStep (.read 0) nofun rfl
  have counted := loaded.allowedStep (.read 0) nofun rfl
  have checked := counted.allowedStep (.read 0) nofun rfl
  have answered := checked.allowedStep (.read 0) nofun rfl
  have returned := answered.allowedStep (.read 0) nofun rfl
  exact ⟨_, returned, rfl, (reachable_lookups_answer_by_latest (by decide) returned).2.1⟩

/-- The count of a version is the number of its readers, or the version is marked and nobody
reads it.  The latest version is not marked, and is the one published last. -/
theorem reachable_counts_exact (few : readerCount < invalidRefCountIntervalStart)
    {map : MemoryRegionMap readerCount}
    (reachable : ((system readerCount).restrict Orderly).Reachable map) :
    (∀ version, map.refcounts version = map.count (·.holds version) ∨
      invalidRefCountIntervalStart ≤ map.refcounts version ∧
        map.refcounts version ≤ invalidRefCountIntervalStart + readerCount ∧
        ∀ reader, (map.readers reader).holds version = false) ∧
    map.refcounts map.latest = map.count (·.holds map.latest) ∧
      map.published.getLast? = some (map.knownRegionsVersions map.latest) := by
  have invariant : Invariant map :=
    reachable.preserves (invariant_start readerCount) (invariant_step few)
  refine ⟨fun version => ?_, (invariant.counted.each map.latest).valid invariant.counted.latest,
    invariant.current⟩
  have counted := invariant.counted.each version
  rcases Nat.lt_or_ge (map.refcounts version) invalidRefCountIntervalStart with valid | marked
  · exact .inl (counted.valid valid)
  · obtain ⟨nobody, bound⟩ := counted.invalid marked
    exact .inr ⟨marked, (Nat.le_add_right _ _).trans bound, (map.count_eq_zero_iff _).mp nobody⟩

/-- A reader that has incremented the count of the first version is counted. -/
theorem acquired_version_counted : ∃ map : MemoryRegionMap 1,
    ((system 1).restrict Orderly).Reachable map ∧ map.refcounts map.latest = 1 ∧
      map.count (·.holds map.latest) = 1 := by
  have begun : ((system 1).restrict Orderly).Reachable (start 1) := .initial rfl
  have asked := begun.allowedStep (.getBoundsFromAddress 0 20) trivial rfl
  have loaded := asked.allowedStep (.read 0) nofun rfl
  have counted := loaded.allowedStep (.read 0) nofun rfl
  have isHeld := (reachable_counts_exact (by decide) counted).2.1
  exact ⟨_, counted, rfl, isHeld.symm.trans rfl⟩

/-- One update that takes the version behind the latest one. -/
def updateOnce (region : MemoryRegion) : List (RegionMapStep 1) :=
  .call (.updateKnownRegion region) :: List.replicate 5 (.write false)

/-- A reader has loaded the first version.  Ten updates later that version is used again,
and the lookup comes between the two stores that publish it. -/
def overtakenLookup : List (RegionMapStep 1) :=
  [.getBoundsFromAddress (Fin.last 0) 164, .read (Fin.last 0)] ++
    (List.range 10).flatMap (fun round => updateOnce ⟨16 * (round + 1), 16 * (round + 1) + 8⟩) ++
    List.replicate 4 (.read (Fin.last 0))

theorem overtakenLookup_answers_by_unpublished :
    ∃ map : MemoryRegionMap 1, (system 1).Reachable map ∧ ∃ lookup ∈ map.answers, ¬ ∃ index regions,
        lookup.since ≤ index ∧ index < lookup.ended ∧ map.published[index]? = some regions ∧
          boundsFromAddress regions lookup.address = some lookup.answer := by
  have ends : ∃ map, TransitionSystem.run step (start 1) overtakenLookup = some map ∧
      map.answers = [⟨164, 0, 10, some ⟨160, 168⟩⟩] ∧
      map.published.all (fun regions => boundsFromAddress regions 164 == some none) =
        true := ⟨_, rfl, rfl, rfl⟩
  obtain ⟨map, ends, answers, unknown⟩ := ends
  refine ⟨map, .run (.initial rfl) ends, ⟨164, 0, 10, some ⟨160, 168⟩⟩, ?_, ?_⟩
  · rw [answers]
    exact mem_singleton.mpr rfl
  · rintro ⟨index, regions, _, _, isPublished, answered⟩
    have notFound := all_eq_true.mp unknown regions (mem_of_getElem? isPublished)
    rw [answered] at notFound
    cases notFound

end MemoryRegionMap

end ScoreIntegration.Memory
