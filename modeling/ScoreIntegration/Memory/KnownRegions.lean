import Mathlib.Data.List.Basic
import Mathlib.Data.List.Pairwise
import Mathlib.Data.List.TakeWhile
import Mathlib.Tactic.Common

/-!
# Known memory regions

A version of the known regions maps start addresses to end addresses: here a list in the
order of the start addresses, with a place in it for an iterator.
-/

namespace ScoreIntegration.Memory

open List Option

structure MemoryRegion where
  startAddress : Nat
  endAddress : Nat
  deriving DecidableEq, Repr

namespace MemoryRegion

/-- The bounds of a region belong to it. -/
def Contains (region : MemoryRegion) (address : Nat) : Prop :=
  region.startAddress ≤ address ∧ address ≤ region.endAddress

def Before (first second : MemoryRegion) : Prop :=
  first.startAddress < second.startAddress ∧ first.endAddress ≤ second.startAddress

def Proper (region : MemoryRegion) : Prop :=
  0 < region.startAddress ∧ region.startAddress ≤ region.endAddress

/-- The assertion in the constructor of `MemoryRegionBounds`. -/
def areBothValidOrBothInvalid (region : MemoryRegion) : Bool :=
  (region.startAddress == 0 && region.endAddress == 0) ||
    (region.startAddress != 0 && region.endAddress != 0)

theorem Proper.areBothValid {r : MemoryRegion} (proper : r.Proper) :
    r.areBothValidOrBothInvalid = true := by
  obtain ⟨positive, ordered⟩ := proper
  have startValid : r.startAddress ≠ 0 := by omega
  have endValid : r.endAddress ≠ 0 := by omega
  simp [areBothValidOrBothInvalid, startValid, endValid]

end MemoryRegion

/-- A region in a map with the regions in front of it and behind it. -/
structure RegionIterator where
  before : List MemoryRegion
  region : MemoryRegion
  after : List MemoryRegion

def RegionIterator.map (iterator : RegionIterator) : List MemoryRegion :=
  iterator.before ++ iterator.region :: iterator.after

/-- Nothing is inserted if the start address is known already. -/
def insertRegion (regions : List MemoryRegion) (region : MemoryRegion) : Option RegionIterator :=
  let isBefore (other : MemoryRegion) : Bool := other.startAddress < region.startAddress
  let after := regions.dropWhile isBefore
  if after.head?.any (fun other => other.startAddress == region.startAddress) then none
  else some ⟨regions.takeWhile isBefore, region, after⟩

/-- `DoesRegionIteratorOverlapWithExistingRegionInMap`. -/
def doesRegionIteratorOverlap (iterator : RegionIterator) : Bool :=
  if iterator.map.length = 1 then false
  else
    iterator.before.getLast?.any (fun previous =>
        iterator.region.startAddress < previous.endAddress) ||
      iterator.after.head?.any (fun next => iterator.region.endAddress > next.startAddress)

/-- Nothing is returned where the start address is not known. -/
def eraseRegion (regions : List MemoryRegion) (startAddress : Nat) : Option (List MemoryRegion) :=
  if regions.any (fun region => region.startAddress == startAddress) then
    some (regions.filter fun region => region.startAddress != startAddress)
  else none

/-- The region in front of the upper bound of the address, if the address is in it.  The
process ends where the bounds are not both valid. -/
def boundsFromAddress (regions : List MemoryRegion) (address : Nat) :
    Option (Option MemoryRegion) :=
  match (regions.takeWhile fun region => region.startAddress ≤ address).getLast? with
  | none => some none
  | some region =>
    if region.startAddress ≤ address ∧ address ≤ region.endAddress then
      if region.areBothValidOrBothInvalid then some (some region) else none
    else some none

/-! ## Versions that are well formed -/

/-- The regions are proper ones, in order and apart from each other. -/
structure WellFormed (regions : List MemoryRegion) : Prop where
  apart : regions.Pairwise MemoryRegion.Before
  proper : ∀ region ∈ regions, region.Proper

theorem wellFormed_nil : WellFormed [] where
  apart := .nil
  proper := by
    nofun

variable {iterator : RegionIterator} {regions : List MemoryRegion} {r : MemoryRegion}

theorem doesRegionIteratorOverlap_eq_false (apart : doesRegionIteratorOverlap iterator = false) :
    (∀ previous ∈ iterator.before.getLast?, previous.endAddress ≤ iterator.region.startAddress) ∧
      ∀ next ∈ iterator.after.head?, iterator.region.endAddress ≤ next.startAddress := by
  rw [doesRegionIteratorOverlap] at apart
  split at apart
  next single =>
    have empty : iterator.before = [] ∧ iterator.after = [] := by
      simp only [RegionIterator.map, length_append, length_cons] at single
      exact ⟨length_eq_zero_iff.mp (by omega), length_eq_zero_iff.mp (by omega)⟩
    simp [empty]
  · obtain ⟨noPrevious, noNext⟩ := Bool.or_eq_false_iff.mp apart
    constructor
    · intro previous isPrevious
      rw [mem_def.mp isPrevious] at noPrevious
      simpa using noPrevious
    · intro next isNext
      rw [mem_def.mp isNext] at noNext
      simpa using noNext

theorem eq_or_before_of_getLast (apart : regions.Pairwise MemoryRegion.Before) {last}
    (isLast : regions.getLast? = some last) (mem : r ∈ regions) :
    r = last ∨ r.Before last := by
  obtain ⟨front, rfl⟩ := getLast?_eq_some_iff.mp isLast
  rcases mem_append.mp mem with inFront | isEnd
  · exact .inr ((pairwise_append.mp apart).2.2 r inFront last (mem_singleton.mpr rfl))
  · exact .inl (mem_singleton.mp isEnd)

theorem le_startAddress_of_head (apart : regions.Pairwise MemoryRegion.Before) {bound}
    (headLe : ∀ head ∈ regions.head?, bound ≤ head.startAddress) (mem : r ∈ regions) :
    bound ≤ r.startAddress := by
  cases regions with
  | nil => cases mem
  | cons head tail =>
    have headBound := headLe head rfl
    rcases mem_cons.mp mem with rfl | inTail
    · exact headBound
    · exact headBound.trans (Nat.le_of_lt ((pairwise_cons.mp apart).1 r inTail).1)

theorem WellFormed.insertRegion (wellFormed : WellFormed regions) (proper : r.Proper)
    (inserted : insertRegion regions r = some iterator)
    (apart : doesRegionIteratorOverlap iterator = false) : WellFormed iterator.map := by
  rw [Memory.insertRegion] at inserted
  split at inserted
  · cases inserted
  next unknown =>
    cases inserted
    obtain ⟨previousLe, nextLe⟩ := doesRegionIteratorOverlap_eq_false apart
    dsimp only at previousLe nextLe
    let isBefore (o : MemoryRegion) : Bool := o.startAddress < r.startAddress
    have split : regions.takeWhile isBefore ++ regions.dropWhile isBefore = regions :=
      takeWhile_append_dropWhile
    have apartSplit : (regions.takeWhile isBefore ++ regions.dropWhile isBefore).Pairwise
        MemoryRegion.Before := by
      rw [split]
      exact wellFormed.apart
    obtain ⟨apartFront, apartBack, across⟩ := pairwise_append.mp apartSplit
    have frontStart : ∀ o ∈ regions.takeWhile isBefore, o.startAddress < r.startAddress := by
      intro o mem
      have holds : isBefore o = true := mem_takeWhile_imp mem
      exact of_decide_eq_true holds
    have backStart : ∀ o ∈ regions.dropWhile isBefore, r.startAddress < o.startAddress := by
      intro o mem
      refine le_startAddress_of_head apartBack ?_ mem
      intro head isHead
      have notBefore := head?_dropWhile_not isBefore regions
      rw [mem_def.mp isHead] at notBefore unknown
      have notLess : ¬ head.startAddress < r.startAddress := of_decide_eq_false notBefore
      have differ : head.startAddress ≠ r.startAddress := by
        simpa using unknown
      omega
    have frontEnd : ∀ o ∈ regions.takeWhile isBefore, o.endAddress ≤ r.startAddress := by
      intro o mem
      obtain ⟨last, isLast⟩ := ne_none_iff_exists'.mp
        (mt getLast?_eq_none_iff.mp (ne_nil_of_mem mem))
      rcases eq_or_before_of_getLast apartFront isLast mem with rfl | beforeLast
      · exact previousLe o isLast
      · exact beforeLast.2.trans (Nat.le_of_lt (frontStart last (mem_of_getLast? isLast)))
    constructor
    · refine pairwise_append.mpr ⟨apartFront, pairwise_cons.mpr ⟨?_, apartBack⟩, ?_⟩
      · intro o mem
        exact ⟨backStart o mem, le_startAddress_of_head apartBack nextLe mem⟩
      · intro o mem later isLater
        rcases mem_cons.mp isLater with rfl | inBack
        · exact ⟨frontStart o mem, frontEnd o mem⟩
        · exact across o mem later inBack
    · intro o mem
      rcases mem_append.mp mem with inFront | isLater
      · exact wellFormed.proper o (takeWhile_subset _ inFront)
      · rcases mem_cons.mp isLater with rfl | inBack
        · exact proper
        · exact wellFormed.proper o (dropWhile_subset _ inBack)

theorem WellFormed.eraseRegion (wellFormed : WellFormed regions) {startAddress remaining}
    (erased : eraseRegion regions startAddress = some remaining) : WellFormed remaining := by
  rw [Memory.eraseRegion] at erased
  split at erased
  · cases erased
    exact ⟨wellFormed.apart.filter _, fun r mem => wellFormed.proper r (mem_of_mem_filter mem)⟩
  · cases erased

/-! ## Lookups -/

/-- What a lookup in a version may answer: a region that contains the address if there
is one, and the only one where the address is not the end of a region. -/
structure AnswersFor (regions : List MemoryRegion) (address : Nat)
    (answer : Option MemoryRegion) : Prop where
  sound : ∀ region ∈ answer, region ∈ regions ∧ region.Contains address
  complete : (∃ region ∈ regions, region.Contains address) → answer.isSome
  unique : ∀ region ∈ regions, region.Contains address → address < region.endAddress →
    answer = some region

theorem mem_takeWhile_of_startAddress_le (apart : regions.Pairwise MemoryRegion.Before)
    {addr} (mem : r ∈ regions) (startLe : r.startAddress ≤ addr) :
    r ∈ regions.takeWhile fun o => o.startAddress ≤ addr := by
  let notAbove (o : MemoryRegion) : Bool := o.startAddress ≤ addr
  have split : regions.takeWhile notAbove ++ regions.dropWhile notAbove = regions :=
    takeWhile_append_dropWhile
  rw [← split] at mem
  rcases mem_append.mp mem with inFront | inBack
  · exact inFront
  · have apartBack : (regions.dropWhile notAbove).Pairwise MemoryRegion.Before :=
      apart.sublist (dropWhile_sublist _)
    have behind : addr + 1 ≤ r.startAddress := by
      refine le_startAddress_of_head apartBack ?_ inBack
      intro head isHead
      have above := head?_dropWhile_not notAbove regions
      rw [mem_def.mp isHead] at above
      have notLe : ¬ head.startAddress ≤ addr := of_decide_eq_false above
      omega
    omega

theorem WellFormed.boundsFromAddress (wellFormed : WellFormed regions) (addr : Nat) :
    ∃ ans, boundsFromAddress regions addr = some ans ∧ AnswersFor regions addr ans := by
  have apartFront : (regions.takeWhile fun r =>
      decide (r.startAddress ≤ addr)).Pairwise MemoryRegion.Before :=
    wellFormed.apart.sublist (takeWhile_sublist _)
  have inFront : ∀ r ∈ regions, r.Contains addr →
      r ∈ regions.takeWhile fun o => o.startAddress ≤ addr := by
    intro r mem contains
    exact mem_takeWhile_of_startAddress_le wellFormed.apart mem contains.1
  rw [Memory.boundsFromAddress]
  cases found : (regions.takeWhile fun r => decide (r.startAddress ≤ addr)).getLast? with
  | none =>
    have noneInFront := getLast?_eq_none_iff.mp found
    have noneContains : ∀ r ∈ regions, ¬ r.Contains addr := by
      intro r mem contains
      have bad := inFront r mem contains
      rw [noneInFront] at bad
      cases bad
    refine ⟨none, rfl, ?_, ?_, ?_⟩
    · nofun
    · rintro ⟨r, mem, contains⟩
      exact absurd contains (noneContains r mem)
    · intro r mem contains
      exact absurd contains (noneContains r mem)
  | some last =>
    have lastInFront := mem_of_getLast? found
    have lastMember := takeWhile_subset _ lastInFront
    have lastStart : last.startAddress ≤ addr := by
      simpa using mem_takeWhile_imp lastInFront
    have proper := wellFormed.proper last lastMember
    -- A region in front of the last one can contain the address only as its end.
    have lastContains : (∃ r ∈ regions, r.Contains addr) → last.Contains addr := by
      rintro ⟨r, mem, contains⟩
      rcases eq_or_before_of_getLast apartFront found (inFront r mem contains) with rfl | beforeLast
      · exact contains
      · refine ⟨lastStart, ?_⟩
        have endLe := contains.2.trans beforeLast.2
        exact endLe.trans proper.2
    have isLast : ∀ r ∈ regions, r.Contains addr → addr < r.endAddress → r = last := by
      intro r mem contains inside
      rcases eq_or_before_of_getLast apartFront found (inFront r mem contains)
        with same | beforeLast
      · exact same
      · have endLe := beforeLast.2
        omega
    dsimp only
    split
    next contains =>
      rw [if_pos proper.areBothValid]
      refine ⟨some last, rfl, ?_, fun _ => rfl, ?_⟩
      · rintro _ ⟨⟩
        exact ⟨lastMember, contains⟩
      · intro r mem containsToo inside
        rw [isLast r mem containsToo inside]
    next doesNotContain =>
      refine ⟨none, rfl, ?_, ?_, ?_⟩
      · nofun
      · intro some
        exact absurd (lastContains some) doesNotContain
      · intro r mem contains
        exact absurd (lastContains ⟨r, mem, contains⟩) doesNotContain

end ScoreIntegration.Memory
