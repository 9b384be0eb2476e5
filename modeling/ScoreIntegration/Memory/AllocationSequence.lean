import Mathlib.Tactic.Common
import ScoreIntegration.Memory.SharedMemoryResource

/-!
# Sequences of allocations

Blocks are placed one behind the other.  The size that is calculated in advance is what an
allocator consumes that starts at the largest alignment there is.
-/

namespace ScoreIntegration.Memory

open Concurrency List Nat TransitionSystem Block

structure DataTypeSizeInfo where
  size : Nat
  alignment : Nat
  isPowerOfTwo : ∃ exponent, alignment = 2 ^ exponent
  isMultiple : alignment ∣ size
  atMostMaxAlign : alignment ≤ maxAlign

namespace DataTypeSizeInfo

def request (info : DataTypeSizeInfo) : AllocationRequest where
  bytes := info.size
  alignment := info.alignment
  isPowerOfTwo := info.isPowerOfTwo

def array (info : DataTypeSizeInfo) (count : Nat) : DataTypeSizeInfo where
  size := count * info.size
  alignment := info.alignment
  isPowerOfTwo := info.isPowerOfTwo
  isMultiple := Dvd.dvd.mul_left info.isMultiple count
  atMostMaxAlign := info.atMostMaxAlign

theorem alignment_pos (info : DataTypeSizeInfo) : 0 < info.alignment := info.request.alignment_pos

theorem alignment_dvd_maxAlign (info : DataTypeSizeInfo) : info.alignment ∣ maxAlign := by
  obtain ⟨exponent, isPower⟩ := info.isPowerOfTwo
  have bound : (2 : Nat) ^ exponent ≤ 2 ^ 4 := by
    rw [← isPower]
    exact info.atMostMaxAlign
  rw [isPower]
  exact Nat.pow_dvd_pow 2 ((Nat.pow_le_pow_iff_right (by decide)).mp bound)

end DataTypeSizeInfo

/-! ## Where a sequence ends -/

/-- The end of the blocks of a sequence that is placed from an offset on. -/
def placedEnd : Nat → List DataTypeSizeInfo → Nat
  | offset, [] => offset
  | offset, info :: infos => placedEnd (alignUp offset info.alignment + info.size) infos

theorem placedEnd_append (offset : Nat) (first second : List DataTypeSizeInfo) :
    placedEnd offset (first ++ second) = placedEnd (placedEnd offset first) second := by
  induction first generalizing offset with
  | nil => rfl
  | cons info infos ih => exact ih _

theorem placedEnd_add {shift} (multiple : maxAlign ∣ shift) (offset : Nat)
    (infos : List DataTypeSizeInfo) :
    placedEnd (offset + shift) infos = placedEnd offset infos + shift := by
  induction infos generalizing offset with
  | nil => rfl
  | cons info infos ih =>
    have shifted := alignUp_add info.alignment_pos
      (info.alignment_dvd_maxAlign.trans multiple) offset
    rw [placedEnd, placedEnd, shifted, add_right_comm, ih]

/-- The blocks of the first sequence are blocks of the second one in the same order,
there possibly larger. -/
inductive Dominated : List DataTypeSizeInfo → List DataTypeSizeInfo → Prop
  | nil : Dominated [] []
  | both {small large : DataTypeSizeInfo} {smalls larges : List DataTypeSizeInfo} :
      small.alignment = large.alignment → small.size ≤ large.size →
      Dominated smalls larges → Dominated (small :: smalls) (large :: larges)
  | extra {smalls larges : List DataTypeSizeInfo} (large : DataTypeSizeInfo) :
      Dominated smalls larges → Dominated smalls (large :: larges)

namespace Dominated

theorem refl (infos : List DataTypeSizeInfo) : Dominated infos infos := by
  induction infos with
  | nil => exact .nil
  | cons info infos ih => exact .both rfl (le_refl _) ih

variable {smalls larges : List DataTypeSizeInfo}

theorem append {otherSmalls otherLarges}
    (dominated : Dominated smalls larges) (otherDominated : Dominated otherSmalls otherLarges) :
    Dominated (smalls ++ otherSmalls) (larges ++ otherLarges) := by
  induction dominated with
  | nil => exact otherDominated
  | both sameAlignment sizeLe _ ih => exact .both sameAlignment sizeLe ih
  | extra large _ ih => exact .extra large ih

theorem nil_left (larges : List DataTypeSizeInfo) : Dominated [] larges := by
  induction larges with
  | nil => exact .nil
  | cons large larges ih => exact .extra large ih

theorem placedEnd_le (dominated : Dominated smalls larges) {first second}
    (le : first ≤ second) : placedEnd first smalls ≤ placedEnd second larges := by
  induction dominated generalizing first second with
  | nil => exact le
  | both sameAlignment sizeLe _ ih =>
    rw [placedEnd, placedEnd, sameAlignment]
    exact ih (Nat.add_le_add (alignUp_mono le _) sizeLe)
  | extra large _ ih =>
    rw [placedEnd]
    refine ih ?_
    calc
      first ≤ second := le
      _ ≤ alignUp second large.alignment := le_alignUp large.alignment_pos second
      _ ≤ _ := Nat.le_add_right _ _

end Dominated

/-! ## The size that is calculated in advance -/

def sizeMax : Nat := 2 ^ 64 - 1

/-- `CalculateAlignedSize`; nothing where the assertion fails. -/
def calculateAlignedSize (size alignment : Nat) : Option Nat :=
  if size % alignment = 0 then some size
  else if alignment < size then
    if size ≤ sizeMax - alignment then some (size + alignment - size % alignment) else none
  else some alignment

variable {size : Nat} {infos : List DataTypeSizeInfo}

theorem calculateAlignedSize_eq_some {alignment aligned} (positive : 0 < alignment)
    (calculated : calculateAlignedSize size alignment = some aligned) :
    aligned = alignUp size alignment := by
  have remainder := Nat.mod_lt size positive
  have remainderLe := Nat.mod_le size alignment
  rw [calculateAlignedSize] at calculated
  split at calculated
  next divides =>
    cases calculated
    exact (alignUp_eq (Nat.dvd_of_mod_eq_zero divides) (Nat.le_refl _) (by omega)).symm
  next doesNotDivide =>
    split at calculated
    · split at calculated
      · cases calculated
        refine (alignUp_eq ?_ (by omega) (by omega)).symm
        have regroup : size + alignment - size % alignment =
            size - size % alignment + alignment := by omega
        rw [regroup]
        exact Nat.dvd_add (Nat.dvd_sub_mod size) (Nat.dvd_refl alignment)
      · cases calculated
    next atMost =>
      cases calculated
      have notZero : size ≠ 0 := by
        rintro rfl
        exact doesNotDivide (Nat.zero_mod _)
      exact (alignUp_eq (Nat.dvd_refl _) (by omega) (by omega)).symm

/-- The loop of `CalculateAlignedSizeOfSequence` from an element on: its size is added
and the next element is aligned behind it. -/
def alignedSizeFrom : Nat → List DataTypeSizeInfo → Option Nat
  | totalSize, [] => some totalSize
  | totalSize, current :: rest =>
    if totalSize ≤ sizeMax - current.size then
      match rest with
      | [] => some (totalSize + current.size)
      | next :: _ =>
        match calculateAlignedSize (totalSize + current.size) next.alignment with
        | none => none
        | some aligned => alignedSizeFrom aligned rest
    else none

def calculateAlignedSizeOfSequence (infos : List DataTypeSizeInfo) : Option Nat :=
  alignedSizeFrom 0 infos

theorem alignedSizeFrom_eq_some {totalSize res}
    (startsAligned : ∀ info ∈ infos.head?, info.alignment ∣ totalSize)
    (calculated : alignedSizeFrom totalSize infos = some res) :
    res = placedEnd totalSize infos := by
  induction infos generalizing totalSize with
  | nil =>
    cases calculated
    rfl
  | cons cur rest ih =>
    have aligned : alignUp totalSize cur.alignment = totalSize :=
      alignUp_eq (startsAligned cur rfl) (Nat.le_refl _) (Nat.lt_add_of_pos_right cur.alignment_pos)
    unfold alignedSizeFrom at calculated
    split at calculated
    · cases rest with
      | nil =>
        cases calculated
        rw [placedEnd, placedEnd, aligned]
      | cons next others =>
        dsimp only at calculated
        split at calculated
        · cases calculated
        next offset found =>
          have isOffset := calculateAlignedSize_eq_some next.alignment_pos found
          have startsNext : next.alignment ∣ offset := by
            rw [isOffset]
            exact dvd_alignUp _ _
          have fromNext := ih (by
            rintro _ ⟨⟩
            exact startsNext) calculated
          have unchanged : alignUp offset next.alignment = offset :=
            alignUp_eq startsNext (Nat.le_refl _) (Nat.lt_add_of_pos_right next.alignment_pos)
          rw [fromNext, placedEnd, unchanged, placedEnd, placedEnd, aligned, isOffset]
    · cases calculated

theorem calculateAlignedSizeOfSequence_eq_some
    (calculated : calculateAlignedSizeOfSequence infos = some size) : size = placedEnd 0 infos :=
  alignedSizeFrom_eq_some (fun _ _ => dvd_zero _) calculated

/-! ## The bytes that are consumed -/

/-- The value of the counter after one thread has made the allocations of a sequence,
and nothing if one of them is refused. -/
def MappedRegion.allocateAll (region : MappedRegion) : Nat → List DataTypeSizeInfo → Option Nat
  | alreadyAllocatedBytes, [] => some alreadyAllocatedBytes
  | alreadyAllocatedBytes, info :: infos =>
    match region.evaluate info.request alreadyAllocatedBytes with
    | none => none
    | some address =>
      let padding := address - (region.baseAddress + alreadyAllocatedBytes)
      region.allocateAll (alreadyAllocatedBytes + (info.size + padding)) infos

theorem MappedRegion.allocateAll_isSome_iff (r : MappedRegion)
    (baseAligned : maxAlign ∣ r.baseAddress) {bytes}
    (inRegion : bytes ≤ r.virtualAddressSpaceToReserve)
    (infos : List DataTypeSizeInfo) :
    (r.allocateAll bytes infos).isSome ↔
      placedEnd bytes infos ≤ r.virtualAddressSpaceToReserve := by
  induction infos generalizing bytes with
  | nil => exact ⟨fun _ => inRegion, fun _ => rfl⟩
  | cons info infos ih =>
    have aligned : alignUp (r.baseAddress + bytes) info.alignment =
        r.baseAddress + alignUp bytes info.alignment := by
      rw [add_comm r.baseAddress, alignUp_add info.alignment_pos
        (info.alignment_dvd_maxAlign.trans baseAligned), add_comm]
    have above := le_alignUp info.alignment_pos bytes
    have fitsIff : r.Fits info.request bytes ↔ alignUp bytes info.alignment + info.size ≤
          r.virtualAddressSpaceToReserve := by
      change alignUp (r.baseAddress + bytes) info.alignment + info.size ≤ _ ↔ _
      rw [aligned]
      omega
    rw [allocateAll, placedEnd]
    split
    next refused =>
      have doesNotFit := (r.evaluate_eq_none_iff info.request inRegion).mp refused
      rw [fitsIff] at doesNotFit
      have behind : alignUp bytes info.alignment + info.size ≤ placedEnd _ infos :=
        (Dominated.nil_left infos).placedEnd_le (le_refl _)
      constructor
      · nofun
      · intro inside
        omega
    next addr evaluated =>
      obtain ⟨isAligned, fits⟩ := (r.evaluate_eq_some_iff info.request inRegion addr).mp evaluated
      have counted : bytes + (info.size + (addr - (r.baseAddress + bytes))) =
          alignUp bytes info.alignment + info.size := by
        have isAddress : addr = r.baseAddress + alignUp bytes info.alignment :=
          isAligned.trans aligned
        omega
      dsimp only
      rw [counted]
      exact ih (fitsIff.mp fits)

/-- The bytes that a sequence of allocations consumes from the region behind the control
block. -/
def bytesConsumed (infos : List DataTypeSizeInfo) : Nat := placedEnd 0 infos

theorem MappedRegion.allocateAll_isSome_iff_bytesConsumed_le (r : MappedRegion)
    (baseAligned : maxAlign ∣ r.baseAddress)
    (created : r.virtualAddressSpaceToReserve = neededManagementSpace + size)
    (infos : List DataTypeSizeInfo) :
    (r.allocateAll neededManagementSpace infos).isSome ↔ bytesConsumed infos ≤ size := by
  have shifted := placedEnd_add (by decide : maxAlign ∣ neededManagementSpace) 0 infos
  rw [zero_add] at shifted
  rw [r.allocateAll_isSome_iff baseAligned r.holdsControlBlock, shifted, created, bytesConsumed]
  omega

/-! ## The resource in use -/

namespace SharedMemoryResource

/-- One thread makes the allocations of a sequence, each with some compare-exchanges that
fail without reason. -/
def allocateInTurn : List (DataTypeSizeInfo × Nat) → List AllocationStep
  | [] => []
  | (info, failures) :: allocations =>
    .allocate 0 info.request :: .load 0 :: (List.replicate failures (.compareExchange 0 true) ++
      .compareExchange 0 false :: allocateInTurn allocations)

variable {region : MappedRegion} {resource : SharedMemoryResource}
  {allocations : List (DataTypeSizeInfo × Nat)}

theorem setThread_setThread (t : Nat) (first second : AllocationThread) :
    (resource.setThread t first).setThread t second = resource.setThread t second := by
  simp [setThread]

theorem run_failures {req addr labels failures n}
    (evaluated : region.evaluate req resource.alreadyAllocatedBytes = some addr)
    (roundsLeft : n + failures < maxRetries) :
    run (step region) (resource.setThread 0
        (.reserving req resource.alreadyAllocatedBytes n))
      (replicate failures (.compareExchange 0 true) ++ labels) =
    run (step region) (resource.setThread 0
      (.reserving req resource.alreadyAllocatedBytes (n + failures))) labels := by
  induction failures generalizing n with
  | zero => rfl
  | succ failures ih =>
    have another : n + 1 < maxRetries := by omega
    simp only [replicate_succ, cons_append, run, step,
      threads_setThread_self, evaluated, exchange, another, Bool.true_eq_false, and_false, if_false,
      if_true, setThread_setThread]
    rw [← add_assoc, add_right_comm]
    exact ih (by omega)

theorem run_allocateInTurn (isIdle : resource.threads 0 = .idle)
    (fits : (region.allocateAll resource.alreadyAllocatedBytes (allocations.map Prod.fst)).isSome)
    (roundsLeft : ∀ allocation ∈ allocations, allocation.2 < maxRetries) :
    ∃ s', run (step region) resource (allocateInTurn allocations) =
        some s' ∧ s'.refusals = resource.refusals ∧
      s'.blocks.map request =
        (allocations.map (·.1.request)).reverse ++ resource.blocks.map request := by
  induction allocations generalizing resource with
  | nil => exact ⟨resource, rfl, rfl, rfl⟩
  | cons allocation allocations ih =>
    rw [map_cons, MappedRegion.allocateAll] at fits
    split at fits
    next => cases fits
    next addr evaluated =>
      have rounds : 0 + allocation.2 < maxRetries := by
        simpa using roundsLeft allocation mem_cons_self
      have counter : ∀ pos, (resource.setThread 0 pos).alreadyAllocatedBytes =
        resource.alreadyAllocatedBytes := fun _ => rfl
      simp only [allocateInTurn, run, step, isIdle, threads_setThread_self,
        setThread_setThread, counter, run_failures evaluated rounds, evaluated, exchange, and_self,
        if_true]
      refine Exists.imp (fun s' ends => ⟨ends.1, ends.2.1, ends.2.2.trans ?_⟩)
        (ih ?_ fits fun _ isIn => ?_)
      · exact resource.threads_setThread_self 0 .idle
      · exact roundsLeft _ (mem_cons_of_mem _ isIn)
      · simp [setThread]

/-- The size that is calculated for a sequence suffices for its allocations: each has its block,
aligned and in the region, and no two blocks overlap. -/
theorem calculated_size_suffices
    (calculated : calculateAlignedSizeOfSequence (allocations.map Prod.fst) = some size)
    (created : region.virtualAddressSpaceToReserve = neededManagementSpace + size)
    (pageAligned : 4096 ∣ region.baseAddress)
    (roundsLeft : ∀ allocation ∈ allocations, allocation.2 < maxRetries) :
    ∃ resource, run (step region) (start neededManagementSpace)
        (allocateInTurn allocations) = some resource ∧ resource.refusals = [] ∧
      resource.blocks.map request = (allocations.map (·.1.request)).reverse ∧
      (∀ block ∈ resource.blocks, WellPlaced region block) ∧ resource.blocks.Pairwise Apart := by
  have fits := (region.allocateAll_isSome_iff_bytesConsumed_le
    ((by decide : maxAlign ∣ 4096).trans pageAligned) created _).mpr
      (calculateAlignedSizeOfSequence_eq_some calculated).ge
  have isIdle : (start neededManagementSpace).threads 0 = .idle := rfl
  obtain ⟨resource, ran, refusals, blocks⟩ := run_allocateInTurn isIdle fits roundsLeft
  have inv := reachable_invariant (le_refl _) region.holdsControlBlock (.run (.initial rfl) ran)
  exact ⟨resource, ran, refusals, blocks.trans (List.append_nil _),
    fun block isIn => (inv.counted block isIn).1, inv.apart⟩

theorem byteThenWord_suffices :
    let byteThenWord : List (DataTypeSizeInfo × Nat) :=
      [(⟨1, 1, ⟨0, rfl⟩, ⟨1, rfl⟩, by decide⟩, 1), (⟨8, 8, ⟨3, rfl⟩, ⟨1, rfl⟩, by decide⟩, 0)]
    calculateAlignedSizeOfSequence (byteThenWord.map Prod.fst) = some 16 ∧
    let region : MappedRegion := ⟨4096, 32, by decide, by decide, by decide⟩
    ∃ resource, run (step region)
        (start neededManagementSpace) (allocateInTurn byteThenWord) = some resource ∧
      resource.refusals = [] ∧
      resource.blocks.map request = [⟨8, 8, ⟨3, rfl⟩⟩, ⟨1, 1, ⟨0, rfl⟩⟩] ∧
      (∀ block ∈ resource.blocks, WellPlaced region block) ∧ resource.blocks.Pairwise Apart :=
  ⟨rfl, calculated_size_suffices rfl rfl ⟨1, rfl⟩ (by decide)⟩

end SharedMemoryResource

end ScoreIntegration.Memory
