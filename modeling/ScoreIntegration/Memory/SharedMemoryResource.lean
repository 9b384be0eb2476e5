import Mathlib.Data.List.Pairwise
import Mathlib.Logic.Function.Basic
import ScoreIntegration.Concurrency.Transitions
import ScoreIntegration.Memory.Alignment

/-!
# The monotonic allocator of shared memory

A region starts with a control block that counts the bytes allocated so far.  Threads of
any processes advance the counter with a compare-exchange, and compute their block anew
after a failed attempt.
-/

namespace ScoreIntegration.Memory

open Concurrency Function Nat TransitionSystem

/-- The control block is an atomic counter and the identifier of the memory. -/
def controlBlockSize : Nat := 16

def maxAlign : Nat := 16

def neededManagementSpace : Nat := alignUp controlBlockSize maxAlign

/-- A region that is mapped: it holds the control block, and no sum or difference of its
addresses leaves the range of the types that the allocator computes with. -/
structure MappedRegion where
  baseAddress : Nat
  virtualAddressSpaceToReserve : Nat
  inAddressSpace : baseAddress + virtualAddressSpaceToReserve < 2 ^ 64
  differenceFits : virtualAddressSpaceToReserve < 2 ^ 63
  holdsControlBlock : neededManagementSpace ≤ virtualAddressSpaceToReserve

structure AllocationRequest where
  bytes : Nat
  alignment : Nat
  isPowerOfTwo : ∃ exponent, alignment = 2 ^ exponent

theorem AllocationRequest.alignment_pos (req : AllocationRequest) : 0 < req.alignment := by
  obtain ⟨exponent, isPower⟩ := req.isPowerOfTwo
  rw [isPower]
  exact Nat.two_pow_pos exponent

/-- `std::align`: the first aligned address, if the block fits into the space. -/
def align (alignment bytes address space : Nat) : Option Nat :=
  let aligned := alignUp address alignment
  if bytes ≤ space ∧ aligned - address ≤ space - bytes then some aligned else none

def doAllocationAlgorithm (allocStart allocEnd bytes alignment : Nat) : Option Nat :=
  align alignment bytes allocStart (allocEnd - allocStart)

section

variable (region : MappedRegion) (request : AllocationRequest) (alreadyAllocatedBytes : Nat)

def MappedRegion.evaluate : Option Nat :=
  doAllocationAlgorithm (region.baseAddress + alreadyAllocatedBytes)
    (region.baseAddress + region.virtualAddressSpaceToReserve) request.bytes
    request.alignment

def MappedRegion.Fits : Prop :=
  alignUp (region.baseAddress + alreadyAllocatedBytes) request.alignment + request.bytes ≤
    region.baseAddress + region.virtualAddressSpaceToReserve

end

variable {alreadyAllocatedBytes : Nat}

section

variable (r : MappedRegion) (req : AllocationRequest)
  (inRegion : alreadyAllocatedBytes ≤ r.virtualAddressSpaceToReserve)
include r req inRegion

theorem MappedRegion.evaluate_eq_some_iff (addr : Nat) :
    r.evaluate req alreadyAllocatedBytes = some addr ↔
      addr = alignUp (r.baseAddress + alreadyAllocatedBytes) req.alignment ∧
        r.Fits req alreadyAllocatedBytes := by
  have above := le_alignUp req.alignment_pos (r.baseAddress + alreadyAllocatedBytes)
  simp only [evaluate, doAllocationAlgorithm, align, Fits]
  split
  next fits =>
    constructor
    · rintro ⟨⟩
      exact ⟨rfl, by omega⟩
    · rintro ⟨rfl, _⟩
      rfl
  next doesNotFit =>
    constructor
    · nofun
    · rintro ⟨_, fits⟩
      exact absurd (by omega) doesNotFit

theorem MappedRegion.evaluate_eq_none_iff : r.evaluate req alreadyAllocatedBytes = none ↔
      ¬ r.Fits req alreadyAllocatedBytes := by
  constructor
  · intro found fits
    have evaluated := (r.evaluate_eq_some_iff req inRegion _).mpr ⟨rfl, fits⟩
    rw [found] at evaluated
    cases evaluated
  · intro doesNotFit
    by_contra found
    obtain ⟨addr, evaluated⟩ := Option.ne_none_iff_exists'.mp found
    exact doesNotFit ((r.evaluate_eq_some_iff req inRegion addr).mp evaluated).2

end

/-! ## Concurrent allocations -/

def maxRetries : Nat := 32

/-- Where a thread is in `do_allocate`: `alreadyAllocatedBytes` is the value of the
counter that it has read last. -/
inductive AllocationThread where
  | idle
  | loading (request : AllocationRequest)
  | reserving (request : AllocationRequest) (alreadyAllocatedBytes retryCount : Nat)
  | terminated

structure Block where
  address : Nat
  request : AllocationRequest

/-- An allocation that ended in `std::terminate`: the value of the counter it was last
evaluated against, and how many compare-exchanges had failed. -/
structure Refusal where
  request : AllocationRequest
  evaluatedAgainst : Nat
  failedAttempts : Nat

/-- The reason of a refusal: the block does not fit behind the value of the counter it
was evaluated against, or the last compare-exchange has failed as well. -/
def Refusal.Justified (region : MappedRegion) (refusal : Refusal) : Prop :=
  ¬ region.Fits refusal.request refusal.evaluatedAgainst ∨ refusal.failedAttempts = maxRetries

/-- The counter, the threads, and what came of the allocations so far, newest first. -/
structure SharedMemoryResource where
  alreadyAllocatedBytes : Nat
  threads : Nat → AllocationThread
  blocks : List Block
  refusals : List Refusal

inductive AllocationStep where
  | allocate (thread : Nat) (request : AllocationRequest)
  | load (thread : Nat)
  /-- One round of the loop; a weak compare-exchange may fail without reason. -/
  | compareExchange (thread : Nat) (failsSpuriously : Bool)

namespace SharedMemoryResource

section

variable (resource : SharedMemoryResource)

def setThread (thread : Nat) (position : AllocationThread) : SharedMemoryResource :=
  { resource with threads := Function.update resource.threads thread position }

theorem threads_setThread_of_ne {t o} (differ : o ≠ t) (pos : AllocationThread) :
    (resource.setThread t pos).threads o = resource.threads o :=
  update_of_ne differ _ _

theorem threads_setThread_self (t : Nat) (pos : AllocationThread) :
    (resource.setThread t pos).threads t = pos :=
  update_self _ _ _

def terminate (thread : Nat) (request : AllocationRequest) (evaluatedAgainst failedAttempts : Nat) :
    SharedMemoryResource :=
  { resource.setThread thread .terminated with
    refusals := ⟨request, evaluatedAgainst, failedAttempts⟩ :: resource.refusals }

end

/-- The compare-exchange of one round, for a block at `address`. -/
def exchange (region : MappedRegion) (resource : SharedMemoryResource) (thread : Nat)
    (request : AllocationRequest) (alreadyAllocatedBytes retryCount address : Nat)
    (failsSpuriously : Bool) : SharedMemoryResource :=
  if resource.alreadyAllocatedBytes = alreadyAllocatedBytes ∧ failsSpuriously = false then
    let padding := address - (region.baseAddress + alreadyAllocatedBytes)
    { resource.setThread thread .idle with
      alreadyAllocatedBytes := alreadyAllocatedBytes + (request.bytes + padding)
      blocks := ⟨address, request⟩ :: resource.blocks }
  else if retryCount + 1 < maxRetries then
    resource.setThread thread (.reserving request resource.alreadyAllocatedBytes (retryCount + 1))
  else resource.terminate thread request alreadyAllocatedBytes (retryCount + 1)

def step (region : MappedRegion) (resource : SharedMemoryResource) :
    AllocationStep → Option SharedMemoryResource
  | .allocate thread request =>
    match resource.threads thread with
    | .idle => some (resource.setThread thread (.loading request))
    | _ => none
  | .load thread =>
    match resource.threads thread with
    | .loading request =>
      some (resource.setThread thread (.reserving request resource.alreadyAllocatedBytes 0))
    | _ => none
  | .compareExchange thread failsSpuriously =>
    match resource.threads thread with
    | .reserving request alreadyAllocatedBytes retryCount =>
      match region.evaluate request alreadyAllocatedBytes with
      | none => some (resource.terminate thread request alreadyAllocatedBytes retryCount)
      | some address =>
        some (exchange region resource thread request alreadyAllocatedBytes
          retryCount address failsSpuriously)
    | _ => none

def start (alreadyAllocatedBytes : Nat) : SharedMemoryResource where
  alreadyAllocatedBytes := alreadyAllocatedBytes
  threads := fun _ => .idle
  blocks := []
  refusals := []

def allocations (region : MappedRegion) (alreadyAllocatedBytes : Nat) :
    TransitionSystem SharedMemoryResource AllocationStep :=
  .ofStep (start alreadyAllocatedBytes) (step region)

def Apart (first second : Block) : Prop :=
  ∀ address, ¬ ((first.address ≤ address ∧ address < first.address + first.request.bytes) ∧
      second.address ≤ address ∧ address < second.address + second.request.bytes)

/-- A block is aligned and lies in the region behind the control block. -/
structure WellPlaced (region : MappedRegion) (block : Block) : Prop where
  aligned : block.request.alignment ∣ block.address
  behindControlBlock : region.baseAddress + neededManagementSpace ≤ block.address
  inRegion : block.address + block.request.bytes ≤
    region.baseAddress + region.virtualAddressSpaceToReserve

structure Invariant (region : MappedRegion) (resource : SharedMemoryResource) : Prop where
  behindControlBlock : neededManagementSpace ≤ resource.alreadyAllocatedBytes
  inRegion : resource.alreadyAllocatedBytes ≤ region.virtualAddressSpaceToReserve
  /-- Blocks end where the counter stands at the latest. -/
  counted : ∀ block ∈ resource.blocks, WellPlaced region block ∧
    block.address + block.request.bytes ≤ region.baseAddress + resource.alreadyAllocatedBytes
  apart : resource.blocks.Pairwise Apart
  /-- Threads have read values that the counter has had, and have rounds left. -/
  read : ∀ thread request alreadyAllocatedBytes retryCount,
    resource.threads thread = .reserving request alreadyAllocatedBytes retryCount →
    alreadyAllocatedBytes ≤ region.virtualAddressSpaceToReserve ∧ retryCount < maxRetries
  justified : ∀ refusal ∈ resource.refusals, refusal.Justified region

variable {region : MappedRegion} {resource : SharedMemoryResource} {req : AllocationRequest}
  {before after : SharedMemoryResource} {label : AllocationStep}

section

variable (inv : Invariant region resource)
include inv

theorem Invariant.setThread (t : Nat) {pos}
    (readsWell : ∀ req alreadyAllocatedBytes n, pos = .reserving req alreadyAllocatedBytes n →
      alreadyAllocatedBytes ≤ region.virtualAddressSpaceToReserve ∧ n < maxRetries) :
    Invariant region (resource.setThread t pos) := by
  refine { inv with read := ?_ }
  intro o req alreadyAllocatedBytes n reserving
  by_cases same : o = t
  · rw [same, threads_setThread_self] at reserving
    exact readsWell req alreadyAllocatedBytes n reserving
  · rw [resource.threads_setThread_of_ne same] at reserving
    exact inv.read o req alreadyAllocatedBytes n reserving

theorem Invariant.terminate (t : Nat) {evaluatedAgainst failedAttempts}
    (justified : Refusal.Justified region ⟨req, evaluatedAgainst, failedAttempts⟩) :
    Invariant region (resource.terminate t req evaluatedAgainst failedAttempts) := by
  have moved : Invariant region (resource.setThread t .terminated) := inv.setThread t nofun
  refine { moved with justified := ?_ }
  intro refusal mem
  rcases List.mem_cons.mp mem with rfl | old
  · exact justified
  · exact inv.justified refusal old

theorem Invariant.reserve (t : Nat) {addr}
    (evaluated : region.evaluate req resource.alreadyAllocatedBytes = some addr) :
    Invariant region { resource.setThread t .idle with
        alreadyAllocatedBytes := resource.alreadyAllocatedBytes + (req.bytes +
            (addr - (region.baseAddress + resource.alreadyAllocatedBytes)))
        blocks := ⟨addr, req⟩ :: resource.blocks } := by
  obtain ⟨isAligned, fits⟩ := (region.evaluate_eq_some_iff req inv.inRegion addr).mp evaluated
  have above := le_alignUp req.alignment_pos (region.baseAddress + resource.alreadyAllocatedBytes)
  rw [MappedRegion.Fits] at fits
  rw [← isAligned] at fits above
  have behind := inv.behindControlBlock
  have moved : Invariant region (resource.setThread t .idle) := inv.setThread t nofun
  have placed : WellPlaced region ⟨addr, req⟩ := by
    refine ⟨?_, ?_, fits⟩
    · rw [isAligned]
      exact dvd_alignUp _ _
    · dsimp only
      omega
  constructor
  · dsimp only
    omega
  · dsimp only
    omega
  · intro block mem
    rcases List.mem_cons.mp mem with rfl | old
    · refine ⟨placed, ?_⟩
      dsimp only
      omega
    · obtain ⟨placedBefore, counted⟩ := inv.counted block old
      refine ⟨placedBefore, ?_⟩
      dsimp only
      omega
  · refine List.pairwise_cons.mpr ⟨?_, inv.apart⟩
    rintro block old shared ⟨inNew, inOld⟩
    have counted := (inv.counted block old).2
    dsimp only at inNew
    omega
  · exact moved.read
  · exact inv.justified

end

theorem invariant_step (inv : Invariant region before)
    (taken : step region before label = some after) :
    Invariant region after ∧ before.alreadyAllocatedBytes ≤ after.alreadyAllocatedBytes := by
  cases label with
  | allocate t req =>
    rw [step] at taken
    split at taken
    · cases taken
      exact ⟨inv.setThread t nofun, le_refl _⟩
    · cases taken
  | load t =>
    rw [step] at taken
    split at taken
    · cases taken
      refine ⟨inv.setThread t ?_, le_refl _⟩
      rintro _ _ _ ⟨⟩
      exact ⟨inv.inRegion, by decide⟩
    · cases taken
  | compareExchange t failsSpuriously =>
    rw [step] at taken
    split at taken
    next req alreadyAllocatedBytes n reserving =>
      obtain ⟨readInRegion, roundsLeft⟩ := inv.read t _ _ _ reserving
      split at taken
      next doesNotFit =>
        cases taken
        exact ⟨inv.terminate t
          (.inl ((region.evaluate_eq_none_iff req readInRegion).mp doesNotFit)), le_refl _⟩
      next addr evaluated =>
        cases taken
        rw [exchange]
        split
        next exchanged =>
          obtain ⟨keep, _⟩ := exchanged
          rw [← keep] at evaluated ⊢
          exact ⟨inv.reserve t evaluated, le_add_right _ _⟩
        · split
          next anotherRound =>
            refine ⟨inv.setThread t ?_, le_refl _⟩
            rintro _ _ _ ⟨⟩
            exact ⟨inv.inRegion, anotherRound⟩
          next lastRound =>
            refine ⟨inv.terminate t (.inr ?_), le_refl _⟩
            dsimp only
            omega
    · cases taken

theorem reachable_invariant {alreadyAllocatedBytes}
    (behindControlBlock : neededManagementSpace ≤ alreadyAllocatedBytes)
    (inRegion : alreadyAllocatedBytes ≤ region.virtualAddressSpaceToReserve)
    (reachable : (allocations region alreadyAllocatedBytes).Reachable resource) :
    Invariant region resource := by
  refine reachable.invariant (Invariant region) ?_ ?_
  · rintro _ rfl
    exact ⟨behindControlBlock, inRegion, nofun, .nil, nofun, nofun⟩
  · intro before label after invariantBefore taken
    exact (invariant_step invariantBefore taken).1

/-- The blocks that were returned are apart from each other, aligned, and in the region behind
the control block; no step takes bytes back; and an allocation is refused only if it does
not fit or its last compare-exchange has failed. -/
theorem reachable_blocks_apart (region : MappedRegion) {alreadyAllocatedBytes : Nat}
    (behindControlBlock : neededManagementSpace ≤ alreadyAllocatedBytes)
    (inRegion : alreadyAllocatedBytes ≤ region.virtualAddressSpaceToReserve)
    {resource : SharedMemoryResource}
    (reachable : (allocations region alreadyAllocatedBytes).Reachable resource) :
    resource.blocks.Pairwise Apart ∧ (∀ block ∈ resource.blocks, WellPlaced region block) ∧
      (∀ label after, step region resource label = some after →
        resource.alreadyAllocatedBytes ≤ after.alreadyAllocatedBytes) ∧
      (∀ refusal ∈ resource.refusals, ¬ region.Fits refusal.request refusal.evaluatedAgainst ∨
          refusal.failedAttempts = maxRetries) := by
  have invariant := reachable_invariant behindControlBlock inRegion reachable
  exact ⟨invariant.apart, fun block member => (invariant.counted block member).1,
    fun label after taken => (invariant_step invariant taken).2, invariant.justified⟩

/-- Two pages at the second page of the address space. -/
def smallRegion : MappedRegion where
  baseAddress := 4096
  virtualAddressSpaceToReserve := 8192
  inAddressSpace := by decide
  differenceFits := by decide
  holdsControlBlock := by decide

def oneByte : AllocationRequest := ⟨1, 1, 0, rfl⟩

def oneWord : AllocationRequest := ⟨16, 16, 4, rfl⟩

/-- Thread 1 allocates a byte before each of the compare-exchanges of thread 0. -/
def overtaken : List AllocationStep :=
  .allocate 0 oneWord :: .load 0 :: (List.replicate maxRetries
      [.allocate 1 oneByte, .load 1, .compareExchange 1 false, .compareExchange 0 false]).flatten

theorem overtaken_refused_although_fits :
    ∃ resource, (allocations smallRegion neededManagementSpace).Reachable resource ∧
      ∃ refusal ∈ resource.refusals, smallRegion.Fits refusal.request refusal.evaluatedAgainst := by
  refine exists_reachable overtaken ⟨_, rfl, ⟨oneWord, 47, 32⟩, List.mem_singleton.mpr rfl, ?_⟩
  rw [MappedRegion.Fits]
  decide

/-- Two threads read the same value of the counter; one of them takes a second round. -/
theorem overlapping_blocks_apart :
    ∃ resource, (allocations smallRegion neededManagementSpace).Reachable resource ∧
      resource.blocks = [⟨4128, oneWord⟩, ⟨4112, oneByte⟩] ∧
      resource.blocks.Pairwise Apart ∧
      (∀ block ∈ resource.blocks, WellPlaced smallRegion block) := by
  obtain ⟨resource, reachable, blocks⟩ : ∃ resource,
      (allocations smallRegion neededManagementSpace).Reachable resource ∧
      resource.blocks = [⟨4128, oneWord⟩, ⟨4112, oneByte⟩] :=
    exists_reachable [.allocate 0 oneWord, .allocate 1 oneByte, .load 0, .load 1,
      .compareExchange 1 false, .compareExchange 0 false, .compareExchange 0 false] ⟨_, rfl, rfl⟩
  obtain ⟨apart, placed, _⟩ := reachable_blocks_apart smallRegion (Nat.le_refl _)
    smallRegion.holdsControlBlock reachable
  exact ⟨resource, reachable, blocks, apart, placed⟩

end SharedMemoryResource

end ScoreIntegration.Memory
