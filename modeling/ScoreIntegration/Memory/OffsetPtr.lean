import Mathlib.Logic.Function.Basic
import ScoreIntegration.Concurrency.Transitions
import ScoreIntegration.Memory.KnownRegions
import ScoreIntegration.Memory.PointerArithmetic

/-!
# Offset pointers

An offset pointer stores the distance from its own address to its target.  It is
checked against the bounds of the region that it lives in, and outside of every region
against the bounds that it remembers.  Beside each object of the process stands what an
ordinary pointer in its place would be.
-/

namespace ScoreIntegration.Memory

open Concurrency

/-- `MemoryRegionBounds` without bounds. -/
def MemoryRegion.empty : MemoryRegion := ⟨0, 0⟩

def MemoryRegion.hasValue (bounds : MemoryRegion) : Bool :=
  bounds.startAddress != 0 && bounds.endAddress != 0

variable {r : MemoryRegion}

theorem MemoryRegion.Proper.hasValue (proper : r.Proper) : r.hasValue = true := by
  obtain ⟨positive, ordered⟩ := proper
  have startValid : r.startAddress ≠ 0 := by omega
  have endValid : r.endAddress ≠ 0 := by omega
  simp [MemoryRegion.hasValue, startValid, endValid]

/-- The regions of the memory resource registry and the global switch of the
bounds checks. -/
structure BoundsChecking where
  regions : List MemoryRegion
  wellFormed : WellFormed regions
  isBoundsCheckingEnabled : Bool

def BoundsChecking.residence (checking : BoundsChecking) (address : Nat) : Option MemoryRegion :=
  (boundsFromAddress checking.regions address).join

theorem BoundsChecking.boundsFromAddress_eq (checking : BoundsChecking) (addr : Nat) :
    boundsFromAddress checking.regions addr = some (checking.residence addr) := by
  obtain ⟨ans, found, _⟩ := checking.wellFormed.boundsFromAddress addr
  rw [BoundsChecking.residence, found]
  rfl

theorem BoundsChecking.mem_of_residence {checking : BoundsChecking} {addr : Nat}
    (resides : checking.residence addr = some r) : r ∈ checking.regions := by
  obtain ⟨ans, found, answers⟩ := checking.wellFormed.boundsFromAddress addr
  rw [checking.boundsFromAddress_eq, resides] at found
  cases found
  exact (answers.sound r rfl).1

/-- The pointed-to type enters by its size only. -/
structure OffsetPtr where
  offset : Int
  memoryBounds : MemoryRegion
  pointedTypeSize : Nat

def kNullPtrRepresentation : Int := 1

/-- An offset and two addresses. -/
def sizeOfOffsetPtr : Nat := 24

namespace OffsetPtr

/-! ## Offsets and pointers -/

/-- A raw pointer is an address; zero is the null pointer. -/
def calculateOffsetFromPointer (offsetPtrAddress pointedToAddress : Nat) : Option Int :=
  if pointedToAddress = 0 then some kNullPtrRepresentation
  else do
    let offset ← subtractPointersBytes pointedToAddress offsetPtrAddress
    if offset ≠ kNullPtrRepresentation then some offset else none

def calculatePointerFromOffset (offset : Int) (offsetPtr : Nat) : Option Nat :=
  if offset = kNullPtrRepresentation then some 0
  else addSignedOffsetToPointerAsInteger offsetPtr offset

variable (checking : BoundsChecking)

/-- The bounds that a copy carries: none unless it is made outside of every region. -/
def boundsOfCopy (sourceAddress : Nat)
    (source : OffsetPtr) (targetAddress : Nat) : Option MemoryRegion :=
  if checking.isBoundsCheckingEnabled then do
    let sourceBounds ← boundsFromAddress checking.regions sourceAddress
    let targetBounds ← boundsFromAddress checking.regions targetAddress
    match sourceBounds, targetBounds with
    | some region, none => pure region
    | none, none => pure source.memoryBounds
    | _, some _ => pure MemoryRegion.empty
  else
    pure MemoryRegion.empty

def copyFrom (sourceAddress : Nat) (source : OffsetPtr)
    (targetAddress : Nat) : Option (Int × MemoryRegion) := do
  let memoryBounds ← boundsOfCopy checking sourceAddress source targetAddress
  let pointedToObject ← calculatePointerFromOffset source.offset sourceAddress
  if pointedToObject = 0 then
    pure (kNullPtrRepresentation, MemoryRegion.empty)
  else do
    let offset ← calculateOffsetFromPointer targetAddress pointedToObject
    pure (offset, memoryBounds)

def incrementOffset (pointer : OffsetPtr) (multiple : Nat) : Option OffsetPtr :=
  if multiple ≤ uintptrMax / pointer.pointedTypeSize then do
    let offset ← addUnsignedToSigned pointer.offset (multiple * pointer.pointedTypeSize)
    pure { pointer with offset }
  else none

def decrementOffset (pointer : OffsetPtr) (multiple : Nat) : Option OffsetPtr :=
  if multiple ≤ uintptrMax / pointer.pointedTypeSize then do
    let offset ← subtractUnsignedFromSigned pointer.offset (multiple * pointer.pointedTypeSize)
    pure { pointer with offset }
  else none

def add (pointer : OffsetPtr) (offset : Int) : Option OffsetPtr :=
  if offset > 0 then pointer.incrementOffset offset.toNat
  else if offset < 0 then pointer.decrementOffset (absoluteValue offset)
  else some pointer

def subtract (pointer : OffsetPtr) (offset : Int) : Option OffsetPtr :=
  if offset > 0 then pointer.decrementOffset offset.toNat
  else if offset < 0 then pointer.incrementOffset (absoluteValue offset)
  else some pointer

/-! ## Bounds checks -/

def isPointerWithinMemoryBounds (pointer : Nat) (bounds : MemoryRegion) : Bool :=
  bounds.startAddress ≤ pointer && pointer ≤ bounds.endAddress

section

variable (offsetPtrAddress : Nat) (offset : Int) (bounds : MemoryRegion) (pointedTypeSize : Nat)

def doesPointedObjectPassBoundsChecks : Option Bool := do
  let pointedToStart ← addSignedOffsetToPointerAsInteger offsetPtrAddress offset
  if isPointerWithinMemoryBounds pointedToStart bounds then do
    let pointedToEnd ← addOffsetToPointerAsInteger pointedToStart pointedTypeSize
    pure (isPointerWithinMemoryBounds pointedToEnd bounds)
  else
    pure false

def doesOffsetPtrInSharedMemoryPassBoundsChecks : Option Bool := do
  let offsetPtrEnd ← addOffsetToPointerAsInteger offsetPtrAddress sizeOfOffsetPtr
  if isPointerWithinMemoryBounds offsetPtrEnd bounds then
    doesPointedObjectPassBoundsChecks offsetPtrAddress offset bounds pointedTypeSize
  else
    pure false

def doesOffsetPtrNotInSharedMemoryPassBoundsChecks : Option Bool := do
  let offsetPtrEnd ← addOffsetToPointerAsInteger offsetPtrAddress sizeOfOffsetPtr
  let offsetPtrEndBounds ← boundsFromAddress checking.regions offsetPtrEnd
  if offsetPtrEndBounds.isSome then
    pure false
  else if bounds.hasValue then
    doesPointedObjectPassBoundsChecks offsetPtrAddress offset bounds pointedTypeSize
  else
    pure true

end

/-- The process ends where a check fails. -/
def assertPrd (passes : Option Bool) : Option Unit := if passes = some true then some () else none

def assertOffsetBoundsCheck (address : Nat)
    (offset : Int) (boundsWhenNotInShm : MemoryRegion) (pointedTypeSize : Nat) : Option Unit :=
  if checking.isBoundsCheckingEnabled then do
    let bounds ← boundsFromAddress checking.regions address
    match bounds with
    | some region =>
      assertPrd (doesOffsetPtrInSharedMemoryPassBoundsChecks address offset region pointedTypeSize)
    | none =>
      assertPrd (doesOffsetPtrNotInSharedMemoryPassBoundsChecks checking address
        offset boundsWhenNotInShm pointedTypeSize)
  else some ()

/-- `GetPointerWithBoundsCheck` of an object, behind `get`, `operator->` and the
conversion to a raw pointer. -/
def getPointerWithBoundsCheck (address : Nat) (pointer : OffsetPtr) : Option Nat := do
  assertOffsetBoundsCheck checking address pointer.offset pointer.memoryBounds
    pointer.pointedTypeSize
  calculatePointerFromOffset pointer.offset address

def dereference (address : Nat) (pointer : OffsetPtr) : Option Nat := do
  let target ← getPointerWithBoundsCheck checking address pointer
  if target ≠ 0 then some target else none

end OffsetPtr

/-! ## Operations on the objects of a process -/

/-- An object of this address fits into the address space. -/
def IsPlace (address : Nat) : Prop := 0 < address ∧ address + sizeOfOffsetPtr ≤ uintptrMax

instance (address : Nat) : Decidable (IsPlace address) := inferInstanceAs (Decidable (_ ∧ _))

inductive OffsetPtrStep where
  | construct (address pointedTypeSize pointer : Nat)
  | copyConstruct (address pointedTypeSize source : Nat)
  | assignPointer (address pointer : Nat)
  | assign (address source : Nat)
  | add (address : Nat) (offset : Int)
  | subtract (address : Nat) (offset : Int)
  | swap (left right : Nat)

abbrev OffsetPtrs := Nat → Option OffsetPtr

namespace OffsetPtrs

def construct (objects : OffsetPtrs) (address pointedTypeSize pointer : Nat) : Option OffsetPtrs :=
  if IsPlace address ∧ objects address = none ∧ pointer ≤ uintptrMax then do
    let offset ← OffsetPtr.calculateOffsetFromPointer address pointer
    pure (Function.update objects address (some ⟨offset, .empty, pointedTypeSize⟩))
  else none

variable (checking : BoundsChecking)

def copyConstruct (objects : OffsetPtrs)
    (address pointedTypeSize source : Nat) : Option OffsetPtrs :=
  if IsPlace address ∧ objects address = none then do
    let other ← objects source
    let (offset, memoryBounds) ← other.copyFrom checking source address
    pure (Function.update objects address (some ⟨offset, memoryBounds, pointedTypeSize⟩))
  else none

def assignPointer (objects : OffsetPtrs) (address pointer : Nat) : Option OffsetPtrs := do
  let object ← objects address
  if pointer ≤ uintptrMax then do
    let offset ← OffsetPtr.calculateOffsetFromPointer address pointer
    pure (Function.update objects address (some { object with offset, memoryBounds := .empty }))
  else none

def assign (objects : OffsetPtrs) (address source : Nat) : Option OffsetPtrs := do
  let object ← objects address
  let other ← objects source
  if address = source then
    pure objects
  else do
    let (offset, memoryBounds) ← other.copyFrom checking source address
    pure (Function.update objects address (some { object with offset, memoryBounds }))

def add (objects : OffsetPtrs) (address : Nat) (offset : Int) : Option OffsetPtrs := do
  let object ← objects address
  if IsPtrdiff offset then do
    let moved ← object.add offset
    pure (Function.update objects address (some moved))
  else none

def subtract (objects : OffsetPtrs) (address : Nat) (offset : Int) : Option OffsetPtrs := do
  let object ← objects address
  if IsPtrdiff offset then do
    let moved ← object.subtract offset
    pure (Function.update objects address (some moved))
  else none

def swap (objects : OffsetPtrs) (left right : Nat) : Option OffsetPtrs := do
  let object ← objects right
  let rightPtr ← OffsetPtr.calculatePointerFromOffset object.offset right
  let assigned ← objects.assign checking right left
  assigned.assignPointer left rightPtr

def step (objects : OffsetPtrs) : OffsetPtrStep → Option OffsetPtrs
  | .construct address pointedTypeSize pointer => objects.construct address pointedTypeSize pointer
  | .copyConstruct address pointedTypeSize source =>
    objects.copyConstruct checking address pointedTypeSize source
  | .assignPointer address pointer => objects.assignPointer address pointer
  | .assign address source => objects.assign checking address source
  | .add address offset => objects.add address offset
  | .subtract address offset => objects.subtract address offset
  | .swap left right => objects.swap checking left right

end OffsetPtrs

/-! ## Ordinary pointers -/

/-- Where an ordinary pointer points to.  Arithmetic that moves the null pointer
or leaves the addresses has no defined result. -/
inductive PlainTarget where
  | null
  | address (target : Nat)
  | undefined
  deriving DecidableEq

namespace PlainTarget

def ofPointer (pointer : Nat) : PlainTarget := if pointer = 0 then null else address pointer

def displace : PlainTarget → Int → PlainTarget
  | null, bytes => if bytes = 0 then null else undefined
  | address target, bytes =>
    if 0 < target + bytes ∧ target + bytes ≤ uintptrMax then
      address (target + bytes).toNat
    else undefined
  | undefined, _ => undefined

end PlainTarget

/-- An ordinary pointer and the region that it was read from last; a pointer in a
region is always read from there. -/
structure PlainPointer where
  target : PlainTarget
  origin : Option MemoryRegion
  pointedTypeSize : Nat

abbrev PlainPointers := Nat → Option PlainPointer

namespace PlainPointers

def stored (checking : BoundsChecking) (address pointedTypeSize : Nat)
    (target : PlainTarget) (origin : Option MemoryRegion) : PlainPointer where
  target
  origin := (checking.residence address).or origin
  pointedTypeSize

def displace (pointers : PlainPointers) (address : Nat) (offset : Int) : PlainPointers :=
  match pointers address with
  | none => pointers
  | some pointer =>
    Function.update pointers address (some { pointer with
      target := pointer.target.displace (offset * pointer.pointedTypeSize) })

def step (checking : BoundsChecking) (pointers : PlainPointers) : OffsetPtrStep → PlainPointers
  | .construct address pointedTypeSize pointer =>
    Function.update pointers address
      (some (stored checking address pointedTypeSize (.ofPointer pointer) none))
  | .copyConstruct address pointedTypeSize source =>
    match pointers source with
    | none => pointers
    | some other =>
      Function.update pointers address
        (some (stored checking address pointedTypeSize other.target other.origin))
  | .assignPointer address pointer =>
    match pointers address with
    | none => pointers
    | some object =>
      Function.update pointers address (some (stored checking address object.pointedTypeSize
          (.ofPointer pointer) none))
  | .assign address source =>
    match pointers address, pointers source with
    | some object, some other =>
      Function.update pointers address
        (some (stored checking address object.pointedTypeSize other.target other.origin))
    | _, _ => pointers
  | .add address offset => pointers.displace address offset
  | .subtract address offset => pointers.displace address (-offset)
  | .swap left right =>
    match pointers left, pointers right with
    | some first, some second =>
      Function.update (Function.update pointers right
          (some (stored checking right second.pointedTypeSize first.target first.origin)))
        left
        (some (stored checking left first.pointedTypeSize second.target second.origin))
    | _, _ => pointers

end PlainPointers

/-! ## Runs -/

structure PointerState where
  objects : OffsetPtrs
  pointers : PlainPointers

namespace PointerState

def step (checking : BoundsChecking) (state : PointerState)
    (label : OffsetPtrStep) : Option PointerState :=
  match state.objects.step checking label with
  | none => none
  | some objects => some ⟨objects, state.pointers.step checking label⟩

def start : PointerState := ⟨fun _ => none, fun _ => none⟩

def system (checking : BoundsChecking) : TransitionSystem PointerState OffsetPtrStep :=
  .ofStep start (step checking)

/-- Where bounds are checked, an object outside of every region is not exchanged, as the first
operand, with one that has bounds; and no arithmetic yields the representation of the null
pointer. -/
def KeepsRepresentation (checking : BoundsChecking) (state : PointerState) : OffsetPtrStep → Prop
  | .swap left right => checking.isBoundsCheckingEnabled = true →
      ∀ object, state.objects right = some object →
      checking.residence left = none → object.offset ≠ kNullPtrRepresentation →
        checking.residence right = none ∧ object.memoryBounds = .empty
  | .add address offset => ∀ object, state.objects address = some object →
      offset ≠ 0 → object.offset + offset * object.pointedTypeSize ≠ kNullPtrRepresentation
  | .subtract address offset => ∀ object, state.objects address = some object →
      offset ≠ 0 → object.offset - offset * object.pointedTypeSize ≠ kNullPtrRepresentation
  | _ => True

end PointerState

end ScoreIntegration.Memory
