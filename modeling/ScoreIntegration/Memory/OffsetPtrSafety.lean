import ScoreIntegration.Memory.OffsetPtr

/-!
# Offset pointers behave like checked pointers

`Represents` relates an object to the ordinary pointer in its place.  Storing, copying and
arithmetic keep the relation, and the bounds check then passes only for a target in the
region that the pointer came from.
-/

namespace ScoreIntegration.Memory

open Concurrency OffsetPtr PlainTarget Function Option Nat Int TransitionSystem
open Option (bind_eq_some_iff ite_none_right_eq_some)

/-- An object at `address` with this offset points where the ordinary pointer
does. -/
def PlainTarget.Designated (address : Nat) (offset : Int) : PlainTarget → Prop
  | null => offset = kNullPtrRepresentation
  | .address target => offset ≠ kNullPtrRepresentation ∧
      (address : Int) + offset = target ∧ 0 < target ∧ target ≤ uintptrMax
  | undefined => True

def PlainTarget.rawPointer : PlainTarget → Nat
  | .address target => target
  | _ => 0

structure Represents (checking : BoundsChecking) (address : Nat)
    (object : OffsetPtr) (pointer : PlainPointer) : Prop where
  place : IsPlace address
  size : pointer.pointedTypeSize = object.pointedTypeSize
  isPtrdiff : IsPtrdiff object.offset
  designated : pointer.target.Designated address object.offset
  resides : ∀ region, checking.residence address = some region → pointer.origin = some region
  registered : ∀ region, pointer.origin = some region → region ∈ checking.regions
  carries : checking.isBoundsCheckingEnabled = true →
    checking.residence address = none → ∀ target, pointer.target = .address target →
    object.memoryBounds = pointer.origin.getD .empty

/-! ## Targets -/

variable {address : Nat} {offset : Int} {target : PlainTarget} {pointer : PlainPointer}
  {checking : BoundsChecking} {object moved : OffsetPtr} {source : Nat} {bounds : MemoryRegion}
  {o : OffsetPtr} {multiple : Nat} {region : MemoryRegion}

theorem IsPlace.le_uintptrMax (place : IsPlace address) : address ≤ uintptrMax := by
  obtain ⟨_, fits⟩ := place
  omega

theorem Represents.pointsTo (rep : Represents checking address object pointer)
    (isDefined : pointer.target ≠ .undefined) :
    calculatePointerFromOffset object.offset address = some pointer.target.rawPointer := by
  have designated := rep.designated
  unfold calculatePointerFromOffset
  cases isTarget : pointer.target with
  | null =>
    rw [isTarget] at designated
    exact if_pos designated
  | address target =>
    rw [isTarget] at designated
    obtain ⟨notNull, isSum, _, lt⟩ := designated
    rw [if_neg notNull]
    exact (addSignedOffsetToPointerAsInteger_eq_some_iff rep.place.le_uintptrMax
      rep.isPtrdiff).mpr ⟨isSum, lt⟩
  | undefined => exact absurd isTarget isDefined

theorem designated_of_calculateOffsetFromPointer {pointer} (inRange : pointer ≤ uintptrMax)
    (calculated : calculateOffsetFromPointer address pointer =
      some offset) : IsPtrdiff offset ∧ (ofPointer pointer).Designated address offset := by
  unfold calculateOffsetFromPointer at calculated
  unfold ofPointer
  by_cases isNull : pointer = 0
  · rw [if_pos isNull] at calculated ⊢
    cases calculated
    exact ⟨by decide, rfl⟩
  · rw [if_neg isNull] at calculated ⊢
    obtain ⟨_, subtracted, checked⟩ := bind_eq_some_iff.mp calculated
    obtain ⟨notNull, isOffset⟩ := ite_none_right_eq_some.mp checked
    cases isOffset
    obtain ⟨isDifference, isPtrdiff⟩ :=
      (subtractPointersBytes_eq_some_iff pointer address offset).mp subtracted
    refine ⟨isPtrdiff, notNull, ?_, Nat.pos_of_ne_zero isNull, inRange⟩
    omega

theorem ofPointer_rawPointer (designated : target.Designated address offset)
    (isDefined : target ≠ .undefined) : ofPointer target.rawPointer = target := by
  cases target with
  | null => rfl
  | address target =>
    have positive := designated.2.2.1
    exact if_neg (ne_of_gt positive)
  | undefined => exact absurd rfl isDefined

theorem Represents.designated_stored {pointedTo}
    (represents : Represents checking source object pointer)
    (isPointer : calculatePointerFromOffset object.offset source = some pointedTo)
    (calculated : calculateOffsetFromPointer address pointedTo =
      some offset) : IsPtrdiff offset ∧ pointer.target.Designated address offset := by
  have inRange : pointedTo ≤ uintptrMax := by
    unfold calculatePointerFromOffset at isPointer
    split at isPointer
    · cases isPointer
      exact zero_le _
    · exact ((addSignedOffsetToPointerAsInteger_eq_some_iff represents.place.le_uintptrMax
        represents.isPtrdiff).mp isPointer).2
  obtain ⟨isPtrdiff, designated⟩ := designated_of_calculateOffsetFromPointer inRange calculated
  refine ⟨isPtrdiff, ?_⟩
  by_cases isDefined : pointer.target = .undefined
  · rw [isDefined]
    trivial
  · have isRaw := represents.pointsTo isDefined
    rw [isPointer] at isRaw
    cases isRaw
    rwa [ofPointer_rawPointer represents.designated isDefined] at designated

/-! ## Storing a pointer -/

theorem represents_stored {origin} (pointedTypeSize : Nat)
    (place : IsPlace address) (isPtrdiff : IsPtrdiff offset)
    (designated : target.Designated address offset)
    (reg : ∀ region, origin = some region → region ∈ checking.regions)
    (carries : checking.isBoundsCheckingEnabled = true →
      checking.residence address = none → ∀ location, target = .address location →
      bounds = origin.getD .empty) :
    Represents checking address ⟨offset, bounds, pointedTypeSize⟩
      (PlainPointers.stored checking address pointedTypeSize target origin) := by
  refine ⟨place, rfl, isPtrdiff, designated, ?_, ?_, ?_⟩
  · intro region resides
    rw [PlainPointers.stored, resides]
    rfl
  · intro region isOrigin
    cases resides : checking.residence address with
    | none =>
      rw [PlainPointers.stored, resides] at isOrigin
      exact reg region isOrigin
    | some own =>
      rw [PlainPointers.stored, resides] at isOrigin
      cases isOrigin
      exact checking.mem_of_residence resides
  · intro isEnabled outside location isTarget
    rw [PlainPointers.stored, outside]
    exact carries isEnabled outside location isTarget

theorem represents_ofPointer {pointer} (pointedTypeSize : Nat) (place : IsPlace address)
    (inRange : pointer ≤ uintptrMax)
    (calculated : calculateOffsetFromPointer address pointer = some offset) :
    Represents checking address ⟨offset, .empty, pointedTypeSize⟩
      (PlainPointers.stored checking address pointedTypeSize (.ofPointer pointer) none) := by
  obtain ⟨isPtrdiff, designated⟩ := designated_of_calculateOffsetFromPointer inRange calculated
  refine represents_stored pointedTypeSize place isPtrdiff designated ?_ ?_
  · nofun
  · intro _ _ _ _
    rfl

theorem OffsetPtr.copyFrom_eq_some
    (copied : o.copyFrom checking source address = some (offset, bounds)) :
    ∃ pointedTo, calculatePointerFromOffset o.offset source = some pointedTo ∧
      calculateOffsetFromPointer address pointedTo = some offset ∧
      (pointedTo ≠ 0 → o.boundsOfCopy checking source address = some bounds) := by
  obtain ⟨copiedBounds, isBounds, copied⟩ := bind_eq_some_iff.mp copied
  obtain ⟨pointedTo, isPointer, copied⟩ := bind_eq_some_iff.mp copied
  refine ⟨pointedTo, isPointer, ?_⟩
  by_cases isNull : pointedTo = 0
  · rw [if_pos isNull] at copied
    cases copied
    exact ⟨if_pos isNull, fun notNull => absurd isNull notNull⟩
  · rw [if_neg isNull] at copied
    obtain ⟨copiedOffset, calculated, isCopy⟩ := bind_eq_some_iff.mp copied
    cases isCopy
    exact ⟨calculated, fun _ => isBounds⟩

theorem represents_copy (pointedTypeSize : Nat) (place : IsPlace address)
    (represents : Represents checking source o pointer)
    (copied : o.copyFrom checking source address = some (offset, bounds)) :
    Represents checking address ⟨offset, bounds, pointedTypeSize⟩
      (PlainPointers.stored checking address pointedTypeSize pointer.target pointer.origin) := by
  obtain ⟨pointedTo, isPointer, calculated, isBounds⟩ := copyFrom_eq_some copied
  obtain ⟨isPtrdiff, designated⟩ := represents.designated_stored isPointer calculated
  refine represents_stored pointedTypeSize place isPtrdiff designated represents.registered ?_
  intro isEnabled outside target isTarget
  have targetDesignated := represents.designated
  have isRaw := represents.pointsTo (by rw [isTarget]; rintro ⟨⟩)
  rw [isTarget] at targetDesignated
  rw [isPointer, isTarget] at isRaw
  have notNull : pointedTo ≠ 0 := by
    rw [some.inj isRaw]
    exact ne_of_gt targetDesignated.2.2.1
  have isCarried := isBounds notNull
  rw [boundsOfCopy, if_pos isEnabled, checking.boundsFromAddress_eq,
    checking.boundsFromAddress_eq, outside] at isCarried
  cases resides : checking.residence source with
  | none =>
    rw [resides] at isCarried
    cases isCarried
    exact represents.carries isEnabled resides target isTarget
  | some region =>
    rw [resides] at isCarried
    cases isCarried
    rw [represents.resides _ resides]
    rfl

/-! ## Arithmetic -/

/-- The object is moved by a number of elements and its offset is still one. -/
def OffsetPtr.MovedBy (object : OffsetPtr) (offset : Int) (moved : OffsetPtr) : Prop :=
  moved = { object with offset := object.offset + offset * object.pointedTypeSize } ∧
    IsPtrdiff moved.offset

section

variable (isPtrdiff : IsPtrdiff object.offset)
include isPtrdiff

theorem OffsetPtr.incrementOffset_eq_some
    (incremented : object.incrementOffset multiple = some moved) :
    object.MovedBy multiple moved := by
  obtain ⟨fits, incremented⟩ := ite_none_right_eq_some.mp incremented
  obtain ⟨offset, sum, isMoved⟩ := bind_eq_some_iff.mp incremented
  cases isMoved
  have isSize := Nat.mul_le_of_le_div _ _ _ fits
  obtain ⟨isSum, isPtrdiffSum⟩ := addUnsignedToSigned_eq_some isPtrdiff isSize sum
  refine ⟨?_, isPtrdiffSum⟩
  rw [isSum, natCast_mul]

theorem OffsetPtr.decrementOffset_eq_some
    (decremented : object.decrementOffset multiple = some moved) :
    object.MovedBy (-multiple) moved := by
  obtain ⟨fits, decremented⟩ := ite_none_right_eq_some.mp decremented
  obtain ⟨offset, difference, isMoved⟩ := bind_eq_some_iff.mp decremented
  cases isMoved
  have isSize := Nat.mul_le_of_le_div _ _ _ fits
  obtain ⟨isDifference, isPtrdiffDifference⟩ :=
    subtractUnsignedFromSigned_eq_some isPtrdiff isSize difference
  refine ⟨?_, isPtrdiffDifference⟩
  rw [isDifference, natCast_mul, Int.neg_mul, Int.sub_eq_add_neg]

theorem OffsetPtr.movedBy_zero : object.MovedBy 0 object := by
  rw [MovedBy, Int.zero_mul, Int.add_zero]
  exact ⟨rfl, isPtrdiff⟩

theorem OffsetPtr.add_eq_some (added : object.add offset = some moved) :
    object.MovedBy offset moved := by
  unfold add at added
  split at added
  next positive =>
    have isNat : (offset.toNat : Int) = offset := Int.toNat_of_nonneg (by omega)
    have res := incrementOffset_eq_some isPtrdiff added
    rwa [isNat] at res
  · split at added
    next negative =>
      have res := decrementOffset_eq_some isPtrdiff added
      rwa [absoluteValue_eq negative, Int.neg_neg] at res
    · obtain rfl : offset = 0 := by omega
      cases added
      exact movedBy_zero isPtrdiff

theorem OffsetPtr.subtract_eq_some (subtracted : object.subtract offset = some moved) :
    object.MovedBy (-offset) moved := by
  unfold subtract at subtracted
  split at subtracted
  next positive =>
    have isNat : (offset.toNat : Int) = offset := Int.toNat_of_nonneg (by omega)
    have res := decrementOffset_eq_some isPtrdiff subtracted
    rwa [isNat] at res
  · split at subtracted
    next negative =>
      have res := incrementOffset_eq_some isPtrdiff subtracted
      rwa [absoluteValue_eq negative] at res
    · obtain rfl : offset = 0 := by omega
      cases subtracted
      exact movedBy_zero isPtrdiff

end

theorem PlainTarget.designated_displace {bytes} (designated : target.Designated address offset)
    (notNull : bytes ≠ 0 → offset + bytes ≠ kNullPtrRepresentation) :
    (target.displace bytes).Designated address (offset + bytes) := by
  cases target with
  | null =>
    rw [displace]
    split
    next isZero =>
      rw [isZero, Int.add_zero]
      exact designated
    · trivial
  | address target =>
    obtain ⟨wasNotNull, isSum, _, _⟩ := designated
    rw [displace]
    split
    next lt =>
      refine ⟨?_, ?_, ?_, ?_⟩
      · by_cases isZero : bytes = 0
        · rwa [isZero, Int.add_zero]
        · exact notNull isZero
      · omega
      · omega
      · omega
    · trivial
  | undefined => trivial

theorem Represents.displace (rep : Represents checking address object pointer)
    (isMoved : object.MovedBy offset moved)
    (notNull : offset ≠ 0 →
      object.offset + offset * object.pointedTypeSize ≠ kNullPtrRepresentation) :
    Represents checking address moved { pointer with
      target := pointer.target.displace (offset * pointer.pointedTypeSize) } := by
  obtain ⟨rfl, isPtrdiff⟩ := isMoved
  refine { rep with isPtrdiff := isPtrdiff, designated := ?_, carries := ?_ }
  · rw [rep.size]
    refine designated_displace rep.designated ?_
    intro moves
    refine notNull ?_
    rintro rfl
    exact moves (Int.zero_mul _)
  · intro isEnabled outside target isTarget
    cases pre : pointer.target with
    | null =>
      rw [pre, displace] at isTarget
      split at isTarget <;> cases isTarget
    | address location => exact rep.carries isEnabled outside location pre
    | undefined =>
      rw [pre] at isTarget
      cases isTarget

/-! ## Dereferencing -/

theorem doesPointedObjectPassBoundsChecks_eq_true {pointedTypeSize}
    (passes : doesPointedObjectPassBoundsChecks address offset bounds pointedTypeSize = some true) :
    ∃ first, addSignedOffsetToPointerAsInteger address offset = some first ∧
      bounds.startAddress ≤ first ∧ first + pointedTypeSize ≤ bounds.endAddress := by
  obtain ⟨first, isFirst, passes⟩ := bind_eq_some_iff.mp passes
  split at passes
  next startsInside =>
    obtain ⟨last, isLast, passes⟩ := bind_eq_some_iff.mp passes
    have endsInside := some.inj passes
    simp only [isPointerWithinMemoryBounds, Bool.and_eq_true,
      decide_eq_true_eq] at startsInside endsInside
    rw [addOffsetToPointerAsInteger_eq_some isLast] at endsInside
    exact ⟨first, isFirst, startsInside.1, endsInside.2⟩
  · cases passes

theorem Represents.passes_of_assertOffsetBoundsCheck {target}
    (rep : Represents checking address object pointer)
    (isEnabled : checking.isBoundsCheckingEnabled = true)
    (isTarget : pointer.target = .address target) (isOrigin : pointer.origin = some region)
    (checked : assertOffsetBoundsCheck checking address object.offset
      object.memoryBounds object.pointedTypeSize = some ()) :
    doesPointedObjectPassBoundsChecks address object.offset region
      object.pointedTypeSize = some true := by
  unfold assertOffsetBoundsCheck at checked
  rw [if_pos isEnabled, checking.boundsFromAddress_eq] at checked
  cases resides : checking.residence address with
  | some own =>
    rw [resides] at checked
    obtain ⟨isPassed, _⟩ := ite_none_right_eq_some.mp checked
    have sameRegion := rep.resides own resides
    rw [isOrigin] at sameRegion
    cases sameRegion
    obtain ⟨last, _, isPassed⟩ := bind_eq_some_iff.mp isPassed
    split at isPassed
    · exact isPassed
    · cases isPassed
  | none =>
    rw [resides] at checked
    obtain ⟨isPassed, _⟩ := ite_none_right_eq_some.mp checked
    have isCarried := rep.carries isEnabled resides target isTarget
    rw [isOrigin] at isCarried
    have hasValue := (checking.wellFormed.proper region (rep.registered region isOrigin)).hasValue
    obtain ⟨last, _, isPassed⟩ := bind_eq_some_iff.mp isPassed
    obtain ⟨lastBounds, _, isPassed⟩ := bind_eq_some_iff.mp isPassed
    rw [isCarried, getD_some, if_pos hasValue] at isPassed
    split at isPassed
    · cases isPassed
    · exact isPassed

theorem Represents.dereference {target accepted} (rep : Represents checking address object pointer)
    (isEnabled : checking.isBoundsCheckingEnabled = true)
    (isTarget : pointer.target = .address target) (isOrigin : pointer.origin = some region)
    (dereferenced : object.dereference checking address = some accepted) :
    accepted = target ∧ region.startAddress ≤ target ∧
      target + object.pointedTypeSize ≤ region.endAddress := by
  obtain ⟨pointed, isPointed, isAccepted⟩ := bind_eq_some_iff.mp dereferenced
  obtain ⟨_, sameTarget⟩ := ite_none_right_eq_some.mp isAccepted
  cases sameTarget
  obtain ⟨_, checked, isPointed⟩ := bind_eq_some_iff.mp isPointed
  have isRaw := rep.pointsTo (by rw [isTarget]; rintro ⟨⟩)
  rw [isPointed, isTarget] at isRaw
  cases isRaw
  have passes := rep.passes_of_assertOffsetBoundsCheck isEnabled isTarget isOrigin checked
  obtain ⟨first, isFirst, startsInside, endsInside⟩ :=
    doesPointedObjectPassBoundsChecks_eq_true passes
  have designated := rep.designated
  rw [isTarget] at designated
  have isSum := (addSignedOffsetToPointerAsInteger_eq_some_iff
    rep.place.le_uintptrMax rep.isPtrdiff).mp isFirst
  have sameAddress : first = target := by
    have fromDesignated := designated.2.1
    have fromFirst := isSum.1
    omega
  refine ⟨rfl, ?_⟩
  rw [← sameAddress]
  exact ⟨startsInside, endsInside⟩

/-! ## Runs -/

namespace PointerState

/-- Objects and ordinary pointers are in the same places and agree there. -/
def Agrees (checking : BoundsChecking) (state : PointerState) : Prop :=
  ∀ address, Option.Rel (Represents checking address) (state.objects address)
    (state.pointers address)

variable {checking : BoundsChecking} {state : PointerState}

theorem Agrees.some (agrees : Agrees checking state)
    (isObject : state.objects address = some object) :
    ∃ pointer, state.pointers address = some pointer ∧
      Represents checking address object pointer := by
  have related := agrees address
  rw [isObject] at related
  cases isPointer : state.pointers address with
  | none =>
    rw [isPointer] at related
    cases related
  | some pointer =>
    rw [isPointer] at related
    cases related with
    | some rep => exact ⟨pointer, rfl, rep⟩

theorem Agrees.update {pointer} (agrees : Agrees checking state)
    (rep : Represents checking address object pointer) :
    Agrees checking ⟨update state.objects address object,
      update state.pointers address pointer⟩ := by
  intro o
  by_cases same : o = address
  · subst same
    simp only [update_self]
    exact .some rep
  · simp only [update_of_ne same]
    exact agrees o

theorem agrees_start (checking : BoundsChecking) : Agrees checking start := fun _ => .none

theorem Agrees.displace {moved offset} (agrees : Agrees checking state)
    (isObject : state.objects address = Option.some object)
    (isMoved : object.MovedBy offset moved)
    (notNull : offset ≠ 0 →
      object.offset + offset * object.pointedTypeSize ≠ kNullPtrRepresentation) :
    Agrees checking ⟨Function.update state.objects address (Option.some moved),
      state.pointers.displace address offset⟩ := by
  obtain ⟨pointer, isPointer, rep⟩ := agrees.some isObject
  rw [PlainPointers.displace, isPointer]
  exact agrees.update (rep.displace isMoved notNull)

theorem Agrees.swap {left right objects} (agrees : Agrees checking state)
    (keeps : KeepsRepresentation checking state (.swap left right))
    (swapped : state.objects.swap checking left right = Option.some objects) :
    Agrees checking ⟨objects, state.pointers.step checking (.swap left right)⟩ := by
  obtain ⟨second, isSecond, swapped⟩ := bind_eq_some_iff.mp swapped
  obtain ⟨rightPtr, isRightPtr, swapped⟩ := bind_eq_some_iff.mp swapped
  obtain ⟨assigned, isAssigned, swapped⟩ := bind_eq_some_iff.mp swapped
  obtain ⟨_, sameSecond, isAssigned⟩ := bind_eq_some_iff.mp isAssigned
  rw [isSecond] at sameSecond
  cases sameSecond
  obtain ⟨first, isFirst, isAssigned⟩ := bind_eq_some_iff.mp isAssigned
  obtain ⟨target, isTarget, stored⟩ := bind_eq_some_iff.mp swapped
  obtain ⟨_, stored⟩ := ite_none_right_eq_some.mp stored
  obtain ⟨offset, calculated, isResult⟩ := bind_eq_some_iff.mp stored
  cases isResult
  obtain ⟨firstPointer, isFirstPointer, firstRepresents⟩ := agrees.some isFirst
  obtain ⟨secondPointer, isSecondPointer, secondRepresents⟩ := agrees.some isSecond
  -- The first operand afterwards.
  obtain ⟨isPtrdiff, designated⟩ := secondRepresents.designated_stored isRightPtr calculated
  have leftRepresents : Represents checking left ⟨offset, .empty, first.pointedTypeSize⟩
      (PlainPointers.stored checking left first.pointedTypeSize
        secondPointer.target secondPointer.origin) := by
    refine represents_stored first.pointedTypeSize firstRepresents.place isPtrdiff
      designated secondRepresents.registered ?_
    intro isEnabled outside location isLocation
    have secondDesignated := secondRepresents.designated
    rw [isLocation] at secondDesignated
    obtain ⟨secondOutside, noBounds⟩ := keeps isEnabled second isSecond outside secondDesignated.1
    have carried := secondRepresents.carries isEnabled secondOutside location isLocation
    rw [← carried, noBounds]
  rw [PlainPointers.step, isFirstPointer, isSecondPointer]
  dsimp only
  rw [firstRepresents.size]
  by_cases same : right = left
  · rw [if_pos same] at isAssigned
    cases isAssigned
    subst same
    rw [isSecond] at isFirst isTarget
    cases isFirst
    cases isTarget
    rw [update_idem]
    exact agrees.update leftRepresents
  · rw [if_neg same] at isAssigned
    obtain ⟨⟨copiedOffset, bounds⟩, copied, isAssigned⟩ := bind_eq_some_iff.mp isAssigned
    cases isAssigned
    rw [update_of_ne (Ne.symm same), isFirst] at isTarget
    cases isTarget
    have rightRepresents := represents_copy second.pointedTypeSize
      secondRepresents.place firstRepresents copied
    rw [secondRepresents.size]
    exact (agrees.update rightRepresents).update leftRepresents

theorem agrees_step {s' label} (agrees : Agrees checking state)
    (keeps : KeepsRepresentation checking state label)
    (taken : step checking state label = some s') : Agrees checking s' := by
  rw [step] at taken
  cases ran : state.objects.step checking label with
  | none =>
    rw [ran] at taken
    cases taken
  | some objects =>
    rw [ran] at taken
    cases taken
    cases label with
    | construct address pointedTypeSize pointer =>
      obtain ⟨⟨place, _, inRange⟩, ran⟩ := ite_none_right_eq_some.mp ran
      obtain ⟨offset, calculated, isResult⟩ := bind_eq_some_iff.mp ran
      cases isResult
      exact agrees.update (represents_ofPointer pointedTypeSize place inRange calculated)
    | copyConstruct address pointedTypeSize source =>
      obtain ⟨⟨place, _⟩, ran⟩ := ite_none_right_eq_some.mp ran
      obtain ⟨o, isOther, ran⟩ := bind_eq_some_iff.mp ran
      obtain ⟨⟨offset, bounds⟩, copied, isResult⟩ := bind_eq_some_iff.mp ran
      cases isResult
      obtain ⟨pointer, isPointer, represents⟩ := agrees.some isOther
      rw [PlainPointers.step, isPointer]
      exact agrees.update (represents_copy pointedTypeSize place represents copied)
    | assignPointer address pointer =>
      obtain ⟨object, isObject, ran⟩ := bind_eq_some_iff.mp ran
      obtain ⟨inRange, ran⟩ := ite_none_right_eq_some.mp ran
      obtain ⟨offset, calculated, isResult⟩ := bind_eq_some_iff.mp ran
      cases isResult
      obtain ⟨plain, isPlain, represents⟩ := agrees.some isObject
      rw [PlainPointers.step, isPlain]
      dsimp only
      rw [represents.size]
      exact agrees.update (represents_ofPointer object.pointedTypeSize
        represents.place inRange calculated)
    | assign address source =>
      obtain ⟨object, isObject, ran⟩ := bind_eq_some_iff.mp ran
      obtain ⟨o, isOther, ran⟩ := bind_eq_some_iff.mp ran
      obtain ⟨plain, isPlain, represents⟩ := agrees.some isObject
      obtain ⟨pointer, isPointer, otherRepresents⟩ := agrees.some isOther
      rw [PlainPointers.step, isPlain, isPointer]
      dsimp only
      rw [represents.size]
      by_cases same : address = source
      · rw [if_pos same] at ran
        cases ran
        subst same
        rw [isObject] at isOther
        cases isOther
        rw [isPlain] at isPointer
        cases isPointer
        have unchanged := represents_stored object.pointedTypeSize
          represents.place represents.isPtrdiff represents.designated
          represents.registered represents.carries
        have updated := agrees.update unchanged
        rwa [← isObject, update_eq_self] at updated
      · rw [if_neg same] at ran
        obtain ⟨⟨offset, bounds⟩, copied, isResult⟩ := bind_eq_some_iff.mp ran
        cases isResult
        exact agrees.update (represents_copy object.pointedTypeSize
          represents.place otherRepresents copied)
    | add address offset =>
      obtain ⟨object, isObject, ran⟩ := bind_eq_some_iff.mp ran
      obtain ⟨_, ran⟩ := ite_none_right_eq_some.mp ran
      obtain ⟨moved, added, isResult⟩ := bind_eq_some_iff.mp ran
      cases isResult
      obtain ⟨_, _, represents⟩ := agrees.some isObject
      exact agrees.displace isObject
        (add_eq_some represents.isPtrdiff added) (keeps object isObject)
    | subtract address offset =>
      obtain ⟨object, isObject, ran⟩ := bind_eq_some_iff.mp ran
      obtain ⟨_, ran⟩ := ite_none_right_eq_some.mp ran
      obtain ⟨moved, subtracted, isResult⟩ := bind_eq_some_iff.mp ran
      cases isResult
      obtain ⟨_, _, represents⟩ := agrees.some isObject
      refine agrees.displace isObject (subtract_eq_some represents.isPtrdiff subtracted) ?_
      intro moves
      have notNull := keeps object isObject (fun isZero => moves (by omega))
      rwa [Int.neg_mul, ← Int.sub_eq_add_neg]
    | swap left right => exact agrees.swap keeps ran

/-- Each object points where an ordinary pointer would.  Where bounds are checked, an object
outside of every region carries the bounds of the region that it was read from, and an
accepted dereference stays in that region. -/
theorem reachable_objects_designate {checking : BoundsChecking} {state : PointerState}
    (reachable : ((system checking).restrict (KeepsRepresentation checking)).Reachable state)
    {address : Nat} {object : OffsetPtr} (isObject : state.objects address = some object) :
    ∃ pointer, state.pointers address = some pointer ∧ (pointer.target = .null →
        calculatePointerFromOffset object.offset address = some 0 ∧
          object.dereference checking address = none) ∧
      ∀ target, pointer.target = .address target →
        calculatePointerFromOffset object.offset address = some target ∧
          (checking.isBoundsCheckingEnabled = true → ∀ region, pointer.origin = some region →
              (checking.residence address = none → object.memoryBounds = region) ∧
              ∀ accepted, object.dereference checking address = some accepted →
                accepted = target ∧ region.startAddress ≤ target ∧
                  target + object.pointedTypeSize ≤ region.endAddress) := by
  have agrees : Agrees checking state := reachable.preserves (agrees_start checking) agrees_step
  obtain ⟨pointer, isPointer, represents⟩ := agrees.some isObject
  have points : ∀ target, pointer.target = target → target ≠ .undefined →
      calculatePointerFromOffset object.offset address = some target.rawPointer := by
    rintro _ rfl isDefined
    exact represents.pointsTo isDefined
  refine ⟨pointer, isPointer, ?_, ?_⟩
  · intro isNull
    have pointsToNull := points .null isNull nofun
    refine ⟨pointsToNull, ?_⟩
    rw [dereference, getPointerWithBoundsCheck, pointsToNull]
    cases assertOffsetBoundsCheck checking address object.offset
        object.memoryBounds object.pointedTypeSize with
    | none => rfl
    | some _ => rfl
  · intro target isTarget
    refine ⟨points (.address target) isTarget nofun, ?_⟩
    intro isEnabled region isOrigin
    refine ⟨?_, ?_⟩
    · intro outside
      rw [represents.carries isEnabled outside target isTarget, isOrigin]
      rfl
    · intro accepted dereferenced
      exact represents.dereference isEnabled isTarget isOrigin dereferenced

def oneRegion : BoundsChecking where
  regions := [⟨4096, 8192⟩]
  wellFormed := by
    refine ⟨List.pairwise_singleton _ _, ?_⟩
    intro region member
    rw [List.mem_singleton.mp member]
    exact ⟨by decide, by decide⟩
  isBoundsCheckingEnabled := true

/-- A pointer in the region is copied out of it. -/
theorem copied_object_designates : ∃ state, ((system oneRegion).restrict
        (KeepsRepresentation oneRegion)).Reachable state ∧
      ∃ object, state.objects 65536 = some object ∧ object.dereference oneRegion 65536 = some 4160 ∧
        ∃ pointer, state.pointers 65536 = some pointer ∧ (pointer.target = .null →
            calculatePointerFromOffset object.offset 65536 = some 0 ∧
              object.dereference oneRegion 65536 = none) ∧
          ∀ target, pointer.target = .address target →
            calculatePointerFromOffset object.offset 65536 = some target ∧
              (oneRegion.isBoundsCheckingEnabled = true → ∀ region, pointer.origin = some region →
                  (oneRegion.residence 65536 = none → object.memoryBounds = region) ∧
                  ∀ accepted, object.dereference oneRegion 65536 = some accepted →
                    accepted = target ∧ region.startAddress ≤ target ∧
                      target + object.pointedTypeSize ≤ region.endAddress) := by
  have begun : ((system oneRegion).restrict
      (KeepsRepresentation oneRegion)).Reachable start := .initial rfl
  have constructed := begun.allowedStep (.construct 4096 4 4160) trivial rfl
  have copied := constructed.allowedStep (.copyConstruct 65536 4 4096) trivial rfl
  exact ⟨_, copied, _, rfl, rfl, reachable_objects_designate copied rfl⟩

/-- An exchange with a null pointer outside of the region drops the bounds; and a pointer to
its own first byte becomes the null pointer when it is incremented. -/
theorem exchanged_and_incremented_objects_diverge : (∃ state, (system oneRegion).Reachable state ∧
      ∃ object, state.objects 65536 = some object ∧
        state.pointers 65536 = some ⟨.address 100000, some ⟨4096, 8192⟩, 4⟩ ∧
        oneRegion.residence 65536 = none ∧ object.memoryBounds = .empty ∧
        object.dereference oneRegion 65536 = some 100000) ∧
    (∃ state, (system oneRegion).Reachable state ∧ ∃ object, state.objects 65536 = some object ∧
        state.pointers 65536 = some ⟨.address 65537, none, 1⟩ ∧
        calculatePointerFromOffset object.offset 65536 = some 0) := by
  constructor
  · exact exists_reachable
      [.construct 65536 4 0, .construct 4096 4 100000, .swap 65536 4096]
      ⟨_, rfl, _, rfl, rfl, rfl, rfl, rfl⟩
  · exact exists_reachable [.construct 65536 1 65536, .add 65536 1]
      ⟨_, rfl, _, rfl, rfl, rfl⟩

end PointerState

end ScoreIntegration.Memory
