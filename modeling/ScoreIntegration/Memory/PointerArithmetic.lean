import Mathlib.Algebra.Group.Int.Defs
import Mathlib.Algebra.Group.Nat.Defs
import Mathlib.Tactic.Common

/-!
# Arithmetic on addresses

Addresses are unsigned and differences of addresses are signed integers of 64
bits.  Every function ends the process where its result is not representable.
-/

namespace ScoreIntegration.Memory

open Option

/-- The largest `std::uintptr_t`, and the largest `std::size_t`. -/
def uintptrMax : Nat := 2 ^ 64 - 1

def ptrdiffMax : Nat := 2 ^ 63 - 1

def ptrdiffMin : Int := -2 ^ 63

/-- The values of `std::ptrdiff_t`. -/
def IsPtrdiff (value : Int) : Prop := ptrdiffMin ≤ value ∧ value ≤ ptrdiffMax

instance (value : Int) : Decidable (IsPtrdiff value) := inferInstanceAs (Decidable (_ ∧ _))

theorem isPtrdiff_iff (value : Int) : IsPtrdiff value ↔ -2 ^ 63 ≤ value ∧ value < 2 ^ 63 := by
  unfold IsPtrdiff ptrdiffMin ptrdiffMax
  omega

/-! ## Offsets -/

def addOffsetToPointerAsInteger (pointer offset : Nat) : Option Nat :=
  if pointer ≤ uintptrMax - offset then some (pointer + offset) else none

def subtractOffsetFromPointerAsInteger (pointer offset : Nat) : Option Nat :=
  if offset ≤ pointer then some (pointer - offset) else none

def addSignedOffsetToPointerAsInteger (pointer : Nat) (offset : Int) : Option Nat :=
  if offset < 0 then
    subtractOffsetFromPointerAsInteger pointer offset.natAbs
  else
    addOffsetToPointerAsInteger pointer offset.toNat

variable {pointer res unsignedValue : Nat} {signedValue : Int}

theorem addOffsetToPointerAsInteger_eq_some {offset}
    (sum : addOffsetToPointerAsInteger pointer offset = some res) :
    res = pointer + offset := by
  unfold addOffsetToPointerAsInteger at sum
  split at sum
  · exact (some.inj sum).symm
  · cases sum

theorem addSignedOffsetToPointerAsInteger_eq_some_iff {offset}
    (isPointer : pointer ≤ uintptrMax) (isPtrdiff : IsPtrdiff offset) :
    addSignedOffsetToPointerAsInteger pointer offset = some res ↔
      (pointer : Int) + offset = res ∧ res ≤ uintptrMax := by
  rw [isPtrdiff_iff] at isPtrdiff
  unfold addSignedOffsetToPointerAsInteger subtractOffsetFromPointerAsInteger
    addOffsetToPointerAsInteger
  unfold uintptrMax at *
  split
  · split
    · rw [some.injEq]
      omega
    · simp only [reduceCtorEq, false_iff]
      omega
  · split
    · rw [some.injEq]
      omega
    · simp only [reduceCtorEq, false_iff]
      omega

def subtractPointersBytes (first second : Nat) : Option Int :=
  if first > second then do
    let result ← subtractOffsetFromPointerAsInteger first second
    if result > ptrdiffMax then none else some result
  else do
    let absoluteValueResult ← subtractOffsetFromPointerAsInteger second first
    if absoluteValueResult = ptrdiffMax + 1 then some ptrdiffMin
    else if absoluteValueResult > ptrdiffMax then none
    else some (-absoluteValueResult)

theorem subtractPointersBytes_eq_some_iff (first second : Nat) (res : Int) :
    subtractPointersBytes first second = some res ↔ res = first - second ∧ IsPtrdiff res := by
  rw [isPtrdiff_iff]
  unfold subtractPointersBytes subtractOffsetFromPointerAsInteger ptrdiffMin ptrdiffMax
  by_cases isLarger : first > second
  · have notBelow : second ≤ first := by omega
    simp only [isLarger, notBelow, if_true, bind_eq_bind, bind_some]
    split
    · simp only [reduceCtorEq, false_iff]
      omega
    · rw [some.injEq]
      omega
  · have notBelow : first ≤ second := by omega
    simp only [isLarger, notBelow, if_true, if_false, bind_eq_bind, bind_some]
    split
    · rw [some.injEq]
      omega
    · split
      · simp only [reduceCtorEq, false_iff]
        omega
      · rw [some.injEq]
        omega

/-! ## Signed and unsigned integers -/

def absoluteValue (value : Int) : Nat := if value = ptrdiffMin then ptrdiffMax + 1 else value.natAbs

theorem absoluteValue_eq {value} (negative : value < 0) : (absoluteValue value : Int) = -value := by
  unfold absoluteValue ptrdiffMin ptrdiffMax
  split
  · omega
  · omega

def toUnsigned (value : Int) : Nat := (value % 2 ^ 64).toNat

def undoSignedToUnsignedIntegerCast (value : Nat) : Int :=
  if value ≤ ptrdiffMax then value
  else
    let shiftedUnsignedValue : Nat := value - 2 ^ 63
    shiftedUnsignedValue + ptrdiffMin

def addUnsignedToSigned (signedValue : Int) (unsignedValue : Nat) : Option Int :=
  let signedResult := undoSignedToUnsignedIntegerCast
    ((toUnsigned signedValue + unsignedValue) % 2 ^ 64)
  if signedValue ≤ signedResult then some signedResult else none

def subtractUnsignedFromSigned (signedValue : Int) (unsignedValue : Nat) : Option Int :=
  let signedResult := undoSignedToUnsignedIntegerCast
    ((toUnsigned signedValue + 2 ^ 64 - unsignedValue) % 2 ^ 64)
  if signedResult ≤ signedValue then some signedResult else none

theorem undoSignedToUnsignedIntegerCast_cases (value : Nat) (isSize : value < 2 ^ 64) :
    let res := undoSignedToUnsignedIntegerCast value
    (res = value ∨ res = value - 2 ^ 64) ∧ -2 ^ 63 ≤ res ∧ res < 2 ^ 63 := by
  unfold undoSignedToUnsignedIntegerCast ptrdiffMin ptrdiffMax
  dsimp only
  split
  · omega
  · omega

theorem addUnsignedToSigned_eq_some {res} (isPtrdiff : IsPtrdiff signedValue)
    (isSize : unsignedValue ≤ uintptrMax)
    (sum : addUnsignedToSigned signedValue unsignedValue = some res) :
    res = signedValue + unsignedValue ∧ IsPtrdiff res := by
  rw [isPtrdiff_iff] at *
  unfold uintptrMax at isSize
  obtain ⟨notBelow, isResult⟩ := ite_none_right_eq_some.mp sum
  have isCast := undoSignedToUnsignedIntegerCast_cases
    ((toUnsigned signedValue + unsignedValue) % 2 ^ 64) (Nat.mod_lt _ (by decide))
  dsimp only at isCast
  rw [some.inj isResult] at isCast notBelow
  unfold toUnsigned at isCast
  omega

theorem subtractUnsignedFromSigned_eq_some {res} (isPtrdiff : IsPtrdiff signedValue)
    (isSize : unsignedValue ≤ uintptrMax)
    (difference : subtractUnsignedFromSigned signedValue unsignedValue =
      some res) : res = signedValue - unsignedValue ∧ IsPtrdiff res := by
  rw [isPtrdiff_iff] at *
  unfold uintptrMax at isSize
  obtain ⟨notAbove, isResult⟩ := ite_none_right_eq_some.mp difference
  have isCast := undoSignedToUnsignedIntegerCast_cases
    ((toUnsigned signedValue + 2 ^ 64 - unsignedValue) % 2 ^ 64) (Nat.mod_lt _ (by decide))
  dsimp only at isCast
  rw [some.inj isResult] at isCast notAbove
  unfold toUnsigned at isCast
  omega

end ScoreIntegration.Memory
