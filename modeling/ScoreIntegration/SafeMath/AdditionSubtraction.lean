import Mathlib.Algebra.Order.Ring.Int
import Mathlib.Tactic.Positivity

/-!
# Addition and subtraction of `safe_math`

The operands have any built-in integer types, and the result has a third one.  A conversion
or an operation whose result leaves its type is a fault, so that a result shows that
nothing was wrapped.
-/

namespace ScoreIntegration.SafeMath

structure IntegerType where
  signed : Bool
  width : Nat
  widthPos : 0 < width
  widthLe : width ≤ 64

namespace IntegerType

variable (type : IntegerType)

def digits : Nat := if type.signed then type.width - 1 else type.width

def max : Int := 2 ^ type.digits - 1

def lowest : Int := if type.signed then -2 ^ type.digits else 0

/-- Not `IsOutsideBoundsOfR`. -/
def Fits (value : Int) : Prop := type.lowest ≤ value ∧ value ≤ type.max

instance (value : Int) : Decidable (type.Fits value) := inferInstanceAs (Decidable (_ ∧ _))

def makeUnsigned : IntegerType := { type with signed := false }

def makeSigned : IntegerType := { type with signed := true }

def bigger (other : IntegerType) : IntegerType := if other.digits ≤ type.digits then type else other

def uint64 : IntegerType := ⟨false, 64, by decide, by decide⟩

end IntegerType

structure Integer where
  type : IntegerType
  value : Int
  fits : type.Fits value

inductive Fault where
  | exceedsNumericLimits
  /-- A value that was converted or computed does not fit into its type. -/
  | wraps

section

variable (type : IntegerType)

def staticCast (value : Int) : Except Fault Integer :=
  if fits : type.Fits value then .ok ⟨type, value, fits⟩ else .error .wraps

/-- The value if it is representable in the type, and the error of `safe_math` otherwise. -/
def exactly (value : Int) : Except Fault Integer :=
  if fits : type.Fits value then .ok ⟨type, value, fits⟩ else .error .exceedsNumericLimits

def cast (integer : Integer) : Except Fault Integer := exactly type integer.value

def abs (integer : Integer) : Except Fault Integer :=
  if integer.type.signed then
    if integer.value = integer.type.lowest then
      staticCast integer.type.makeUnsigned (integer.type.max + 1)
    else if integer.value < 0 then do
      let inverse ← staticCast integer.type (-integer.value)
      staticCast integer.type.makeUnsigned inverse.value
    else staticCast integer.type.makeUnsigned integer.value
  else .ok integer

/-- `Negate` of an unsigned value. -/
def negate (integer : Integer) : Except Fault Integer :=
  if type.signed ∧ integer.value = -type.lowest then staticCast type type.lowest
  else do
    let signed ← cast type.makeSigned integer
    let inverse ← staticCast type.makeSigned (-signed.value)
    cast type inverse

variable (lhs rhs : Integer)

/-- `Add` and `Subtract` of unsigned values. -/
def addUnsigned : Except Fault Integer := do
  let lhsCommonType ← cast type lhs
  let rhsCommonType ← cast type rhs
  let minAllowedValue ← staticCast type (type.max - rhsCommonType.value)
  if minAllowedValue.value < lhsCommonType.value then .error .exceedsNumericLimits
  else staticCast type (lhsCommonType.value + rhsCommonType.value)

def subtractUnsigned : Except Fault Integer :=
  if lhs.value < rhs.value then do
    let lhsUnsignedCast ← staticCast rhs.type lhs.value
    let reverseOperationResult ← staticCast rhs.type (rhs.value - lhsUnsignedCast.value)
    negate type reverseOperationResult
  else do
    let result ← staticCast (lhs.type.bigger rhs.type) (lhs.value - rhs.value)
    cast type result

/-- The case distinction of all overloads with a signed value. -/
def splitSign (integer : Integer) (negative nonneg : Integer → Except Fault Integer) :
    Except Fault Integer :=
  if integer.value < 0 then do negative (← abs integer)
  else do nonneg (← staticCast integer.type.makeUnsigned integer.value)

/-- `Subtract` of a signed and an unsigned value. -/
def subtractUnsignedFromSigned : Except Fault Integer :=
  splitSign lhs (fun magnitude => do negate type (← addUnsigned .uint64 magnitude rhs))
    (subtractUnsigned type · rhs)

/-- `Add` of an unsigned and a signed value. -/
def addSignedToUnsigned : Except Fault Integer :=
  splitSign rhs (subtractUnsigned type lhs) (addUnsigned type lhs)

/-- `Add` and `Subtract` with an unsigned value on the right. -/
def addAndUnsigned : Except Fault Integer :=
  if lhs.type.signed then addSignedToUnsigned type rhs lhs else addUnsigned type lhs rhs

def subtractAndUnsigned : Except Fault Integer :=
  if lhs.type.signed then subtractUnsignedFromSigned type lhs rhs
  else subtractUnsigned type lhs rhs

def add : Except Fault Integer :=
  if rhs.type.signed then splitSign rhs (subtractAndUnsigned type lhs) (addAndUnsigned type lhs)
  else addAndUnsigned type lhs rhs

def subtract : Except Fault Integer :=
  if rhs.type.signed then splitSign rhs (addAndUnsigned type lhs) (subtractAndUnsigned type lhs)
  else subtractAndUnsigned type lhs rhs

end

/-! ## Bounds of the types -/

namespace IntegerType

theorem max_nonneg (type : IntegerType) : 0 ≤ type.max := by
  have positive : (0 : Int) < 2 ^ type.digits := by positivity
  unfold max
  omega

theorem max_eq_of_digits {type o : IntegerType} (digits : o.digits = type.digits + 1) :
    o.max = 2 * type.max + 1 := by
  unfold max
  rw [digits, pow_succ]
  omega

theorem max_le_of_digits {type o : IntegerType} (digits : type.digits ≤ o.digits) :
    type.max ≤ o.max :=
  sub_le_sub_right (pow_le_pow_right₀ (by decide) digits) 1

theorem digits_makeSigned (type : IntegerType) :
    type.makeUnsigned.digits = type.makeSigned.digits + 1 :=
  (Nat.sub_add_cancel type.widthPos).symm

theorem bounds (type : IntegerType) :
    0 ≤ type.makeSigned.max ∧ type.makeUnsigned.max = 2 * type.makeSigned.max + 1 ∧
      type.makeUnsigned.max ≤ uint64.max ∧
      (type.signed = true ∧ type.max = type.makeSigned.max ∧ type.lowest = -type.max - 1 ∨
        type.signed = false ∧ type.max = type.makeUnsigned.max ∧ type.lowest = 0) := by
  refine ⟨max_nonneg _, max_eq_of_digits type.digits_makeSigned, max_le_of_digits type.widthLe, ?_⟩
  obtain ⟨signed, width, widthPos, widthLe⟩ := type
  cases signed with
  | true =>
      refine .inl ⟨rfl, rfl, ?_⟩
      simp only [lowest, max, if_true]
      omega
  | false => exact .inr ⟨rfl, rfl, rfl⟩

theorem max_le_bigger (type o : IntegerType) : type.max ≤ (type.bigger o).max := by
  unfold bigger
  split
  · exact le_rfl
  · next larger => exact max_le_of_digits (Nat.le_of_not_le larger)

end IntegerType

variable {type : IntegerType}

theorem staticCast_of_fits {value : Int} (fits : type.Fits value) :
    staticCast type value = .ok ⟨type, value, fits⟩ := dif_pos fits

theorem exactly_of_fits {value : Int} (fits : type.Fits value) :
    exactly type value = .ok ⟨type, value, fits⟩ := dif_pos fits

theorem exactly_of_not_fits {value : Int} (exceeds : ¬type.Fits value) :
    exactly type value = .error .exceedsNumericLimits := dif_neg exceeds

variable {integer lhs rhs : Integer}

theorem abs_of_neg (negative : integer.value < 0) :
    ∃ result, abs integer = .ok result ∧ result.type.signed = false ∧
      result.value = -integer.value := by
  obtain ⟨-, unsignedMax, -, ⟨isSigned, sameMax, lowest⟩ | ⟨-, -, lowest⟩⟩ := integer.type.bounds
  · have lower := integer.fits.1
    have fits : integer.type.makeUnsigned.Fits (-integer.value) :=
      ⟨by change 0 ≤ _; omega, by omega⟩
    refine ⟨⟨_, _, fits⟩, ?_, rfl, rfl⟩
    rw [abs, if_pos isSigned, if_pos negative, ← staticCast_of_fits fits]
    split
    · next isLowest =>
        rw [isLowest, lowest]
        congr 1
        omega
    · next notLowest =>
        have fitsSigned : integer.type.Fits (-integer.value) := ⟨by omega, by omega⟩
        rw [staticCast_of_fits fitsSigned]
        rfl
  · have lower := integer.fits.1
    omega

theorem splitSign_eq {negative nonneg : Integer → Except Fault Integer}
    {result : Except Fault Integer}
    (ofNegative : ∀ magnitude : Integer, magnitude.type.signed = false →
      magnitude.value = -integer.value → negative magnitude = result)
    (ofNonneg : ∀ copy : Integer, copy.type.signed = false →
      copy.value = integer.value → nonneg copy = result) :
    splitSign integer negative nonneg = result := by
  unfold splitSign
  split
  · next isNegative =>
      obtain ⟨magnitude, computed, isUnsigned, value⟩ := abs_of_neg isNegative
      rw [computed]
      exact ofNegative magnitude isUnsigned value
  · next isNonneg =>
      have fits : integer.type.makeUnsigned.Fits integer.value := by
        have bounds := integer.type.bounds
        have upper := integer.fits.2
        exact ⟨Int.not_lt.mp isNonneg, by omega⟩
      rw [staticCast_of_fits fits]
      exact ofNonneg _ rfl rfl

theorem negate_eq (nonneg : 0 ≤ integer.value) :
    negate type integer = exactly type (-integer.value) := by
  obtain ⟨signedNonneg, unsignedMax, -, bounds⟩ := type.bounds
  have signedLowest : type.makeSigned.lowest = -type.makeSigned.max - 1 := by
    obtain ⟨-, -, -, ⟨-, -, lowest⟩ | ⟨isUnsigned, -⟩⟩ := type.makeSigned.bounds
    · exact lowest
    · cases isUnsigned
  unfold negate
  split
  · next isLowest =>
      have fits : type.Fits type.lowest := ⟨le_rfl, by omega⟩
      rw [isLowest.2, neg_neg, staticCast_of_fits fits, exactly_of_fits fits]
  · next notLowest =>
      unfold cast
      by_cases fits : type.makeSigned.Fits integer.value
      · have upper := fits.2
        have fitsInverse : type.makeSigned.Fits (-integer.value) := ⟨by omega, by omega⟩
        rw [exactly_of_fits fits]
        exact congrArg (· >>= cast type) (staticCast_of_fits fitsInverse)
      · rw [exactly_of_not_fits fits, exactly_of_not_fits]
        · rfl
        · intro fitsInverse
          have lower := fitsInverse.1
          refine fits ⟨by omega, ?_⟩
          grind

theorem addUnsigned_eq (lhsNonneg : 0 ≤ lhs.value) (rhsNonneg : 0 ≤ rhs.value) :
    addUnsigned type lhs rhs = exactly type (lhs.value + rhs.value) := by
  have nonneg : 0 ≤ type.max ∧ type.lowest ≤ 0 := by
    have bounds := type.bounds
    omega
  -- A sum that fits has operands that fit.
  have operands (fits : type.Fits (lhs.value + rhs.value)) :
      type.Fits lhs.value ∧ type.Fits rhs.value := by
    have upper := fits.2
    exact ⟨⟨by omega, by omega⟩, by omega, by omega⟩
  unfold addUnsigned cast
  by_cases lhsFits : type.Fits lhs.value
  · rw [exactly_of_fits lhsFits]
    by_cases rhsFits : type.Fits rhs.value
    · rw [exactly_of_fits rhsFits]
      have upper := rhsFits.2
      have rest : type.Fits (type.max - rhs.value) := ⟨by omega, by omega⟩
      change (staticCast type (type.max - rhs.value) >>= _) = _
      rw [staticCast_of_fits rest]
      change (if type.max - rhs.value < lhs.value then _ else _) = _
      split
      · next exceeds => exact (exactly_of_not_fits fun fits => absurd fits.2 (by omega)).symm
      · next fitting =>
          have fits : type.Fits (lhs.value + rhs.value) := ⟨by omega, by omega⟩
          exact (staticCast_of_fits fits).trans (exactly_of_fits fits).symm
    · rw [exactly_of_not_fits rhsFits]
      exact (exactly_of_not_fits fun fits => rhsFits (operands fits).2).symm
  · rw [exactly_of_not_fits lhsFits]
    exact (exactly_of_not_fits fun fits => lhsFits (operands fits).1).symm

theorem Integer.nonneg (isUnsigned : integer.type.signed = false) : 0 ≤ integer.value := by
  have lower := integer.fits.1
  rwa [IntegerType.lowest, isUnsigned] at lower

theorem subtractUnsigned_eq (lhsUnsigned : lhs.type.signed = false)
    (rhsUnsigned : rhs.type.signed = false) :
    subtractUnsigned type lhs rhs = exactly type (lhs.value - rhs.value) := by
  have lhsNonneg := Integer.nonneg lhsUnsigned
  have rhsNonneg := Integer.nonneg rhsUnsigned
  unfold subtractUnsigned
  split
  · next isLess =>
      have upper := rhs.fits.2
      have lower := rhs.type.bounds
      have lhsFits : rhs.type.Fits lhs.value := ⟨by omega, by omega⟩
      have fits : rhs.type.Fits (rhs.value - lhs.value) := ⟨by omega, by omega⟩
      rw [staticCast_of_fits lhsFits]
      change (staticCast rhs.type (rhs.value - lhs.value) >>= negate type) = _
      rw [staticCast_of_fits fits]
      exact (negate_eq (by dsimp only; omega)).trans (congrArg _ (neg_sub _ _))
  · next notLess =>
      have upper := lhs.fits.2
      have bounds := (lhs.type.bigger rhs.type).bounds
      have max := lhs.type.max_le_bigger rhs.type
      have fits : (lhs.type.bigger rhs.type).Fits (lhs.value - rhs.value) := ⟨by omega, by omega⟩
      rw [staticCast_of_fits fits]
      rfl

theorem subtractUnsignedFromSigned_eq (rhsUnsigned : rhs.type.signed = false) :
    subtractUnsignedFromSigned type lhs rhs = exactly type (lhs.value - rhs.value) := by
  have rhsNonneg := Integer.nonneg rhsUnsigned
  refine splitSign_eq (fun magnitude isUnsigned value => ?_) fun copy isUnsigned value => ?_
  · have nonneg := Integer.nonneg isUnsigned
    rw [addUnsigned_eq nonneg rhsNonneg]
    by_cases fits : IntegerType.uint64.Fits (magnitude.value + rhs.value)
    · rw [exactly_of_fits fits]
      refine (negate_eq (Int.add_nonneg nonneg rhsNonneg)).trans (congrArg _ ?_)
      dsimp only
      omega
    · -- The exact result is below the least value of 64 signed bits.
      rw [exactly_of_not_fits fits, exactly_of_not_fits]
      · rfl
      · intro fitsResult
        have bounds := type.bounds
        have lower := fitsResult.1
        exact fits ⟨Int.add_nonneg nonneg rhsNonneg, by omega⟩
  · rw [← value]
    exact subtractUnsigned_eq isUnsigned rhsUnsigned

theorem addAndUnsigned_eq (rhsUnsigned : rhs.type.signed = false) :
    addAndUnsigned type lhs rhs = exactly type (lhs.value + rhs.value) := by
  have rhsNonneg := Integer.nonneg rhsUnsigned
  unfold addAndUnsigned
  split
  · refine splitSign_eq (fun magnitude isUnsigned value => ?_) fun copy isUnsigned value => ?_
    · rw [subtractUnsigned_eq rhsUnsigned isUnsigned]
      congr 1
      omega
    · rw [addUnsigned_eq rhsNonneg (Integer.nonneg isUnsigned), value, add_comm]
  · next isUnsigned =>
      exact addUnsigned_eq (Integer.nonneg (Bool.eq_false_of_not_eq_true isUnsigned)) rhsNonneg

theorem subtractAndUnsigned_eq (rhsUnsigned : rhs.type.signed = false) :
    subtractAndUnsigned type lhs rhs = exactly type (lhs.value - rhs.value) := by
  unfold subtractAndUnsigned
  split
  · exact subtractUnsignedFromSigned_eq rhsUnsigned
  · next isUnsigned =>
      exact subtractUnsigned_eq (Bool.eq_false_of_not_eq_true isUnsigned) rhsUnsigned

/-- The exact sum and difference if they fit, and the error otherwise. -/
theorem add_subtract_exact (type : IntegerType) (lhs rhs : Integer) :
    add type lhs rhs = exactly type (lhs.value + rhs.value) ∧
      subtract type lhs rhs = exactly type (lhs.value - rhs.value) := by
  unfold add subtract
  split
  · constructor
    · refine splitSign_eq (fun magnitude isUnsigned value => ?_) fun copy isUnsigned value => ?_
      · rw [subtractAndUnsigned_eq isUnsigned, value, sub_neg_eq_add]
      · rw [addAndUnsigned_eq isUnsigned, value]
    · refine splitSign_eq (fun magnitude isUnsigned value => ?_) fun copy isUnsigned value => ?_
      · rw [addAndUnsigned_eq isUnsigned, value, sub_eq_add_neg]
      · rw [subtractAndUnsigned_eq isUnsigned, value]
  · next isUnsigned =>
      have isUnsigned := Bool.eq_false_of_not_eq_true isUnsigned
      exact ⟨addAndUnsigned_eq isUnsigned, subtractAndUnsigned_eq isUnsigned⟩

end ScoreIntegration.SafeMath
