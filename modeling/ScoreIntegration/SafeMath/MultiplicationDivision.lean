import ScoreIntegration.SafeMath.AdditionSubtraction

/-!
# Multiplication and division of `safe_math`

Both work on the magnitudes of the operands in the larger of their unsigned types and restore the
sign of the result.
-/

namespace ScoreIntegration.SafeMath

open IntegerType

inductive DivisionFault where
  | divideByZero
  | implicitRounding
  | arithmetic (fault : Fault)

section

variable (type : IntegerType) (lhs rhs : Integer)

def commonType : IntegerType := lhs.type.makeUnsigned.bigger rhs.type.makeUnsigned

/-- `Abs`, converted to the common type. -/
def magnitude (integer : Integer) : Except Fault Integer := do
  staticCast type (← abs integer).value

def restoreSign (result : Integer) : Except Fault Integer :=
  if lhs.value < 0 ↔ rhs.value < 0 then cast type result else negate type result

def multiply : Except Fault Integer :=
  if lhs.value = 0 ∨ rhs.value = 0 then exactly type 0
  else do
    let absLhs ← magnitude (commonType lhs rhs) lhs
    let absRhs ← magnitude (commonType lhs rhs) rhs
    let numericLimit ← staticCast (commonType lhs rhs) ((commonType lhs rhs).max / absRhs.value)
    if numericLimit.value < absLhs.value then .error .exceedsNumericLimits
    else restoreSign type lhs rhs (← staticCast (commonType lhs rhs) (absLhs.value * absRhs.value))

def divide : Except DivisionFault Integer :=
  if rhs.value = 0 then .error .divideByZero
  else do
    let absLhs ← (magnitude (commonType lhs rhs) lhs).mapError .arithmetic
    let absRhs ← (magnitude (commonType lhs rhs) rhs).mapError .arithmetic
    if absLhs.value % absRhs.value ≠ 0 then .error .implicitRounding
    else
      let result := staticCast (commonType lhs rhs) (absLhs.value / absRhs.value)
      (result >>= restoreSign type lhs rhs).mapError .arithmetic

/-- The quotient without a remainder if it is representable in the type. -/
def exactQuotient (dividend divisor : Int) : Except DivisionFault Integer :=
  if divisor = 0 then .error .divideByZero
  else if divisor ∣ dividend then (exactly type (dividend / divisor)).mapError .arithmetic
  else .error .implicitRounding

end

variable {type : IntegerType} {lhs rhs : Integer}

theorem abs_eq (integer : Integer) :
    ∃ result, abs integer = .ok result ∧ result.value = integer.value.natAbs := by
  by_cases negative : integer.value < 0
  · obtain ⟨result, computed, -, value⟩ := abs_of_neg negative
    exact ⟨result, computed, by omega⟩
  · have upper := integer.fits.2
    have value := (Int.natAbs_of_nonneg (not_lt.mp negative)).symm
    obtain ⟨nonneg, unsignedMax, -, ⟨isSigned, sameMax, lowest⟩ | ⟨isUnsigned, -⟩⟩ :=
      integer.type.bounds
    · rw [abs, if_pos isSigned, if_neg (by omega), if_neg negative,
        staticCast_of_fits ⟨not_lt.mp negative, by omega⟩]
      exact ⟨_, rfl, value⟩
    · rw [abs, isUnsigned]
      exact ⟨_, rfl, value⟩

theorem magnitude_eq {integer : Integer} (isUnsigned : type.signed = false)
    (larger : integer.type.makeUnsigned.max ≤ type.max) :
    ∃ result, magnitude type integer = .ok result ∧ result.value = integer.value.natAbs ∧
      result.value ≤ type.max := by
  have fits : type.Fits integer.value.natAbs := by
    have bounds := integer.type.bounds
    obtain ⟨lower, upper⟩ := integer.fits
    refine ⟨?_, by omega⟩
    rw [lowest, isUnsigned]
    exact Int.natCast_nonneg _
  obtain ⟨result, computed, value⟩ := abs_eq integer
  rw [magnitude, computed]
  exact ⟨_, (congrArg (staticCast type) value).trans (staticCast_of_fits fits), rfl, fits.2⟩

theorem magnitudes_eq {common} (isCommon : commonType lhs rhs = common) :
    (∀ {n}, 0 ≤ n → n ≤ common.max → common.Fits n) ∧ ∃ absLhs absRhs,
      magnitude common lhs = .ok absLhs ∧ magnitude common rhs = .ok absRhs ∧
      absLhs.value = lhs.value.natAbs ∧ absRhs.value = rhs.value.natAbs ∧
      absLhs.value ≤ common.max := by
  subst isCommon
  have isUnsigned : (commonType lhs rhs).signed = false := by
    unfold commonType bigger
    split <;> rfl
  have lowest : (commonType lhs rhs).lowest = 0 := by
    rw [lowest, isUnsigned]
    rfl
  have larger : rhs.type.makeUnsigned.max ≤ (commonType lhs rhs).max := by
    unfold commonType bigger
    split
    · next larger => exact max_le_of_digits larger
    · exact le_rfl
  obtain ⟨absLhs, isLhs, valueLhs, upper⟩ := magnitude_eq isUnsigned (max_le_bigger _ _)
  obtain ⟨absRhs, isRhs, valueRhs, -⟩ := magnitude_eq isUnsigned larger
  exact ⟨fun nonneg small => ⟨lowest.trans_le nonneg, small⟩, absLhs, absRhs, isLhs, isRhs,
    valueLhs, valueRhs, upper⟩

theorem restoreSign_eq {result : Integer} {n : Int} (value : result.value = n.natAbs)
    (same : (lhs.value < 0 ↔ rhs.value < 0) → 0 ≤ n)
    (differ : ¬(lhs.value < 0 ↔ rhs.value < 0) → n ≤ 0) :
    restoreSign type lhs rhs result = exactly type n := by
  unfold restoreSign
  split
  · next agree => rw [cast, value, Int.natAbs_of_nonneg (same agree)]
  · next disagree =>
      rw [negate_eq (by omega), value, Int.ofNat_natAbs_of_nonpos (differ disagree), neg_neg]

theorem multiply_eq_iff : multiply type lhs rhs = exactly type (lhs.value * rhs.value) ↔
    (lhs.value * rhs.value).natAbs ≤ (commonType lhs rhs).max ∨
      ¬type.Fits (lhs.value * rhs.value) := by
  unfold multiply
  split
  · next isZero =>
      rw [mul_eq_zero.mpr isZero]
      exact iff_of_true rfl (.inl (max_nonneg _))
  · next nonzero =>
      generalize isCommon : commonType lhs rhs = common
      obtain ⟨fits, absLhs, absRhs, isLhs, isRhs, valueLhs, valueRhs, -⟩ := magnitudes_eq isCommon
      have positive : 0 < absRhs.value := by omega
      have maxNonneg := common.max_nonneg
      have limitFits := fits (Int.ediv_nonneg maxNonneg positive.le) (Int.ediv_le_self _ maxNonneg)
      simp only [isLhs, isRhs, staticCast_of_fits limitFits, bind, Except.bind]
      have product : ((lhs.value * rhs.value).natAbs : Int) = absLhs.value * absRhs.value := by
        rw [valueLhs, valueRhs, Int.natAbs_mul, Nat.cast_mul]
      split
      · next exceeds =>
          rw [Int.ediv_lt_iff_lt_mul positive, ← product] at exceeds
          rw [or_iff_right (not_le.mpr exceeds), exactly]
          split <;> simp_all
      · next fitting =>
          rw [Int.ediv_lt_iff_lt_mul positive, ← product, not_lt] at fitting
          refine iff_of_true ?_ (.inl fitting)
          rw [← product, staticCast_of_fits (fits (Int.natCast_nonneg _) fitting)]
          refine restoreSign_eq rfl ?_ ?_
          · rw [mul_nonneg_iff]
            omega
          · rw [mul_nonpos_iff]
            omega

theorem divide_eq : divide type lhs rhs = exactQuotient type lhs.value rhs.value := by
  unfold divide exactQuotient
  split
  · rfl
  · next nonzero =>
      generalize isCommon : commonType lhs rhs = common
      obtain ⟨fits, absLhs, absRhs, isLhs, isRhs, valueLhs, valueRhs, upper⟩ :=
        magnitudes_eq isCommon
      have divides : absLhs.value % absRhs.value = 0 ↔ rhs.value ∣ lhs.value := by
        rw [← Int.dvd_iff_emod_eq_zero, valueLhs, valueRhs, Int.natCast_dvd_natCast,
          Int.natAbs_dvd_natAbs]
      rw [isLhs, isRhs]
      change (if absLhs.value % absRhs.value ≠ 0 then _ else _) = _
      simp only [ne_eq, divides, ite_not]
      split
      · next isMultiple =>
          obtain ⟨q, isProduct⟩ := isMultiple
          have quotient : lhs.value / rhs.value = q ∧ absLhs.value / absRhs.value = q.natAbs := by
            rw [valueLhs, valueRhs, isProduct, Int.natAbs_mul, Nat.cast_mul]
            exact ⟨Int.mul_ediv_cancel_left _ nonzero, Int.mul_ediv_cancel_left _ (by omega)⟩
          have small := Int.ediv_le_self absRhs.value (valueLhs ▸ Int.natCast_nonneg _)
          rw [quotient.2] at small
          rw [quotient.1, quotient.2,
            staticCast_of_fits (fits (Int.natCast_nonneg _) (small.trans upper))]
          refine congrArg (Except.mapError DivisionFault.arithmetic) (restoreSign_eq rfl ?_ ?_)
          · rw [isProduct, mul_neg_iff]
            omega
          · rw [isProduct, mul_neg_iff]
            omega
      · rfl

/-- `Divide` is exact.  `Multiply` is, unless the product fits into the type of the result but
its magnitude does not fit into the common type. -/
theorem multiply_divide_exact_iff (type : IntegerType) (lhs rhs : Integer) :
    multiply type lhs rhs = exactly type (lhs.value * rhs.value) ∧
        divide type lhs rhs = exactQuotient type lhs.value rhs.value ↔
      (lhs.value * rhs.value).natAbs ≤ (commonType lhs rhs).max ∨
        ¬type.Fits (lhs.value * rhs.value) :=
  (and_iff_left divide_eq).trans multiply_eq_iff

def byte (value : Int) (fits : 0 ≤ value ∧ value ≤ 255) : Integer :=
  ⟨⟨false, 8, by decide, by decide⟩, value, fits⟩

/-- The product of two bytes is refused although the result may have 64 bits. -/
theorem byte_product_refused :
    multiply .uint64 (byte 200 (by decide)) (byte 2 (by decide)) = .error .exceedsNumericLimits ∧
      uint64.Fits (200 * 2) :=
  ⟨rfl, by decide⟩

end ScoreIntegration.SafeMath
