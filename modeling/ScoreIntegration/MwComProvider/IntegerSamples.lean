import Mathlib.Data.Nat.Log
import Mathlib.Tactic.Push
import ScoreIntegration.MwComProvider.Mapper

/-!
# Integer samples

An integer sample of a message is converted to `f64`, which keeps 53 bits of it, and back to
`i64`, which saturates.  Only the 64-bit data types can tell the difference.
-/

namespace ScoreIntegration.MwComProvider

/-- Round to a multiple of the last place of a significand with 53 bits, and half of it to the
even multiple. -/
def roundToF64 (n : Nat) : Nat :=
  let unit := 2 ^ (n.log2 + 1 - 53)
  if 2 * (n % unit) < unit ∨ 2 * (n % unit) = unit ∧ n / unit % 2 = 0 then n / unit * unit
  else (n / unit + 1) * unit

/-- The conversion of an integer by `as f64`. -/
def intToF64 (n : Int) : Int := n.sign * roundToF64 n.natAbs

/-- The conversion of an integral `f64` by `as i64`. -/
def f64ToI64 (value : Int) : Int := max (-2 ^ 63) (min value (2 ^ 63 - 1))

/-- The value as `numeric_f64` reads it. -/
def MwComValue.asF64 : MwComValue → MwComValue
  | .i64 n => .f64 (intToF64 n)
  | .u64 n => .f64 (intToF64 n)
  | value => value

/-- `convert_value` with the rounding of integers, which `convertValue` leaves out. -/
def SignalMapping.convertRounded (mapping : SignalMapping) (value : MwComValue) :
    Except MwComProviderError DataValue :=
  mapping.convertValue value.asF64

def MwComValue.Carries (n : Int) : MwComValue → Prop
  | .i64 value => value = n ∧ -2 ^ 63 ≤ value ∧ value < 2 ^ 63
  | .u64 value => value = n ∧ value < 2 ^ 64
  | _ => False

/-- The exact conversion of an integer; nothing if it is out of range. -/
def VssDataType.exactly (n : Int) : VssDataType → Option DataValue
  | .int8 => if -2 ^ 7 ≤ n ∧ n < 2 ^ 7 then some (.int32 n) else none
  | .int16 => if -2 ^ 15 ≤ n ∧ n < 2 ^ 15 then some (.int32 n) else none
  | .int32 => if -2 ^ 31 ≤ n ∧ n < 2 ^ 31 then some (.int32 n) else none
  | .int64 => if -2 ^ 63 ≤ n ∧ n < 2 ^ 63 then some (.int64 n) else none
  | .uint8 => if 0 ≤ n ∧ n < 2 ^ 8 then some (.uint32 n.toNat) else none
  | .uint32 => if 0 ≤ n ∧ n < 2 ^ 32 then some (.uint32 n.toNat) else none
  | .uint64 => if 0 ≤ n ∧ n < 2 ^ 64 then some (.uint64 n.toNat) else none
  | _ => none

/-! ## Rounding -/

/-- The integer has 53 significant bits. -/
def Significand (n : Nat) : Prop := ∃ m e, m < 2 ^ 53 ∧ n = m * 2 ^ e

theorem unit_dvd_iff {n : Nat} : 2 ^ (n.log2 + 1 - 53) ∣ n ↔ Significand n := by
  constructor
  · rintro ⟨m, isMultiple⟩
    refine ⟨m, _, ?_, by rw [Nat.mul_comm]; exact isMultiple⟩
    by_contra tooLarge
    have below : n < 2 ^ (n.log2 + 1) := Nat.lt_log2_self
    have : 2 ^ (n.log2 + 1) ≤ 2 ^ (n.log2 + 1 - 53) * 2 ^ 53 := by
      rw [← Nat.pow_add]
      exact Nat.pow_le_pow_right (by decide) (by omega)
    have := Nat.mul_le_mul_left (2 ^ (n.log2 + 1 - 53)) (not_lt.mp tooLarge)
    omega
  · rintro ⟨m, e, small, isProduct⟩
    rcases Nat.eq_zero_or_pos n with rfl | positive
    · exact Nat.dvd_zero _
    · have log : n.log2 < 53 + e := by
        rw [Nat.log2_lt positive.ne', Nat.pow_add, isProduct]
        exact Nat.mul_lt_mul_of_pos_right small (Nat.two_pow_pos e)
      have divides : 2 ^ (n.log2 + 1 - 53) ∣ m * 2 ^ e :=
        (Nat.pow_dvd_pow 2 (by omega)).mul_left m
      exact divides.trans isProduct.symm.dvd

theorem roundToF64_eq_iff {n : Nat} : roundToF64 n = n ↔ Significand n := by
  rw [← unit_dvd_iff, roundToF64, Nat.dvd_iff_mod_eq_zero]
  have below := Nat.mod_lt n (Nat.two_pow_pos (n.log2 + 1 - 53))
  generalize 2 ^ (n.log2 + 1 - 53) = unit at below ⊢
  have divides := Nat.div_add_mod' n unit
  split
  · omega
  · rw [Nat.add_mul]
    omega

theorem le_roundToF64 {n k : Nat} (above : 2 ^ k ≤ n) : 2 ^ k ≤ roundToF64 n := by
  have positive : n ≠ 0 := (Nat.lt_of_lt_of_le (Nat.two_pow_pos k) above).ne'
  have isMultiple : 2 ^ (n.log2 + 1 - 53) ∣ 2 ^ n.log2 := Nat.pow_dvd_pow 2 (by omega)
  have floor : 2 ^ n.log2 ≤ n / 2 ^ (n.log2 + 1 - 53) * 2 ^ (n.log2 + 1 - 53) := by
    rw [← Nat.div_mul_cancel isMultiple]
    exact Nat.mul_le_mul_right _ (Nat.div_le_div_right (Nat.log2_self_le positive))
  have power : 2 ^ k ≤ 2 ^ n.log2 :=
    Nat.pow_le_pow_right (by decide) ((Nat.le_log2 positive).mpr above)
  rw [roundToF64]
  split
  · omega
  · rw [Nat.add_mul]
    omega

theorem significand_of_lt {n : Nat} (small : n < 2 ^ 53) : Significand n :=
  ⟨n, 0, small, (Nat.mul_one n).symm⟩

theorem f64ToI64_cases (n : Int) : f64ToI64 (intToF64 n) = n ∧ n.natAbs < 2 ^ 53 ∨
    2 ^ 53 ≤ n ∧ 2 ^ 53 ≤ f64ToI64 (intToF64 n) ∨
    n ≤ -2 ^ 53 ∧ f64ToI64 (intToF64 n) ≤ -2 ^ 53 := by
  unfold intToF64 f64ToI64
  by_cases small : n.natAbs < 2 ^ 53
  · rw [roundToF64_eq_iff.mpr (significand_of_lt small), Int.sign_mul_natAbs]
    omega
  · have large := le_roundToF64 (not_lt.mp small)
    rcases Int.lt_trichotomy n 0 with negative | rfl | positive
    · rw [Int.sign_eq_neg_one_of_neg negative]
      omega
    · exact absurd (by decide) small
    · rw [Int.sign_eq_one_of_pos positive]
      omega

theorem f64ToI64_eq_iff {n : Int} (low : -2 ^ 63 ≤ n) : f64ToI64 (intToF64 n) = n ↔
    n < 2 ^ 63 ∧ Significand n.natAbs ∨ n = 2 ^ 63 - 1 := by
  constructor
  · intro same
    by_cases isMax : n = 2 ^ 63 - 1
    · exact .inr isMax
    by_cases isMin : n = -2 ^ 63
    · exact .inl ⟨by omega, 1, 63, by decide, by omega⟩
    refine .inl ⟨?_, roundToF64_eq_iff.mp ?_⟩ <;> unfold f64ToI64 intToF64 at same
    · omega
    · rcases Int.lt_trichotomy n 0 with negative | rfl | positive
      · rw [Int.sign_eq_neg_one_of_neg negative] at same
        omega
      · decide
      · rw [Int.sign_eq_one_of_pos positive] at same
        omega
  · rintro (⟨small, significand⟩ | rfl)
    · rw [intToF64, roundToF64_eq_iff.mpr significand, Int.sign_mul_natAbs, f64ToI64]
      omega
    · decide

/-! ## Conversion -/

namespace SignalMapping

def IsIdentity (mapping : SignalMapping) : Prop :=
  (mapping.scale = 1 ∧ mapping.offset = 0) ∧ mapping.min = none ∧ mapping.max = none

theorem numericI64_asF64 {m : SignalMapping} {value : MwComValue} {n}
    (identity : m.IsIdentity) (carries : value.Carries n) :
    m.numericI64 value.asF64 = .ok (f64ToI64 (intToF64 n)) := by
  obtain ⟨⟨scale, offset⟩, noMin, noMax⟩ := identity
  cases value with
  | i64 value | u64 value =>
    cases carries.1
    simp [MwComValue.asF64, numericI64, numericF64, bounded, scaled, scale, offset, noMin, noMax,
      bind, Except.bind, f64ToI64]
  | _ => cases carries

theorem ok_iff_some {res : DataValue} {exact : Option DataValue} : (∀ result,
    (.ok res : Except MwComProviderError DataValue) = .ok result ↔ exact = some result) ↔
      exact = some res := by
  constructor
  · exact fun same => (same res).mp rfl
  · rintro rfl result
    simp

/-- An integer is converted exactly if its data type is narrow, or if 53 bits are enough for it. -/
theorem convertRounded_exact_iff {mapping : SignalMapping} {value : MwComValue} {n : Int}
    (isInteger : mapping.datatype.exactly 0 ≠ none) (identity : mapping.IsIdentity)
    (carries : value.Carries n) :
    (∀ result, mapping.convertRounded value = .ok result ↔
        mapping.datatype.exactly n = some result) ↔
      mapping.datatype ≠ .int64 ∧ mapping.datatype ≠ .uint64 ∨
        mapping.datatype = .uint64 ∧ n < 0 ∨
        n < 2 ^ 63 ∧ Significand n.natAbs ∨ n = 2 ^ 63 - 1 := by
  have numeric := numericI64_asF64 identity carries
  have range : -2 ^ 63 ≤ n ∧ n < 2 ^ 64 := by
    cases value with
    | i64 value | u64 value => grind [MwComValue.Carries]
    | _ => cases carries
  rw [← f64ToI64_eq_iff range.1, convertRounded]
  have cases := f64ToI64_cases n
  have high : f64ToI64 (intToF64 n) < 2 ^ 63 := by
    unfold f64ToI64
    omega
  generalize f64ToI64 (intToF64 n) = converted at numeric cases high ⊢
  cases isType : mapping.datatype with
  | int8 | int16 | int32 | uint8 | uint32 =>
    refine iff_of_true (fun result => ?_) (.inl ⟨by simp, by simp⟩)
    simp only [convertValue, isType, signed, unsigned, numericU64, numeric, bind, Except.bind,
      VssDataType.exactly]
    grind
  | int64 =>
    simp only [convertValue, isType, numeric, bind, Except.bind, pure, Except.pure, ok_iff_some]
    simp only [VssDataType.exactly]
    grind
  | uint64 =>
    simp only [convertValue, isType, numericU64, numeric, bind, Except.bind, pure, Except.pure]
    by_cases isNegative : converted < 0
    · refine iff_of_true (fun result => ?_) (.inr (.inl ⟨trivial, by omega⟩))
      grind [VssDataType.exactly]
    · simp only [not_lt.mp isNegative, if_true, ok_iff_some]
      simp only [VssDataType.exactly]
      grind
  | _ => simp [isType, VssDataType.exactly] at isInteger

def position : SignalMapping := { MwComMapper.window 1 with datatype := .int64 }

theorem large_power_converted :
    position.convertRounded (.i64 (2 ^ 62)) = .ok (.int64 (2 ^ 62)) := by
  have carries : (MwComValue.i64 (2 ^ 62)).Carries (2 ^ 62) := ⟨rfl, by decide⟩
  refine ((convertRounded_exact_iff (by decide) ⟨⟨rfl, rfl⟩, rfl, rfl⟩ carries).mpr ?_ _).mpr rfl
  exact .inr (.inr (.inl ⟨by decide, 1, 62, by decide, by decide⟩))

/-- The last bit is lost, and the largest values are out of range for Int64. -/
theorem large_integers_changed :
    position.convertRounded (.i64 (2 ^ 53 + 1)) = .ok (.int64 (2 ^ 53)) ∧
      position.convertRounded (.u64 (2 ^ 63)) = .ok (.int64 (2 ^ 63 - 1)) := by
  have identity : position.IsIdentity := ⟨⟨rfl, rfl⟩, rfl, rfl⟩
  constructor
  · exact bind_eq_ok.mpr ⟨_, numericI64_asF64 identity ⟨rfl, by decide⟩, rfl⟩
  · exact bind_eq_ok.mpr ⟨_, numericI64_asF64 identity ⟨rfl, by decide⟩, rfl⟩

end SignalMapping

end ScoreIntegration.MwComProvider
