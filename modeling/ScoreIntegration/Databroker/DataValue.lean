import Mathlib.Algebra.Group.Int.Defs
import Mathlib.Logic.Basic

/-!
# Values of the databroker

Values carry a variant of 32 or 64 bits.  Values of different variants are compared without
loss where both are integers, and as double precision numbers otherwise.
-/

namespace ScoreIntegration.Databroker

def Ranged (low high : Int) : Type := { value : Int // low ≤ value ∧ value ≤ high }

instance (low high : Int) : DecidableEq (Ranged low high) :=
  inferInstanceAs (DecidableEq { value : Int // low ≤ value ∧ value ≤ high })

abbrev I32 := Ranged (-2 ^ 31) (2 ^ 31 - 1)
abbrev I64 := Ranged (-2 ^ 63) (2 ^ 63 - 1)
abbrev U32 := Ranged 0 (2 ^ 32 - 1)
abbrev U64 := Ranged 0 (2 ^ 64 - 1)

inductive DataType where
  | string | bool
  | int8 | int16 | int32 | int64 | uint8 | uint16 | uint32 | uint64
  | float | double
  | stringArray | boolArray
  | int8Array | int16Array | int32Array | int64Array
  | uint8Array | uint16Array | uint32Array | uint64Array
  | floatArray | doubleArray
  deriving DecidableEq

inductive DataValue where
  | notAvailable
  | bool (value : Bool)
  | string (value : String)
  | int32 (value : I32)
  | int64 (value : I64)
  | uint32 (value : U32)
  | uint64 (value : U64)
  | float (value : Float32)
  | double (value : Float)
  | boolArray (values : List Bool)
  | stringArray (values : List String)
  | int32Array (values : List I32)
  | int64Array (values : List I64)
  | uint32Array (values : List U32)
  | uint64Array (values : List U64)
  | floatArray (values : List Float32)
  | doubleArray (values : List Float)
  deriving BEq

namespace DataValue

/-- The conversion to `f64`; integers of 64 bits have to fit into 32 bits. -/
def toDouble : DataValue → Option Float
  | int32 value => some (Float.ofInt value.val)
  | int64 value =>
    if -2 ^ 31 ≤ value.val ∧ value.val < 2 ^ 31 then some (Float.ofInt value.val) else none
  | uint32 value => some (Float.ofInt value.val)
  | uint64 value => if value.val < 2 ^ 32 then some (Float.ofInt value.val) else none
  | float value => some value.toFloat
  | double value => some value
  | _ => none

/-- The comparisons have no result where a conversion fails. -/
def greaterThan : DataValue → DataValue → Option Bool
  | int32 value, int32 other => some (value.val > other.val)
  | int32 value, int64 other => some (value.val > other.val)
  | int32 value, uint32 other => some (value.val > other.val)
  | int32 value, uint64 other => if value.val < 0 then some false else some (value.val > other.val)
  | int64 value, int32 other => some (value.val > other.val)
  | int64 value, int64 other => some (value.val > other.val)
  | int64 value, uint32 other => some (value.val > other.val)
  | int64 value, uint64 other => if value.val < 0 then some false else some (value.val > other.val)
  | uint32 value, int32 other => some (value.val > other.val)
  | uint32 value, int64 other => some (value.val > other.val)
  | uint32 value, uint32 other => some (value.val > other.val)
  | uint32 value, uint64 other => some (value.val > other.val)
  | uint64 value, int32 other => if other.val < 0 then some true else some (value.val > other.val)
  | uint64 value, int64 other => if other.val < 0 then some true else some (value.val > other.val)
  | uint64 value, uint32 other => some (value.val > other.val)
  | uint64 value, uint64 other => some (value.val > other.val)
  | float value, float other => some (value > other)
  | value, other => do some ((← value.toDouble) > (← other.toDouble))

def equals : DataValue → DataValue → Option Bool
  | bool value, bool other => some (value == other)
  | string value, string other => some (value == other)
  | int32 value, int32 other => some (value.val == other.val)
  | int32 value, int64 other => some (value.val == other.val)
  | int32 value, uint32 other => some (value.val == other.val)
  | int32 value, uint64 other => if value.val < 0 then some false else some (value.val == other.val)
  | int64 value, int32 other => some (value.val == other.val)
  | int64 value, int64 other => some (value.val == other.val)
  | int64 value, uint32 other => some (value.val == other.val)
  | int64 value, uint64 other => if value.val < 0 then some false else some (value.val == other.val)
  | uint32 value, int32 other => some (value.val == other.val)
  | uint32 value, int64 other => some (value.val == other.val)
  | uint32 value, uint32 other => some (value.val == other.val)
  | uint32 value, uint64 other => some (value.val == other.val)
  | uint64 value, int32 other => if other.val < 0 then some false else some (value.val == other.val)
  | uint64 value, int64 other => if other.val < 0 then some false else some (value.val == other.val)
  | uint64 value, uint32 other => some (value.val == other.val)
  | uint64 value, uint64 other => some (value.val == other.val)
  | float value, float other => some ((value - other).abs < 1.1920929e-7)
  | notAvailable, int32 _ | notAvailable, int64 _ | notAvailable, uint32 _
  | notAvailable, uint64 _ | notAvailable, float _ | notAvailable, double _
  | int32 _, notAvailable | int64 _, notAvailable | uint32 _, notAvailable
  | uint64 _, notAvailable | float _, notAvailable | double _, notAvailable => some false
  | value, other => do
    some (((← value.toDouble) - (← other.toDouble)).abs < 2.220446049250313e-16)

def greaterThanEqual (value other : DataValue) : Option Bool :=
  match value.greaterThan other with
  | some true => some true
  | _ => value.equals other

def lessThan (value other : DataValue) : Option Bool := other.greaterThan value

def lessThanEqual (value other : DataValue) : Option Bool :=
  match value.lessThan other with
  | some true => some true
  | _ => value.equals other

def integer? : DataValue → Option Int
  | int32 value => some value.val
  | int64 value => some value.val
  | uint32 value => some value.val
  | uint64 value => some value.val
  | _ => none

def elements : DataValue → List DataValue
  | boolArray values => values.map bool
  | stringArray values => values.map string
  | int32Array values => values.map int32
  | int64Array values => values.map int64
  | uint32Array values => values.map uint32
  | uint64Array values => values.map uint64
  | floatArray values => values.map float
  | doubleArray values => values.map double
  | value => [value]

variable {value o bound : DataValue} {number limit : Int}

variable (isInteger : value.integer? = some number)
include isInteger

theorem greaterThan_of_integer (otherInteger : o.integer? = some limit) :
    value.greaterThan o = some (decide (limit < number)) := by
  -- The negative case of the mixed comparisons is decided by the range of the other side.
  cases value <;> cases o <;>
    simp only [integer?, Option.some.injEq, reduceCtorEq] at isInteger otherInteger <;>
    subst isInteger otherInteger <;>
    rename_i value o <;> have := value.property <;> have := o.property <;>
    grind [greaterThan]

theorem equals_of_integer (otherInteger : o.integer? = some limit) :
    value.equals o = some (decide (number = limit)) := by
  cases value <;> cases o <;>
    simp only [integer?, Option.some.injEq, reduceCtorEq] at isInteger otherInteger <;>
    subst isInteger otherInteger <;>
    rename_i value o <;> have := value.property <;> have := o.property <;>
    simp only [equals, beq_eq_decide] <;>
    exact ite_eq_right_iff.mpr fun _ => congrArg some (decide_eq_false (by omega)).symm

theorem greaterThanEqual_of_integer (boundInteger : bound.integer? = some limit) :
    value.greaterThanEqual bound = some true ↔ limit ≤ number := by
  rw [greaterThanEqual, greaterThan_of_integer isInteger boundInteger,
    equals_of_integer isInteger boundInteger]
  by_cases less : limit < number
  · simp [less, Int.le_of_lt less]
  · simp [less]
    omega

theorem lessThanEqual_of_integer (boundInteger : bound.integer? = some limit) :
    value.lessThanEqual bound = some true ↔ number ≤ limit := by
  rw [lessThanEqual, lessThan, greaterThan_of_integer boundInteger isInteger,
    equals_of_integer isInteger boundInteger]
  by_cases less : number < limit
  · simp [less, Int.le_of_lt less]
  · simp [less]
    omega

end DataValue

end ScoreIntegration.Databroker
