import ScoreIntegration.Databroker.Entry

/-!
# The values an entry accepts

What the checks of an entry are for: the variant belongs to the data type, each element
lies in its range and within the bounds, and is one of the allowed values.
-/

namespace ScoreIntegration.Databroker

open DataValue List DataType

def DataType.admits : DataType → DataValue → Bool
  | .bool, .bool _ | .boolArray, .boolArray _
  | .string, .string _ | .stringArray, .stringArray _
  | .int8, .int32 _ | .int16, .int32 _ | .int32, .int32 _ | .int64, .int64 _
  | .uint8, .uint32 _ | .uint16, .uint32 _ | .uint32, .uint32 _ | .uint64, .uint64 _
  | .int8Array, .int32Array _ | .int16Array, .int32Array _ | .int32Array, .int32Array _
  | .int64Array, .int64Array _
  | .uint8Array, .uint32Array _ | .uint16Array, .uint32Array _ | .uint32Array, .uint32Array _
  | .uint64Array, .uint64Array _
  | .float, .float _ | .double, .double _
  | .floatArray, .floatArray _ | .doubleArray, .doubleArray _ => true
  | _, _ => false

def DataType.isFloating : DataType → Bool
  | .float | .double | .floatArray | .doubleArray => true
  | _ => false

def DataType.InRange (number : Int) : DataType → Prop
  | .int8 | .int8Array => -2 ^ 7 ≤ number ∧ number ≤ 2 ^ 7 - 1
  | .int16 | .int16Array => -2 ^ 15 ≤ number ∧ number ≤ 2 ^ 15 - 1
  | .int32 | .int32Array => -2 ^ 31 ≤ number ∧ number ≤ 2 ^ 31 - 1
  | .int64 | .int64Array => -2 ^ 63 ≤ number ∧ number ≤ 2 ^ 63 - 1
  | .uint8 | .uint8Array => 0 ≤ number ∧ number ≤ 2 ^ 8 - 1
  | .uint16 | .uint16Array => 0 ≤ number ∧ number ≤ 2 ^ 16 - 1
  | .uint32 | .uint32Array => 0 ≤ number ∧ number ≤ 2 ^ 32 - 1
  | .uint64 | .uint64Array => 0 ≤ number ∧ number ≤ 2 ^ 64 - 1
  | _ => True

section

variable (bound value : DataValue)

/-- Integers are compared as such; a bound of another variant has the result of its
comparison. -/
def DataValue.AtLeast : Prop :=
  match bound.integer?, value.integer? with
  | some limit, some number => limit ≤ number
  | _, _ => value.greaterThanEqual bound = some true

def DataValue.AtMost : Prop :=
  match bound.integer?, value.integer? with
  | some limit, some number => number ≤ limit
  | _, _ => value.lessThanEqual bound = some true

theorem greaterThanEqual_iff_atLeast :
    value.greaterThanEqual bound = some true ↔ bound.AtLeast value := by
  unfold DataValue.AtLeast
  split
  next limit number boundInteger isInteger =>
    exact greaterThanEqual_of_integer isInteger boundInteger
  next => rfl

theorem lessThanEqual_iff_atMost : value.lessThanEqual bound = some true ↔ bound.AtMost value := by
  unfold DataValue.AtMost
  split
  next limit number boundInteger isInteger => exact lessThanEqual_of_integer isInteger boundInteger
  next => rfl

end

def Metadata.InBounds (metadata : Metadata) (element : DataValue) : Prop :=
  ∀ number, element.integer? = some number → metadata.dataType.InRange number ∧
    (∀ min ∈ metadata.min, min.AtLeast element) ∧ ∀ max ∈ metadata.max, max.AtMost element

def Metadata.Accepts (metadata : Metadata) (value : DataValue) : Prop :=
  value = .notAvailable ∨ metadata.dataType.admits value = true ∧
      ∀ element ∈ value.elements, metadata.InBounds element ∧
        ∀ allowed ∈ metadata.allowed, element ∈ allowed.elements

theorem Ranged.bounds {low high} (value : Ranged low high) :
    (low ≤ value.val ∧ value.val ≤ high) = True :=
  eq_true value.property

@[simp]
theorem tryFrom_eq_ok {least greatest low high : Int} {value : Ranged least greatest} :
    tryFrom low high value = .ok () ↔ low ≤ value.val ∧ value.val ≤ high := by
  unfold tryFrom
  split <;> simp_all

@[simp]
theorem contained_eq_ok {α : Type} [BEq α] [LawfulBEq α] {ok items : List α} :
    contained ok items = .ok () ↔ ∀ item ∈ items, item ∈ ok := by
  unfold contained
  split <;> simp_all

namespace Entry

variable {entry : Entry} {value : DataValue}

@[simp]
theorem validateValueMinMax_eq_ok : entry.validateValueMinMax value = .ok () ↔
      (∀ min ∈ entry.metadata.min, min.AtLeast value) ∧
        ∀ max ∈ entry.metadata.max, max.AtMost value := by
  simp only [← greaterThanEqual_iff_atLeast, ← lessThanEqual_iff_atMost, validateValueMinMax]
  cases entry.metadata.min <;> cases entry.metadata.max <;> simp

theorem validateType_admits (ok : entry.validateType value = .ok ()) :
    entry.metadata.dataType.admits value = true := by
  unfold validateType at ok
  split at ok <;> simp_all [admits]

section

variable (notFloating : entry.metadata.dataType.isFloating = false)
include notFloating

theorem validateValue_eq_ok (admitted : entry.metadata.dataType.admits value = true) :
    entry.validateValue value = .ok () ↔ ∀ elem ∈ value.elements, entry.metadata.InBounds elem := by
  obtain ⟨datapoint, lag, target, ⟨id, path, dataType, changeType, min, max, ok, unit⟩⟩ := entry
  cases dataType <;> cases value <;>
    simp only [admits, isFloating, Bool.false_eq_true, reduceCtorEq]
      at admitted notFloating <;>
    simp only [validateValue, validateType, isNumber, elements,
      Metadata.InBounds, integer?, DataType.InRange, bind_eq_ok_unit,
      forM_eq_ok_unit, tryFrom_eq_ok, validateValueMinMax_eq_ok, Ranged.bounds,
      forall_mem_map, forall_mem_singleton, Option.some.injEq, forall_eq',
      reduceCtorEq, if_true, Bool.false_eq_true, if_false, true_and, and_true, false_imp_iff,
      implies_true] <;>
    exact and_comm

theorem validateAllowed_eq_ok (typed : entry.validateAllowedType entry.metadata.allowed = .ok ())
    (admitted : entry.metadata.dataType.admits value = true) :
    entry.validateAllowed value = .ok () ↔
      ∀ elem ∈ value.elements, ∀ ok ∈ entry.metadata.allowed, elem ∈ ok.elements := by
  obtain ⟨datapoint, lag, target, ⟨id, path, dataType, changeType, min, max, ok, unit⟩⟩ := entry
  cases ok with
  | none => simp [validateAllowed]
  | some ok =>
    cases dataType <;> cases value <;>
      simp [admits, isFloating] at admitted notFloating <;>
      cases ok <;> simp [validateAllowedType] at typed <;>
      simp only [validateAllowed, elements, contained_eq_ok, Option.mem_some_iff,
        forall_eq', forall_mem_singleton, mem_map, forall_exists_index, and_imp,
        forall_apply_eq_imp_iff₂, bool.injEq, string.injEq, int32.injEq,
        int64.injEq, uint32.injEq, uint64.injEq,
        exists_eq_right]

theorem validateStored_eq_ok (typed : entry.validateAllowedType entry.metadata.allowed = .ok ())
    (available : value ≠ .notAvailable) :
    entry.validateStored value = .ok () ↔ entry.metadata.Accepts value := by
  simp only [validateStored, bind_eq_ok_unit, Metadata.Accepts, available, false_or]
  by_cases admitted : entry.metadata.dataType.admits value = true
  · rw [validateValue_eq_ok notFloating admitted, validateAllowed_eq_ok notFloating typed admitted]
    simp only [admitted, true_and, ← forall_and]
  · have refused : entry.validateValue value ≠ .ok () := by
      intro ok
      have checked : entry.validateType value = .ok () := by
        cases value <;> simp_all [validateValue]
      exact admitted (validateType_admits checked)
    simp [refused, admitted]

end

/-- No value is available to compare with the allowed ones, and such an entry refuses it. -/
theorem validateStored_notAvailable :
    entry.validateStored .notAvailable = .ok () ↔ entry.metadata.allowed = none := by
  cases ok : entry.metadata.allowed with
  | none => simp [validateStored, validateValue, validateAllowed, ok]
  | some values => cases values <;> simp [validateStored, validateValue, validateAllowed, ok]

/-- Exactly the values in range, within the bounds and among the allowed ones are accepted,
unless a value becomes unavailable whose allowed ones are listed. -/
theorem validate_accepts_iff (entry : Entry)
    (notFloating : entry.metadata.dataType.isFloating = false)
    (typed : entry.validateAllowedType entry.metadata.allowed = .ok ()) (point : Datapoint) :
    ((entry.validate { datapoint := some point } = .ok () ↔ entry.metadata.Accepts point.value) ∧
      (entry.validate { actuatorTarget := some (some point) } = .ok () ↔
        entry.metadata.Accepts point.value)) ↔
      (point.value = .notAvailable → entry.metadata.allowed = none) := by
  simp only [validate, bind_eq_ok_unit, and_true, true_and, and_self]
  by_cases available : point.value = .notAvailable
  · simp [available, validateStored_notAvailable, Metadata.Accepts]
  · simp [available, validateStored_eq_ok notFloating typed available]

/-- A gear that is reverse, neutral or the first one, within mixed bounds. -/
def gear : Entry where
  datapoint := ⟨0, none, .notAvailable⟩
  lagDatapoint := ⟨0, none, .notAvailable⟩
  actuatorTarget := none
  metadata := {
    id := 0, path := "Vehicle.Gear", dataType := .int8, changeType := .onChange
    min := some (.int64 ⟨-1, by decide⟩), max := some (.uint64 ⟨8, by decide⟩)
    allowed := some (.int32Array [⟨-1, by decide⟩, ⟨0, by decide⟩, ⟨1, by decide⟩])
    unit := none }

theorem gear_accepts_first : gear.metadata.Accepts (.int32 ⟨1, by decide⟩) ∧
      ¬gear.metadata.Accepts (.int32 ⟨5, by decide⟩) := by
  have first := (validate_accepts_iff gear rfl rfl ⟨0, none, .int32 ⟨1, by decide⟩⟩).mpr nofun
  have fifth := (validate_accepts_iff gear rfl rfl ⟨0, none, .int32 ⟨5, by decide⟩⟩).mpr nofun
  exact ⟨first.1.mp (by decide), fun accepted => absurd (fifth.1.mpr accepted) (by decide)⟩

def firstGear : Entry := { gear with datapoint := ⟨0, none, .int32 ⟨1, by decide⟩⟩ }

/-- A gear cannot be made unavailable again. -/
theorem gear_not_available_refused : firstGear.metadata.dataType.isFloating = false ∧
      firstGear.validateAllowedType firstGear.metadata.allowed = .ok () ∧
      firstGear.metadata.Accepts .notAvailable ∧
      firstGear.validate { datapoint := some ⟨1, none, .notAvailable⟩ } = .error .unsupportedType ∧
      firstGear.validate { actuatorTarget := some (some ⟨1, none, .notAvailable⟩) } =
        .error .unsupportedType :=
  ⟨rfl, rfl, .inl rfl, rfl, rfl⟩

end Entry

end ScoreIntegration.Databroker
