import Mathlib.Data.Finset.Basic
import ScoreIntegration.Databroker.DataValue

/-!
# Entries of the databroker and the checks of an update

An update is reduced to the values that differ from the stored ones, validated against the
metadata as stored before, and then applied.
-/

namespace ScoreIntegration.Databroker

inductive ChangeType where
  | static | onChange | continuous
  deriving DecidableEq

inductive EntryType where
  | sensor | attribute | actuator
  deriving DecidableEq

inductive Field where
  | datapoint | actuatorTarget | metadataUnit
  deriving DecidableEq

structure Datapoint where
  ts : Nat
  sourceTs : Option Nat
  value : DataValue

structure Metadata where
  id : Int
  path : String
  dataType : DataType
  changeType : ChangeType
  min : Option DataValue
  max : Option DataValue
  allowed : Option DataValue
  unit : Option String

structure Entry where
  datapoint : Datapoint
  lagDatapoint : Datapoint
  actuatorTarget : Option Datapoint
  metadata : Metadata

/-- The fields an update sets; a target and the allowed values can be set to none. -/
structure EntryUpdate where
  path : Option String := none
  datapoint : Option Datapoint := none
  actuatorTarget : Option (Option Datapoint) := none
  entryType : Option EntryType := none
  dataType : Option DataType := none
  description : Option String := none
  allowed : Option (Option DataValue) := none
  unit : Option String := none

inductive UpdateError where
  | notFound | wrongType | outOfBoundsAllowed | outOfBoundsMinMax | outOfBoundsType
  | unsupportedType | permissionDenied | permissionExpired
  deriving DecidableEq

@[simp]
theorem bind_eq_ok_unit {ε : Type} {first second : Except ε Unit} :
    (do first; second) = .ok () ↔ first = .ok () ∧ second = .ok () := by
  cases first <;> simp [bind, Except.bind]

@[simp]
theorem forM_eq_ok_unit {ε α : Type} {check : α → Except ε Unit} (values : List α) :
    forM values check = .ok () ↔ ∀ value ∈ values, check value = .ok () := by
  induction values with
  | nil => simp [pure, Except.pure]
  | cons value rest ih => simp [ih]

/-- The data types whose value is one number, the bounds of which are checked first. -/
def DataType.isNumber : DataType → Bool
  | .int8 | .int16 | .int32 | .int64 | .uint8 | .uint16 | .uint32 | .uint64
  | .float | .double => true
  | _ => false

def tryFrom {least greatest : Int} (low high : Int) (value : Ranged least greatest) :
    Except UpdateError Unit :=
  if low ≤ value.val ∧ value.val ≤ high then .ok () else .error .outOfBoundsType

def contained {α : Type} [BEq α] (allowed items : List α) : Except UpdateError Unit :=
  if items.all allowed.contains then .ok () else .error .outOfBoundsAllowed

namespace Entry

variable (entry : Entry)

def diff (update : EntryUpdate) : EntryUpdate :=
  match update.datapoint with
  | some datapoint =>
    if entry.metadata.changeType ≠ .continuous ∧
        (datapoint.value == entry.datapoint.value) = true then
      { update with datapoint := none }
    else update
  | none => update

def validateAllowedType (allowed : Option DataValue) : Except UpdateError Unit :=
  match allowed, entry.metadata.dataType with
  | none, _ => .ok ()
  | some (.boolArray _), .bool | some (.boolArray _), .boolArray
  | some (.stringArray _), .string | some (.stringArray _), .stringArray
  | some (.int32Array _), .int8 | some (.int32Array _), .int8Array
  | some (.int32Array _), .int16 | some (.int32Array _), .int16Array
  | some (.int32Array _), .int32 | some (.int32Array _), .int32Array
  | some (.int64Array _), .int64 | some (.int64Array _), .int64Array
  | some (.uint32Array _), .uint8 | some (.uint32Array _), .uint8Array
  | some (.uint32Array _), .uint16 | some (.uint32Array _), .uint16Array
  | some (.uint32Array _), .uint32 | some (.uint32Array _), .uint32Array
  | some (.uint64Array _), .uint64 | some (.uint64Array _), .uint64Array
  | some (.floatArray _), .float | some (.floatArray _), .floatArray
  | some (.doubleArray _), .double | some (.doubleArray _), .doubleArray => .ok ()
  | some _, _ => .error .wrongType

def validateAllowed (value : DataValue) : Except UpdateError Unit :=
  match entry.metadata.allowed, value with
  | none, _ => .ok ()
  | some (.boolArray allowed), .bool value => contained allowed [value]
  | some (.doubleArray allowed), .double value => contained allowed [value]
  | some (.floatArray allowed), .float value => contained allowed [value]
  | some (.int32Array allowed), .int32 value => contained allowed [value]
  | some (.int64Array allowed), .int64 value => contained allowed [value]
  | some (.stringArray allowed), .string value => contained allowed [value]
  | some (.uint32Array allowed), .uint32 value => contained allowed [value]
  | some (.uint64Array allowed), .uint64 value => contained allowed [value]
  | some (.boolArray allowed), .boolArray items => contained allowed items
  | some (.doubleArray allowed), .doubleArray items => contained allowed items
  | some (.floatArray allowed), .floatArray items => contained allowed items
  | some (.int32Array allowed), .int32Array items => contained allowed items
  | some (.int64Array allowed), .int64Array items => contained allowed items
  | some (.stringArray allowed), .stringArray items => contained allowed items
  | some (.uint32Array allowed), .uint32Array items => contained allowed items
  | some (.uint64Array allowed), .uint64Array items => contained allowed items
  | some _, _ => .error .unsupportedType

def validateValueMinMax (value : DataValue) : Except UpdateError Unit :=
  if entry.metadata.min.all (fun min => value.greaterThanEqual min == some true) ∧
      entry.metadata.max.all (fun max => value.lessThanEqual max == some true) then
    .ok ()
  else .error .outOfBoundsMinMax

/-- The check of a value by its data type; the elements of an array of numbers are
checked one after the other. -/
def validateType (value : DataValue) : Except UpdateError Unit :=
  match entry.metadata.dataType, value with
  | .bool, .bool _ | .string, .string _ | .int32, .int32 _ | .int64, .int64 _
  | .uint32, .uint32 _ | .uint64, .uint64 _ | .float, .float _ | .double, .double _
  | .boolArray, .boolArray _ | .stringArray, .stringArray _ => .ok ()
  | .int8, .int32 value => tryFrom (-2 ^ 7) (2 ^ 7 - 1) value
  | .int16, .int32 value => tryFrom (-2 ^ 15) (2 ^ 15 - 1) value
  | .uint8, .uint32 value => tryFrom 0 (2 ^ 8 - 1) value
  | .uint16, .uint32 value => tryFrom 0 (2 ^ 16 - 1) value
  | .int8Array, .int32Array array => forM array fun value => do
    tryFrom (-2 ^ 7) (2 ^ 7 - 1) value
    entry.validateValueMinMax (.int32 value)
  | .int16Array, .int32Array array => forM array fun value => do
    tryFrom (-2 ^ 15) (2 ^ 15 - 1) value
    entry.validateValueMinMax (.int32 value)
  | .int32Array, .int32Array array =>
    forM array fun value => entry.validateValueMinMax (.int32 value)
  | .int64Array, .int64Array array =>
    forM array fun value => entry.validateValueMinMax (.int64 value)
  | .uint8Array, .uint32Array array => forM array fun value => do
    tryFrom 0 (2 ^ 8 - 1) value
    entry.validateValueMinMax (.uint32 value)
  | .uint16Array, .uint32Array array => forM array fun value => do
    tryFrom 0 (2 ^ 16 - 1) value
    entry.validateValueMinMax (.uint32 value)
  | .uint32Array, .uint32Array array =>
    forM array fun value => entry.validateValueMinMax (.uint32 value)
  | .uint64Array, .uint64Array array =>
    forM array fun value => entry.validateValueMinMax (.uint64 value)
  | .floatArray, .floatArray array =>
    forM array fun value => entry.validateValueMinMax (.float value)
  | .doubleArray, .doubleArray array =>
    forM array fun value => entry.validateValueMinMax (.double value)
  | _, _ => .error .wrongType

def validateValue : DataValue → Except UpdateError Unit
  | .notAvailable => .ok ()
  | value => do
    (if entry.metadata.dataType.isNumber then entry.validateValueMinMax value else .ok ())
    entry.validateType value

def validateStored (value : DataValue) : Except UpdateError Unit := do
  entry.validateValue value
  entry.validateAllowed value

def validate (update : EntryUpdate) : Except UpdateError Unit := do
  (match update.datapoint with
  | some datapoint => entry.validateStored datapoint.value
  | none => .ok ())
  (match update.actuatorTarget with
  | some (some target) => entry.validateStored target.value
  | _ => .ok ())
  (match update.allowed with
  | some (some allowed) =>
    if some allowed != entry.metadata.allowed then entry.validateAllowedType (some allowed)
    else .ok ()
  | _ => .ok ())

def apply (update : EntryUpdate) : Entry × Finset Field :=
  ({ datapoint := update.datapoint.getD entry.datapoint
     lagDatapoint := if update.datapoint.isSome then entry.datapoint else entry.lagDatapoint
     actuatorTarget := update.actuatorTarget.getD entry.actuatorTarget
     metadata :=
      match update.allowed with
      | some allowed =>
        if allowed != entry.metadata.allowed then { entry.metadata with allowed }
        else entry.metadata
      | none => entry.metadata },
    (if update.datapoint.isSome then {Field.datapoint} else ∅) ∪
      if update.actuatorTarget.isSome then {Field.actuatorTarget} else ∅)

end Entry

inductive PathMatcher where
  | nothing
  | everything
  | regexps (isMatch : String → Bool)

def PathMatcher.isMatch : PathMatcher → String → Bool
  | .nothing, _ => false
  | .everything, _ => true
  | .regexps isMatch, path => isMatch path

structure Permissions where
  expiresAt : Option Nat
  read : PathMatcher
  actuate : PathMatcher
  provide : PathMatcher
  create : PathMatcher

inductive PermissionError where
  | denied | expired
  deriving DecidableEq

namespace Permissions

variable (permissions : Permissions) (now : Nat)

def isExpired : Bool := permissions.expiresAt.any fun expiresAt => decide (expiresAt < now)

def check (granted : Bool) : Except PermissionError Unit :=
  if permissions.isExpired now then .error .expired
  else if granted then .ok ()
  else .error .denied

/-- Read permissions are included in the other permissions. -/
def canRead (path : String) : Except PermissionError Unit :=
  permissions.check now (permissions.read.isMatch path || permissions.actuate.isMatch path ||
    permissions.provide.isMatch path || permissions.create.isMatch path)

def canWriteActuatorTarget (path : String) : Except PermissionError Unit :=
  permissions.check now (permissions.actuate.isMatch path)

def canWriteDatapoint (path : String) : Except PermissionError Unit :=
  permissions.check now (permissions.provide.isMatch path)

def canCreate (path : String) : Except PermissionError Unit :=
  permissions.check now (permissions.create.isMatch path)

end Permissions

end ScoreIntegration.Databroker
