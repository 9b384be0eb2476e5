import Mathlib.Data.Int.Log
import Mathlib.Data.List.Nodup
import Mathlib.Data.Rat.Cast.Order
import Mathlib.Data.Rat.Floor
import Mathlib.Tactic.NormNum.Basic

/-!
# Commands and feedback of the mw::com provider

A commanded value is sent as it is, and a received value is scaled, checked against the
bounds and narrowed.  The arithmetic of `f64` is idealised as rational arithmetic.
-/

namespace ScoreIntegration.MwComProvider

open List

inductive Direction where
  | datapoint | actuator | bidirectional

def Direction.receivesDatapoints : Direction → Bool
  | .actuator => false
  | _ => true

def Direction.acceptsActuation : Direction → Bool
  | .datapoint => false
  | _ => true

inductive VssDataType where
  | bool | string | int8 | int16 | int32 | int64 | uint8 | uint32 | uint64 | float | floatArray
  | double
  deriving DecidableEq

inductive SignalQuality where
  | invalid | stale | degraded | valid

inductive MwComValue where
  | bool (value : Bool)
  | string (value : String)
  | i64 (value : Int)
  | u64 (value : Nat)
  | f64 (value : ℚ)
  | floatArray (values : List ℚ)
  | bytes (values : List UInt8)

/-- The values of the databroker; `other` is of a variant that no mapping uses, or infinite. -/
inductive DataValue where
  | bool (value : Bool)
  | string (value : String)
  | int32 (value : Int)
  | int64 (value : Int)
  | uint32 (value : Nat)
  | uint64 (value : Nat)
  | float (value : ℚ)
  | double (value : ℚ)
  | floatArray (values : List ℚ)
  | other

/-- The service, the instance and the member of a binding. -/
structure MwComKey where
  service : String
  instanceName : String
  member : String
  deriving DecidableEq

structure SignalMapping where
  signalId : Int
  vssPath : String
  datatype : VssDataType
  key : MwComKey
  actuationBinding : Option MwComKey := none
  scale : ℚ := 1
  offset : ℚ := 0
  min : Option ℚ := none
  max : Option ℚ := none
  maxElements : Option Nat := none
  requiredQuality : SignalQuality := .valid
  direction : Direction := .datapoint
  cycleTimeMs : Nat := 100

structure ProviderConfig where
  mappings : List SignalMapping
  staleAfterMs : Nat := 1000

inductive MwComProviderError where
  -- of the configuration
  | noMappings | emptyVssPath | incompleteBinding | duplicateSignalId | duplicateBinding
  | invalidActuationBinding | zeroCycleTime | maxElements | minGreaterThanMax
  -- of the mapping and the quality
  | noMapping | notReceived | notCommanded | lowQuality | stale
  | typeError | notInteger | notUnsigned | outOfRange | belowMin | aboveMax

structure MwComMessage where
  key : MwComKey
  value : MwComValue
  sourceTimestamp : Option Nat
  quality : SignalQuality

structure Datapoint where
  ts : Nat
  sourceTs : Option Nat
  value : DataValue

/-- The characters with the Unicode property `White_Space`, which `str::trim` removes. -/
def isWhiteSpace (char : Char) : Bool :=
  let code := char.toNat
  (9 ≤ code && code ≤ 13) || (0x2000 ≤ code && code ≤ 0x200A) ||
    code ∈ [0x20, 0x85, 0xA0, 0x1680, 0x2028, 0x2029, 0x202F, 0x205F, 0x3000]

def isBlank (text : String) : Bool := text.toList.all isWhiteSpace

def MwComKey.isIncomplete (key : MwComKey) : Bool :=
  isBlank key.service || isBlank key.instanceName || isBlank key.member

/-- The check of a mapping after the mappings with the given ids and bindings. -/
def SignalMapping.check (mapping : SignalMapping) (signalIds : List Int)
    (bindings : List MwComKey) : Except MwComProviderError Unit :=
  if isBlank mapping.vssPath then .error .emptyVssPath
  else if mapping.key.isIncomplete then .error .incompleteBinding
  else if mapping.signalId ∈ signalIds then .error .duplicateSignalId
  else if mapping.key ∈ bindings then .error .duplicateBinding
  else if mapping.actuationBinding.any fun binding =>
      !mapping.direction.acceptsActuation || binding.isIncomplete then
    .error .invalidActuationBinding
  else if mapping.cycleTimeMs = 0 then .error .zeroCycleTime
  else if mapping.datatype = .floatArray ∧
      !mapping.maxElements.any fun count => 1 ≤ count ∧ count ≤ 8 then .error .maxElements
  else if mapping.min.any fun low => mapping.max.any fun high => high < low then
    .error .minGreaterThanMax
  else .ok ()

def validateMappings (signalIds : List Int) (bindings : List MwComKey) :
    List SignalMapping → Except MwComProviderError Unit
  | [] => .ok ()
  | mapping :: mappings => do
    mapping.check signalIds bindings
    validateMappings (mapping.signalId :: signalIds) (mapping.key :: bindings) mappings

def ProviderConfig.validate (config : ProviderConfig) : Except MwComProviderError Unit :=
  if config.mappings = [] then .error .noMappings else validateMappings [] [] config.mappings

/-- A table of the mappings; of those with one index the last one stays. -/
def table {κ : Type} [DecidableEq κ] (index : SignalMapping → κ) (mappings : List SignalMapping)
    (key : κ) : Option SignalMapping :=
  mappings.reverse.find? fun mapping => index mapping = key

structure MwComMapper where
  config : ProviderConfig
  byMember : MwComKey → Option SignalMapping
  bySignalId : Int → Option SignalMapping

def MwComMapper.new (config : ProviderConfig) : Except MwComProviderError MwComMapper := do
  config.validate
  .ok ⟨config, table (·.key) config.mappings, table (·.signalId) config.mappings⟩

/-- Times are in nanoseconds; a sample from the future is not stale. -/
def qualifyMessage (message : MwComMessage) (mapping : SignalMapping) (staleAfterMs now : Nat) :
    Except MwComProviderError Unit :=
  if message.quality.ctorIdx < mapping.requiredQuality.ctorIdx then .error .lowQuality
  else if message.sourceTimestamp.any fun source => source + staleAfterMs * 10 ^ 6 < now then
    .error .stale
  else .ok ()

/-- The nearest integer, and of two of them the even one. -/
def roundTiesEven (value : ℚ) : Int :=
  let below := ⌊value⌋
  if value - below < 1 / 2 ∨ value - below = 1 / 2 ∧ below % 2 = 0 then below else below + 1

/-- The conversion by `as f32`, to a multiple of the last place of a significand with 24 bits;
nothing if the value is too large and so becomes infinite. -/
def asF32 (value : ℚ) : Option ℚ :=
  let lastPlace : ℚ := 2 ^ max (Int.log 2 |value| - 23) (-149)
  let rounded := roundTiesEven (value / lastPlace) * lastPlace
  if |rounded| < 2 ^ 128 then some rounded else none

def narrowed (value : ℚ) : DataValue :=
  match asF32 value with
  | some value => .float value
  | none => .other

theorem narrowed_eq_float {scaled value : ℚ} :
    narrowed scaled = .float value ↔ asF32 scaled = some value := by
  unfold narrowed
  cases asF32 scaled <;> simp

namespace SignalMapping

variable (mapping : SignalMapping) (value : MwComValue)

def scaled (raw : ℚ) : ℚ := raw * mapping.scale + mapping.offset

def bounded (scaled : ℚ) : Except MwComProviderError ℚ :=
  if mapping.min.any (scaled < ·) then .error .belowMin
  else if mapping.max.any (· < scaled) then .error .aboveMax
  else .ok scaled

def numericF64 : Except MwComProviderError ℚ :=
  match value with
  | .i64 value => mapping.bounded (mapping.scaled value)
  | .u64 value => mapping.bounded (mapping.scaled value)
  | .f64 value => mapping.bounded (mapping.scaled value)
  | _ => .error .typeError

/-- The conversion to `i64` saturates. -/
def numericI64 : Except MwComProviderError Int := do
  let value ← mapping.numericF64 value
  if value.den = 1 then .ok (Max.max (-2 ^ 63) (Min.min value.num (2 ^ 63 - 1)))
  else .error .notInteger

def numericU64 : Except MwComProviderError Nat := do
  let value ← mapping.numericI64 value
  if 0 ≤ value then .ok value.toNat else .error .notUnsigned

def signed (bits : Nat) : Except MwComProviderError DataValue := do
  let value ← mapping.numericI64 value
  if -2 ^ bits ≤ value ∧ value < 2 ^ bits then .ok (.int32 value) else .error .outOfRange

def unsigned (bits : Nat) : Except MwComProviderError DataValue := do
  let value ← mapping.numericU64 value
  if value < 2 ^ bits then .ok (.uint32 value) else .error .outOfRange

def convertValue : Except MwComProviderError DataValue :=
  match mapping.datatype, value with
  | .bool, .bool value => .ok (.bool value)
  | .string, .string value => .ok (.string value)
  | .int8, _ => mapping.signed value 7
  | .int16, _ => mapping.signed value 15
  | .int32, _ => mapping.signed value 31
  | .int64, _ => do return .int64 (← mapping.numericI64 value)
  | .uint8, _ => mapping.unsigned value 8
  | .uint32, _ => mapping.unsigned value 32
  | .uint64, _ => do return .uint64 (← mapping.numericU64 value)
  | .float, _ => do return narrowed (← mapping.numericF64 value)
  | .floatArray, .floatArray values =>
    if mapping.maxElements.any fun count => values.length ≤ count then .ok (.floatArray values)
    else .error .typeError
  | .double, _ => do return .double (← mapping.numericF64 value)
  | _, _ => .error .typeError

def dataValueToMwCom (value : DataValue) : Except MwComProviderError MwComValue :=
  match mapping.datatype, value with
  | .bool, .bool value => .ok (.bool value)
  | .string, .string value => .ok (.string value)
  | .int8, .int32 value | .int32, .int32 value | .int64, .int32 value => .ok (.i64 value)
  | .int8, .int64 value | .int32, .int64 value | .int64, .int64 value => .ok (.i64 value)
  | .int16, .int32 value => .ok (.i64 value)
  | .uint8, .uint32 value | .uint32, .uint32 value | .uint64, .uint32 value => .ok (.u64 value)
  | .uint8, .uint64 value | .uint32, .uint64 value | .uint64, .uint64 value => .ok (.u64 value)
  | .float, .float value | .double, .float value => .ok (.f64 value)
  | .float, .double value | .double, .double value => .ok (.f64 value)
  | .floatArray, .floatArray values => .ok (.floatArray values)
  | _, _ => .error .typeError

end SignalMapping

namespace MwComMapper

variable (mapper : MwComMapper) (now : Nat)

def messageToUpdate (message : MwComMessage) : Except MwComProviderError (Int × Datapoint) :=
  match mapper.byMember message.key with
  | none => .error .noMapping
  | some mapping =>
    if mapping.direction.receivesDatapoints then do
      qualifyMessage message mapping mapper.config.staleAfterMs now
      let value ← mapping.convertValue message.value
      .ok (mapping.signalId, ⟨now, message.sourceTimestamp, value⟩)
    else .error .notReceived

def actuationToMessage (id : Int) (value : DataValue) : Except MwComProviderError MwComMessage :=
  match mapper.bySignalId id with
  | none => .error .noMapping
  | some mapping =>
    if mapping.direction.acceptsActuation then do
      let value ← mapping.dataValueToMwCom value
      .ok ⟨mapping.actuationBinding.getD mapping.key, value, some now, mapping.requiredQuality⟩
    else .error .notCommanded

end MwComMapper

/-! ## The way back -/

theorem bind_eq_ok {ε α β : Type} {first : Except ε α} {next : α → Except ε β} {res} :
    (first >>= next) = .ok res ↔ ∃ mid, first = .ok mid ∧ next mid = .ok res := by
  cases first <;> simp [bind, Except.bind]

theorem table_of_mem {κ : Type} [DecidableEq κ] {i : SignalMapping → κ} {m mappings}
    (unique : (mappings.reverse.map i).Nodup) (isIn : m ∈ mappings) :
    table i mappings (i m) = some m := by
  have isInReverse := mem_reverse.mpr isIn
  cases found : table i mappings (i m) with
  | none => simpa using find?_eq_none.mp found m isInReverse
  | some o =>
    have sameIndex : i o = i m := by simpa using find?_some found
    rw [inj_on_of_nodup_map unique (mem_of_find?_eq_some found) isInReverse sameIndex]

theorem validateMappings_nodup {signalIds bindings mappings}
    (valid : validateMappings signalIds bindings mappings = .ok ()) (ids : signalIds.Nodup)
    (keys : bindings.Nodup) : (mappings.reverse.map (·.signalId) ++ signalIds).Nodup ∧
      (mappings.reverse.map (·.key) ++ bindings).Nodup := by
  induction mappings generalizing signalIds bindings with
  | nil => exact ⟨ids, keys⟩
  | cons m mappings ih =>
    obtain ⟨_, checked, rest⟩ := bind_eq_ok.mp valid
    have new : m.signalId ∉ signalIds ∧ m.key ∉ bindings := by
      grind [SignalMapping.check]
    simpa using ih rest (nodup_cons.mpr ⟨new.1, ids⟩) (nodup_cons.mpr ⟨new.2, keys⟩)

namespace SignalMapping

def InBounds (mapping : SignalMapping) (value : ℚ) : Prop :=
  (∀ low ∈ mapping.min, low ≤ value) ∧ ∀ high ∈ mapping.max, value ≤ high

/-- The value is of the data type and within the bounds of the mapping. -/
def Valid (mapping : SignalMapping) (value : DataValue) : Prop :=
  match mapping.datatype, value with
  | .bool, .bool _ | .string, .string _ => True
  | .int8, .int32 value => -2 ^ 7 ≤ value ∧ value < 2 ^ 7 ∧ mapping.InBounds value
  | .int16, .int32 value => -2 ^ 15 ≤ value ∧ value < 2 ^ 15 ∧ mapping.InBounds value
  | .int32, .int32 value => -2 ^ 31 ≤ value ∧ value < 2 ^ 31 ∧ mapping.InBounds value
  | .int64, .int64 value => -2 ^ 63 ≤ value ∧ value < 2 ^ 63 ∧ mapping.InBounds value
  | .uint8, .uint32 value => value < 2 ^ 8 ∧ mapping.InBounds value
  | .uint32, .uint32 value => value < 2 ^ 32 ∧ mapping.InBounds value
  | .uint64, .uint64 value => value < 2 ^ 64 ∧ mapping.InBounds value
  | .float, .float value | .double, .double value => mapping.InBounds value
  | .floatArray, .floatArray values => ∃ count ∈ mapping.maxElements, values.length ≤ count
  | _, _ => False

/-- Scaling keeps the integer, or leads beyond `i64` from its first or last value. -/
def KeepsInteger (mapping : SignalMapping) (value : Int) : Prop :=
  mapping.scaled value = value ∧ value < 2 ^ 63 ∨
    ∃ beyond : Int, mapping.scaled value = beyond ∧ mapping.InBounds beyond ∧
      (value = 2 ^ 63 - 1 ∧ 2 ^ 63 ≤ beyond ∨ value = -2 ^ 63 ∧ beyond < -2 ^ 63)

/-- The narrowing hides a difference that is too small for an `f32`. -/
def Keeps (mapping : SignalMapping) : DataValue → Prop
  | .int32 value | .int64 value => mapping.KeepsInteger value
  | .uint32 value | .uint64 value => mapping.KeepsInteger value
  | .float value =>
    mapping.InBounds (mapping.scaled value) ∧ asF32 (mapping.scaled value) = some value
  | .double value => mapping.scaled value = value
  | _ => True

variable {m : SignalMapping} {value : Int}

theorem bounded_eq_ok {scaled res} :
    m.bounded scaled = .ok res ↔ m.InBounds scaled ∧ scaled = res := by
  unfold bounded InBounds
  cases m.min <;> cases m.max <;> simp <;> grind

theorem numericI64_eq_ok {raw : MwComValue} (low : -2 ^ 63 ≤ value) (inBounds : m.InBounds value)
    (isRaw : m.numericF64 raw = m.bounded (m.scaled value)) :
    m.numericI64 raw = .ok value ↔ m.KeepsInteger value := by
  rw [numericI64, isRaw, bind_eq_ok]
  simp only [bounded_eq_ok]
  constructor
  · rintro ⟨_, ⟨inside, rfl⟩, converted⟩
    split at converted
    next isInteger =>
      have isNumber := Rat.coe_int_num_of_den_eq_one isInteger
      have saturated := Except.ok.inj converted
      rw [← isNumber] at inside
      by_cases fits : -2 ^ 63 ≤ (m.scaled value).num ∧ (m.scaled value).num < 2 ^ 63
      · have same : (m.scaled value).num = value := by omega
        exact .inl ⟨isNumber.symm.trans (congrArg _ same), by omega⟩
      · exact .inr ⟨_, isNumber.symm, inside, by omega⟩
    next => cases converted
  · rintro (⟨same, small⟩ | ⟨beyond, isBeyond, inside, edge⟩)
    · refine ⟨value, ⟨by rwa [same], same⟩, ?_⟩
      simp
      omega
    · refine ⟨beyond, ⟨by rwa [isBeyond], isBeyond⟩, ?_⟩
      simp
      omega

theorem numericU64_eq_ok {raw : MwComValue} {value : Nat} :
    m.numericU64 raw = .ok value ↔ m.numericI64 raw = .ok (value : Int) := by
  rw [numericU64, bind_eq_ok]
  constructor
  · rintro ⟨number, isNumber, converted⟩
    grind
  · exact fun isNumber => ⟨value, isNumber, by simp⟩

theorem signed_eq_ok {raw : MwComValue} {bits} (low : -2 ^ bits ≤ value) (high : value < 2 ^ bits) :
    m.signed raw bits = .ok (.int32 value) ↔ m.numericI64 raw = .ok value := by
  rw [signed, bind_eq_ok]
  grind

theorem unsigned_eq_ok {raw : MwComValue} {bits} {value : Nat} (high : value < 2 ^ bits) :
    m.unsigned raw bits = .ok (.uint32 value) ↔ m.numericI64 raw = .ok (value : Int) := by
  rw [unsigned, bind_eq_ok]
  grind [numericU64_eq_ok]

theorem convertValue_eq_ok {value : DataValue} {sent} (valid : m.Valid value)
    (isSent : m.dataValueToMwCom value = .ok sent) :
    m.convertValue sent = .ok value ↔ m.Keeps value := by
  unfold Valid at valid
  split at valid
  case h_13 => exact valid.elim
  all_goals
    rename_i isType
    simp only [dataValueToMwCom, isType, Except.ok.injEq] at isSent
    simp only [convertValue, ← isSent, isType, Keeps]
  case h_3 | h_4 | h_5 =>
    exact (signed_eq_ok valid.1 valid.2.1).trans (numericI64_eq_ok (by omega) valid.2.2 rfl)
  case h_6 value =>
    have kept : m.numericI64 (.i64 value) = .ok value ↔ m.KeepsInteger value :=
      numericI64_eq_ok valid.1 valid.2.2 rfl
    simp [← kept, bind_eq_ok, pure, Except.pure]
  case h_7 | h_8 => exact (unsigned_eq_ok valid.1).trans (numericI64_eq_ok (by omega) valid.2 rfl)
  case h_9 value =>
    have kept : m.numericI64 (.u64 value) = .ok (value : Int) ↔
        m.KeepsInteger value := numericI64_eq_ok (by omega) valid.2 rfl
    simp [← kept, bind_eq_ok, numericU64_eq_ok, pure, Except.pure]
  case h_10 =>
    simp [numericF64, bind_eq_ok, bounded_eq_ok, pure, Except.pure, narrowed_eq_float]
  case h_11 =>
    simp [numericF64, bind_eq_ok, bounded_eq_ok, pure, Except.pure]
    exact fun same => by rwa [same]
  case h_12 =>
    obtain ⟨count, isMax, fits⟩ := valid
    simp [Option.mem_def.mp isMax, fits]

end SignalMapping

namespace MwComMapper

/-- A command and the report of its value agree exactly if the report qualifies and the value
does not change when it is scaled and narrowed. -/
theorem messageToUpdate_command_iff {config mapper mapping value now sentAt command report}
    (built : new config = .ok mapper) (isIn : mapping ∈ config.mappings)
    (bidirectional : mapping.direction = .bidirectional) (valid : mapping.Valid value)
    (commanded : mapper.actuationToMessage sentAt mapping.signalId value = .ok command)
    (reported : report.key = mapping.key) (sameValue : report.value = command.value) :
    mapper.messageToUpdate now report =
        .ok (mapping.signalId, ⟨now, report.sourceTimestamp, value⟩) ↔
      qualifyMessage report mapping config.staleAfterMs now = .ok () ∧ mapping.Keeps value := by
  obtain ⟨_, validated, made⟩ := bind_eq_ok.mp built
  cases made
  have unique := validateMappings_nodup (show validateMappings [] [] config.mappings = .ok () by
    grind [ProviderConfig.validate]) nodup_nil nodup_nil
  simp only [append_nil] at unique
  simp only [actuationToMessage, table_of_mem unique.1 isIn, bidirectional,
    Direction.acceptsActuation, if_true, bind_eq_ok] at commanded
  obtain ⟨sent, isSent, made⟩ := commanded
  cases made
  have converts := SignalMapping.convertValue_eq_ok valid isSent
  simp only [messageToUpdate, reported, table_of_mem unique.2 isIn, bidirectional, sameValue,
    Direction.receivesDatapoints, if_true, bind_eq_ok, ← converts]
  simp [Unique.exists_iff]

/-- An offset of a quarter of the last place is lost. -/
example : asF32 (1 + 1 / 2 ^ 25) = some 1 := by decide +kernel

def window (scale : ℚ) : SignalMapping where
  signalId := 1
  vssPath := "Vehicle.Window"
  datatype := .int32
  key := ⟨"body", "front", "window"⟩
  scale := scale
  direction := .bidirectional

theorem unscaled_window_agrees : ∃ mapper command, new { mappings := [window 1] } = .ok mapper ∧
    mapper.actuationToMessage 0 1 (.int32 10) = .ok command ∧
    mapper.messageToUpdate 0 command = .ok (1, ⟨0, some 0, .int32 10⟩) := by
  have valid : (window 1).Valid (.int32 10) := ⟨by decide, by decide, nofun, nofun⟩
  have kept : (window 1).Keeps (.int32 10) :=
    .inl ⟨by simp [SignalMapping.scaled, window], by decide⟩
  exact ⟨_, _, rfl, rfl, (messageToUpdate_command_iff (rfl : new { mappings := [window 1] } = _)
    (mem_singleton_self _) rfl valid rfl rfl rfl).mpr ⟨rfl, kept⟩⟩

/-- A command of 10 is reported as 20. -/
theorem scaled_window_disagrees : ∃ mapper command, new { mappings := [window 2] } = .ok mapper ∧
    (window 2).Valid (.int32 10) ∧ mapper.actuationToMessage 0 1 (.int32 10) = .ok command ∧
    mapper.messageToUpdate 0 { command with key := (window 2).key } =
      .ok (1, ⟨0, some 0, .int32 20⟩) := by
  have doubled : (window 2).scaled (10 : Int) = (20 : Int) := by
    norm_num [SignalMapping.scaled, window]
  have converted : (window 2).convertValue (.i64 10) = .ok (.int32 20) :=
    (SignalMapping.signed_eq_ok (by decide) (by decide)).mpr <| bind_eq_ok.mpr
      ⟨_, SignalMapping.bounded_eq_ok.mpr ⟨⟨nofun, nofun⟩, doubled⟩, rfl⟩
  exact ⟨_, _, rfl, ⟨by decide, by decide, nofun, nofun⟩, rfl,
    bind_eq_ok.mpr ⟨(), rfl, bind_eq_ok.mpr ⟨_, converted, rfl⟩⟩⟩

end MwComMapper

end ScoreIntegration.MwComProvider
