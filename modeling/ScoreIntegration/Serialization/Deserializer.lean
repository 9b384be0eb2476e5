import Mathlib.Algebra.Group.Nat.Defs
import Mathlib.Tactic.Common

/-!
# Reading serialized data

The fixed part of a value lies at a known place; a string or a vector is an offset to its
size and contents.  With `log_alloc_t` an offset has four bytes and a size two.  Reading a
byte outside the data has no result.
-/

namespace ScoreIntegration.Serialization

/-- The payload types; a tuple or a struct is a nest of pairs, an optional value stands
behind a flag.  Integers have one, two, four or eight bytes. -/
inductive SerializedType where
  | memcpy (log2Size : Fin 4)
  | array (count : Nat) (element : SerializedType)
  | pair (first second : SerializedType)
  | optional (content : SerializedType)
  | string
  | vector (element : SerializedType)

namespace SerializedType

/-- `sizeof`; an empty array takes a byte. -/
def size : SerializedType → Nat
  | memcpy log2Size => 2 ^ log2Size.val
  | array count element => max 1 (count * element.size)
  | pair first second => first.size + second.size
  | optional content => 1 + content.size
  | string => 4
  | vector _ => 4

def Value : SerializedType → Type
  | memcpy _ => List UInt8
  | array _ element => List element.Value
  | pair first second => first.Value × second.Value
  | optional content => Option content.Value
  | string => List UInt8
  | vector element => List element.Value

end SerializedType

/-- An offset that was followed, the size in bytes that was found there, and how many
elements the string or the vector got from behind it. -/
structure Followed where
  offset : Nat
  subsize : Nat
  elementSize : Nat
  length : Nat

structure DeserializerHelper where
  outOfBounds : Bool := false
  invalidFormat : Bool := false
  zeroOffset : Bool := false
  followed : List Followed := []

def DeserializerHelper.follow (helper : DeserializerHelper) (followed : Followed)
    (outOfBounds : Bool) : DeserializerHelper :=
  { helper with
    outOfBounds := helper.outOfBounds || outOfBounds
    followed := followed :: helper.followed }

section

variable (data : List UInt8)

def read (location count : Nat) : Option (List UInt8) :=
  if location + count ≤ data.length then some ((data.drop location).take count) else none

/-- An unsigned number, the lowest byte first. -/
def readNat (location count : Nat) : Option Nat :=
  (read data location count).map (·.foldr (fun byte rest => byte.toNat + 256 * rest) 0)

def readEach {α : Type} (readOne : Nat → DeserializerHelper → Option (α × DeserializerHelper)) :
    List Nat → DeserializerHelper → Option (List α × DeserializerHelper)
  | [], helper => some ([], helper)
  | location :: locations, helper => do
    let (value, helper) ← readOne location helper
    let (values, helper) ← readEach readOne locations helper
    return (value :: values, helper)

def locations (location size count : Nat) : List Nat := (List.range count).map (location + size * ·)

/-- The common part of strings and vectors: `contents` reads so many elements. -/
def readDynamic {α : Type} (elementSize location : Nat) (helper : DeserializerHelper)
    (contents : (location count : Nat) → DeserializerHelper →
      Option (List α × DeserializerHelper)) : Option (List α × DeserializerHelper) := do
  let offset ← readNat data location 4
  if offset = 0 then return ([], { helper with zeroOffset := true })
  if data.length < offset + 2 then
    return ([], helper.follow ⟨offset, 0, elementSize, 0⟩ true)
  let subsize ← readNat data offset 2
  let count := subsize / elementSize
  let contentsOffset := (offset + 2) % 2 ^ 32
  if data.length < contentsOffset + elementSize * count then
    return ([], helper.follow ⟨offset, subsize, elementSize, 0⟩ true)
  let (values, helper) ← contents contentsOffset count helper
  return (values, helper.follow ⟨offset, subsize, elementSize, values.length⟩ false)

/-- A string without the terminator that its size counts. -/
def readString (location count : Nat) (helper : DeserializerHelper) :
    Option (List UInt8 × DeserializerHelper) :=
  if count = 0 then some ([], { helper with invalidFormat := true })
  else do return (← read data location (count - 1), helper)

def deserialize : (type : SerializedType) → (location : Nat) → DeserializerHelper →
    Option (type.Value × DeserializerHelper)
  | .memcpy log2Size, location, helper => do
    return (← read data location (2 ^ log2Size.val), helper)
  | .array count element, location, helper =>
    readEach (deserialize element) (locations location element.size count) helper
  | .pair first second, location, helper => do
    let (firstValue, helper) ← deserialize first location helper
    let (secondValue, helper) ← deserialize second (location + first.size) helper
    return ((firstValue, secondValue), helper)
  | .optional content, location, helper => do
    let hasValue ← readNat data location 1
    if hasValue = 0 then return (none, helper)
    let (value, helper) ← deserialize content (location + 1) helper
    return (some value, helper)
  | .string, location, helper => readDynamic data 1 location helper (readString data)
  | .vector element, location, helper =>
    readDynamic data element.size location helper fun location count =>
      readEach (deserialize element) (locations location element.size count)

end

def DeserializerHelper.Clean (helper : DeserializerHelper) : Prop :=
  helper.outOfBounds = false ∧ helper.invalidFormat = false ∧ helper.zeroOffset = false

/-- The size and the whole elements that it counts are inside the data, and the elements
in the result are not more. -/
def Followed.Inside (followed : Followed) (data : List UInt8) : Prop :=
  followed.offset + 2 + followed.elementSize * (followed.subsize / followed.elementSize) ≤
      data.length ∧
    followed.elementSize * followed.length ≤ followed.subsize

def Sound (data : List UInt8) (helper : DeserializerHelper) : Prop :=
  helper.Clean → ∀ followed ∈ helper.followed, followed.Inside data

section

variable {data : List UInt8} {α : Type} {h : DeserializerHelper}

theorem Sound.follow {followed : Followed} {outOfBounds : Bool} (sound : Sound data h)
    (inside : outOfBounds = false → followed.Inside data) :
    Sound data (h.follow followed outOfBounds) := by
  rintro ⟨noBounds, clean⟩ other mem
  obtain ⟨wasInside, isInside⟩ := Bool.or_eq_false_iff.mp noBounds
  cases mem with
  | head => exact inside isInside
  | tail _ old => exact sound ⟨wasInside, clean⟩ other old

end

end ScoreIntegration.Serialization
