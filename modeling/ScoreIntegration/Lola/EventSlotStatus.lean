import Mathlib.Data.BitVec

/-!
# The control word of an event slot

The word packs the time stamp of a sample (upper 32 bits) and the number of consumers
that reference it (lower 32 bits), so that both change in one atomic operation.  Zero
marks a slot that was never written, `kInWriting` one that is being written.  All
reasoning goes through the natural number of the word.
-/

namespace ScoreIntegration.Lola

open BitVec (eq_of_toNat_eq toNat_add toNat_ofNat toNat_setWidth toNat_sub)

abbrev EventTimeStamp := BitVec 32

abbrev SubscriberCount := BitVec 32

structure EventSlotStatus where
  data : BitVec 64
  deriving DecidableEq, Repr

namespace EventSlotStatus

def kInvalidEvent : BitVec 64 := 0#64

/-- `std::numeric_limits<SubscriberCount>::max()`, widened to a word. -/
def kInWriting : BitVec 64 := 0xFFFFFFFF#64

def TIMESTAMP_MAX : EventTimeStamp := 0xFFFFFFFF#32

def INVALID_TIMESTAMP : EventTimeStamp := 0#32

section

variable (status : EventSlotStatus)

def isInvalid : Bool := status.data == kInvalidEvent

def isInWriting : Bool := status.data == kInWriting

def markInWriting (_status : EventSlotStatus) : EventSlotStatus := ⟨kInWriting⟩

def markInvalid (_status : EventSlotStatus) : EventSlotStatus := ⟨kInvalidEvent⟩

def getReferenceCount : SubscriberCount := (status.data &&& 0x00000000FFFFFFFF#64).setWidth 32

def getTimeStamp : EventTimeStamp := (status.data >>> 32).setWidth 32

def setTimeStamp (_status : EventSlotStatus) (timeStamp : EventTimeStamp) : EventSlotStatus :=
  ⟨timeStamp.setWidth 64 <<< 32⟩

def setReferenceCount (refCount : SubscriberCount) : EventSlotStatus :=
  ⟨(status.data &&& 0xFFFFFFFF00000000#64) ||| refCount.setWidth 64⟩

def invalid : EventSlotStatus := ⟨kInvalidEvent⟩

def inWriting : EventSlotStatus := invalid.markInWriting

def make (timeStamp : EventTimeStamp) (refCount : SubscriberCount) : EventSlotStatus :=
  ((⟨0#64⟩ : EventSlotStatus).setTimeStamp timeStamp).setReferenceCount refCount

def isUsed : Bool := status.getReferenceCount != 0#32 || status.isInWriting

def isTimeStampBetween (minTimeStamp maxTimeStamp : EventTimeStamp) : Bool :=
  !status.isInWriting && !status.isInvalid && decide (minTimeStamp < status.getTimeStamp) &&
    decide (status.getTimeStamp < maxTimeStamp)

end

/-! ## Words as numbers -/

variable {left right : EventSlotStatus} {ts : EventTimeStamp} {status : EventSlotStatus}

theorem eq_iff_toNat : left = right ↔ left.data.toNat = right.data.toNat := by
  constructor
  · rintro rfl
    rfl
  · intro same
    cases left
    cases right
    congr 1
    exact eq_of_toNat_eq same

theorem toNat_getTimeStamp (status : EventSlotStatus) :
    status.getTimeStamp.toNat = status.data.toNat / 2 ^ 32 := by
  have bound := status.data.isLt
  simp only [getTimeStamp, toNat_setWidth, BitVec.toNat_ushiftRight, Nat.shiftRight_eq_div_pow]
  omega

theorem toNat_getReferenceCount (status : EventSlotStatus) :
    status.getReferenceCount.toNat = status.data.toNat % 2 ^ 32 := by
  have mask : (0x00000000FFFFFFFF#64).toNat = 2 ^ 32 - 1 := rfl
  simp only [getReferenceCount, toNat_setWidth, BitVec.toNat_and, mask,
    Nat.and_two_pow_sub_one_eq_mod]
  omega

section

variable (ts : EventTimeStamp)

theorem toNat_make (refCount : SubscriberCount) : (make ts refCount).data.toNat =
      ts.toNat * 2 ^ 32 + refCount.toNat := by
  have timeBound := ts.isLt
  have countBound := refCount.isLt
  have upperHalf : (ts.setWidth 64 <<< 32) &&& 0xFFFFFFFF00000000#64 = ts.setWidth 64 <<< 32 := by
    have mask : ∀ pos : Fin 64, 32 ≤ pos.val → (0xFFFFFFFF00000000#64).getLsbD pos.val = true := by
      decide
    apply BitVec.eq_of_getLsbD_eq
    intro pos bound
    rw [BitVec.getLsbD_and]
    by_cases upper : 32 ≤ pos
    · rw [mask ⟨pos, bound⟩ upper, Bool.and_true]
    · have lower : pos < 32 := by omega
      simp [lower]
  simp only [make, setTimeStamp, setReferenceCount, upperHalf]
  simp only [BitVec.toNat_or, BitVec.toNat_shiftLeft, toNat_setWidth]
  rw [Nat.mod_eq_of_lt (a := ts.toNat) (by omega),
    Nat.mod_eq_of_lt (a := refCount.toNat) (by omega),
    Nat.shiftLeft_eq, Nat.mod_eq_of_lt (by omega), ← Nat.shiftLeft_eq,
    ← Nat.shiftLeft_add_eq_or_of_lt countBound, Nat.shiftLeft_eq]

@[simp]
theorem toNat_inWriting : inWriting.data.toNat = 2 ^ 32 - 1 := rfl

@[simp]
theorem isInWriting_iff : status.isInWriting = true ↔ status = inWriting := by
  cases status
  simp [isInWriting, inWriting, markInWriting]

@[simp]
theorem isInvalid_iff : status.isInvalid = true ↔ status = invalid := by
  cases status
  simp [isInvalid, invalid]

theorem isInWriting_eq_false_iff : status.isInWriting = false ↔ status ≠ inWriting := by
  rw [← Bool.not_eq_true, isInWriting_iff]

theorem isInvalid_eq_false_iff : status.isInvalid = false ↔ status ≠ invalid := by
  rw [← Bool.not_eq_true, isInvalid_iff]

theorem isUsed_eq_false_iff : status.isUsed = false ↔
      status.data.toNat % 2 ^ 32 = 0 ∧ status ≠ inWriting := by
  rw [isUsed, Bool.or_eq_false_iff, isInWriting_eq_false_iff,
    bne_eq_false_iff_eq, ← BitVec.toNat_inj, toNat_getReferenceCount]
  simp

@[simp]
theorem isUsed_invalid : invalid.isUsed = false := by
  decide

theorem isUsed_make_zero : (make ts 0#32).isUsed = false := by
  have word := toNat_make ts 0#32
  rw [isUsed_eq_false_iff, Ne, eq_iff_toNat, word]
  simp only [toNat_ofNat, toNat_inWriting]
  omega

theorem isTimeStampBetween_iff {minTimeStamp maxTimeStamp} :
    status.isTimeStampBetween minTimeStamp maxTimeStamp = true ↔
      status ≠ inWriting ∧ status ≠ invalid ∧ minTimeStamp < status.getTimeStamp ∧
        status.getTimeStamp < maxTimeStamp := by
  simp [isTimeStampBetween, isInWriting_eq_false_iff, isInvalid_eq_false_iff, and_assoc]

theorem ne_reserved_of_timeStamp_ne_zero (positive : status.getTimeStamp ≠ 0#32) :
    status ≠ inWriting ∧ status ≠ invalid := by
  have timeNat := status.toNat_getTimeStamp
  constructor
  · rintro rfl
    exact positive (eq_of_toNat_eq timeNat)
  · rintro rfl
    exact positive (eq_of_toNat_eq timeNat)

theorem getTimeStamp_make (refCount : SubscriberCount) : (make ts refCount).getTimeStamp = ts := by
  have countBound := refCount.isLt
  apply eq_of_toNat_eq
  rw [toNat_getTimeStamp, toNat_make]
  omega

/-- The empty search window of `ReferenceNextEvent` starts at its own bound. -/
theorem getTimeStamp_make_zero : (make ts 0#32).getTimeStamp = ts := getTimeStamp_make ts 0#32

end

/-! ## Counting references up and down -/

theorem add_one_spec (room : status.getReferenceCount.toNat + 1 < 2 ^ 32) :
    (⟨status.data + 1#64⟩ : EventSlotStatus).getTimeStamp = status.getTimeStamp ∧
      (⟨status.data + 1#64⟩ : EventSlotStatus).getReferenceCount.toNat =
        status.getReferenceCount.toNat + 1 := by
  have bound := status.data.isLt
  rw [toNat_getReferenceCount] at room
  rw [← BitVec.toNat_inj, toNat_getTimeStamp, toNat_getTimeStamp, toNat_getReferenceCount,
    toNat_getReferenceCount]
  simp only [toNat_add, toNat_ofNat]
  omega

theorem sub_one_spec (positive : 0 < status.getReferenceCount.toNat) :
    (⟨status.data - 1#64⟩ : EventSlotStatus).getTimeStamp = status.getTimeStamp ∧
      (⟨status.data - 1#64⟩ : EventSlotStatus).getReferenceCount.toNat =
        status.getReferenceCount.toNat - 1 := by
  have bound := status.data.isLt
  rw [toNat_getReferenceCount] at positive
  rw [← BitVec.toNat_inj, toNat_getTimeStamp, toNat_getTimeStamp, toNat_getReferenceCount,
    toNat_getReferenceCount]
  simp only [toNat_sub, toNat_ofNat]
  omega

/-! ## What a word says about its slot -/

/-- The part of a word that only the provider changes: whether the slot is
being written, was never written, or holds the sample with this time stamp. -/
inductive Content where
  | inWriting
  | invalid
  | sample (timeStamp : EventTimeStamp)
  deriving DecidableEq, Repr

/-- What `RemoveAllocationsForWriting` makes of a slot. -/
def Content.cleaned : Content → Content
  | .inWriting => .invalid
  | .invalid => .invalid
  | .sample timeStamp => .sample timeStamp

theorem Content.cleaned_eq_sample_iff {content : Content} :
    content.cleaned = .sample ts ↔ content = .sample ts := by
  cases content <;> simp [cleaned]

def content (status : EventSlotStatus) : Content :=
  if status.isInWriting then .inWriting
  else if status.isInvalid then .invalid
  else .sample status.getTimeStamp

@[simp]
theorem content_inWriting : inWriting.content = .inWriting := rfl

@[simp]
theorem content_invalid : invalid.content = .invalid := rfl

@[simp]
theorem content_eq_inWriting_iff : status.content = .inWriting ↔ status = inWriting := by
  unfold content
  split
  next writing => simpa using writing
  next writing =>
    have differ : status ≠ inWriting := by simpa using writing
    split <;> simp [differ]

@[simp]
theorem content_eq_invalid_iff : status.content = .invalid ↔ status = invalid := by
  unfold content
  split
  next writing =>
    have same : status = inWriting := by simpa using writing
    subst same
    decide
  · split
    next zero => simpa using zero
    next zero => simpa using zero

theorem content_of_ne (quiet : status ≠ inWriting) (notInvalid : status ≠ invalid) :
    status.content = .sample status.getTimeStamp := by
  simp [content, isInWriting_eq_false_iff.mpr quiet, isInvalid_eq_false_iff.mpr notInvalid]

theorem content_eq_sample_iff :
    status.content = .sample ts ↔ status ≠ inWriting ∧ status ≠ invalid ∧
        status.getTimeStamp = ts := by
  constructor
  · intro x
    have quiet : status ≠ inWriting := by
      intro writing
      rw [content_eq_inWriting_iff.mpr writing] at x
      cases x
    have notInvalid : status ≠ invalid := by
      intro zero
      rw [content_eq_invalid_iff.mpr zero] at x
      cases x
    rw [content_of_ne quiet notInvalid] at x
    exact ⟨quiet, notInvalid, Content.sample.inj x⟩
  · rintro ⟨quiet, notInvalid, rfl⟩
    exact content_of_ne quiet notInvalid

theorem content_of_timeStamp_ne_zero (positive : status.getTimeStamp ≠ 0#32) :
    status.content = .sample status.getTimeStamp :=
  content_of_ne (ne_reserved_of_timeStamp_ne_zero positive).1
    (ne_reserved_of_timeStamp_ne_zero positive).2

theorem content_make (positive : ts ≠ 0#32) : (make ts 0#32).content = .sample ts := by
  have stamp := getTimeStamp_make_zero ts
  rw [← stamp] at positive
  rw [content_of_timeStamp_ne_zero positive, stamp]

theorem flags_eq_of_content_eq (same : left.content = right.content) :
    left.isInWriting = right.isInWriting ∧ left.isInvalid = right.isInvalid ∧
      left.getTimeStamp = right.getTimeStamp := by
  by_cases writing : left = inWriting
  · subst writing
    rw [content_eq_inWriting_iff.mp same.symm]
    exact ⟨rfl, rfl, rfl⟩
  by_cases zero : left = invalid
  · subst zero
    rw [content_eq_invalid_iff.mp same.symm]
    exact ⟨rfl, rfl, rfl⟩
  have rightWriting : right ≠ inWriting := by
    rw [Ne, ← content_eq_inWriting_iff, ← same, content_eq_inWriting_iff]
    exact writing
  have rightZero : right ≠ invalid := by
    rw [Ne, ← content_eq_invalid_iff, ← same, content_eq_invalid_iff]
    exact zero
  refine ⟨?_, ?_, ?_⟩
  · rw [isInWriting_eq_false_iff.mpr writing, isInWriting_eq_false_iff.mpr rightWriting]
  · rw [isInvalid_eq_false_iff.mpr zero, isInvalid_eq_false_iff.mpr rightZero]
  · rw [content_of_ne writing zero, content_of_ne rightWriting rightZero] at same
    exact Content.sample.inj same

theorem eq_of_content_eq_of_unused (same : left.content = right.content)
    (leftUnused : left.isUsed = false) (rightUnused : right.isUsed = false) : left = right := by
  obtain ⟨leftCount, leftWriting⟩ := isUsed_eq_false_iff.mp leftUnused
  obtain ⟨rightCount, rightWriting⟩ := isUsed_eq_false_iff.mp rightUnused
  by_cases leftInvalid : left = invalid
  · have rightInvalid : right.content = .invalid := by
      rw [← same, leftInvalid, content_invalid]
    rw [leftInvalid, content_eq_invalid_iff.mp rightInvalid]
  · have rightInvalid : right ≠ invalid := by
      intro zero
      apply leftInvalid
      rw [← content_eq_invalid_iff, same, zero, content_invalid]
    rw [content_of_ne leftWriting leftInvalid, content_of_ne rightWriting rightInvalid] at same
    have sameTime : left.getTimeStamp.toNat = right.getTimeStamp.toNat := by
      rw [Content.sample.inj same]
    rw [toNat_getTimeStamp, toNat_getTimeStamp] at sameTime
    rw [eq_iff_toNat]
    omega

end EventSlotStatus

end ScoreIntegration.Lola
