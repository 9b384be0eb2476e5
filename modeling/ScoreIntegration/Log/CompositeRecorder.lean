import Mathlib.Logic.Function.Basic
import Mathlib.Data.List.Basic

/-!
# The composite recorder

A log call is passed on to every recorder that has a slot for the record.  A recorder is given by
its answers to `StartRecord` and by the calls that it receives.
-/

namespace ScoreIntegration.Log

open Function

structure SlotHandle where
  recorderToSlot : Nat → Nat
  recorderSlotAvailable : Nat → Bool
  selectedRecorder : Nat

namespace SlotHandle

def kMaxRecorders : Nat := 4

def empty : SlotHandle := ⟨fun _ => 0, fun _ => false, 0⟩

def getSlot (handle : SlotHandle) (recorder : Nat) : Nat :=
  if recorder < kMaxRecorders then handle.recorderToSlot recorder else 0

def setSlot (handle : SlotHandle) (slot recorder : Nat) : SlotHandle :=
  if recorder < kMaxRecorders then { handle with
    recorderSlotAvailable := update handle.recorderSlotAvailable recorder true
    recorderToSlot := update handle.recorderToSlot recorder slot }
  else handle

def isRecorderActive (handle : SlotHandle) (recorder : Nat) : Bool :=
  recorder < kMaxRecorders && handle.recorderSlotAvailable recorder

def ofSlot (slot : Nat) : SlotHandle := empty.setSlot slot 0

end SlotHandle

inductive Width where
  | w8 | w16 | w32 | w64

inductive LogArgument where
  | bool (value : Bool)
  | uint (width : Width) (value : Nat)
  | int (width : Width) (value : Int)
  | float (bits : Nat)
  | double (bits : Nat)
  | stringView (text : List Char)
  | logHex (width : Width) (value : Nat)
  | logBin (width : Width) (value : Nat)
  | logRawBuffer (bytes : List Nat)
  | logSlog2Message (code : Nat) (message : List Char)

/-- What the overloads of `Log` pass on. -/
def LogArgument.forwarded : LogArgument → LogArgument
  | .logHex width value => .uint width value
  | .logBin width value => .uint width value
  | .logSlog2Message _ message => .stringView message
  | argument => argument

def LogArgument.IsPlain : LogArgument → Prop
  | .logHex _ _ | .logBin _ _ | .logSlog2Message _ _ => False
  | _ => True

inductive RecorderCall where
  | log (slot : SlotHandle) (argument : LogArgument)
  | stopRecord (slot : SlotHandle)

/-- A call of the composite recorder.  A record is known by the number of records before it, and
`answers` are the slots that the recorders return. -/
inductive CompositeCall where
  | startRecord (answers : Nat → Option Nat)
  | log (record : Nat) (argument : LogArgument)
  | stopRecord (record : Nat)

def CompositeCall.IsPlain : CompositeCall → Prop
  | .log _ argument => argument.IsPlain
  | _ => True

namespace CompositeRecorder

/-- The recorders that the constructor keeps. -/
def recorders (count : Nat) : List Nat :=
  List.range (if count > SlotHandle.kMaxRecorders then SlotHandle.kMaxRecorders else count)

def forEachActiveSlot (compositeSlot : SlotHandle) (callback : SlotHandle → RecorderCall) :
    List Nat → SlotHandle → List (Nat × RecorderCall)
  | [], _ => []
  | recorder :: rest, slotForRecorder =>
    if compositeSlot.isRecorderActive recorder then
      let slot := slotForRecorder.setSlot (compositeSlot.getSlot recorder) 0
      (recorder, callback slot) :: forEachActiveSlot compositeSlot callback rest slot
    else forEachActiveSlot compositeSlot callback rest slotForRecorder

def startRecord (answers : Nat → Option Nat) : List Nat → SlotHandle → SlotHandle
  | [], compositeSlot => compositeSlot
  | recorder :: rest, compositeSlot =>
    startRecord answers rest ((answers recorder).elim compositeSlot
      fun slot => compositeSlot.setSlot slot recorder)

structure Composite where
  handles : List SlotHandle
  calls : List (Nat × RecorderCall)

def exec (count : Nat) (state : Composite) : CompositeCall → Composite
  | .startRecord answers => { state with
      handles := state.handles ++ [startRecord answers (recorders count) .empty] }
  | .log record argument => { state with calls := state.calls ++
      (state.handles[record]?.elim [] fun slot =>
        forEachActiveSlot slot (.log · argument.forwarded) (recorders count) .empty) }
  | .stopRecord record => { state with calls := state.calls ++
      (state.handles[record]?.elim [] fun slot =>
        forEachActiveSlot slot .stopRecord (recorders count) .empty) }

structure Alone where
  slots : List (Option SlotHandle)
  calls : List RecorderCall

/-- A recorder answers with a plain slot; no composite is nested in another. -/
def execAlone (recorder : Nat) (state : Alone) : CompositeCall → Alone
  | .startRecord answers => { state with
      slots := state.slots ++ [(answers recorder).map .ofSlot] }
  | .log record argument => { state with calls := state.calls ++
      (state.slots[record]?.join.elim [] fun slot => [.log slot argument]) }
  | .stopRecord record => { state with calls := state.calls ++
      (state.slots[record]?.join.elim [] fun slot => [.stopRecord slot]) }

def received (recorder : Nat) (calls : List (Nat × RecorderCall)) : List RecorderCall :=
  calls.filterMap fun call => if call.1 = recorder then some call.2 else none

def slot? (handle : SlotHandle) (recorder : Nat) : Option Nat :=
  if handle.isRecorderActive recorder then some (handle.getSlot recorder) else none

open SlotHandle

variable {recorder other slot count : Nat} {handle compositeSlot : SlotHandle} {ids : List Nat}

theorem slot?_setSlot (isValid : other < kMaxRecorders) :
    slot? (handle.setSlot slot other) recorder =
      if recorder = other then some slot else slot? handle recorder := by
  by_cases same : recorder = other
  · subst same
    simp [slot?, setSlot, isRecorderActive, getSlot, isValid]
  · simp [slot?, setSlot, isRecorderActive, getSlot, isValid, same]

theorem slot?_startRecord {answers : Nat → Option Nat} (areValid : ∀ id ∈ ids, id < kMaxRecorders) :
    slot? (startRecord answers ids handle) recorder =
      if recorder ∈ ids then (answers recorder).or (slot? handle recorder)
      else slot? handle recorder := by
  induction ids generalizing handle with
  | nil => rfl
  | cons id ids ih =>
    rw [List.forall_mem_cons] at areValid
    rw [startRecord, ih areValid.2]
    cases isAnswer : answers id with
    | none => by_cases same : recorder = id <;> simp [same, isAnswer]
    | some slot =>
      rw [Option.elim_some, slot?_setSlot areValid.1]
      by_cases same : recorder = id <;> simp [same, isAnswer]

theorem setSlot_own (isOwn : handle = empty ∨ ∃ slot, handle = ofSlot slot) :
    handle.setSlot slot 0 = ofSlot slot := by
  rcases isOwn with rfl | ⟨slot, rfl⟩
  · rfl
  · simp [ofSlot, setSlot, kMaxRecorders]

theorem received_forEachActiveSlot {callback : SlotHandle → RecorderCall} (nodup : ids.Nodup)
    (isOwn : handle = empty ∨ ∃ slot, handle = ofSlot slot) :
    received recorder (forEachActiveSlot compositeSlot callback ids handle) =
      if recorder ∈ ids then
        (slot? compositeSlot recorder).elim [] fun slot => [callback (ofSlot slot)]
      else [] := by
  induction ids generalizing handle with
  | nil => rfl
  | cons id ids ih =>
    obtain ⟨isNew, nodup⟩ := List.nodup_cons.mp nodup
    by_cases isActive : compositeSlot.isRecorderActive id = true
    · have later := ih nodup (.inr ⟨compositeSlot.getSlot id, rfl⟩)
      simp only [forEachActiveSlot, isActive, if_true, setSlot_own isOwn, received,
        List.filterMap_cons] at later ⊢
      by_cases same : id = recorder
      · subst same
        simp [later, isNew, slot?, isActive]
      · simp [later, same, Ne.symm same]
    · rw [forEachActiveSlot, if_neg isActive, ih nodup isOwn]
      by_cases same : recorder = id
      · subst same
        simp [isNew, slot?, isActive]
      · simp [same]

theorem lt_of_mem_recorders (isIn : recorder ∈ recorders count) : recorder < kMaxRecorders := by
  rw [recorders, List.mem_range] at isIn
  split_ifs at isIn <;> omega

structure Matches (recorder : Nat) (state : Composite) (alone : Alone) : Prop where
  slots : alone.slots = state.handles.map fun handle => (slot? handle recorder).map ofSlot
  calls : received recorder state.calls = alone.calls

theorem Matches.exec {state : Composite} {alone : Alone} (matched : Matches recorder state alone)
    (isRecorder : recorder ∈ recorders count) {call : CompositeCall} (plain : call.IsPlain) :
    Matches recorder (exec count state call) (execAlone recorder alone call) := by
  have passedOn (record : Nat) (callback : SlotHandle → RecorderCall) :
      received recorder (state.handles[record]?.elim [] fun slot =>
        forEachActiveSlot slot callback (recorders count) .empty) =
      alone.slots[record]?.join.elim [] fun slot => [callback slot] := by
    rw [matched.slots, List.getElem?_map]
    cases state.handles[record]? with
    | none => rfl
    | some handle =>
      have nodup : (recorders count).Nodup := List.nodup_range
      rw [Option.elim_some, received_forEachActiveSlot nodup (.inl rfl), if_pos isRecorder]
      cases isSlot : slot? handle recorder <;> simp [isSlot]
  cases call with
  | startRecord answers =>
    have isSlot : slot? (startRecord answers (recorders count) .empty) recorder =
        answers recorder := by
      rw [slot?_startRecord fun _ => lt_of_mem_recorders, if_pos isRecorder]
      simp [slot?, empty, isRecorderActive]
    refine ⟨?_, matched.calls⟩
    simp [CompositeRecorder.exec, execAlone, matched.slots, isSlot]
  | log record argument =>
    have isSame : argument.forwarded = argument := by
      cases argument <;> first | rfl | cases plain
    refine ⟨matched.slots, ?_⟩
    rw [CompositeRecorder.exec, execAlone, received, List.filterMap_append, ← received, ← received,
      matched.calls, passedOn, isSame]
  | stopRecord record =>
    refine ⟨matched.slots, ?_⟩
    rw [CompositeRecorder.exec, execAlone, received, List.filterMap_append, ← received, ← received,
      matched.calls, passedOn]

/-- Every recorder gets the calls that it would get alone, unless a hexadecimal or binary number or
a message with a code is logged. -/
theorem calls_forwarded (count : Nat) {calls : List CompositeCall}
    (plain : ∀ call ∈ calls, call.IsPlain) {recorder : Nat}
    (isRecorder : recorder ∈ recorders count) :
    received recorder (calls.foldl (exec count) ⟨[], []⟩).calls =
      (calls.foldl (execAlone recorder) ⟨[], []⟩).calls := by
  suffices matched : ∀ state alone, Matches recorder state alone → Matches recorder
      (calls.foldl (exec count) state) (calls.foldl (execAlone recorder) alone) from
    (matched _ _ ⟨rfl, rfl⟩).calls
  induction calls with
  | nil => exact fun _ _ matched => matched
  | cons call calls ih =>
    rw [List.forall_mem_cons] at plain
    exact fun _ _ matched => ih plain.2 _ _ (matched.exec isRecorder plain.1)

theorem text_forwarded : received 1 (List.foldl (exec 2) ⟨[], []⟩
    [.startRecord some, .log 0 (.stringView ['a']), .stopRecord 0]).calls =
      [.log (ofSlot 1) (.stringView ['a']), .stopRecord (ofSlot 1)] :=
  calls_forwarded 2 (by simp [CompositeCall.IsPlain, LogArgument.IsPlain]) (by decide)

theorem hex_forwarded_as_uint : received 0 (List.foldl (exec 1) ⟨[], []⟩
      [.startRecord some, .log 0 (.logHex .w8 10)]).calls = [.log (ofSlot 0) (.uint .w8 10)] ∧
    (List.foldl (execAlone 0) ⟨[], []⟩ [.startRecord some, .log 0 (.logHex .w8 10)]).calls =
      [.log (ofSlot 0) (.logHex .w8 10)] := by
  exact ⟨rfl, rfl⟩

end CompositeRecorder

end ScoreIntegration.Log
