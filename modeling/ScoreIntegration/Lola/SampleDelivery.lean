import ScoreIntegration.Lola.ConsumerAccount
import ScoreIntegration.Lola.UncontendedConsumer

/-!
# What a collector hands out

`GetNewSamples` takes references from the newest sample downwards and hands the samples
out from the oldest upwards.  A referenced slot keeps its time stamp, so the time stamps
that are read later are those of the search.
-/

namespace ScoreIntegration.Lola

open Concurrency List Account SlotCollector Prod TransactionLogSlot
open Concurrency.Footprint

abbrev Sample := SlotIndex × EventTimeStamp

namespace Account

def Settled (account : Account) : Prop :=
  ∀ slot, account.transactions (.reference slot) =
    if (account.references slot).isSome then .recorded else .empty

/-- The samples are referenced one after the other, each older than the one
before it and newer than `lastTs`. -/
inductive Takes (lastTs : EventTimeStamp) : EventTimeStamp → Account → List Sample → Account → Prop
  | nil (highest : EventTimeStamp) (account : Account) : Takes lastTs highest account [] account
  | cons {highest timeStamp : EventTimeStamp} {account current : Account}
      {slot : SlotIndex} {rest : List Sample} :
      lastTs < timeStamp → timeStamp < highest →
      account.references slot = none →
      Takes lastTs timeStamp (account.withReference slot timeStamp) rest current →
      Takes lastTs highest account ((slot, timeStamp) :: rest) current

theorem withReference_references (acc : Account) (i o : SlotIndex) (ts : EventTimeStamp) :
    (acc.withReference i ts).references o = if o = i then some ts else acc.references o := by
  by_cases same : o = i
  · subst same
    simp [withReference, setFlags, setReference]
  · simp [withReference, setFlags, setReference, same]

variable {acc : Account}

theorem Settled.withReference (settled : acc.Settled) (i : SlotIndex) (ts : EventTimeStamp) :
    (acc.withReference i ts).Settled := by
  intro o
  rw [withReference_references]
  by_cases same : o = i
  · subst same
    simp [Account.withReference]
  · have flags := setFlags_of_ne (acc.setReference i (some ts)) recorded
      (show LogEntry.reference o ≠ .reference i by simpa using same)
    rw [if_neg same, ← settled o]
    exact flags

theorem Settled.withoutReference (settled : acc.Settled) (i : SlotIndex) :
    (acc.withoutReference i).Settled := by
  intro o
  by_cases same : o = i
  · subst same
    simp [Account.withoutReference, setFlags, setReference]
  · have flags := setFlags_of_ne (acc.setReference i none) empty
      (show LogEntry.reference o ≠ .reference i by simpa using same)
    have references : (acc.withoutReference i).references o = acc.references o := by
      simp [Account.withoutReference, setFlags, setReference, same]
    rw [references, ← settled o]
    exact flags

section Takes

variable {lastTs highest : EventTimeStamp} {acc cur : Account} {samples : List Sample}

section

variable (takes : Takes lastTs highest acc samples cur)
include takes

theorem Takes.bounds : ∀ x ∈ samples, lastTs < x.2 ∧ x.2 < highest := by
  induction takes with
  | nil => simp
  | cons above below _ _ ih =>
    intro x mem
    rcases mem_cons.mp mem with rfl | later
    · exact ⟨above, below⟩
    · obtain ⟨aboveLast, belowFirst⟩ := ih x later
      exact ⟨aboveLast, BitVec.lt_trans belowFirst below⟩

theorem Takes.descending : samples.Pairwise fun left right => right.2 < left.2 := by
  induction takes with
  | nil => exact List.Pairwise.nil
  | cons _ _ _ tail ih => exact List.Pairwise.cons (fun x mem => (tail.bounds x mem).2) ih

theorem Takes.settled (settled : acc.Settled) : cur.Settled := by
  induction takes with
  | nil => exact settled
  | cons _ _ _ _ ih => exact ih (settled.withReference _ _)

theorem Takes.references (i : SlotIndex) (ts : EventTimeStamp) : cur.references i = some ts ↔
      acc.references i = some ts ∨ (i, ts) ∈ samples := by
  induction takes with
  | nil => simp
  | @cons highest timeStamp' acc cur slot' rest above below free tail ih =>
    rw [ih, withReference_references]
    by_cases same : i = slot'
    · subst same
      rw [if_pos rfl, free]
      constructor
      · rintro (booked | later)
        · cases booked
          exact Or.inr mem_cons_self
        · exact Or.inr (mem_cons_of_mem _ later)
      · rintro (booked | mem)
        · cases booked
        · rcases mem_cons.mp mem with first | later
          · cases first
            exact Or.inl rfl
          · exact Or.inr later
    · rw [if_neg same]
      simp [same]

theorem Takes.holds {held} (holds : acc.Holds held) :
    cur.Holds ((samples.map fst).reverse ++ held) := by
  induction takes generalizing held with
  | nil => exact holds
  | cons _ _ free _ ih => simpa using ih (holds.cons _ free)

end

end Takes

end Account

namespace SlotCollector

open TransactionLogLocalView

variable {ι Thread : Type} [Fintype ι] [DecidableEq ι]
  {admissible : ControlOp ι → Shared ι → Shared ι → Prop}
  {rules : Rules (controlMachine ι admissible) Thread} {limits : EventSubscriptionControl}
  {t : Thread} {v : ConsumerEventDataControlLocalView ι}
  {access : LogAccess rules limits t v.quality v.log} {acc : Account}
  {fail : Failure → Prop}

variable {collector : SlotCollector} (lenient : ∀ failure, fail failure)
include lenient

theorem runs_collectSlotsLoop (count room : Nat) (highest : EventTimeStamp) :
    access.Runs acc (collector.collectSlotsLoop v count room highest)
      (fun slots cur => ∃ samples, slots = samples.map fst ∧
        Account.Takes collector.lastTs highest acc samples cur)
      fail := by
  induction count generalizing room highest acc with
  | zero => exact Runs.done ⟨[], rfl, .nil _ _⟩
  | succ count ih =>
    cases room with
    | zero => exact Runs.done ⟨[], rfl, .nil _ _⟩
    | succ room =>
      refine (runs_referenceNextEvent v (fun _ _ => lenient _) _ _).bind
        fun i first referenced => ?_
      cases i with
      | none =>
        rw [show first = acc from referenced]
        exact Runs.done ⟨[], rfl, .nil _ _⟩
      | some i =>
        obtain ⟨-, free, ts, above, below, rfl⟩ := referenced
        refine (runs_slotStatus fun _ _ => lenient _).bind_read fun status stamped => ?_
        have sameStamp := stamped ts (by rw [withReference_references, if_pos rfl])
        rw [sameStamp]
        refine (ih room ts).bind fun rest third collected => Runs.done ?_
        obtain ⟨samples, rfl, takes⟩ := collected
        exact ⟨(i, ts) :: samples, rfl, .cons above below free takes⟩

theorem runs_collectSlots (cap : Nat) : access.Runs acc (collector.collectSlots v cap)
      (fun slots cur => ∃ samples, slots = samples.map fst ∧
        Account.Takes collector.lastTs EventSlotStatus.TIMESTAMP_MAX acc samples cur) fail := by
  refine (Runs.require fun _ => lenient _).bind fun _ checked same => ?_
  rw [same.1]
  exact runs_collectSlotsLoop lenient cap _ _

def largest (newest : EventTimeStamp) (samples : List Sample) : EventTimeStamp :=
  samples.foldl (fun newest sample => if newest < sample.2 then sample.2 else newest) newest

section

variable (samples : List Sample)
  (booked : ∀ sample ∈ samples, acc.references sample.1 = some sample.2)
include samples booked

theorem runs_newestDelivered (newest : EventTimeStamp) :
    access.Runs acc (newestDelivered v (samples.map fst) newest)
      (fun res cur => cur = acc ∧ res = largest newest samples) fail := by
  induction samples generalizing newest with
  | nil => exact Runs.done ⟨rfl, rfl⟩
  | cons x samples ih =>
    refine (runs_slotStatus fun _ _ => lenient _).bind_read fun status stamped => ?_
    rw [stamped _ (booked x mem_cons_self)]
    exact ih (fun o mem => booked o (mem_cons_of_mem _ mem)) _

theorem runs_handOut : access.Runs acc (handOut v (samples.map fst))
      (fun res cur => cur = acc ∧ res = samples) fail := by
  induction samples with
  | nil => exact Runs.done ⟨rfl, rfl⟩
  | cons x samples ih =>
    refine (runs_slotStatus fun _ _ => lenient _).bind_read fun status stamped => ?_
    refine (ih fun o mem =>
      booked o (mem_cons_of_mem _ mem)).bind
      fun rest second handed => Runs.done ?_
    obtain ⟨rfl, rfl⟩ := handed
    rw [stamped _ (booked x mem_cons_self)]
    exact ⟨rfl, rfl⟩

end

theorem runs_getNewSamplesSlotIndices (cap : Nat) :
    access.Runs acc (collector.getNewSamplesSlotIndices v cap)
      (fun res cur => ∃ samples,
        Account.Takes collector.lastTs EventSlotStatus.TIMESTAMP_MAX acc samples cur ∧
        res.2 = samples.reverse.map fst ∧
        res.1 = { collector with
          lastTs := largest collector.lastTs samples.reverse }) fail := by
  refine Runs.bind (runs_collectSlots lenient cap) fun slots cur collected => ?_
  obtain ⟨samples, rfl, takes⟩ := collected
  have booked : ∀ x ∈ samples.reverse, cur.references x.1 = some x.2 := fun x mem =>
    (takes.references x.1 x.2).mpr (Or.inr (mem_reverse.mp mem))
  rw [← map_reverse]
  refine (runs_newestDelivered lenient samples.reverse booked _).bind
    fun newest final delivered => Runs.done ?_
  obtain ⟨rfl, rfl⟩ := delivered
  exact ⟨samples, takes, rfl, rfl⟩

variable (v) in
theorem runs_getNewSamples (cap : Nat) : access.Runs acc (collector.getNewSamples v cap)
      (fun res cur => ∃ samples,
        Account.Takes collector.lastTs EventSlotStatus.TIMESTAMP_MAX acc samples cur ∧
        res.2 = samples.reverse ∧
        res.1 = { collector with
          lastTs := largest collector.lastTs samples.reverse }) fail := by
  refine Runs.bind (runs_getNewSamplesSlotIndices lenient cap) fun res cur collected => ?_
  obtain ⟨samples, takes, slots, newest⟩ := collected
  have booked : ∀ x ∈ samples.reverse, cur.references x.1 = some x.2 := fun x mem =>
    (takes.references x.1 x.2).mpr (Or.inr (mem_reverse.mp mem))
  obtain ⟨collector', slotIndices⟩ := res
  obtain rfl : slotIndices = _ := slots
  refine (runs_handOut lenient samples.reverse booked).bind
    fun handed final out => Runs.done ?_
  obtain ⟨rfl, rfl⟩ := out
  exact ⟨samples, takes, rfl, newest⟩

omit lenient

theorem le_largest (samples : List Sample) (newest : EventTimeStamp) :
    newest ≤ largest newest samples ∧ ∀ x ∈ samples, x.2 ≤ largest newest samples := by
  induction samples generalizing newest with
  | nil => exact ⟨BitVec.le_refl newest, by simp⟩
  | cons x samples ih =>
    obtain ⟨atLeast, seen⟩ := ih (if newest < x.2 then x.2 else newest)
    have both : newest ≤ (if newest < x.2 then x.2 else newest) ∧
        x.2 ≤ (if newest < x.2 then x.2 else newest) := by
      split
      next less => exact ⟨BitVec.le_of_lt less, BitVec.le_refl _⟩
      next notLess => exact ⟨BitVec.le_refl _, BitVec.not_lt.mp notLess⟩
    refine ⟨BitVec.le_trans both.1 atLeast, fun o mem => ?_⟩
    rcases mem_cons.mp mem with rfl | later
    · exact BitVec.le_trans both.2 atLeast
    · exact seen o later

theorem largest_of_ascending {newest samples} (above : ∀ x ∈ samples, newest < x.2)
    (ascending : samples.Pairwise fun left right => left.2 < right.2) :
    largest newest samples = (samples.map snd).getLastD newest := by
  induction samples generalizing newest with
  | nil => rfl
  | cons x samples ih =>
    obtain ⟨first, rest⟩ := pairwise_cons.mp ascending
    have less := above x mem_cons_self
    rw [map_cons, getLastD_cons, ← ih first rest]
    simp [largest, less]

end SlotCollector

/-! ## Call after call -/

/-- What a proxy keeps between its calls: its collector, the slots of the
sample pointers it holds, and the time stamps of all samples it was handed
out. -/
structure ProxyLocal where
  collector : SlotCollector
  held : List SlotIndex
  history : List EventTimeStamp
  deriving DecidableEq

namespace ProxyLocal

variable {ι : Type} [DecidableEq ι] {px : ProxyLocal} {acc : Account}

def getNewSamples (proxy : ProxyLocal)
    (view : ConsumerEventDataControlLocalView ι) (maxSampleCount : Nat) :
    Control ι ProxyLocal := do
  let (collector', samples) ← proxy.collector.getNewSamples view maxSampleCount
  pure ⟨collector', samples.map Prod.fst ++ proxy.held, proxy.history ++ samples.map Prod.snd⟩

def dereferenceEvent (proxy : ProxyLocal)
    (view : ConsumerEventDataControlLocalView ι) (slot : SlotIndex) :
    Control ι ProxyLocal := do
  view.dereferenceEvent slot
  pure { proxy with held := proxy.held.erase slot }

inductive Call (view : ConsumerEventDataControlLocalView ι)
    (proxy : ProxyLocal) : Control ι ProxyLocal → Prop
  | getNewSamples (maxSampleCount : Nat) : Call view proxy (proxy.getNewSamples view maxSampleCount)
  | dereferenceEvent {slot : SlotIndex} : slot ∈ proxy.held →
      Call view proxy (proxy.dereferenceEvent view slot)

structure Idle (proxy : ProxyLocal) (account : Account) : Prop where
  buffer : 0 < proxy.collector.maxSlots
  holds : account.Holds proxy.held
  settled : account.Settled
  ascending : proxy.history.Pairwise (· < ·)
  last : proxy.collector.lastTs = proxy.history.getLastD EventSlotStatus.INVALID_TIMESTAMP
  seen : ∀ timeStamp ∈ proxy.history, timeStamp ≤ proxy.collector.lastTs
  taken : ∀ slot timeStamp, account.references slot = some timeStamp →
    timeStamp ≤ proxy.collector.lastTs

def fresh (maxSlots : Nat) : ProxyLocal := ⟨⟨EventSlotStatus.INVALID_TIMESTAMP, maxSlots⟩, [], []⟩

omit [DecidableEq ι] in
theorem idle_fresh {maxSlots} (buffer : 0 < maxSlots) (q : QualityType) (log : ι) :
    (fresh maxSlots).Idle ((Shared.empty : Shared ι).account q log) where
  buffer := buffer
  holds := ⟨nodup_nil, by simp [fresh]⟩
  settled i := rfl
  ascending := List.Pairwise.nil
  last := rfl
  seen := by simp [fresh]
  taken i ts booked := by cases booked

theorem Idle.handOut {cur} (idle : px.Idle acc) {samples}
    (takes : Account.Takes px.collector.lastTs EventSlotStatus.TIMESTAMP_MAX acc samples cur) :
    Idle ⟨{ px.collector with
        lastTs := largest px.collector.lastTs samples.reverse },
      samples.reverse.map fst ++ px.held,
      px.history ++ samples.reverse.map snd⟩ cur := by
  have above : ∀ x ∈ samples.reverse, px.collector.lastTs < x.2 :=
    fun x mem => (takes.bounds x (mem_reverse.mp mem)).1
  have ascending : samples.reverse.Pairwise fun left right => left.2 < right.2 :=
    pairwise_reverse.mpr takes.descending
  obtain ⟨atLeast, newSeen⟩ := le_largest samples.reverse px.collector.lastTs
  refine ⟨idle.buffer, ?_, takes.settled idle.settled, ?_, ?_, ?_, ?_⟩
  · rw [map_reverse]
    exact takes.holds idle.holds
  · refine pairwise_append.mpr ⟨idle.ascending,
      pairwise_map.mpr ascending, fun old oldMember new newMember => ?_⟩
    obtain ⟨x, mem, rfl⟩ := mem_map.mp newMember
    have pre := idle.seen old oldMember
    have s' := above x mem
    bv_omega
  · show largest px.collector.lastTs samples.reverse = _
    rw [largest_of_ascending above ascending, idle.last]
    simp
  · intro ts mem
    rcases mem_append.mp mem with old | new
    · exact BitVec.le_trans (idle.seen ts old) atLeast
    · obtain ⟨x, isSample, rfl⟩ := mem_map.mp new
      exact newSeen x isSample
  · intro i ts booked
    rcases (takes.references i ts).mp booked with old | new
    · exact BitVec.le_trans (idle.taken i ts old) atLeast
    · exact newSeen (i, ts) (mem_reverse.mpr new)

theorem Idle.release (idle : px.Idle acc) (i : SlotIndex) :
    Idle { px with held := px.held.erase i } (acc.withoutReference i) := by
  refine { idle with
    holds := idle.holds.erase
    settled := idle.settled.withoutReference i
    taken := fun o ts booked => idle.taken o ts ?_ }
  by_cases same : o = i
  · subst same
    simp [withoutReference, setFlags, setReference] at booked
  · simpa [withoutReference, setFlags, setReference, same] using booked

variable [Fintype ι] {Thread : Type} {admissible : ControlOp ι → Shared ι → Shared ι → Prop}
  {rules : Rules (controlMachine ι admissible) Thread} {limits : EventSubscriptionControl}
  {t : Thread} {v : ConsumerEventDataControlLocalView ι}
  {access : LogAccess rules limits t v.quality v.log}

omit [DecidableEq ι] in
theorem Idle.canReference {s} (few : Fintype.card ι < 2 ^ 32 - 1)
    (sectionOk : SectionOk limits s v.quality)
    (idle : px.Idle (s.account v.quality v.log)) :
    v.CanReference s px.collector.lastTs EventSlotStatus.TIMESTAMP_MAX := by
  intro i _ between
  obtain ⟨quiet, -, above, -⟩ := EventSlotStatus.isTimeStampBetween_iff.mp between
  have slotOk := sectionOk.slot i
  have free : s.references v.quality v.log i = none := by
    cases booked : s.references v.quality v.log i with
    | none => rfl
    | some ts =>
      have sameStamp := (slotOk.stamped v.log ts booked).1
      have old := idle.taken i ts booked
      bv_omega
  have flags := idle.settled i
  have counted := slotOk.counted quiet
  have others : s.referenceCount v.quality i < Fintype.card ι := by
    refine Finset.card_lt_univ_of_notMem (x := v.log) ?_
    simp [free]
  refine ⟨?_, ?_⟩
  · simpa [Shared.account, free] using flags
  · change _ = s.referenceCount v.quality i at counted
    omega

theorem runs_call {prog} (call : px.Call v prog)
    (idle : px.Idle acc) : access.Runs acc prog Idle fun _ => True := by
  cases call with
  | getNewSamples cap =>
    refine Runs.bind (runs_getNewSamples v (fun _ => trivial) cap)
      fun res cur handed => Runs.done ?_
    obtain ⟨collector', handedOut⟩ := res
    obtain ⟨samples, takes, rfl, rfl⟩ := handed
    exact idle.handOut takes
  | dereferenceEvent mem =>
    refine Runs.bind (TransactionLogLocalView.runs_dereferenceEvent v
      (fun _ _ => trivial) _) fun _ cur dereferenced => Runs.done ?_
    obtain ⟨-, -, rfl⟩ := dereferenced
    exact idle.release _

end ProxyLocal

end ScoreIntegration.Lola
