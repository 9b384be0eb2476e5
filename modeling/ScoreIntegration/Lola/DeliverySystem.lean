import ScoreIntegration.Lola.ProviderBook
import ScoreIntegration.Lola.SampleDelivery

/-!
# Delivery of samples

A provider publishes samples with increasing time stamps in one section.  A proxy is handed
out its samples in ascending order, and an uninterrupted call delivers the newest ones.
-/

namespace ScoreIntegration.Lola

open Concurrency EventSlotStatus ProviderEventDataControlLocalView ControlOp TransactionLogLocalView
open ProxyLocal Shared Fintype Concurrency.Footprint

variable {ι : Type}

/-- What a participant keeps between its calls; `lastSent` is the time stamp
of the newest sample. -/
inductive DeliveryLocal where
  | provider (owned : List SlotIndex) (lastSent : EventTimeStamp)
  | proxy (proxy : ProxyLocal)
  deriving DecidableEq

inductive DeliveryCall [DecidableEq ι] (quality : QualityType) (slots : Nat) :
    Participant ι → DeliveryLocal → Control ι DeliveryLocal → Prop
  | allocateNextSlot (owned : List SlotIndex) (lastSent : EventTimeStamp) :
      DeliveryCall quality slots .provider (.provider owned lastSent) (do
        let slot ← ProviderEventDataControlLocalView.allocateNextSlot ⟨quality, slots⟩
        pure (.provider (slot.toList ++ owned) lastSent))
  | eventReady {owned : List SlotIndex} {slot : SlotIndex}
      {lastSent timeStamp : EventTimeStamp} : slot ∈ owned →
      lastSent < timeStamp → timeStamp < EventSlotStatus.TIMESTAMP_MAX →
      DeliveryCall quality slots .provider (.provider owned lastSent) (do
        ProviderEventDataControlLocalView.eventReady ⟨quality, slots⟩ slot timeStamp
        pure (.provider (owned.erase slot) timeStamp))
  | discard {owned : List SlotIndex} {slot : SlotIndex} (lastSent : EventTimeStamp) : slot ∈ owned →
      DeliveryCall quality slots .provider (.provider owned lastSent) (do
        ProviderEventDataControlLocalView.discard ⟨quality, slots⟩ slot
        pure (.provider (owned.erase slot) lastSent))
  | proxy (log : ι) {proxy : ProxyLocal} {program : Control ι ProxyLocal} :
      proxy.Call ⟨quality, log, slots⟩ program →
      DeliveryCall quality slots (.consumer quality log) (.proxy proxy) (do
        let proxy' ← program
        pure (.proxy proxy'))

def deliverySetting (ι : Type) : Setting ι where
  limits := ⟨0#16, 0#8, false⟩
  trusted _ := true
  strict := False
  ordered := True
  admissible _ _ _ := True

inductive DeliveryStart : Participant ι → DeliveryLocal → Prop
  | provider : DeliveryStart .provider (.provider [] EventSlotStatus.INVALID_TIMESTAMP)
  | proxy (quality : QualityType) (log : ι) {maxSlots : Nat} : 0 < maxSlots →
      DeliveryStart (.consumer quality log) (.proxy (.fresh maxSlots))
  | adversary (idle : DeliveryLocal) : DeliveryStart .adversary idle

def deliverySystem (ι : Type) [DecidableEq ι] (quality : QualityType) (slots : Nat) :
    System (controlMachine ι (deliverySetting ι).admissible) Failure
      DeliveryLocal (Participant ι) where
  initial config :=
    config.shared = Shared.empty ∧ ∀ thread, ∃ idle,
      config.threads thread = .done idle ∧ DeliveryStart thread idle
  launch thread current _ program :=
    ∃ idle, current = .done idle ∧ DeliveryCall quality slots thread idle program

namespace DeliverySystem

/-! ## Between the calls of the provider -/

structure ProviderIdle (quality : QualityType) (slots : Nat)
    (owned : List SlotIndex) (lastSent : EventTimeStamp) (book : Book) :
    Prop where
  writes : book.Writes quality slots owned
  sent : ∀ slot timeStamp, book.contents quality slot = .sample timeStamp → timeStamp ≤ lastSent

section ProviderIdle

variable {q : QualityType} {slots : Nat} {owned : List SlotIndex} {lastSent : EventTimeStamp}
  {book : Book} {slot : SlotIndex} {lastSent' : EventTimeStamp} {content : EventSlotStatus.Content}

theorem ProviderIdle.of_sameSlots {cur}
    (idle : ProviderIdle q slots owned lastSent book) (same : book.SameSlots cur) :
    ProviderIdle q slots owned lastSent cur := by
  refine ⟨idle.writes.of_sameSlots same, fun slot ts x => ?_⟩
  rw [same.1] at x
  exact idle.sent slot ts x

theorem ProviderIdle.enter {owned' marked} {trusted : QualityType → Bool}
    (trust : trusted q = true) (idle : ProviderIdle q slots owned lastSent book)
    (writes : (book.enter trusted q slot content marked).Writes q slots owned')
    (later : lastSent ≤ lastSent')
    (sent : ∀ ts, content = .sample ts → ts ≤ lastSent') :
    ProviderIdle q slots owned' lastSent' (book.enter trusted q slot content marked) := by
  refine ⟨writes, fun slot' ts x => ?_⟩
  by_cases same : q = q ∧ slot' = slot
  · obtain ⟨-, rfl⟩ := same
    rw [book.enter_contents_self trust] at x
    exact sent ts x
  · rw [(book.enter_contents_of_ne _ content marked same).1] at x
    exact BitVec.le_trans (idle.sent slot' ts x) later

theorem ProviderIdle.store {trusted : QualityType → Bool} (trust : trusted q = true)
    (idle : ProviderIdle q slots owned lastSent book) (later : lastSent ≤ lastSent')
    (sent : ∀ ts, content = .sample ts → ts ≤ lastSent') :
    ProviderIdle q slots (owned.erase slot) lastSent' (book.store trusted q slot content) := by
  have writes : (book.enter trusted q slot content false).Writes q slots (owned.erase slot) :=
    (idle.writes.erase slot).enter_of_notMem (idle.writes.notMem_erase slot) q content false
  exact (idle.enter trust writes later sent).of_sameSlots ⟨rfl, rfl⟩

end ProviderIdle

/-! ## Every call is safe -/

variable [Fintype ι] [DecidableEq ι] {quality : QualityType} {slots : Nat} {s : Shared ι}
  {proxy : ProxyLocal} {trusted : QualityType → Bool} {view : ConsumerEventDataControlLocalView ι}

def post (quality : QualityType) (slots : Nat) : Participant ι → DeliveryLocal → Shared ι → Prop
  | .provider, .provider owned lastSent, state =>
    ProviderIdle quality slots owned lastSent (state.book (deliverySetting ι).trusted)
  | .consumer quality' log, .proxy proxy, state => proxy.Idle (state.account quality' log)
  | .adversary, _, _ => True
  | _, _, _ => False

theorem proxy_safe (few : card ι < 2 ^ 32 - 1) {Local : Type}
    {post : Local → Shared ι → Prop} (wrap : ProxyLocal → Local) {log}
    (wraps : ∀ proxy state, ProxyLocal.Idle proxy (state.account quality log) →
      post (wrap proxy) state) {prog}
    (holds : (deliverySetting ι).rules.invariant state)
    (call : proxy.Call ⟨quality, log, slots⟩ prog)
    (idle : proxy.Idle (state.account quality log)) :
    (deliverySetting ι).rules.Safe (.consumer quality log) post
      (fun _ _ => True) (prog >>= fun proxy' => pure (wrap proxy'))
      state := by
  have runs : ((deliverySetting ι).consumerAccess
      (fun _ _ s' _ => s'.fewReferences_of_card few) rfl log).Runs
      (state.account quality log) prog (fun proxy' acc => proxy'.Idle acc) fun _ => True :=
    runs_call call idle
  exact runs.safe_wrap holds trivial wraps

theorem ProviderIdle.fresh {owned slot lastSent ts book}
    (idle : ProviderIdle quality slots owned lastSent book) (newer : lastSent < ts)
    (deliverable : ts < EventSlotStatus.TIMESTAMP_MAX) :
    book.Fresh quality slot (.sample ts) := by
  intro timeStamp' same
  cases same
  refine ⟨deliverable, fun slot' _ st => ?_⟩
  have old := idle.sent slot' ts st
  bv_omega

theorem launchesSafe (few : card ι < 2 ^ 32 - 1) :
    System.LaunchesSafe (deliverySetting ι).rules
      (deliverySystem ι quality slots) (post quality slots)
      (fun _ _ _ => True) := by
  intro t cur s prog launched holds safe
  obtain ⟨pre, rfl, call⟩ := launched
  have idle := safe s ((deliverySetting ι).rules.rely_refl t s) holds
  cases call with
  | allocateNextSlot owned lastSent =>
    have idle : ProviderIdle quality slots owned lastSent _ := idle
    refine (runs_allocateNextSlot rfl False.elim).safe_wrap holds trivial
      fun slot later allocated => ?_
    cases slot with
    | none => exact idle.of_sameSlots allocated.1
    | some slot =>
      obtain ⟨⟨lt, notWriting, entered⟩, -⟩ := allocated
      exact (idle.enter rfl (idle.writes.cons rfl lt notWriting)
        (BitVec.le_refl _) nofun).of_sameSlots
        entered
  | @eventReady owned slot lastSent ts mem newer deliverable =>
    have idle : ProviderIdle quality slots owned lastSent _ := idle
    obtain ⟨lt, writing, -⟩ := idle.writes.2 slot mem
    have stamped : (make ts 0#32).content = .sample ts := content_make (by bv_omega)
    refine (runs_eventReady lt (fun _ => writing) False.elim fun _ => ?_).safe_wrap holds trivial
      fun _ later st => (?_ : ProviderIdle quality slots _ _ (later.book _))
    · rw [stamped]
      exact idle.fresh newer deliverable
    · rw [show later.book _ = _ from st, stamped]
      refine idle.store rfl (BitVec.le_of_lt newer) fun _ same => ?_
      cases same
      exact BitVec.le_refl _
  | @discard owned slot lastSent mem =>
    have idle : ProviderIdle quality slots owned lastSent _ := idle
    obtain ⟨lt, writing, -⟩ := idle.writes.2 slot mem
    refine (runs_discard lt (fun _ => writing) False.elim).safe_wrap holds trivial
      fun _ later st => (?_ : ProviderIdle quality slots _ _ (later.book _))
    rcases st with st | ⟨untrusted, -⟩
    · rw [show later.book _ = _ from st]
      exact idle.store rfl (BitVec.le_refl _) nofun
    · cases untrusted
  | proxy log call =>
    exact proxy_safe few DeliveryLocal.proxy (fun _ _ idle => idle) holds call idle

theorem invariant_empty : (deliverySetting ι).rules.invariant (empty : Shared ι) :=
  ⟨fun quality _ => sectionOk_empty _ quality, False.elim, fun _ =>
    ⟨fun _ => rfl, book_empty_ordered _⟩⟩

theorem sound (few : card ι < 2 ^ 32 - 1) {cfg}
    (reach : (deliverySystem ι quality slots).Reachable cfg) :
    System.Sound (deliverySetting ι).rules (post quality slots) (fun _ _ _ => True) cfg := by
  refine System.Reachable.sound ?_ (launchesSafe few) reach
  rintro cfg ⟨empty, start⟩
  refine ⟨?_, fun t => ?_⟩
  · rw [empty]
    exact invariant_empty
  · obtain ⟨idle, isIdle, fresh⟩ := start t
    rw [isIdle, empty]
    intro later keep _
    cases fresh with
    | provider =>
      refine ⟨⟨List.nodup_nil, by simp⟩, fun slot ts x => ?_⟩
      rw [show later.book _ = _ from keep, book_empty_contents] at x
      cases x
    | proxy quality' log buffer =>
      show ProxyLocal.Idle _ (later.account quality' log)
      rw [show later.account quality' log = _ from keep]
      exact idle_fresh buffer quality' log
    | adversary => trivial

/-! ## A call that nobody interrupts -/

omit [Fintype ι] [DecidableEq ι] in
/-- With time stamps below the maximum, the window of a proxy holds all samples
that are newer than the last one it was handed out. -/
theorem mem_window_iff (trust : trusted view.quality = true)
    (ordered : (s.book trusted).Ordered) (lastTs : EventTimeStamp) (slot : SlotIndex) :
    slot ∈ view.window s lastTs EventSlotStatus.TIMESTAMP_MAX ↔
      slot < view.slots ∧ ∃ ts, lastTs < ts ∧
        (s.stateSlots view.quality slot).content = .sample ts := by
  rw [mem_window, isTimeStampBetween_iff]
  constructor
  · rintro ⟨lt, -, -, above, -⟩
    exact ⟨lt, _, above, content_of_timeStamp_ne_zero (by bv_omega)⟩
  · rintro ⟨lt, ts, above, x⟩
    obtain ⟨quiet, notInvalid, stamp⟩ := content_eq_sample_iff.mp x
    have below := ordered.deliverable view.quality slot ts
      (Or.inl (by simp [book, trust, x]))
    rw [stamp]
    exact ⟨lt, quiet, notInvalid, above, below⟩

omit [Fintype ι] [DecidableEq ι] in
theorem distinctStamps_of_ordered (trust : trusted view.quality = true)
    (ordered : (s.book trusted).Ordered) (lastTs : EventTimeStamp) :
    view.DistinctStamps s lastTs EventSlotStatus.TIMESTAMP_MAX := by
  have st : ∀ slot ∈ view.window s lastTs
      EventSlotStatus.TIMESTAMP_MAX, (s.book trusted).Stored view.quality
        slot (s.stateSlots view.quality slot).getTimeStamp := by
    intro slot mem
    obtain ⟨-, ts, -, x⟩ := (mem_window_iff trust ordered lastTs slot).mp mem
    obtain ⟨-, -, stamp⟩ := content_eq_sample_iff.mp x
    rw [stamp]
    exact Or.inl (by simp [book, trust, x])
  intro left leftMember right rightMember same
  have leftStored := st left leftMember
  rw [same] at leftStored
  exact ordered.distinct view.quality left right _ leftStored (st right rightMember)

/-- The slots of a call that has run alone are the newest samples after `lastTs`, at most
`limit` of them, each with one more reference; nothing else has changed. -/
structure DeliversNewest (view : ConsumerEventDataControlLocalView ι)
    (lastTs : EventTimeStamp) (limit : Nat) (state : Shared ι)
    (slots : List SlotIndex) (after : Shared ι) : Prop where
  samples : ∀ slot, slot ∈ view.window state lastTs EventSlotStatus.TIMESTAMP_MAX ↔
      slot < view.slots ∧ ∃ timeStamp, lastTs < timeStamp ∧
        (state.stateSlots view.quality slot).content = .sample timeStamp
  takes : TransactionLogLocalView.TakesNewest view lastTs limit
    EventSlotStatus.TIMESTAMP_MAX state slots after
  counted : ∀ slot ∈ slots, (after.stateSlots view.quality slot).getTimeStamp =
        (state.stateSlots view.quality slot).getTimeStamp ∧
      (after.stateSlots view.quality slot).getReferenceCount.toNat =
        (state.stateSlots view.quality slot).getReferenceCount.toNat + 1

theorem deliversNewest {limits after}
    (few : card ι < 2 ^ 32 - 1) (sectionOk : SectionOk limits s view.quality)
    (trust : trusted view.quality = true) (ordered : (s.book trusted).Ordered)
    (idle : proxy.Idle (s.account view.quality view.log)) {cap faults outcome}
    (execution : Program.Solo exec
      (proxy.collector.getNewSamplesSlotIndices view cap) s faults
      outcome after)
    (fewFaults : faults < TransactionLogLocalView.MAX_REFERENCE_RETRIES) :
    ∃ result, outcome = .ok result ∧ DeliversNewest view proxy.collector.lastTs
        (min cap proxy.collector.maxSlots) s result.2.reverse
        after := by
  have possible := idle.canReference few sectionOk
  obtain ⟨result, isResult, exhausted | takes⟩ :=
    SlotCollector.ends_getNewSamplesSlotIndices idle.buffer cap possible
      (distinctStamps_of_ordered trust ordered _) _ _ _ execution
  · omega
  refine ⟨result, isResult, mem_window_iff trust ordered _, takes, ?_⟩
  intro slot mem
  obtain ⟨lt, between⟩ := mem_window.mp (takes.member slot mem)
  have room := (possible slot lt between).2
  rw [takes.words view.quality slot, if_pos ⟨rfl, mem⟩]
  exact add_one_spec (by omega)

/-- In every run the samples a proxy is handed out are in ascending order over
all its calls, and a call that nobody interrupts delivers the newest samples. -/
theorem reachable_delivery (few : card ι < 2 ^ 32 - 1)
    {config : ControlConfig ι DeliveryLocal}
    (reachable : (deliverySystem ι quality slots).Reachable config) {log : ι} {proxy : ProxyLocal}
    (idle : config.threads (.consumer quality log) = .done (.proxy proxy)) :
    proxy.history.Pairwise (· < ·) ∧
    proxy.collector.lastTs = proxy.history.getLastD EventSlotStatus.INVALID_TIMESTAMP ∧
    ∀ maxCount faults outcome after, Program.Solo exec
        (proxy.collector.getNewSamplesSlotIndices ⟨quality, log, slots⟩
          maxCount) config.shared faults outcome after →
      faults < TransactionLogLocalView.MAX_REFERENCE_RETRIES →
      ∃ result, outcome = .ok result ∧ DeliversNewest ⟨quality, log, slots⟩ proxy.collector.lastTs
          (min maxCount proxy.collector.maxSlots) config.shared
          result.2.reverse after := by
  have system := sound few reachable
  have isIdle : proxy.Idle (config.shared.account quality log) := system.post_of_idle idle
  obtain ⟨sections, -, ordered⟩ := system.1
  refine ⟨isIdle.ascending, isIdle.last, ?_⟩
  intro maxCount faults outcome after execution fewFaults
  exact deliversNewest few (sections quality rfl)
    (show (deliverySetting ι).trusted quality = true from rfl)
    (ordered trivial).2 isIdle execution fewFaults

/-! ## A run -/

def freshConfig : ControlConfig (Fin 1) DeliveryLocal where
  shared := Shared.empty
  threads
    | .consumer _ _ => .done (.proxy (.fresh 1))
    | _ => .done (.provider [] EventSlotStatus.INVALID_TIMESTAMP)

def claimedConfig : ControlConfig (Fin 1) DeliveryLocal :=
  freshConfig.call ControlOp.exec .provider (do
    let slot ← ProviderEventDataControlLocalView.allocateNextSlot ⟨.asilQm, 1⟩
    pure (.provider (slot.toList ++ []) 0#32)) 2

def sentConfig : ControlConfig (Fin 1) DeliveryLocal :=
  claimedConfig.call ControlOp.exec .provider (do
    ProviderEventDataControlLocalView.eventReady ⟨.asilQm, 1⟩ 0 7#32
    pure (.provider ([0].erase 0) 7#32)) 1

theorem reachable_sentConfig : (deliverySystem (Fin 1) .asilQm 1).Reachable sentConfig := by
  have always : ∀ op pre s', (deliverySetting (Fin 1)).admissible op pre s' := fun _ _ _ => trivial
  have first : (deliverySystem (Fin 1) .asilQm 1).Reachable freshConfig := by
    refine System.Reachable.initial ⟨rfl, fun t => ?_⟩
    cases t with
    | provider => exact ⟨_, rfl, .provider⟩
    | consumer quality log => exact ⟨_, rfl, .proxy quality log Nat.one_pos⟩
    | adversary => exact ⟨_, rfl, .adversary _⟩
  have second : (deliverySystem (Fin 1) .asilQm 1).Reachable claimedConfig :=
    first.call always ⟨_, rfl, .allocateNextSlot [] 0#32⟩ rfl 2
  have owned : (0 : SlotIndex) ∈ [0] := List.mem_singleton_self 0
  exact second.call always ⟨.provider [0] 0#32, rfl, .eventReady owned (by decide) (by decide)⟩
    rfl 1

def fetch : Control (Fin 1) (SlotCollector × List SlotIndex) :=
  (ProxyLocal.fresh 1).collector.getNewSamplesSlotIndices ⟨.asilQm, Fin.last 0, 1⟩ 1

theorem sentConfig_delivery : ∃ result, (fetch.runSolo exec (fun _ => false)
        sentConfig.shared).2.1 = .ok result ∧
      DeliversNewest ⟨.asilQm, 0, 1⟩ 0#32 1 sentConfig.shared result.2.reverse
        (fetch.runSolo exec (fun _ => false) sentConfig.shared).2.2 := by
  have idle : sentConfig.threads (.consumer .asilQm 0) = .done (.proxy (.fresh 1)) := rfl
  have delivery := (reachable_delivery (by decide) reachable_sentConfig idle).2.2
  exact delivery 1 _ _ _ (Program.solo_runSolo fetch _ _) (by decide +kernel)

/-- If every weak compare-exchange fails, `ReferenceNextEvent` gives up. -/
theorem spurious_failures_deliver_nothing :
    (deliverySystem (Fin 1) .asilQm 1).Reachable sentConfig ∧
    sentConfig.threads (.consumer .asilQm 0) = .done (.proxy (.fresh 1)) ∧
    (sentConfig.shared.stateSlots .asilQm 0).content = .sample 7#32 ∧
    ∃ faults after, Program.Solo exec fetch sentConfig.shared faults
      (.ok (⟨EventSlotStatus.INVALID_TIMESTAMP, 1⟩, [])) after := by
  have outcome : (fetch.runSolo exec (fun _ => true) sentConfig.shared).2.1 =
        .ok (⟨EventSlotStatus.INVALID_TIMESTAMP, 1⟩, []) := by
    decide +kernel
  exact ⟨reachable_sentConfig, rfl, by decide +kernel, _,
    Program.exists_solo_of_runSolo rfl outcome⟩

end DeliverySystem

end ScoreIntegration.Lola
