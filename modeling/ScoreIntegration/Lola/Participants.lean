import ScoreIntegration.Lola.ConsumerAccount
import ScoreIntegration.Lola.ProviderEventDataControl

/-!
# The participants of an event

One provider, any number of consumers, each with a transaction log, and an adversary
for processes that write where they should not.  Consumers change only their own
accounts; in a trusted section only the provider changes what the words say about their
slots, its `Book`.
-/

namespace ScoreIntegration.Lola

open Concurrency Shared EventSlotStatus ControlOp Footprint.Runs

inductive Participant (ι : Type) where
  | provider
  | consumer (quality : QualityType) (log : ι)
  | adversary
  deriving DecidableEq

abbrev ControlConfig (ι Local : Type) :=
  Config (ControlOp ι) ControlOp.Answer Failure Local (Shared ι) (Participant ι)

/-! ## The book of the provider -/

/-- What the provider alone changes.  The slots of a section that is not
trusted are left out. -/
structure Book where
  contents : QualityType → SlotIndex → EventSlotStatus.Content
  allocated : QualityType → SlotIndex → Bool
  claimed : Option (SlotIndex × EventSlotStatus)
  failedClaim : Option (SlotIndex × EventSlotStatus)

variable {ι : Type} {quality : QualityType} {log : ι} {pre s' : Shared ι}

def Shared.book (state : Shared ι) (trusted : QualityType → Bool) : Book where
  contents quality slot :=
    if trusted quality then (state.stateSlots quality slot).content
    else .invalid
  allocated quality slot := trusted quality && state.allocated quality slot
  claimed := state.claimed
  failedClaim := state.failedClaim

namespace Book

def Ok (book : Book) : Prop :=
  ∀ quality slot, book.allocated quality slot = true → book.contents quality slot = .inWriting

section

variable (trusted : QualityType → Bool) (book : Book) (quality : QualityType) (slot : SlotIndex)

def enter (content : EventSlotStatus.Content) (marked : Bool) : Book :=
  if trusted quality then
    { book with
      contents := put2 book.contents quality slot content
      allocated := put2 book.allocated quality slot marked }
  else
    book

def store (content : EventSlotStatus.Content) : Book :=
  { book.enter trusted quality slot content false with
    claimed := none
    failedClaim := none }

def exchange (expected desired : EventSlotStatus) : Book :=
  { book.enter trusted quality slot desired.content desired.isInWriting with
    claimed := ControlOp.bookClaim quality slot expected
    failedClaim := none }

end

def Stored (book : Book) (quality : QualityType) (slot : SlotIndex)
    (timeStamp : EventTimeStamp) : Prop :=
  book.contents quality slot = .sample timeStamp ∨
    quality = .asilQm ∧ ∃ word, book.claimed = some (slot, word) ∧ word.content = .sample timeStamp

/-- The samples of a section have time stamps of their own, in the range in
which consumers look for samples. -/
structure Ordered (book : Book) : Prop where
  distinct : ∀ quality slot slot' timeStamp,
    book.Stored quality slot timeStamp → book.Stored quality slot' timeStamp → slot = slot'
  deliverable : ∀ quality slot timeStamp, book.Stored quality slot timeStamp →
      timeStamp < EventSlotStatus.TIMESTAMP_MAX

def Fresh (book : Book) (quality : QualityType) (slot : SlotIndex)
    (content : EventSlotStatus.Content) : Prop :=
  ∀ timeStamp, content = .sample timeStamp → timeStamp < EventSlotStatus.TIMESTAMP_MAX ∧
      ∀ slot', slot' ≠ slot → book.contents quality slot' ≠ .sample timeStamp

theorem Ordered.of_stored {book cur : Book} (ordered : book.Ordered)
    (st : ∀ quality slot ts, cur.Stored quality slot ts →
      book.Stored quality slot ts) : cur.Ordered where
  distinct quality slot slot' ts left right :=
    ordered.distinct quality slot slot' ts (st _ _ _ left) (st _ _ _ right)
  deliverable quality slot ts here := ordered.deliverable quality slot ts (st _ _ _ here)

theorem fresh_invalid (book : Book) (quality : QualityType)
    (slot : SlotIndex) : book.Fresh quality slot .invalid := by
  nofun

variable {q : QualityType} {trusted : QualityType → Bool} {slot : SlotIndex}

theorem enter_contents_self (book : Book) (trust : trusted q = true)
    (slot : SlotIndex) (content : EventSlotStatus.Content) (marked : Bool) :
    (book.enter trusted q slot content marked).contents q slot = content := by
  simp [enter, trust]

theorem enter_contents_of_ne (book : Book) (trusted : QualityType → Bool)
    {o slot'} (content : EventSlotStatus.Content) (marked : Bool)
    (differ : ¬ (o = q ∧ slot' = slot)) :
    (book.enter trusted q slot content marked).contents o slot' = book.contents o slot' ∧
      (book.enter trusted q slot content marked).allocated o slot' = book.allocated o slot' := by
  unfold Book.enter
  split
  · exact ⟨put2_of_ne _ _ differ, put2_of_ne _ _ differ⟩
  · exact ⟨rfl, rfl⟩

theorem Ordered.store {book : Book} {content : EventSlotStatus.Content} (ordered : book.Ordered)
    (trust : trusted q = true) (fresh : book.Fresh q slot content) :
    (book.store trusted q slot content).Ordered := by
  have cases' : ∀ o slot' ts, (book.store trusted q slot content).Stored o slot' ts →
        (o = q ∧ slot' = slot ∧ content = .sample ts) ∨
        (¬ (o = q ∧ slot' = slot) ∧ book.contents o slot' = .sample ts) := by
    intro o slot' ts st
    have contents : (book.enter trusted q slot content false).contents o slot' = .sample ts := by
      rcases st with here | ⟨-, word, claimed, -⟩
      · exact here
      · cases claimed
    by_cases here : o = q ∧ slot' = slot
    · obtain ⟨rfl, rfl⟩ := here
      rw [book.enter_contents_self trust] at contents
      exact .inl ⟨rfl, rfl, contents⟩
    · rw [(book.enter_contents_of_ne trusted content false here).1] at contents
      exact .inr ⟨here, contents⟩
  refine ⟨fun o left right ts storedLeft storedRight => ?_, fun o slot' ts st => ?_⟩
  · rcases cases' o left ts storedLeft with
      ⟨rfl, rfl, new⟩ | ⟨leftElsewhere, oldLeft⟩
    · rcases cases' o right ts storedRight with
        ⟨-, same, -⟩ | ⟨elsewhere, old⟩
      · exact same.symm
      · have differ : right ≠ left := fun same => elsewhere ⟨rfl, same⟩
        exact absurd old ((fresh ts new).2 right differ)
    · rcases cases' o right ts storedRight with
        ⟨rfl, rfl, new⟩ | ⟨-, oldRight⟩
      · have differ : left ≠ right := fun same => leftElsewhere ⟨rfl, same⟩
        exact absurd oldLeft ((fresh ts new).2 left differ)
      · exact ordered.distinct o left right ts (.inl oldLeft) (.inl oldRight)
  · rcases cases' o slot' ts st with ⟨-, -, new⟩ | ⟨-, old⟩
    · exact (fresh ts new).1
    · exact ordered.deliverable o slot' ts (.inl old)

theorem Ordered.fresh_of_claimed {book : Book} (ordered : book.Ordered)
     {word : EventSlotStatus} (claimed : book.claimed = some (slot, word)) :
    book.Fresh .asilQm slot word.content := by
  intro ts x
  have st : book.Stored .asilQm slot ts := .inr ⟨rfl, word, claimed, x⟩
  refine ⟨ordered.deliverable .asilQm slot ts st, ?_⟩
  intro slot' differ contents
  exact differ (ordered.distinct .asilQm slot' slot ts (.inl contents) st)

theorem Ordered.exchange {book : Book} {want desired : EventSlotStatus} (ordered : book.Ordered)
    (trust : trusted q = true) (content : book.contents q slot = want.content)
    (blank : ∀ ts, desired.content ≠ .sample ts) :
    (book.exchange trusted q slot want desired).Ordered := by
  refine ordered.of_stored fun o slot' ts st => ?_
  rcases st with here | ⟨rfl, word, claimed, x⟩
  · by_cases same : o = q ∧ slot' = slot
    · obtain ⟨rfl, rfl⟩ := same
      have entered := book.enter_contents_self trust slot' desired.content desired.isInWriting
      exact absurd (entered.symm.trans here) (blank ts)
    · exact .inl ((book.enter_contents_of_ne trusted desired.content
        desired.isInWriting same).1.symm.trans here)
  · cases q with
    | asilB => cases claimed
    | asilQm =>
      cases claimed
      exact .inl (content.trans x)

end Book

theorem Shared.book_enter (trusted : QualityType → Bool) (s : Shared ι)
    (quality : QualityType) (slot : SlotIndex) (word : EventSlotStatus)
    (marked : Bool) (claimed failedClaim : Option (SlotIndex × EventSlotStatus)) :
    book { s with
          stateSlots := put2 s.stateSlots quality slot word
          allocated := put2 s.allocated quality slot marked
          claimed := claimed
          failedClaim := failedClaim } trusted =
      { (s.book trusted).enter trusted quality slot word.content marked with
        claimed := claimed
        failedClaim := failedClaim } := by
  have cell : ∀ o slot', o = quality ∧ slot' = slot ∨
      ¬ (o = quality ∧ slot' = slot) := fun _ _ => em _
  cases trust : trusted quality <;>
    simp only [Book.enter, book, trust, Bool.false_eq_true, if_true, if_false] <;> congr 1
  all_goals
    funext o slot'
    rcases cell o slot' with ⟨rfl, rfl⟩ | differ
    · simp [trust]
    · simp only [put2_of_ne _ _ differ]

@[simp]
theorem Shared.book_empty_contents (trusted : QualityType → Bool)
    (quality : QualityType) (slot : SlotIndex) :
    ((empty : Shared ι).book trusted).contents quality slot = .invalid := by
  simp [book, empty]

theorem Shared.book_empty_ordered (trusted : QualityType → Bool) :
    ((empty : Shared ι).book trusted).Ordered := by
  have nothing : ∀ quality slot ts, ¬ ((empty : Shared ι).book trusted).Stored quality slot ts := by
    rintro quality slot ts (contents | ⟨-, word, claimed, -⟩)
    · rw [book_empty_contents] at contents
      cases contents
    · cases claimed
  exact ⟨fun _ _ _ _ left => absurd left (nothing _ _ _), fun _ _ _ st => absurd st (nothing _ _ _)⟩

/-! ## Rules -/

/-- The slot of an open claim is being written in the QM section. -/
def ClaimsOpen (state : Shared ι) : Prop :=
  ∀ slot word, state.claimed = some (slot, word) ∨
    state.failedClaim = some (slot, word) → state.stateSlots .asilQm slot = .inWriting

/-- A claim whose ASIL-B half has failed is undone: the QM word is again the
one it replaced. -/
def Restores (before after : Shared ι) : Prop :=
  ∀ slot word, before.failedClaim = some (slot, word) → after.stateSlots .asilQm slot = word

theorem ConsumerStep.book_eq (step : ConsumerStep quality log pre s')
    (trusted : QualityType → Bool) : s'.book trusted = pre.book trusted := by
  simp only [book, step.content, step.allocated, step.claimed, step.failedClaim]

theorem ClaimsOpen.consumerStep (claims : ClaimsOpen pre)
    (step : ConsumerStep quality log pre s') : ClaimsOpen s' := by
  intro slot word claim
  rw [step.claimed, step.failedClaim] at claim
  rw [← content_eq_inWriting_iff, step.content,
    content_eq_inWriting_iff]
  exact claims slot word claim

/-- The limits of subscription, the sections to which only participants write, whether the
provider undoes every failed claim with its next step and never uses a time stamp twice,
and what is assumed of every operation. -/
structure Setting (ι : Type) where
  limits : EventSubscriptionControl
  trusted : QualityType → Bool
  strict : Prop
  ordered : Prop
  admissible : ControlOp ι → Shared ι → Shared ι → Prop

namespace Setting

variable [Fintype ι] [DecidableEq ι] (setting : Setting ι)

def rules : Rules (controlMachine ι setting.admissible) (Participant ι) where
  invariant state :=
    (∀ quality, setting.trusted quality = true → SectionOk setting.limits state quality) ∧
    (setting.strict → ClaimsOpen state) ∧
    (setting.ordered → (∀ quality, setting.trusted quality = true) ∧
      (state.book setting.trusted).Ordered)
  rely thread before after :=
    match thread with
    | .provider => after.book setting.trusted = before.book setting.trusted
    | .consumer quality log => after.account quality log = before.account quality log
    | .adversary => True
  guarantee thread before after :=
    match thread with
    | .provider =>
      (∀ quality log, after.account quality log = before.account quality log) ∧
      (setting.strict → Restores before after)
    | .consumer quality log => ConsumerStep quality log before after
    | .adversary =>
      (∀ quality log, after.account quality log = before.account quality log) ∧
      after.book setting.trusted = before.book setting.trusted
  rely_refl thread state := by
    cases thread <;> simp
  rely_trans := by
    intro thread first second third firstStep secondStep
    cases thread with
    | adversary => trivial
    | _ => exact secondStep.trans firstStep
  rely_of_guarantee := by
    intro thread other before after different _ guaranteed
    cases other with
    | adversary => trivial
    | provider =>
      cases thread with
      | provider => exact absurd rfl different
      | adversary => exact guaranteed.2
      | consumer quality log => exact guaranteed.book_eq setting.trusted
    | consumer quality log =>
      cases thread with
      | consumer quality' log' =>
        apply guaranteed.otherAccount
        rintro ⟨rfl, rfl⟩
        exact different rfl
      | _ => exact guaranteed.1 quality log

/-! ## Consumers -/

/-- A consumer of a trusted section has its transaction log to itself. -/
def consumerAccess (few : ∀ op before after, setting.admissible op before after →
      after.FewReferences)
    {quality : QualityType} (isTrusted : setting.trusted quality = true) (log : ι) :
    LogAccess setting.rules setting.limits (.consumer quality log) quality log where
  held _ := True
  sectionOk holds _ := holds.1 quality isTrusted
  few admissible := few _ _ _ admissible quality
  stable moved _ _ := ⟨trivial, moved⟩
  step := by
    intro op before after holds _ _ step sectionAfter
    refine ⟨⟨fun other otherTrusted => ?_,
      fun isStrict => (holds.2.1 isStrict).consumerStep step, ?_⟩, step, trivial⟩
    swap
    · rw [step.book_eq setting.trusted]
      exact holds.2.2
    by_cases same : other = quality
    · subst other
      exact sectionAfter
    · exact (holds.1 other otherTrusted).congr (step.otherSlots other same)
        (congrFun step.allocated other) (step.otherState other same)
        fun log' => step.otherAccount other log' fun both => same both.1

/-! ## The provider -/

def providerFootprint : Footprint setting.rules Participant.provider Book where
  view state := state.book setting.trusted
  held _ := True
  wellFormed book := book.Ok ∧ (setting.ordered → book.Ordered)
  stable moved _ _ := ⟨trivial, moved⟩
  sound := by
    intro state holds _
    refine ⟨fun quality slot marked => ?_, fun isOrdered => (holds.2.2 isOrdered).2⟩
    obtain ⟨isTrusted, allocated⟩ := Bool.and_eq_true_iff.mp marked
    have writing := ((holds.1 quality isTrusted).slot slot).writing allocated
    simp [Shared.book, isTrusted, writing]

variable {setting} {book : Book} {fail : Failure → Prop} {α : Type}

abbrev Runs (setting : Setting ι) (book : Book) (program : Control ι α)
    (post : α → Book → Prop) (fail : Failure → Prop) : Prop :=
  setting.providerFootprint.Runs book program post fail

def Readable (setting : Setting ι) (book : Book) (quality : QualityType)
    (slot : SlotIndex) (word : EventSlotStatus) : Prop :=
  ∃ state, setting.admissible (.loadSlot quality slot) state state ∧
    state.book setting.trusted = book ∧ state.stateSlots quality slot = word

variable {q : QualityType} {slot : SlotIndex} {word want desired : EventSlotStatus} {s : Shared ι}

omit [Fintype ι] [DecidableEq ι] in
theorem Readable.content (readable : setting.Readable book q slot word)
    (trust : setting.trusted q = true) : book.contents q slot = word.content := by
  obtain ⟨s, -, rfl, rfl⟩ := readable
  simp [book, trust]

omit [Fintype ι] [DecidableEq ι] in
theorem restores_of_settled (settled : setting.strict → (s.book setting.trusted).failedClaim = none)
    (isStrict : setting.strict) (s' : Shared ι) : Restores s s' := by
  intro slot word failed
  rw [show s.failedClaim = none from settled isStrict] at failed
  cases failed

theorem runs_loadSlot (settled : setting.strict → book.failedClaim = none)
    (q : QualityType) (slot : SlotIndex) :
    setting.Runs book (atomically (.loadSlot q slot)) (fun word cur => cur = book ∧
        setting.Readable book q slot word) fail := by
  apply atomic
  intro s fault holds _ own admissible
  subst own
  exact ⟨holds, ⟨fun _ _ => rfl, fun isStrict =>
    restores_of_settled settled isStrict _⟩, trivial, rfl, s, admissible,
    rfl, rfl⟩

theorem invariant_write {s' marked} (holds : setting.rules.invariant s)
    (slots : s'.stateSlots = put2 s.stateSlots q slot word)
    (allocated : s'.allocated = put2 s.allocated q slot marked)
    (subscriptionState : s'.currentSubscriptionState = s.currentSubscriptionState)
    (accounts : ∀ o log, s'.account o log = s.account o log)
    (slotOk : setting.trusted q = true → SlotOk word (fun log => s.references q log slot) marked)
    (claims : setting.strict → ClaimsOpen s')
    (ordered : setting.ordered → (∀ o, setting.trusted o = true) ∧
      (s'.book setting.trusted).Ordered) : setting.rules.invariant s' := by
  refine ⟨fun o otherTrusted => ?_, claims, ordered⟩
  have ok := holds.1 o otherTrusted
  by_cases same : o = q
  · subst o
    exact ok.setSlot slot (by rw [slots, put2_row]) (by rw [allocated, put2_row])
      (by rw [subscriptionState]) (accounts q) (slotOk otherTrusted)
  · exact ok.congr (by rw [slots, put2_row_of_ne _ _ _ same])
      (by rw [allocated, put2_row_of_ne _ _ _ same])
      (by rw [subscriptionState]) (accounts o)

theorem runs_storeSlot {value : EventSlotStatus} (unused : value.isUsed = false)
    (writing : setting.trusted q = true → book.contents q slot = .inWriting)
    (restores : setting.strict → ∀ slot' word, book.failedClaim = some (slot', word) →
        q = .asilQm ∧ slot = slot' ∧ value = word)
    (fresh : setting.ordered → book.Fresh q slot value.content) :
    setting.Runs book (atomically (.storeSlot q slot value)) (fun _ cur =>
        cur = book.store setting.trusted q slot value.content)
      fail := by
  apply atomic
  intro s fault holds _ own _
  subst own
  have st : book ((controlMachine ι setting.admissible).exec
        (.storeSlot q slot value) fault s).2 setting.trusted =
      (s.book setting.trusted).store setting.trusted q slot value.content :=
    book_enter setting.trusted s q slot value false none none
  refine ⟨?_, ⟨fun _ _ => rfl, fun isStrict => ?_⟩, trivial, st⟩
  · refine invariant_write holds rfl rfl rfl (fun _ _ => rfl)
      (fun trust => ?_) ?_ fun isOrdered => ?_
    · have inWriting := writing trust
      simp only [providerFootprint, book, trust, if_true,
        content_eq_inWriting_iff] at inWriting
      have slotOk := (holds.1 q trust).slot slot
      rw [inWriting] at slotOk
      exact slotOk.store unused
    · intro _ slot' word claim
      rcases claim with claimed | failed
      · cases claimed
      · cases failed
    · obtain ⟨trust, ordered⟩ := holds.2.2 isOrdered
      refine ⟨trust, ?_⟩
      rw [st]
      exact ordered.store (trust q) (fresh isOrdered)
  · intro slot' word failed
    obtain ⟨rfl, rfl, rfl⟩ := restores isStrict slot' word failed
    simp [controlMachine, exec]

def Transfers (expected desired : EventSlotStatus) : Prop :=
  (expected.isUsed = false ∧ desired = .inWriting) ∨ (expected = .inWriting ∧ desired = .invalid)

theorem Transfers.blank (transfers : Transfers want desired) (ts : EventTimeStamp) :
    desired.content ≠ .sample ts := by
  rcases transfers with ⟨-, rfl⟩ | ⟨-, rfl⟩
  · simp
  · simp

theorem runs_compareExchangeStrongSlot
    (transfers : setting.trusted q = true → Transfers want desired)
    (claims : setting.strict → desired = .inWriting)
    (settled : setting.strict → book.failedClaim = none) :
    setting.Runs book (atomically (.compareExchangeStrongSlot q slot want desired))
      (fun exchanged cur =>
        if exchanged then
          (setting.trusted q = true → book.contents q slot = want.content) ∧
          cur = book.exchange setting.trusted q slot want desired
        else
          (setting.trusted q = true → want = .inWriting → book.contents q slot ≠ .inWriting) ∧
          cur =
            { book with
              failedClaim := bookFailedClaim q book.claimed })
      fail := by
  apply atomic
  intro s fault holds _ own _
  subst own
  by_cases succeeds : s.stateSlots q slot = want
  · simp only [controlMachine, exec, if_pos succeeds]
    have exchanged := book_enter setting.trusted s q slot
      desired desired.isInWriting (bookClaim q slot want)
      none
    have content (trust : setting.trusted q = true) :
        (s.book setting.trusted).contents q slot = want.content := by
      simp [book, trust, succeeds]
    refine ⟨?_, ⟨fun _ _ => rfl, fun isStrict =>
      restores_of_settled settled isStrict _⟩, trivial, content, exchanged⟩
    refine invariant_write holds rfl rfl rfl (fun _ _ => rfl)
      (fun trust => ?_) ?_ fun isOrdered => ?_
    · have slotOk := (holds.1 q trust).slot slot
      rw [succeeds] at slotOk
      rcases transfers trust with ⟨unused, rfl⟩ | ⟨rfl, rfl⟩
      · exact slotOk.claim unused
      · exact slotOk.store isUsed_invalid
    · intro isStrict slot' word claim
      rcases claim with claimed | failed
      · cases q with
        | asilB => cases claimed
        | asilQm =>
          cases claimed
          simp [claims isStrict]
      · cases failed
    · obtain ⟨trust, ordered⟩ := holds.2.2 isOrdered
      refine ⟨trust, ?_⟩
      rw [exchanged]
      exact ordered.exchange (trust q) (content (trust q)) (transfers (trust q)).blank
  · simp only [controlMachine, exec, if_neg succeeds]
    refine ⟨⟨fun other otherTrusted => ?_, fun isStrict slot' word claim => ?_,
      fun isOrdered => ?_⟩, ⟨fun _ _ => rfl, fun isStrict =>
        restores_of_settled settled isStrict _⟩, trivial, ?_, rfl⟩
    · exact (holds.1 other otherTrusted).congr rfl rfl rfl fun _ => rfl
    · apply holds.2.1 isStrict slot' word
      rcases claim with claimed | failed
      · exact .inl claimed
      · cases q with
        | asilQm => cases failed
        | asilB => exact .inl failed
    · obtain ⟨trust, ordered⟩ := holds.2.2 isOrdered
      exact ⟨trust, ordered.of_stored fun _ _ _ st => st⟩
    · rintro trust rfl
      simpa [providerFootprint, book, trust] using succeeds

end Setting

end ScoreIntegration.Lola
