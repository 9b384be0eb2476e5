import ScoreIntegration.Lola.Participants

/-!
# What the operations of the provider do to its book

The operations of the provider as functions on its book, whatever the consumers do.  The
proofs about both sections also hold for a QM section that is not trusted.
-/

namespace ScoreIntegration.Lola

open Concurrency EventSlotStatus Setting List Bool Book
open Concurrency.Footprint

variable {ι : Type} [Fintype ι] [DecidableEq ι] {cfg : Setting ι} {b : Book} {fail : Failure → Prop}

namespace Book

def Settled (book : Book) : Prop := book.claimed = none ∧ book.failedClaim = none

def SameSlots (book other : Book) : Prop :=
  other.contents = book.contents ∧ other.allocated = book.allocated

theorem SameSlots.trans {first second third : Book}
    (left : first.SameSlots second) (right : second.SameSlots third) : first.SameSlots third :=
  ⟨right.1.trans left.1, right.2.trans left.2⟩

theorem SameSlots.enter {b o : Book} (same : b.SameSlots o)
    (trusted : QualityType → Bool) (q : QualityType) (i : SlotIndex)
    (content : EventSlotStatus.Content) (marked : Bool) :
    (b.enter trusted q i content marked).SameSlots (o.enter trusted q i content marked) := by
  unfold Book.enter
  split
  · exact ⟨by simp only [same.1], by simp only [same.2]⟩
  · exact same

def Writes (book : Book) (quality : QualityType) (slots : Nat) (owned : List SlotIndex) : Prop :=
  owned.Nodup ∧ ∀ slot ∈ owned, slot < slots ∧ book.contents quality slot = .inWriting ∧
    book.allocated quality slot = true

section Writes

variable {b cur : Book} {q : QualityType} {slots : Nat} {owned : List SlotIndex}
  {trusted : QualityType → Bool} {i : SlotIndex}

section

variable (writes : b.Writes q slots owned)
include writes

theorem Writes.of_sameSlots (same : b.SameSlots cur) : cur.Writes q slots owned := by
  refine ⟨writes.1, fun i mem => ?_⟩
  rw [same.1, same.2]
  exact writes.2 i mem

theorem Writes.enter_elsewhere {o} (elsewhere : ∀ slot' ∈ owned, ¬ (q = o ∧ slot' = i))
    (content : EventSlotStatus.Content) (marked : Bool) :
    (b.enter trusted o i content marked).Writes q slots owned := by
  refine ⟨writes.1, fun slot' mem => ?_⟩
  obtain ⟨contents, allocated⟩ :=
    b.enter_contents_of_ne trusted content marked (elsewhere slot' mem)
  rw [contents, allocated]
  exact writes.2 slot' mem

theorem Writes.enter_of_notMem (fresh : i ∉ owned) (o : QualityType)
    (content : EventSlotStatus.Content) (marked : Bool) :
    (b.enter trusted o i content marked).Writes q slots owned := by
  refine writes.enter_elsewhere (fun slot' mem both => fresh ?_) _ _
  rw [← both.2]
  exact mem

theorem Writes.erase (i : SlotIndex) : b.Writes q slots (owned.erase i) :=
  ⟨writes.1.erase i, fun slot' mem => writes.2 slot' (mem_of_mem_erase mem)⟩

theorem Writes.notMem_erase (i : SlotIndex) : i ∉ owned.erase i := writes.1.not_mem_erase

theorem Writes.cons (trust : trusted q = true) (lt : i < slots)
    (quiet : b.contents q i ≠ .inWriting) :
    (b.enter trusted q i .inWriting true).Writes q slots (i :: owned) := by
  have fresh : i ∉ owned := fun mem => quiet (writes.2 i mem).2.1
  refine ⟨nodup_cons.mpr ⟨fresh, writes.1⟩, fun o mem => ?_⟩
  rcases mem_cons.mp mem with rfl | pre
  · simpa [enter, trust] using lt
  · exact (writes.enter_of_notMem fresh q .inWriting true).2 o pre

end

end Writes

end Book

namespace ProviderEventDataControlLocalView

variable {v : ProviderEventDataControlLocalView} {info : SlotInfo} {i : SlotIndex}
  (lt : i < v.slots)
  (writing : cfg.trusted v.quality = true → b.contents v.quality i = .inWriting)

def Offers (slots : Nat) (info : SlotInfo) : Prop :=
  info.slotIndex < slots ∧ info.slotValue.isUsed = false

theorem runs_findOldestUnusedSlotLoop (settled : cfg.strict → b.failedClaim = none)
    (slots : List SlotIndex) (lt : ∀ i ∈ slots, i < v.slots) {oldest}
    (offered : ∀ info ∈ oldest.slotInfo, Offers v.slots info) :
    cfg.Runs b (v.findOldestUnusedSlotLoop slots oldest)
      (fun found cur => cur = b ∧ ∀ info ∈ found, Offers v.slots info) fail := by
  induction slots generalizing oldest with
  | nil => exact Runs.done ⟨rfl, offered⟩
  | cons i slots ih =>
    have slotInRange := lt i (mem_cons_self ..)
    have restInRange : ∀ o ∈ slots, o < v.slots := fun o mem => lt o (mem_cons_of_mem _ mem)
    refine (runs_loadSlot settled v.quality i).bind_read fun status _ => ?_
    split
    next invalid =>
      refine Runs.done ⟨rfl, fun info mem => ?_⟩
      cases mem
      rw [isInvalid_iff.mp invalid]
      exact ⟨slotInRange, isUsed_invalid⟩
    · split
      next free =>
        refine ih restInRange fun info mem => ?_
        cases mem
        refine ⟨slotInRange, ?_⟩
        simp [isUsed, free.1, free.2.1]
      · exact ih restInRange offered

theorem runs_requireSlot {i} (lt : i < v.slots) :
    cfg.Runs b (v.requireSlot i) (fun _ cur => cur = b) fail :=
  (Runs.require fun outside => by simp [lt] at outside).post fun _ _ checked => checked.1

def Claims (setting : Setting ι) (book : Book) (quality : QualityType)
    (info : SlotInfo) : Option EventSlotStatus → Book → Prop
  | none, current =>
    current =
      { book with
        failedClaim := ControlOp.bookFailedClaim quality book.claimed }
  | some old, current =>
    old = info.slotValue ∧
    (setting.trusted quality = true → book.contents quality info.slotIndex = old.content) ∧
    current = book.exchange setting.trusted quality info.slotIndex old .inWriting

theorem runs_tryAllocateSlot (offered : Offers v.slots info)
    (settled : cfg.strict → b.failedClaim = none) :
    cfg.Runs b (v.tryAllocateSlot info) (Claims cfg b v.quality info) fail := by
  refine (runs_requireSlot offered.1).bind fun _ cur same => ?_
  subst same
  refine (runs_compareExchangeStrongSlot
    (fun _ => .inl ⟨offered.2, rfl⟩) (fun _ => rfl) settled).bind
    fun exchanged next out => ?_
  cases exchanged with
  | true => exact Runs.done ⟨rfl, out⟩
  | false => exact Runs.done out.2

/-- The outcome of `AllocateNextSlot` in one section. -/
def Allocates (setting : Setting ι) (view : ProviderEventDataControlLocalView)
    (book : Book) : Option SlotIndex → Book → Prop
  | none, current => book.SameSlots current
  | some slot, current =>
    slot < view.slots ∧ book.contents view.quality slot ≠ .inWriting ∧
      (book.enter setting.trusted view.quality slot .inWriting true).SameSlots current

omit [Fintype ι] [DecidableEq ι] in
theorem Allocates.of_sameSlots {o cur : Book} (same : b.SameSlots o) {i : Option SlotIndex}
    (out : v.Allocates cfg o i cur) :
    v.Allocates cfg b i cur := by
  cases i with
  | none => exact same.trans out
  | some i =>
    obtain ⟨lt, quiet, entered⟩ := out
    rw [same.1] at quiet
    exact ⟨lt, quiet, (same.enter _ _ _ _ _).trans entered⟩

section

variable (trust : cfg.trusted v.quality = true)
  (settled : cfg.strict → v.quality = .asilB ∧ b.Settled)
include trust settled

theorem runs_allocateNextSlotLoop (n : Nat) : cfg.Runs b (v.allocateNextSlotLoop n)
      (fun i cur => v.Allocates cfg b i cur ∧ (cfg.strict → cur.Settled)) fail := by
  induction n generalizing b with
  | zero => exact Runs.done ⟨⟨rfl, rfl⟩, fun isStrict => (settled isStrict).2⟩
  | succ n ih =>
    refine Runs.bind_read (runs_findOldestUnusedSlotLoop (fun isStrict => (settled isStrict).2.2) _
      (fun _ => mem_range.mp) nofun) fun found offered => ?_
    cases found with
    | none => exact ih settled
    | some info =>
      have infoOffered := offered info rfl
      refine (runs_tryAllocateSlot infoOffered fun isStrict =>
        (settled isStrict).2.2).bind fun old next tried => ?_
      cases old with
      | none =>
        have nextSettled : cfg.strict → v.quality = .asilB ∧ next.Settled := by
          intro isStrict
          obtain ⟨asilB, noClaim, -⟩ := settled isStrict
          refine ⟨asilB, ?_⟩
          rw [show next = _ from tried, asilB]
          exact ⟨noClaim, noClaim⟩
        have same : b.SameSlots next := by
          rw [show next = _ from tried]
          exact ⟨rfl, rfl⟩
        exact (ih nextSettled).post fun i last out => ⟨out.1.of_sameSlots same, out.2⟩
      | some old =>
        obtain ⟨rfl, content, rfl⟩ := tried
        refine Runs.done ⟨⟨infoOffered.1, ?_, rfl, rfl⟩, ?_⟩
        · rw [content trust, Ne, content_eq_inWriting_iff]
          exact (isUsed_eq_false_iff.mp infoOffered.2).2
        · intro isStrict
          rw [(settled isStrict).1]
          exact ⟨rfl, rfl⟩

theorem runs_allocateNextSlot : cfg.Runs b v.allocateNextSlot
      (fun i cur => v.Allocates cfg b i cur ∧ (cfg.strict → cur.Settled)) fail :=
  runs_allocateNextSlotLoop trust settled _

end

theorem runs_setSlotValue (lt : info.slotIndex < v.slots) (unused : info.slotValue.isUsed = false)
    (writing : cfg.trusted v.quality = true → b.contents v.quality info.slotIndex = .inWriting)
    (restores : cfg.strict → ∀ i word, b.failedClaim = some (i, word) →
        v.quality = .asilQm ∧ info.slotIndex = i ∧ info.slotValue = word)
    (fresh : cfg.ordered → b.Fresh v.quality info.slotIndex info.slotValue.content) :
    cfg.Runs b (v.setSlotValue info) (fun _ cur => cur =
        b.store cfg.trusted v.quality info.slotIndex info.slotValue.content) fail := by
  refine (runs_requireSlot lt).bind fun _ cur same => ?_
  subst same
  exact runs_storeSlot unused writing restores fresh

variable (settled : cfg.strict → b.failedClaim = none)
include lt writing settled

theorem runs_eventReady {ts} (fresh : cfg.ordered → b.Fresh v.quality i (make ts 0#32).content) :
    cfg.Runs b (v.eventReady i ts) (fun _ cur => cur =
        b.store cfg.trusted v.quality i (make ts 0#32).content) fail := by
  refine (runs_requireSlot lt).bind fun _ cur same => ?_
  subst same
  refine runs_storeSlot (isUsed_make_zero ts) writing (fun isStrict slot' word failed => ?_) fresh
  rw [settled isStrict] at failed
  exact absurd failed.symm (Option.some_ne_none _)

theorem runs_discard : cfg.Runs b (v.discard i) (fun _ cur =>
        cur = b.store cfg.trusted v.quality i .invalid ∨
        cfg.trusted v.quality = false ∧ cur = b) fail := by
  refine (runs_requireSlot lt).bind fun _ cur same => ?_
  subst same
  refine (runs_loadSlot settled v.quality i).bind_read fun status readable => ?_
  split
  · refine (runs_storeSlot isUsed_invalid writing (fun isStrict slot' word failed => ?_) fun _ =>
        fresh_invalid _ _ _).post fun _ last st => .inl st
    rw [settled isStrict] at failed
    exact absurd failed.symm (Option.some_ne_none _)
  next quiet =>
    refine Runs.done <| .inr ⟨?_, rfl⟩
    by_contra trust
    rw [not_eq_false] at trust
    have content := (readable.content trust).symm
    rw [writing trust, content_eq_inWriting_iff] at content
    exact quiet (isInWriting_iff.mpr content)

omit lt writing settled

/-- What is left of the slots of a section once `slots` are cleaned up. -/
def cleanedContents (quality : QualityType) (slots : List SlotIndex)
    (contents : QualityType → SlotIndex → EventSlotStatus.Content)
    (other : QualityType) (slot : SlotIndex) : EventSlotStatus.Content :=
  if other = quality ∧ slot ∈ slots then (contents other slot).cleaned
  else contents other slot

theorem cleanedContents_cons {q i slots}
    {pre s' : QualityType → SlotIndex → EventSlotStatus.Content}
    (here : s' q i = (pre q i).cleaned)
    (elsewhere : ∀ o slot', ¬ (o = q ∧ slot' = i) → s' o slot' = pre o slot') :
    cleanedContents q slots s' = cleanedContents q (i :: slots) pre := by
  funext o slot'
  unfold cleanedContents
  by_cases same : o = q ∧ slot' = i
  · obtain ⟨rfl, rfl⟩ := same
    have twice : (pre o slot').cleaned.cleaned = (pre o slot').cleaned := by
      cases pre o slot' <;> rfl
    simp [here, twice]
  · rw [elsewhere o slot' same]
    have remaining : (o = q ∧ slot' ∈ i :: slots) ↔ (o = q ∧ slot' ∈ slots) := by
      rw [mem_cons]
      tauto
    simp only [remaining]

/-- The slots that a crashed provider was writing are invalidated; the
compare-exchange cannot fail. -/
theorem runs_removeAllocationsForWritingLoop (trust : cfg.trusted v.quality = true)
    (relaxed : ¬ cfg.strict) (slots : List SlotIndex) :
    cfg.Runs b (v.removeAllocationsForWritingLoop slots)
      (fun _ cur => cur.contents = cleanedContents v.quality slots b.contents) fail := by
  induction slots generalizing b with
  | nil =>
    refine Runs.done ?_
    funext o slot'
    simp [cleanedContents]
  | cons i slots ih =>
    refine (runs_loadSlot (fun isStrict => absurd isStrict relaxed)
      v.quality i).bind_read fun status readable => ?_
    have content := readable.content trust
    split
    next writing =>
      obtain rfl := isInWriting_iff.mp writing
      refine (runs_compareExchangeStrongSlot (fun _ => .inr ⟨rfl, rfl⟩)
        (fun isStrict => absurd isStrict relaxed)
        (fun isStrict => absurd isStrict relaxed)).bind
        fun exchanged next out => ?_
      cases exchanged with
      | false => exact absurd content (out.1 trust rfl)
      | true =>
        obtain ⟨-, rfl⟩ := out
        refine (Runs.require nofun).bind_read fun _ _ => ?_
        refine ih.post fun _ final cleaned => ?_
        rw [cleaned]
        refine cleanedContents_cons ?_ fun o slot' differ => ?_
        · rw [content]
          simp [exchange, enter, trust, EventSlotStatus.Content.cleaned]
        · exact (b.enter_contents_of_ne _ _ _ differ).1
    next quiet =>
      refine ih.post fun _ final cleaned => ?_
      rw [cleaned]
      refine cleanedContents_cons ?_ fun _ _ _ => rfl
      cases contents : b.contents v.quality i with
      | inWriting =>
        rw [contents] at content
        exact absurd (isInWriting_iff.mpr (content_eq_inWriting_iff.mp content.symm)) quiet
      | _ => rfl

end ProviderEventDataControlLocalView

/-! ## Both sections -/

namespace EventDataControlComposite

open ProviderEventDataControlLocalView

variable {comp : EventDataControlComposite} {slots : Nat} {q : QualityType}
  {i : SlotIndex} {trusted : QualityType → Bool} {content : EventSlotStatus.Content}

def OffersBoth (book : Book) (slots : Nat) (info : SlotInfo) : Prop :=
  Offers slots info ∧ book.contents .asilB info.slotIndex = info.slotValue.content

/-- The provider reads words of a slot for which the assertion of
`GetNextFreeMultiSlot` fails. -/
def Mismatch (setting : Setting ι) (book : Book) (slot : SlotIndex) : Prop :=
  ∃ slotQm slotB, setting.Readable book .asilQm slot slotQm ∧
    setting.Readable book .asilB slot slotB ∧
    slotQm.isUsed = false ∧ slotB.isUsed = false ∧
    (slotB = .invalid → slotQm = .invalid) ∧ slotQm ≠ slotB

theorem runs_getNextFreeMultiSlotLoop (bTrust : cfg.trusted .asilB = true)
    (assertion : ∀ i < slots, Mismatch cfg b i → fail .multiSlotMismatch)
    (settled : cfg.strict → b.failedClaim = none)
    (rest : List SlotIndex) (lt : ∀ i ∈ rest, i < slots)
    (oldest : EventTimeStamp) {slotInfo} (offered : ∀ info ∈ slotInfo, OffersBoth b slots info) :
    cfg.Runs b (getNextFreeMultiSlotLoop rest oldest slotInfo)
      (fun found cur => cur = b ∧ ∀ info ∈ found, OffersBoth b slots info) fail := by
  induction rest generalizing oldest slotInfo with
  | nil => exact Runs.done ⟨rfl, offered⟩
  | cons i rest ih =>
    have slotInRange := lt i (mem_cons_self ..)
    have restInRange : ∀ o ∈ rest, o < slots := fun o mem => lt o (mem_cons_of_mem _ mem)
    refine (runs_loadSlot settled .asilQm i).bind_read fun slotQm readableQm => ?_
    refine (runs_loadSlot settled .asilB i).bind_read fun slotB readableB => ?_
    split
    · exact Runs.done ⟨rfl, fun info mem => by cases mem⟩
    next bothValid =>
      split
      next free =>
        simp only [and_eq_true, not_eq_true', decide_eq_true_eq] at free
        obtain ⟨⟨unusedQm, unusedB⟩, -⟩ := free
        refine (Runs.require fun differ => ?_).bind fun _ third checked => ?_
        · refine assertion i slotInRange ⟨slotQm, slotB, readableQm, readableB,
            unusedQm, unusedB, ?_, of_decide_eq_false differ⟩
          simpa using bothValid
        · obtain ⟨rfl, equal⟩ := checked
          have same : slotQm = slotB := of_decide_eq_true equal
          refine ih restInRange _ fun info mem => ?_
          cases mem
          refine ⟨⟨slotInRange, unusedQm⟩, ?_⟩
          rw [same]
          exact readableB.content bTrust
      · exact ih restInRange oldest offered

section

variable (trusted : QualityType → Bool) (b : Book) (q : QualityType) (i : SlotIndex)

theorem sameSlots_exchange (want : EventSlotStatus) :
    (b.enter trusted q i .inWriting true).SameSlots (b.exchange trusted q i want .inWriting) :=
  ⟨rfl, rfl⟩

theorem sameSlots_store (content : EventSlotStatus.Content) :
    (b.enter trusted q i content false).SameSlots (b.store trusted q i content) :=
  ⟨rfl, rfl⟩

end

theorem sameSlots_undo (ok : b.Ok) {word : EventSlotStatus} (unused : word.isUsed = false)
    (content : trusted q = true → b.contents q i = word.content) :
    b.SameSlots ((b.enter trusted q i .inWriting true).enter trusted q i word.content false) := by
  unfold enter
  split
  next trust =>
    have quiet : b.contents q i ≠ .inWriting := by
      rw [content trust, Ne, content_eq_inWriting_iff]
      exact (isUsed_eq_false_iff.mp unused).2
    have notAllocated : b.allocated q i = false := by
      by_contra allocated
      exact quiet (ok q i (not_eq_false _ ▸ allocated))
    refine ⟨?_, ?_⟩
    · simp only [put2_put2]
      exact put2_eq_self (content trust)
    · simp only [put2_put2]
      exact put2_eq_self notAllocated
  · exact ⟨rfl, rfl⟩

def claimBoth (trusted : QualityType → Bool) (book : Book) (slot : SlotIndex) : Book :=
  (book.enter trusted .asilQm slot .inWriting true).enter trusted .asilB slot .inWriting true

def ClaimsBoth (setting : Setting ι) (book : Book) (info : SlotInfo)
    (allocated : Bool) (current : Book) : Prop :=
  if allocated then
    (setting.trusted .asilQm = true →
      book.contents .asilQm info.slotIndex = info.slotValue.content) ∧
    (claimBoth setting.trusted book info.slotIndex).SameSlots current
  else
    book.SameSlots current

theorem runs_tryAllocateMultiSlot {info : SlotInfo} (offered : Offers comp.slots info)
    (settled : cfg.strict → b.Settled) :
    cfg.Runs b (comp.tryAllocateMultiSlot info) (fun allocated cur =>
        ClaimsBoth cfg b info allocated cur ∧
        (cfg.strict → cur.Settled)) fail := by
  refine Runs.of_wellFormed fun ok => ?_
  refine Runs.bind (runs_tryAllocateSlot offered fun isStrict =>
    (settled isStrict).2) fun qmOld first qmClaim => ?_
  cases qmOld with
  | none =>
    rw [show first = _ from qmClaim]
    exact Runs.done ⟨⟨rfl, rfl⟩, fun isStrict => ⟨(settled isStrict).1, rfl⟩⟩
  | some old =>
    obtain ⟨rfl, qmContent, rfl⟩ := qmClaim
    refine Runs.bind (runs_tryAllocateSlot offered fun _ => rfl)
      fun bOld second bClaim => Runs.of_wellFormed fun secondOk => ?_
    cases bOld with
    | some old =>
      obtain ⟨rfl, -, rfl⟩ := bClaim
      exact Runs.done
        ⟨⟨qmContent, ((sameSlots_exchange _ b _ _ _).enter _ _ _ _ _).trans
            (sameSlots_exchange _ _ _ _ _)⟩, fun _ => ⟨rfl, rfl⟩⟩
    | none =>
      -- The QM word is put back while the claim is the one that failed.
      have failedClaim : second.failedClaim = some (info.slotIndex, info.slotValue) := by
        rw [show second = _ from bClaim]
        rfl
      have reopened : (b.enter cfg.trusted .asilQm info.slotIndex .inWriting
            true).SameSlots second := by
        rw [show second = _ from bClaim]
        exact ⟨rfl, rfl⟩
      have claimed : second.claimed = some (info.slotIndex, info.slotValue) := by
        rw [show second = _ from bClaim]
        rfl
      refine Runs.bind (runs_setSlotValue offered.1 offered.2 ?_ ?_ ?_)
        fun _ third st => Runs.done ?_
      · intro trust
        have qmTrusted : cfg.trusted .asilQm = true := trust
        rw [reopened.1]
        simp [enter, asilQmControlLocal, qmTrusted]
      · intro _ slot' word failed
        rw [failedClaim] at failed
        cases failed
        exact ⟨rfl, rfl, rfl⟩
      · intro isOrdered
        exact (secondOk.2 isOrdered).fresh_of_claimed claimed
      · subst st
        refine ⟨?_, fun _ => ⟨rfl, rfl⟩⟩
        exact ((sameSlots_undo ok.1 offered.2 qmContent).trans
          (reopened.enter _ _ _ _ _)).trans (sameSlots_store _ _ _ _ _)

def AllocatesBoth (setting : Setting ι) (composite : EventDataControlComposite)
    (book : Book) : Option SlotIndex → Book → Prop
  | none, current => book.SameSlots current
  | some slot, current =>
    slot < composite.slots ∧ book.contents .asilB slot ≠ .inWriting ∧
      (setting.trusted .asilQm = true → book.contents .asilQm slot = book.contents .asilB slot) ∧
      (claimBoth setting.trusted book slot).SameSlots current

omit [Fintype ι] [DecidableEq ι] in
theorem AllocatesBoth.of_sameSlots {o cur : Book} (same : b.SameSlots o) {i : Option SlotIndex}
    (out : comp.AllocatesBoth cfg o i cur) :
    comp.AllocatesBoth cfg b i cur := by
  cases i with
  | none => exact same.trans out
  | some i =>
    obtain ⟨lt, quiet, agree, claimed⟩ := out
    rw [same.1] at quiet agree
    exact ⟨lt, quiet, agree, ((same.enter _ _ _ _ _).enter _ _ _ _ _).trans claimed⟩

section Allocation

variable (bTrust : cfg.trusted .asilB = true)
include bTrust

theorem runs_allocateNextMultiSlotLoop
    (assertion : ∀ o, b.SameSlots o → ∀ i < comp.slots, Mismatch cfg o i → fail .multiSlotMismatch)
    (settled : cfg.strict → b.Settled) (n : Nat) :
    cfg.Runs b (comp.allocateNextMultiSlotLoop n)
      (fun i cur => comp.AllocatesBoth cfg b i cur ∧ (cfg.strict → cur.Settled)) fail := by
  induction n generalizing b with
  | zero => exact Runs.done ⟨⟨rfl, rfl⟩, settled⟩
  | succ n ih =>
    refine Runs.bind_read (runs_getNextFreeMultiSlotLoop bTrust (assertion b ⟨rfl, rfl⟩)
      (fun isStrict => (settled isStrict).2) _ (fun _ => mem_range.mp) _ nofun)
      fun found offered => ?_
    cases found with
    | none => exact ih assertion settled
    | some info =>
      obtain ⟨infoOffered, bContent⟩ := offered info rfl
      refine (runs_tryAllocateMultiSlot infoOffered settled).bind fun allocated next tried => ?_
      obtain ⟨claims, nextSettled⟩ := tried
      cases allocated with
      | false =>
        have same : b.SameSlots next := claims
        exact (ih (fun o sameOther => assertion o (same.trans sameOther))
          nextSettled).post fun i last out => ⟨out.1.of_sameSlots same, out.2⟩
      | true =>
        obtain ⟨qmContent, claimed⟩ := claims
        refine Runs.done ⟨⟨infoOffered.1, ?_, ?_, claimed⟩, nextSettled⟩
        · rw [bContent, Ne, content_eq_inWriting_iff]
          exact (isUsed_eq_false_iff.mp infoOffered.2).2
        · intro qmTrusted
          rw [qmContent qmTrusted, bContent]

/-- The outcome of `AllocateNextSlot` with two sections: a slot in both, or
the QM section is given up and at most a slot of the ASIL-B section. -/
def AllocatesNext (setting : Setting ι) (composite : EventDataControlComposite) (book : Book)
    (result : EventDataControlComposite × Option SlotIndex) (current : Book) : Prop :=
  (composite.ignoreQmControl = false ∧ result.1 = composite ∧ ∃ slot, result.2 = some slot ∧
      composite.AllocatesBoth setting book (some slot) current) ∨
  (result.1 = { composite with ignoreQmControl := true } ∧
    composite.asilBControlLocal.Allocates setting book result.2 current)

theorem runs_allocateNextSlot (asilB : comp.asilB = true)
    (assertion : comp.ignoreQmControl = false → ∀ o, b.SameSlots o → ∀ i < comp.slots,
        Mismatch cfg o i → fail .multiSlotMismatch)
    (settled : cfg.strict → b.Settled) :
    cfg.Runs b comp.allocateNextSlot
      (fun res cur => comp.AllocatesNext cfg b res cur ∧ (cfg.strict → cur.Settled)) fail := by
  have asilBSettled {o : Book} (same : cfg.strict → o.Settled) :
      cfg.strict → comp.asilBControlLocal.quality = .asilB ∧ o.Settled :=
    fun isStrict => ⟨rfl, same isStrict⟩
  unfold allocateNextSlot
  rw [if_neg (by simp [asilB])]
  cases ignore : comp.ignoreQmControl with
  | true =>
    refine Runs.bind (ProviderEventDataControlLocalView.runs_allocateNextSlot
      bTrust (asilBSettled settled)) fun i cur allocated =>
        Runs.done ⟨.inr ⟨?_, allocated.1⟩, allocated.2⟩
    rw [← ignore]
  | false =>
    refine Runs.bind (runs_allocateNextMultiSlotLoop bTrust
      (assertion ignore) settled _) fun i cur allocated => ?_
    cases i with
    | some i => exact Runs.done ⟨.inl ⟨ignore, rfl, i, rfl, allocated.1⟩, allocated.2⟩
    | none =>
      have same : b.SameSlots cur := allocated.1
      exact Runs.bind (ProviderEventDataControlLocalView.runs_allocateNextSlot
        bTrust (asilBSettled allocated.2)) fun i last fallback =>
          Runs.done ⟨.inr ⟨rfl, fallback.1.of_sameSlots same⟩, fallback.2⟩

end Allocation

/-! ### Publishing and discarding -/

def sections (composite : EventDataControlComposite) : List QualityType :=
  (if composite.asilB then [.asilB] else []) ++
    (if composite.ignoreQmControl then [] else [.asilQm])

def storeAll (trusted : QualityType → Bool) (slot : SlotIndex)
    (content : EventSlotStatus.Content) : List QualityType → Book → Book
  | [], book => book
  | quality :: rest, book =>
    storeAll trusted slot content rest (book.enter trusted quality slot content false)

theorem storeAll_contents (qualities : List QualityType) (q : QualityType) (slot' : SlotIndex) :
    (storeAll trusted i content qualities b).contents q slot' =
      if q ∈ qualities ∧ trusted q = true ∧ slot' = i then content
      else b.contents q slot' := by
  induction qualities generalizing b with
  | nil => simp [storeAll]
  | cons first rest ih =>
    rw [storeAll, ih]
    by_cases here : q = first ∧ slot' = i
    · obtain ⟨rfl, rfl⟩ := here
      cases trust : trusted q <;> simp [enter, trust]
    · rw [(b.enter_contents_of_ne trusted content false here).1]
      have remaining : (q ∈ first :: rest ∧ trusted q = true ∧ slot' = i) ↔
          (q ∈ rest ∧ trusted q = true ∧ slot' = i) := by
        rw [mem_cons]
        tauto
      simp only [remaining]

theorem storeAll_writes (qualities : List QualityType) {owned}
    (writes : b.Writes q slots owned) (fresh : i ∉ owned) :
    (storeAll trusted i content qualities b).Writes q slots owned := by
  induction qualities generalizing b with
  | nil => exact writes
  | cons first rest ih => exact ih (writes.enter_of_notMem fresh _ _ _)

def StoresIn (setting : Setting ι) (slots : Nat) (slot : SlotIndex)
    (content : EventSlotStatus.Content) (fail : Failure → Prop)
    (step : ProviderEventDataControlLocalView → Control ι Unit) : Prop :=
  ∀ (quality : QualityType) (book : Book), (setting.trusted quality = true →
      book.contents quality slot = .inWriting) →
    (setting.strict → book.Settled) →
    (setting.ordered → book.Fresh quality slot content) →
    setting.Runs book (step ⟨quality, slots⟩) (fun _ current =>
        (book.enter setting.trusted quality slot content false).SameSlots
          current ∧ (setting.strict → current.Settled)) fail

theorem runs_inBothSections {step : ProviderEventDataControlLocalView → Control ι Unit}
    (stores : StoresIn cfg comp.slots i content fail step)
    (writing : ∀ q ∈ comp.sections, cfg.trusted q = true → b.contents q i = .inWriting)
    (settled : cfg.strict → b.Settled)
    (fresh : ∀ q ∈ comp.sections, cfg.ordered → b.Fresh q i content) :
    cfg.Runs b (comp.inBothSections step) (fun _ cur =>
        (storeAll cfg.trusted i content comp.sections b).SameSlots cur ∧ (cfg.strict → cur.Settled))
      fail := by
  unfold inBothSections
  cases asilB : comp.asilB <;> cases ignore : comp.ignoreQmControl
  all_goals simp only [sections, asilB, ignore] at writing fresh ⊢
  · exact stores .asilQm b (writing .asilQm (by simp)) settled (fresh .asilQm (by simp))
  · exact Runs.done ⟨⟨rfl, rfl⟩, settled⟩
  · refine Runs.bind (stores .asilB b (writing .asilB (by simp)) settled
      (fresh .asilB (by simp))) fun _ first storedB => ?_
    have keep (slot' : SlotIndex) : first.contents .asilQm slot' = b.contents .asilQm slot' := by
      rw [storedB.1.1]
      exact (b.enter_contents_of_ne cfg.trusted content false
        fun both => absurd both.1 (by decide)).1
    refine (stores .asilQm first (fun trust => ?_) storedB.2
      fun isOrdered ts x => ?_).post fun _ second storedQm =>
        ⟨(storedB.1.enter _ _ _ _ _).trans storedQm.1, storedQm.2⟩
    · rw [keep]
      exact writing .asilQm (by simp) trust
    · simp only [keep]
      exact fresh .asilQm (by simp) isOrdered ts x
  · exact Runs.bind (stores .asilB b (writing .asilB (by simp)) settled
      (fresh .asilB (by simp))) fun _ first storedB => Runs.done storedB

theorem storesIn_eventReady (lt : i < slots) (ts : EventTimeStamp) :
    StoresIn cfg slots i (make ts 0#32).content fail (fun v => v.eventReady i ts) := by
  intro q b writing settled fresh
  refine (runs_eventReady lt writing
    (fun isStrict => (settled isStrict).2) fresh).post
    fun _ cur st => ?_
  subst st
  exact ⟨⟨rfl, rfl⟩, fun _ => ⟨rfl, rfl⟩⟩

theorem storesIn_discard (lt : i < slots) :
    StoresIn cfg slots i .invalid fail (fun v => v.discard i) := by
  intro q b writing settled _
  refine (runs_discard lt writing
    (fun isStrict => (settled isStrict).2)).post fun _ current st => ?_
  rcases st with rfl | ⟨untrusted, rfl⟩
  · exact ⟨⟨rfl, rfl⟩, fun _ => ⟨rfl, rfl⟩⟩
  · refine ⟨?_, settled⟩
    have unentered : current.enter cfg.trusted q i .invalid false = current := by
      simp only [enter]
      exact if_neg (by simpa using untrusted)
    rw [unentered]
    exact ⟨rfl, rfl⟩

theorem runs_cleanupSharedMemoryAfterCrash (trust : ∀ q, cfg.trusted q = true)
    (relaxed : ¬ cfg.strict) :
    cfg.Runs b comp.cleanupSharedMemoryAfterCrash
      (fun _ cur => ∀ q i, cur.contents q i =
        if (q = .asilB → comp.asilB = true) ∧ i < comp.slots then
          (b.contents q i).cleaned
        else b.contents q i) fail := by
  unfold cleanupSharedMemoryAfterCrash
  refine Runs.bind (runs_removeAllocationsForWritingLoop (trust .asilQm)
    relaxed _) fun _ first cleanedQm => ?_
  cases asilB : comp.asilB with
  | false =>
    refine Runs.done fun q i => ?_
    rw [cleanedQm]
    cases q with
    | asilB | asilQm => simp [cleanedContents, asilQmControlLocal]
  | true =>
    refine (runs_removeAllocationsForWritingLoop (trust .asilB)
      relaxed _).post fun _ second cleanedB q i => ?_
    rw [cleanedB]
    cases q with
    | asilB | asilQm => simp [cleanedContents, asilBControlLocal, asilQmControlLocal, cleanedQm]

end EventDataControlComposite

end ScoreIntegration.Lola
