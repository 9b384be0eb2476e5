import Mathlib.Data.List.Nodup
import ScoreIntegration.Concurrency.Transitions
import ScoreIntegration.Memory.KnownRegions

/-!
# The registry of memory resources

Under one mutex a resource is entered under its identifier, and then its range of addresses
into the known regions.  A range that overlaps with a known one is refused after that.
-/

namespace ScoreIntegration.Memory

open Concurrency Function List Option

abbrev MemoryResourceIdentifier := Nat

structure ManagedMemoryResource where
  baseAddress : Nat
  endAddress : Nat
  isOffsetPtrBoundsCheckBypassingEnabled : Bool
  ordered : baseAddress ≤ endAddress

def ManagedMemoryResource.region (resource : ManagedMemoryResource) : MemoryRegion :=
  ⟨resource.baseAddress, resource.endAddress⟩

structure MemoryResourceRegistry where
  registry : MemoryResourceIdentifier → Option ManagedMemoryResource
  knownRegions : List MemoryRegion

inductive RegistryCall where
  | insertResource (identifier : MemoryResourceIdentifier) (resource : ManagedMemoryResource)
  | removeResource (identifier : MemoryResourceIdentifier)

/-- A start address that is known already fails an assertion. -/
def updateKnownRegion (regions : List MemoryRegion) (region : MemoryRegion) :
    Option (Bool × List MemoryRegion) :=
  match insertRegion regions region with
  | none => none
  | some iterator =>
    if doesRegionIteratorOverlap iterator then some (false, regions)
    else some (true, iterator.map)

namespace MemoryResourceRegistry

section

variable (state : MemoryResourceRegistry) (identifier : MemoryResourceIdentifier)

/-- Nothing is returned where the process ends. -/
def insertResource (resource : ManagedMemoryResource) : Option (Bool × MemoryResourceRegistry) :=
  match state.registry identifier with
  | some _ => some (false, state)
  | none =>
    let registry := update state.registry identifier (some resource)
    if resource.isOffsetPtrBoundsCheckBypassingEnabled then some (true, { state with registry })
    else if resource.baseAddress = 0 ∨ resource.endAddress = 0 then none
    else
      match updateKnownRegion state.knownRegions resource.region with
      | none => none
      | some (updated, knownRegions) => some (updated, ⟨registry, knownRegions⟩)

/-- Nothing is returned where the start address is not known. -/
def removeResource : Option MemoryResourceRegistry :=
  match state.registry identifier with
  | none => some state
  | some resource =>
    let registry := update state.registry identifier none
    if resource.isOffsetPtrBoundsCheckBypassingEnabled then some { state with registry }
    else
      match eraseRegion state.knownRegions resource.baseAddress with
      | none => none
      | some knownRegions => some ⟨registry, knownRegions⟩

def call : RegistryCall → Option MemoryResourceRegistry
  | .insertResource identifier resource => (state.insertResource identifier resource).map Prod.snd
  | .removeResource identifier => state.removeResource identifier

def Registers (region : MemoryRegion) : Prop :=
  ∃ resource, state.registry identifier = some resource ∧
    resource.isOffsetPtrBoundsCheckBypassingEnabled = false ∧ resource.region = region

/-- The range of a new resource overlaps with no known region. -/
def Separate : RegistryCall → Prop
  | .insertResource identifier resource => state.registry identifier = none →
      resource.isOffsetPtrBoundsCheckBypassingEnabled = false →
      ∀ iterator, insertRegion state.knownRegions resource.region = some iterator →
        doesRegionIteratorOverlap iterator = false
  | .removeResource _ => True

end

def system : TransitionSystem MemoryResourceRegistry RegistryCall :=
  .ofStep ⟨fun _ => none, []⟩ call

structure Corresponds (state : MemoryResourceRegistry) : Prop where
  wellFormed : WellFormed state.knownRegions
  known : ∀ {region}, region ∈ state.knownRegions ↔ ∃ identifier, state.Registers identifier region
  distinct : ∀ {first second region}, state.Registers first region →
    state.Registers second region → first = second

variable {s after : MemoryResourceRegistry} {ident : MemoryResourceIdentifier}
  {resource : ManagedMemoryResource} {regions : List MemoryRegion} {region o : MemoryRegion}

theorem startAddresses_nodup (wellFormed : WellFormed regions) :
    (regions.map MemoryRegion.startAddress).Nodup :=
  pairwise_map.mpr (wellFormed.apart.imp fun isBefore => Nat.ne_of_lt isBefore.1)

theorem insertRegion_spec {iterator} (inserted : insertRegion regions region = some iterator) :
    iterator.before ++ iterator.after = regions ∧ iterator.region = region := by
  obtain ⟨-, isIterator⟩ := ite_none_left_eq_some.mp inserted
  cases isIterator
  exact ⟨takeWhile_append_dropWhile, rfl⟩

theorem mem_insertRegion {iterator} (inserted : insertRegion regions region = some iterator) :
    o ∈ iterator.map ↔ o = region ∨ o ∈ regions := by
  obtain ⟨rfl, rfl⟩ := insertRegion_spec inserted
  rw [RegionIterator.map, mem_append, mem_cons, or_left_comm, ← mem_append]

theorem startAddress_ne_of_insertRegion {iterator}
    (inserted : insertRegion regions region = some iterator) (wellFormed : WellFormed iterator.map)
    (mem : o ∈ regions) : o.startAddress ≠ region.startAddress := by
  have nodup := startAddresses_nodup wellFormed
  obtain ⟨rfl, rfl⟩ := insertRegion_spec inserted
  rw [RegionIterator.map, map_append, map_cons, nodup_middle, ← map_append, nodup_cons] at nodup
  exact fun same => nodup.1 (mem_map.mpr ⟨o, mem, same⟩)

theorem registers_insert (unused : s.registry ident = none) {knownRegions id} :
    Registers ⟨update s.registry ident (some resource), knownRegions⟩ id region ↔
      s.Registers id region ∨ id = ident ∧
        resource.isOffsetPtrBoundsCheckBypassingEnabled = false ∧ resource.region = region := by
  by_cases same : id = ident <;> simp [Registers, same, unused]

theorem registers_remove {knownRegions id} :
    Registers ⟨update s.registry ident none, knownRegions⟩ id region ↔
      s.Registers id region ∧ id ≠ ident := by
  by_cases same : id = ident <;> simp [Registers, same]

theorem Corresponds.insert (corresponds : s.Corresponds) {inserted}
    (separate : s.Separate (.insertResource ident resource))
    (taken : s.insertResource ident resource = some (inserted, after)) :
    after.Corresponds ∧ (inserted = false → after = s) := by
  unfold insertResource at taken
  split at taken
  · cases taken
    exact ⟨corresponds, fun _ => rfl⟩
  next unused =>
  dsimp only at taken
  split_ifs at taken with bypassing isNull
  · cases taken
    refine ⟨⟨corresponds.wellFormed, fun {region} => ?_, fun {first second region} => ?_⟩, nofun⟩
    · simp [registers_insert unused, bypassing, corresponds.known]
    · simpa [registers_insert unused, bypassing] using corresponds.distinct
  have checked := Bool.eq_false_iff.mpr bypassing
  unfold updateKnownRegion at taken
  cases found : insertRegion s.knownRegions resource.region with
  | none => simp [found] at taken
  | some iterator =>
    have apart := separate unused checked iterator found
    simp only [found, apart] at taken
    cases taken
    have proper : resource.region.Proper :=
      ⟨Nat.pos_of_ne_zero (not_or.mp isNull).1, resource.ordered⟩
    have wellFormed := corresponds.wellFormed.insertRegion proper found apart
    have fresh : ∀ {id}, ¬ s.Registers id resource.region := fun registers =>
      startAddress_ne_of_insertRegion found wellFormed (corresponds.known.mpr ⟨_, registers⟩) rfl
    refine ⟨⟨wellFormed, fun {region} => ?_, fun {first second region} => ?_⟩, nofun⟩
    · rw [mem_insertRegion found, corresponds.known]
      simp [registers_insert unused, checked, exists_or, or_comm, eq_comm]
    · rw [registers_insert unused, registers_insert unused]
      rintro (isFirst | ⟨rfl, -, rfl⟩) (isSecond | ⟨rfl, -, isRegion⟩)
      · exact corresponds.distinct isFirst isSecond
      · exact absurd (isRegion ▸ isFirst) fresh
      · exact absurd isSecond fresh
      · rfl

theorem Corresponds.remove (corresponds : s.Corresponds) (ident : MemoryResourceIdentifier) :
    ∃ after, s.removeResource ident = some after ∧ after.Corresponds := by
  have distinct : ∀ {knownRegions first second region},
      Registers ⟨update s.registry ident none, knownRegions⟩ first region →
      Registers ⟨update s.registry ident none, knownRegions⟩ second region → first = second :=
    fun isFirst isSecond =>
      corresponds.distinct (registers_remove.mp isFirst).1 (registers_remove.mp isSecond).1
  unfold removeResource
  cases found : s.registry ident with
  | none => exact ⟨s, rfl, corresponds⟩
  | some resource =>
    dsimp only
    split
    next bypassing =>
      refine ⟨_, rfl, corresponds.wellFormed, fun {region} => corresponds.known.trans ?_, distinct⟩
      refine exists_congr fun id => (registers_remove.trans (and_iff_left_of_imp ?_)).symm
      rintro ⟨o, foundOther, checked, -⟩ rfl
      cases found.symm.trans foundOther
      exact absurd checked (by simp [bypassing])
    next checked =>
      have registers : s.Registers ident resource.region :=
        ⟨resource, found, Bool.eq_false_iff.mpr checked, rfl⟩
      have mem := corresponds.known.mpr ⟨_, registers⟩
      have erased : eraseRegion s.knownRegions resource.baseAddress = some _ :=
        if_pos (any_eq_true.mpr ⟨resource.region, mem, beq_self_eq_true resource.baseAddress⟩)
      rw [erased]
      refine ⟨_, rfl, corresponds.wellFormed.eraseRegion erased, fun {region} => ?_, distinct⟩
      rw [mem_filter, bne_iff_ne, corresponds.known, ← exists_and_right]
      refine exists_congr fun id =>
        (and_congr_right fun isRegistered => not_congr ?_).trans registers_remove.symm
      constructor
      · intro same
        have isRegion := inj_on_of_nodup_map (startAddresses_nodup corresponds.wellFormed)
          (corresponds.known.mpr ⟨id, isRegistered⟩) mem same
        exact corresponds.distinct (isRegion ▸ isRegistered) registers
      · rintro rfl
        obtain ⟨o, foundOther, -, rfl⟩ := isRegistered
        cases found.symm.trans foundOther
        rfl

/-- In a run in which no new resource overlaps with a known region, each known region is
that of one registered resource, a refused resource changes nothing, and a removal does not
fail. -/
theorem reachable_corresponds {state : MemoryResourceRegistry}
    (reachable : (system.restrict Separate).Reachable state) :
    state.knownRegions.Nodup ∧
      (∀ region, region ∈ state.knownRegions ↔ ∃ identifier, state.Registers identifier region) ∧
      (∀ first second region, state.Registers first region → state.Registers second region →
        first = second) ∧
      (∀ identifier resource after, state.Separate (.insertResource identifier resource) →
        state.insertResource identifier resource = some (false, after) → after = state) ∧
      ∀ identifier, state.removeResource identifier ≠ none := by
  have corresponds : state.Corresponds := by
    refine reachable.preserves ⟨wellFormed_nil, ?_, nofun⟩
      fun {before label after} kept separate taken => ?_
    · simp [Registers]
    cases label with
    | insertResource identifier resource =>
      obtain ⟨⟨inserted, _⟩, isTaken, rfl⟩ := map_eq_some_iff.mp taken
      exact (kept.insert separate isTaken).1
    | removeResource identifier =>
      obtain ⟨_, removed, corresponds⟩ := kept.remove identifier
      cases removed.symm.trans taken
      exact corresponds
  refine ⟨.of_map _ (startAddresses_nodup corresponds.wellFormed), fun _ => corresponds.known,
    fun _ _ _ => corresponds.distinct, ?_, ?_⟩
  · exact fun identifier resource after separate taken => (corresponds.insert separate taken).2 rfl
  · intro identifier failed
    obtain ⟨_, removed, _⟩ := corresponds.remove identifier
    cases removed.symm.trans failed

theorem inserted_resource_removable : ∃ state, (system.restrict Separate).Reachable state ∧
    state.knownRegions = [⟨16, 32⟩, ⟨48, 64⟩] ∧ state.removeResource 1 ≠ none := by
  have begun : (system.restrict Separate).Reachable ⟨fun _ => none, []⟩ := .initial rfl
  have inserted := begun.allowedStep (.insertResource 1 ⟨16, 32, false, by decide⟩)
    (fun _ _ iterator found => by cases found; rfl) rfl
  have both := inserted.allowedStep (.insertResource 2 ⟨48, 64, false, by decide⟩)
    (fun _ _ iterator found => by cases found; rfl) rfl
  exact ⟨_, both, rfl, (reachable_corresponds both).2.2.2.2 1⟩

/-- The second resource overlaps with the first one.  It is refused but registered, and
its removal fails. -/
theorem overlapping_resource_registered : ∃ first refused,
    insertResource ⟨fun _ => none, []⟩ 1 ⟨16, 32, false, by decide⟩ = some (true, first) ∧
      first.insertResource 2 ⟨24, 40, false, by decide⟩ = some (false, refused) ∧
      refused.registry 2 ≠ first.registry 2 ∧ refused.knownRegions = first.knownRegions ∧
      refused.removeResource 2 = none :=
  ⟨_, _, rfl, rfl, nofun, rfl, rfl⟩

end MemoryResourceRegistry

end ScoreIntegration.Memory
